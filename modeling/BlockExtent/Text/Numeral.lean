/-!
# Numerals

Natural numbers are written in decimal and in lower-case hexadecimal, without leading zeros, and
read from digits with any number of leading zeros.
-/

namespace BlockExtent.Numeral

/-- The decimal numeral of a number. -/
def decimal (n : Nat) : String :=
  String.ofList (Nat.toDigits 10 n)

/-- The decimal numeral of an integer, with a minus sign before a negative one. -/
def integer : Int → String
  | .ofNat n => decimal n
  | .negSucc n => "-" ++ decimal (n + 1)

/-- The hexadecimal numeral of a number, in lower case. -/
def hexadecimal (n : Nat) : String :=
  String.ofList (Nat.toDigits 16 n)

/-- The value of an ASCII digit of a base up to ten. -/
def digit? (base : Nat) (c : Char) : Option Nat :=
  if '0' ≤ c ∧ c ≤ '9' ∧ c.toNat - '0'.toNat < base then some (c.toNat - '0'.toNat) else none

/-- The number that a list of digits denotes in a base; an empty list denotes none. -/
def natural? (base : Nat) : List Char → Option Nat
  | [] => none
  | cs => (cs.mapM (digit? base)).map (·.foldl (fun value digit => value * base + digit) 0)

/-- A 32-bit number: a plus sign or none, then decimal digits whose value fits. -/
def word32? (cs : List Char) : Option UInt32 :=
  let digits := match cs with
    | '+' :: rest => rest
    | _ => cs
  (natural? 10 digits).bind fun n => if n < UInt32.size then some (UInt32.ofNat n) else none

end BlockExtent.Numeral
