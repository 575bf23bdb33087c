import BlockExtent.Text.Numeral
import BlockExtent.Text.Unprintable
import BlockExtent.Text.Utf8

/-!
# Quoted text

Text for diagnosis stands between double quotes. The quote and the backslash are escaped, as are
line breaks, tabs, the null character and every unprintable character; an apostrophe is not. In a
quoted byte string a byte outside any character is written as two upper-case hexadecimal digits.
-/

namespace BlockExtent.Text

/-- A character as it appears between double quotes. -/
def escaped (c : Char) : String :=
  match c with
  | '"' => "\\\""
  | '\\' => "\\\\"
  | '\n' => "\\n"
  | '\r' => "\\r"
  | '\t' => "\\t"
  | '\x00' => "\\0"
  | _ =>
      if isUnprintable c then "\\u\x7b" ++ Numeral.hexadecimal c.toNat ++ "\x7d"
      else String.singleton c

/-- One upper-case hexadecimal digit. -/
def upperDigit (n : Nat) : Char :=
  Nat.digitChar n |>.toUpper

/-- A byte outside any character, as it appears between double quotes. -/
def escapedByte (b : UInt8) : String :=
  "\\x" ++ String.ofList [upperDigit (b.toNat / 16), upperDigit (b.toNat % 16)]

/-- A text between double quotes. -/
def quoted (s : String) : String :=
  "\"" ++ String.join (s.toList.map escaped) ++ "\""

/-- A piece of a byte string as it appears between double quotes. -/
def escapedPiece : Utf8.Piece → String
  | .char c => escaped c
  | .invalid bytes => String.join (bytes.map escapedByte)

/-- A byte string between double quotes. -/
def quotedBytes (bytes : Bytes) : String :=
  "\"" ++ String.join ((Utf8.pieces bytes).map escapedPiece) ++ "\""

end BlockExtent.Text
