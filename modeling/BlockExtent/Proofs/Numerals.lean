import BlockExtent.Text.Numeral
import Mathlib.Data.List.Induction

/-!
# What denotes a number

Digits denote the number that is made of them one after the other, so each number is denoted by its
decimal numeral and by that numeral behind any zeros, and by nothing else. A 32-bit number may have
a plus sign before those.
-/

namespace BlockExtent.Numeral

theorem isDigit_of_mem_decimal {n : Nat} {c : Char} (among : c ∈ (decimal n).toList) :
    c.isDigit = true := by
  rw [decimal, String.toList_ofList] at among
  exact Nat.isDigit_of_mem_toDigits (by decide) (by decide) among

theorem digit?_of_isDigit {c : Char} (digit : c.isDigit = true) :
    digit? 10 c = some (c.toNat - '0'.toNat) := by
  obtain ⟨least, most⟩ := Char.isDigit_iff_toNat.mp digit
  have small : c.toNat - '0'.toNat < 10 := by
    have nine : '9'.toNat = '0'.toNat + 9 := rfl
    omega
  exact if_pos ⟨UInt32.le_iff_toNat_le.mpr least, UInt32.le_iff_toNat_le.mpr most, small⟩

/-- Digits denote what is made of them one after the other. -/
theorem natural?_of_isDigit {cs : List Char} (some_digit : cs ≠ [])
    (digits : ∀ c ∈ cs, c.isDigit = true) :
    natural? 10 cs = some (Nat.ofDigitChars 10 cs 0) := by
  have values (cs : List Char) (digits : ∀ c ∈ cs, c.isDigit = true) :
      cs.mapM (digit? 10) = some (cs.map fun c => c.toNat - '0'.toNat) := by
    induction cs with
    | nil => rfl
    | cons c cs ih =>
        obtain ⟨first, rest⟩ := List.forall_mem_cons.mp digits
        rw [List.mapM_cons, digit?_of_isDigit first, ih rest]
        rfl
  cases cs with
  | nil => exact absurd rfl some_digit
  | cons c cs =>
      simp only [natural?, values _ digits, Option.map_some, List.foldl_map, Nat.ofDigitChars,
        Nat.mul_comm 10]

theorem isDigit_of_digit? {c : Char} {d : Nat} (read : digit? 10 c = some d) :
    c.isDigit = true := by
  rw [digit?] at read
  split at read
  · next within => exact Char.isDigit_iff_toNat.mpr ⟨within.1, within.2.1⟩
  · cases read

/-- Only digits denote a number. -/
theorem isDigit_of_natural? {cs : List Char} {n : Nat} (read : natural? 10 cs = some n) :
    cs ≠ [] ∧ ∀ c ∈ cs, c.isDigit = true := by
  have digits (cs : List Char) {ds : List Nat} (values : cs.mapM (digit? 10) = some ds) :
      ∀ c ∈ cs, c.isDigit = true := by
    induction cs generalizing ds with
    | nil => simp
    | cons c cs ih =>
        simp only [List.mapM_cons, Option.bind_eq_bind, Option.bind_eq_some_iff] at values
        obtain ⟨d, first, ds, later, -⟩ := values
        exact List.forall_mem_cons.mpr ⟨isDigit_of_digit? first, ih later⟩
  cases cs with
  | nil => cases read
  | cons c cs =>
      obtain ⟨ds, values, -⟩ := Option.map_eq_some_iff.mp read
      exact ⟨List.cons_ne_nil c cs, digits (c :: cs) values⟩

theorem digitChar_of_isDigit {c : Char} (digit : c.isDigit = true) :
    c.toNat - '0'.toNat < 10 ∧ Nat.digitChar (c.toNat - '0'.toNat) = c := by
  obtain ⟨least, most⟩ := Char.isDigit_iff_toNat.mp digit
  have zero : '0'.toNat = 48 := rfl
  have nine : '9'.toNat = 57 := rfl
  have small : c.toNat - '0'.toNat < 10 := by omega
  refine ⟨small, Char.toNat_inj.mp ?_⟩
  rw [Nat.toNat_digitChar_of_lt_ten small]
  omega

/-- Digits are zeros and then the numeral of the number that is made of them. -/
theorem exists_zeros {cs : List Char} (some_digit : cs ≠ [])
    (digits : ∀ c ∈ cs, c.isDigit = true) :
    ∃ zeros, cs = List.replicate zeros '0' ++ Nat.toDigits 10 (Nat.ofDigitChars 10 cs 0) := by
  -- Numerals grow at their right end, so the last digit is taken off.
  induction cs using List.reverseRecOn with
  | nil => exact absurd rfl some_digit
  | append_singleton front c ih =>
      obtain ⟨digitsFront, digit⟩ : (∀ a ∈ front, a.isDigit = true) ∧ c.isDigit = true := by
        simpa [or_imp, forall_and] using digits
      obtain ⟨small, char⟩ := digitChar_of_isDigit digit
      have last : Nat.toDigits 10 (c.toNat - '0'.toNat) = [c] := by
        rw [Nat.toDigits_of_lt_base small, char]
      have value : Nat.ofDigitChars 10 (front ++ [c]) 0 =
          10 * Nat.ofDigitChars 10 front 0 + (c.toNat - '0'.toNat) := by
        rw [Nat.ofDigitChars_append, Nat.ofDigitChars_cons, Nat.ofDigitChars_nil]
      rw [value]
      by_cases empty : front = []
      · refine ⟨0, ?_⟩
        subst empty
        simpa using last.symm
      · obtain ⟨zeros, spelled⟩ := ih empty digitsFront
        by_cases zero : Nat.ofDigitChars 10 front 0 = 0
        · rw [zero, Nat.toDigits_zero] at spelled
          refine ⟨zeros + 1, ?_⟩
          rw [zero, Nat.mul_zero, Nat.zero_add, last, List.replicate_succ', ← spelled]
        · refine ⟨zeros, ?_⟩
          rw [← Nat.toDigits_append_toDigits (by decide) (Nat.pos_of_ne_zero zero) small, last,
            ← List.append_assoc, ← spelled]

/-- What denotes a number is its numeral, behind zeros or not. -/
theorem natural?_eq_some_iff {cs : List Char} {n : Nat} :
    natural? 10 cs = some n ↔ ∃ zeros, cs = List.replicate zeros '0' ++ (decimal n).toList := by
  have written : (decimal n).toList = Nat.toDigits 10 n := String.toList_ofList
  constructor
  · intro read
    obtain ⟨some_digit, digits⟩ := isDigit_of_natural? read
    rw [natural?_of_isDigit some_digit digits] at read
    rw [written, ← Option.some.inj read]
    exact exists_zeros some_digit digits
  · rintro ⟨zeros, rfl⟩
    have digits : ∀ c ∈ List.replicate zeros '0' ++ (decimal n).toList, c.isDigit = true := by
      intro c among
      obtain zero | digit := List.mem_append.mp among
      · rw [List.eq_of_mem_replicate zero]
        rfl
      · exact isDigit_of_mem_decimal digit
    rw [natural?_of_isDigit (by simp [written, Nat.toDigits_ne_nil]) digits, written,
      Nat.ofDigitChars_append, Nat.ofDigitChars_replicate_zero, Nat.mul_zero,
      Nat.ofDigitChars_ten_toDigits]

/-- The decimal numeral of a number denotes it. -/
theorem natural?_decimal (n : Nat) : natural? 10 (decimal n).toList = some n :=
  natural?_eq_some_iff.mpr ⟨0, rfl⟩

/-- How a number may be spelled: after a plus sign or none and after any zeros, its numeral. -/
def Spells (cs : List Char) (n : Nat) : Prop :=
  ∃ sign zeros, (sign = [] ∨ sign = ['+']) ∧
    cs = sign ++ (List.replicate zeros '0' ++ (decimal n).toList)

theorem fits_eq_some_iff {digits : List Char} {w : UInt32} :
    ((natural? 10 digits).bind fun n =>
      if n < UInt32.size then some (UInt32.ofNat n) else none) = some w ↔
      natural? 10 digits = some w.toNat := by
  rw [Option.bind_eq_some_iff]
  constructor
  · rintro ⟨n, read, fits⟩
    split at fits
    · next small =>
        obtain rfl := Option.some.inj fits
        rw [read, UInt32.toNat_ofNat_of_lt' small]
    · cases fits
  · intro read
    refine ⟨w.toNat, read, ?_⟩
    rw [if_pos w.toNat_lt_size, UInt32.ofNat_toNat]

/-- A 32-bit number is read from its spellings and from nothing else. -/
theorem word32?_eq_some_iff {cs : List Char} {w : UInt32} :
    word32? cs = some w ↔ Spells cs w.toNat := by
  constructor
  · intro read
    rw [word32?.eq_def] at read
    split at read
    · next rest =>
        obtain ⟨zeros, rfl⟩ := natural?_eq_some_iff.mp (fits_eq_some_iff.mp read)
        exact ⟨['+'], zeros, .inr rfl, rfl⟩
    · obtain ⟨zeros, rfl⟩ := natural?_eq_some_iff.mp (fits_eq_some_iff.mp read)
      exact ⟨[], zeros, .inl rfl, rfl⟩
  · rintro ⟨sign, zeros, signs, rfl⟩
    have read : natural? 10 (List.replicate zeros '0' ++ (decimal w.toNat).toList) =
        some w.toNat := natural?_eq_some_iff.mpr ⟨zeros, rfl⟩
    obtain rfl | rfl := signs
    · rw [List.nil_append, word32?.eq_def]
      split
      · next signed =>
          -- A plus sign is no digit.
          cases (isDigit_of_natural? read).2 '+' (signed ▸ List.mem_cons_self)
      · exact fits_eq_some_iff.mpr read
    · exact fits_eq_some_iff.mpr read

end BlockExtent.Numeral
