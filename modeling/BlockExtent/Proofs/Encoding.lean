import BlockExtent.Text.Utf8

/-!
# Texts and their bytes

The bytes that encode a text are read as the characters of that text, one piece for each. So a
text is shown as it is, and two texts with the same bytes are the same. Bytes that encode no text
are shown with replacement characters and may be shown alike.

## Implementation notes

A character has up to four bytes. The first of them tells how many follow and holds the topmost
bits; each of the others holds six. The bounds of the second byte depend on the first one, which
leaves out longer spellings of a character and numbers that are no character.
-/

namespace BlockExtent.Utf8

section Start

variable {b : UInt8}

theorem start_one (most : b.toNat < 0x80) : start b = .inl (.char (Char.ofNat b.toNat)) := by
  rw [start, if_pos (UInt8.lt_iff_toNat_lt.mpr most)]

theorem start_two (least : 0xC2 ≤ b.toNat) (most : b.toNat < 0xE0) :
    start b = .inr ⟨[b], b.toNat - 0xC0, 0x80, 0xBF, 0⟩ := by
  simp only [start, UInt8.lt_iff_toNat_lt, UInt8.reduceToNat]
  rw [if_neg (by omega), if_neg (by omega), if_pos most]

theorem start_three (least : 0xE0 ≤ b.toNat) (most : b.toNat < 0xF0) :
    start b = .inr ⟨[b], b.toNat - 0xE0, if b.toNat = 0xE0 then 0xA0 else 0x80,
      if b.toNat = 0xED then 0x9F else 0xBF, 1⟩ := by
  simp only [start, UInt8.lt_iff_toNat_lt, ← UInt8.toNat_inj, UInt8.reduceToNat]
  rw [if_neg (by omega), if_neg (by omega), if_neg (by omega)]
  by_cases first : b.toNat = 0xE0
  · simp [first]
  · by_cases surrogates : b.toNat = 0xED
    · simp [surrogates]
    · simp [first, surrogates, most]

theorem start_four (least : 0xF0 ≤ b.toNat) (most : b.toNat ≤ 0xF4) :
    start b = .inr ⟨[b], b.toNat - 0xF0, if b.toNat = 0xF0 then 0x90 else 0x80,
      if b.toNat = 0xF4 then 0x8F else 0xBF, 2⟩ := by
  simp only [start, UInt8.lt_iff_toNat_lt, ← UInt8.toNat_inj, UInt8.reduceToNat]
  rw [if_neg (by omega), if_neg (by omega), if_neg (by omega), if_neg (by omega),
    if_neg (by omega), if_neg (by omega)]
  by_cases first : b.toNat = 0xF0
  · simp [first]
  · by_cases last : b.toNat = 0xF4
    · simp [last]
    · have inner : b.toNat < 0xF4 := by omega
      simp [first, last, inner]

end Start

theorem toNat_ofNat_of_small {value : Nat} (small : value < 0x100) :
    (UInt8.ofNat value).toNat = value :=
  UInt8.toNat_ofNat_of_lt' small

section Tail

variable {low high : UInt8} {bits : Nat} (seen : Bytes) (value n : Nat) (rest : Bytes)

theorem tail_within (least : low.toNat ≤ bits % 64 + 0x80) (most : bits % 64 + 0x80 ≤ high.toNat) :
    low ≤ UInt8.ofNat (bits % 64 + 0x80) ∧ UInt8.ofNat (bits % 64 + 0x80) ≤ high := by
  rw [UInt8.le_iff_toNat_le, UInt8.le_iff_toNat_le, toNat_ofNat_of_small (by omega)]
  exact ⟨least, most⟩

/-- The last byte of a sequence adds six bits and closes it. -/
theorem scan_last (least : low.toNat ≤ bits % 64 + 0x80) (most : bits % 64 + 0x80 ≤ high.toNat) :
    scan (some ⟨seen, value, low, high, 0⟩) (UInt8.ofNat (bits % 64 + 0x80) :: rest) =
      .char (Char.ofNat (value * 64 + bits % 64)) :: scan none rest := by
  rw [scan, if_pos (tail_within least most), toNat_ofNat_of_small (by omega), Nat.add_sub_cancel]

/-- A byte within a sequence adds six bits, and what follows is not bounded any further. -/
theorem scan_more (least : low.toNat ≤ bits % 64 + 0x80) (most : bits % 64 + 0x80 ≤ high.toNat) :
    scan (some ⟨seen, value, low, high, n + 1⟩) (UInt8.ofNat (bits % 64 + 0x80) :: rest) =
      scan (some ⟨seen ++ [UInt8.ofNat (bits % 64 + 0x80)], value * 64 + bits % 64, 0x80, 0xBF, n⟩)
        rest := by
  rw [scan, if_pos (tail_within least most), toNat_ofNat_of_small (by omega), Nat.add_sub_cancel]

end Tail

section Scan

variable {v : Nat} (rest : Bytes)

theorem scan_one (most : v < 0x80) :
    scan none (UInt8.ofNat v :: rest) = .char (Char.ofNat v) :: scan none rest := by
  have first := toNat_ofNat_of_small (show v < 0x100 by omega)
  rw [scan, start_one (by omega), first]

theorem scan_two (least : 0x80 ≤ v) (most : v < 0x800) :
    scan none (UInt8.ofNat (v / 64 % 32 + 0xC0) :: UInt8.ofNat (v % 64 + 0x80) :: rest) =
      .char (Char.ofNat v) :: scan none rest := by
  have first := toNat_ofNat_of_small (show v / 64 % 32 + 0xC0 < 0x100 by omega)
  have whole : (v / 64 % 32 + 0xC0 - 0xC0) * 64 + v % 64 = v := by omega
  rw [scan, start_two (by omega) (by omega), first]
  simp only
  rw [scan_last, whole]
  · exact Nat.le_add_left 0x80 _
  · exact show v % 64 + 0x80 ≤ 0xBF by omega

theorem scan_three (least : 0x800 ≤ v) (most : v < 0x10000)
    (noSurrogate : v < 0xD800 ∨ 0xDFFF < v) :
    scan none (UInt8.ofNat (v / 4096 % 16 + 0xE0) :: UInt8.ofNat (v / 64 % 64 + 0x80) ::
      UInt8.ofNat (v % 64 + 0x80) :: rest) = .char (Char.ofNat v) :: scan none rest := by
  have first := toNat_ofNat_of_small (show v / 4096 % 16 + 0xE0 < 0x100 by omega)
  have whole : ((v / 4096 % 16 + 0xE0 - 0xE0) * 64 + v / 64 % 64) * 64 + v % 64 = v := by omega
  rw [scan, start_three (by omega) (by omega), first]
  simp only
  rw [scan_more, scan_last, whole]
  · exact Nat.le_add_left 0x80 _
  · exact show v % 64 + 0x80 ≤ 0xBF by omega
  · split
    · exact show 0xA0 ≤ v / 64 % 64 + 0x80 by omega
    · exact Nat.le_add_left 0x80 _
  · split
    · exact show v / 64 % 64 + 0x80 ≤ 0x9F by omega
    · exact show v / 64 % 64 + 0x80 ≤ 0xBF by omega

theorem scan_four (least : 0x10000 ≤ v) (most : v < 0x110000) :
    scan none (UInt8.ofNat (v / 262144 % 8 + 0xF0) :: UInt8.ofNat (v / 4096 % 64 + 0x80) ::
      UInt8.ofNat (v / 64 % 64 + 0x80) :: UInt8.ofNat (v % 64 + 0x80) :: rest) =
        .char (Char.ofNat v) :: scan none rest := by
  have first := toNat_ofNat_of_small (show v / 262144 % 8 + 0xF0 < 0x100 by omega)
  have whole : (((v / 262144 % 8 + 0xF0 - 0xF0) * 64 + v / 4096 % 64) * 64 + v / 64 % 64) * 64 +
      v % 64 = v := by omega
  rw [scan, start_four (by omega) (by omega), first]
  simp only
  rw [scan_more, scan_more, scan_last, whole]
  · exact Nat.le_add_left 0x80 _
  · exact show v % 64 + 0x80 ≤ 0xBF by omega
  · exact Nat.le_add_left 0x80 _
  · exact show v / 64 % 64 + 0x80 ≤ 0xBF by omega
  · split
    · exact show 0x90 ≤ v / 4096 % 64 + 0x80 by omega
    · exact Nat.le_add_left 0x80 _
  · split
    · exact show v / 4096 % 64 + 0x80 ≤ 0x8F by omega
    · exact show v / 4096 % 64 + 0x80 ≤ 0xBF by omega

end Scan

/-- The bytes of a character are read as that character, whatever follows them. -/
theorem scan_encodedChar (c : Char) (rest : Bytes) :
    scan none (String.utf8EncodeChar c ++ rest) = .char c :: scan none rest := by
  have valid : c.toNat < 0xD800 ∨ 0xDFFF < c.toNat ∧ c.toNat < 0x110000 := c.valid
  have whole : Char.ofNat c.val.toNat = c := Char.ofNat_toNat c
  rw [Char.toNat] at valid
  simp only [String.utf8EncodeChar]
  by_cases one : c.val.toNat ≤ 0x7F
  · rw [if_pos one, List.cons_append, List.nil_append, scan_one rest (by omega), whole]
  · by_cases two : c.val.toNat ≤ 0x7FF
    · rw [if_neg one, if_pos two, List.cons_append, List.cons_append, List.nil_append,
        scan_two rest (by omega) (by omega), whole]
    · by_cases three : c.val.toNat ≤ 0xFFFF
      · have noSurrogate : c.val.toNat < 0xD800 ∨ 0xDFFF < c.val.toNat := by omega
        rw [if_neg one, if_neg two, if_pos three, List.cons_append, List.cons_append,
          List.cons_append, List.nil_append, scan_three rest (by omega) (by omega) noSurrogate,
          whole]
      · rw [if_neg one, if_neg two, if_neg three, List.cons_append, List.cons_append,
          List.cons_append, List.cons_append, List.nil_append,
          scan_four rest (by omega) (by omega), whole]

theorem scan_encoded (cs : List Char) :
    scan none (cs.flatMap String.utf8EncodeChar) = cs.map .char := by
  induction cs with
  | nil => rfl
  | cons c cs ih => rw [List.flatMap_cons, scan_encodedChar, ih, List.map_cons]

/-- The bytes of a text are its characters. -/
theorem pieces_encode (s : String) : pieces (encode s) = s.toList.map .char :=
  scan_encoded s.toList

/-- A text is shown as it is. -/
theorem lossy_encode (s : String) : lossy (encode s) = s := by
  have shownAs : Piece.shown ∘ Piece.char = id := rfl
  rw [lossy, pieces_encode, shown, List.map_map, shownAs, List.map_id, String.ofList_toList]

/-- Bytes that encode a text. -/
def Valid (bytes : Bytes) : Prop :=
  ∃ s, bytes = encode s

/-- Bytes that encode a text are got back from how they are shown. -/
theorem Valid.encode_lossy {bytes : Bytes} (valid : Valid bytes) :
    encode (lossy bytes) = bytes := by
  obtain ⟨s, rfl⟩ := valid
  rw [lossy_encode]

/-- Bytes that encode no text may be shown alike. -/
example : lossy [0xFF] = lossy [0xFE] := by decide

end BlockExtent.Utf8
