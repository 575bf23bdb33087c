import BlockExtent.Proofs.Encoding

/-!
# Bytes read as texts

Cutting bytes into pieces loses none of them: every piece knows the bytes that it is made of, and
these bytes one after the other are those that were cut. So a text is read from the bytes that
encode it, and bytes that encode no text are not read as one.

## Implementation notes

A sequence that is not finished carries the bits of the bytes seen. `Completes` says what they are
good for: any bytes within the bounds complete them to a character whose encoding begins with the
bytes seen. The bounds of the second byte are what makes this true.
-/

namespace BlockExtent.Utf8

/-- The bytes that a piece is made of. -/
def Piece.bytes : Piece → Bytes
  | .char c => String.utf8EncodeChar c
  | .invalid bytes => bytes

/-- Whatever bytes within the bounds are to come, the character that they complete is encoded by
them together with the bytes seen before. -/
def Completes : (after : Nat) → (seen : Bytes) → (value : Nat) → (low high : UInt8) → Prop
  | 0, seen, value, low, high => ∀ b : UInt8, low ≤ b → b ≤ high →
      String.utf8EncodeChar (Char.ofNat (value * 64 + (b.toNat - 0x80))) = seen ++ [b]
  | n + 1, seen, value, low, high => ∀ b : UInt8, low ≤ b → b ≤ high →
      Completes n (seen ++ [b]) (value * 64 + (b.toNat - 0x80)) 0x80 0xBF

section Character

variable {v : Nat}

theorem val_ofNat_of_valid (valid : v.isValidChar) : (Char.ofNat v).val.toNat = v := by
  rw [Char.ofNat, dif_pos valid]
  rfl

theorem encodeChar_one (most : v < 0x80) :
    String.utf8EncodeChar (Char.ofNat v) = [UInt8.ofNat v] := by
  rw [String.utf8EncodeChar, val_ofNat_of_valid (.inl (by omega))]
  exact if_pos (by omega)

theorem encodeChar_two (least : 0x80 ≤ v) (most : v < 0x800) :
    String.utf8EncodeChar (Char.ofNat v) =
      [UInt8.ofNat (v / 64 % 32 + 0xC0), UInt8.ofNat (v % 64 + 0x80)] := by
  rw [String.utf8EncodeChar, val_ofNat_of_valid (.inl (by omega))]
  rw [if_neg (by omega), if_pos (by omega)]

theorem encodeChar_three (least : 0x800 ≤ v) (most : v < 0x10000)
    (noSurrogate : v < 0xD800 ∨ 0xDFFF < v) :
    String.utf8EncodeChar (Char.ofNat v) =
      [UInt8.ofNat (v / 4096 % 16 + 0xE0), UInt8.ofNat (v / 64 % 64 + 0x80),
        UInt8.ofNat (v % 64 + 0x80)] := by
  rw [String.utf8EncodeChar, val_ofNat_of_valid (noSurrogate.imp_right fun _ => ⟨‹_›, by omega⟩)]
  rw [if_neg (by omega), if_neg (by omega), if_pos (by omega)]

theorem encodeChar_four (least : 0x10000 ≤ v) (most : v < 0x110000) :
    String.utf8EncodeChar (Char.ofNat v) =
      [UInt8.ofNat (v / 262144 % 8 + 0xF0), UInt8.ofNat (v / 4096 % 64 + 0x80),
        UInt8.ofNat (v / 64 % 64 + 0x80), UInt8.ofNat (v % 64 + 0x80)] := by
  rw [String.utf8EncodeChar, val_ofNat_of_valid (.inr ⟨by omega, most⟩)]
  rw [if_neg (by omega), if_neg (by omega), if_neg (by omega)]

end Character

theorem ofNat_eq_of_toNat {n : Nat} {b : UInt8} (same : n = b.toNat) : UInt8.ofNat n = b := by
  rw [same, UInt8.ofNat_toNat]

/-- The bounds on a further byte, as numbers. -/
theorem toNat_bounds {low high b : UInt8} (least : low ≤ b) (most : b ≤ high) :
    low.toNat ≤ b.toNat ∧ b.toNat ≤ high.toNat :=
  ⟨UInt8.le_iff_toNat_le.mp least, UInt8.le_iff_toNat_le.mp most⟩

theorem toNat_of_ite_le {p : Prop} [Decidable p] {x y b : UInt8}
    (least : (if p then x else y) ≤ b) :
    (p → x.toNat ≤ b.toNat) ∧ (¬ p → y.toNat ≤ b.toNat) := by
  constructor
  · intro holds
    rwa [if_pos holds, UInt8.le_iff_toNat_le] at least
  · intro fails
    rwa [if_neg fails, UInt8.le_iff_toNat_le] at least

theorem toNat_of_le_ite {p : Prop} [Decidable p] {x y b : UInt8} (most : b ≤ if p then x else y) :
    (p → b.toNat ≤ x.toNat) ∧ (¬ p → b.toNat ≤ y.toNat) := by
  constructor
  · intro holds
    rwa [if_pos holds, UInt8.le_iff_toNat_le] at most
  · intro fails
    rwa [if_neg fails, UInt8.le_iff_toNat_le] at most

section Completes

variable {b : UInt8}

theorem completes_two (least : 0xC2 ≤ b.toNat) (most : b.toNat < 0xE0) :
    Completes 0 [b] (b.toNat - 0xC0) 0x80 0xBF := by
  intro c leastC mostC
  obtain ⟨lowC, highC⟩ : 0x80 ≤ c.toNat ∧ c.toNat ≤ 0xBF := toNat_bounds leastC mostC
  rw [encodeChar_two (by omega) (by omega), ofNat_eq_of_toNat (b := b) (by omega),
    ofNat_eq_of_toNat (b := c) (by omega)]
  rfl

theorem completes_three (least : 0xE0 ≤ b.toNat) (most : b.toNat < 0xF0) :
    Completes 1 [b] (b.toNat - 0xE0) (if b.toNat = 0xE0 then 0xA0 else 0x80)
      (if b.toNat = 0xED then 0x9F else 0xBF) := by
  intro c leastC mostC d leastD mostD
  obtain ⟨lowFirst, lowC⟩ := toNat_of_ite_le leastC
  obtain ⟨highFirst, highC⟩ := toNat_of_le_ite mostC
  simp only [UInt8.reduceToNat] at lowFirst lowC highFirst highC
  obtain ⟨lowD, highD⟩ : 0x80 ≤ d.toNat ∧ d.toNat ≤ 0xBF := toNat_bounds leastD mostD
  rw [encodeChar_three (by omega) (by omega) (by omega), ofNat_eq_of_toNat (b := b) (by omega),
    ofNat_eq_of_toNat (b := c) (by omega), ofNat_eq_of_toNat (b := d) (by omega)]
  rfl

theorem completes_four (least : 0xF0 ≤ b.toNat) (most : b.toNat ≤ 0xF4) :
    Completes 2 [b] (b.toNat - 0xF0) (if b.toNat = 0xF0 then 0x90 else 0x80)
      (if b.toNat = 0xF4 then 0x8F else 0xBF) := by
  intro c leastC mostC d leastD mostD e leastE mostE
  obtain ⟨lowFirst, lowC⟩ := toNat_of_ite_le leastC
  obtain ⟨highFirst, highC⟩ := toNat_of_le_ite mostC
  simp only [UInt8.reduceToNat] at lowFirst lowC highFirst highC
  obtain ⟨lowD, highD⟩ : 0x80 ≤ d.toNat ∧ d.toNat ≤ 0xBF := toNat_bounds leastD mostD
  obtain ⟨lowE, highE⟩ : 0x80 ≤ e.toNat ∧ e.toNat ≤ 0xBF := toNat_bounds leastE mostE
  rw [encodeChar_four (by omega) (by omega), ofNat_eq_of_toNat (b := b) (by omega),
    ofNat_eq_of_toNat (b := c) (by omega), ofNat_eq_of_toNat (b := d) (by omega),
    ofNat_eq_of_toNat (b := e) (by omega)]
  rfl

end Completes

/-- A first byte is a piece of its own, or opens a sequence that completes what it begins. -/
theorem start_cases (b : UInt8) :
    (∃ piece, start b = .inl piece ∧ piece.bytes = [b]) ∨
    ∃ p, start b = .inr p ∧ p.seen = [b] ∧ Completes p.after p.seen p.value p.low p.high := by
  by_cases one : b.toNat < 0x80
  · refine .inl ⟨_, start_one one, ?_⟩
    rw [Piece.bytes, encodeChar_one one, UInt8.ofNat_toNat]
  · by_cases two : 0xC2 ≤ b.toNat ∧ b.toNat < 0xE0
    · exact .inr ⟨_, start_two two.1 two.2, rfl, completes_two two.1 two.2⟩
    · by_cases three : 0xE0 ≤ b.toNat ∧ b.toNat < 0xF0
      · exact .inr ⟨_, start_three three.1 three.2, rfl, completes_three three.1 three.2⟩
      · by_cases four : 0xF0 ≤ b.toNat ∧ b.toNat ≤ 0xF4
        · exact .inr ⟨_, start_four four.1 four.2, rfl, completes_four four.1 four.2⟩
        · refine .inl ⟨.invalid [b], ?_, rfl⟩
          simp only [start, UInt8.lt_iff_toNat_lt, ← UInt8.toNat_inj, UInt8.reduceToNat]
          by_cases below : b.toNat < 0xC2
          · rw [if_neg one, if_pos below]
          · rw [if_neg one, if_neg below, if_neg (by omega), if_neg (by omega), if_neg (by omega),
              if_neg (by omega), if_neg (by omega), if_neg (by omega), if_neg (by omega)]

/-- A byte that cannot continue a sequence ends it and is read again as a first byte. -/
theorem scan_outside {p : Pending} {b : UInt8} (outside : ¬ (p.low ≤ b ∧ b ≤ p.high))
    (rest : Bytes) : scan (some p) (b :: rest) = .invalid p.seen :: scan none (b :: rest) := by
  simp only [scan, if_neg outside]

/-- The bytes of a sequence left unfinished. -/
def seenBy (pending : Option Pending) : Bytes :=
  (pending.map Pending.seen).getD []

/-- From a sequence that completes what it begins, scanning loses no byte and adds none. -/
theorem flatMap_bytes_scan (bytes : Bytes) (pending : Option Pending)
    (faithful : ∀ p ∈ pending, Completes p.after p.seen p.value p.low p.high) :
    (scan pending bytes).flatMap Piece.bytes = seenBy pending ++ bytes := by
  have idle : ∀ p ∈ (none : Option Pending), Completes p.after p.seen p.value p.low p.high := by
    simp
  induction bytes generalizing pending with
  | nil => cases pending <;> simp [scan, seenBy, Piece.bytes]
  | cons b rest ih =>
      have afresh : (scan none (b :: rest)).flatMap Piece.bytes = b :: rest := by
        rw [scan]
        obtain ⟨piece, started, own⟩ | ⟨p, started, seen, completes⟩ := start_cases b
        · simp [started, own, ih none idle, seenBy]
        · simp [started, ih (some p) (by simpa using completes), seenBy, seen]
      cases pending with
      | none => exact afresh
      | some p =>
          have completes : Completes p.after p.seen p.value p.low p.high := faithful p rfl
          by_cases within : p.low ≤ b ∧ b ≤ p.high
          · rw [scan, if_pos within]
            obtain ⟨seen, value, low, high, after⟩ := p
            cases after with
            | zero =>
                have whole := completes b within.1 within.2
                simp [Piece.bytes, whole, ih none idle, seenBy]
            | succ n =>
                have more := completes b within.1 within.2
                simp [ih (some ⟨seen ++ [b], _, 0x80, 0xBF, n⟩) (by simpa using more), seenBy]
          · rw [scan_outside within, List.flatMap_cons, afresh]
            rfl

/-- Nothing is lost and nothing is added where bytes are cut into pieces. -/
theorem flatMap_bytes_pieces (bytes : Bytes) : (pieces bytes).flatMap Piece.bytes = bytes :=
  flatMap_bytes_scan bytes none nofun

/-- All pieces are characters, and these are the characters. -/
theorem mapM_char?_eq_some_iff {ps : List Piece} {cs : List Char} :
    ps.mapM Piece.char? = some cs ↔ ps = cs.map .char := by
  induction ps generalizing cs with
  | nil => cases cs <;> simp
  | cons piece ps ih =>
      rw [List.mapM_cons]
      cases piece with
      | invalid bytes => cases cs <;> simp [Piece.char?]
      | char c =>
          cases cs with
          | nil => simp [Piece.char?, Option.bind_eq_some_iff]
          | cons d cs =>
              simp only [Piece.char?, Option.bind_eq_bind, Option.bind_some,
                Option.bind_eq_some_iff, ih, Option.pure_def, Option.some.injEq, List.map_cons,
                List.cons.injEq, Piece.char.injEq]
              constructor
              · rintro ⟨_, later, rfl, rfl⟩
                exact ⟨rfl, later⟩
              · rintro ⟨rfl, later⟩
                exact ⟨cs, later, rfl, rfl⟩

/-- A text is read from the bytes that encode it and from no others. -/
theorem decode?_eq_some_iff {bytes : Bytes} {s : String} :
    decode? bytes = some s ↔ bytes = encode s := by
  constructor
  · intro decoded
    obtain ⟨cs, read, rfl⟩ := Option.map_eq_some_iff.mp decoded
    calc
      bytes = (pieces bytes).flatMap Piece.bytes := (flatMap_bytes_pieces bytes).symm
      _ = (cs.map .char).flatMap Piece.bytes := by rw [mapM_char?_eq_some_iff.mp read]
      _ = encode (String.ofList cs) := by simp [encode, List.flatMap_map, Piece.bytes]
  · rintro rfl
    rw [decode?, pieces_encode, mapM_char?_eq_some_iff.mpr rfl, Option.map_some,
      String.ofList_toList]

/-- Different texts have different bytes. -/
theorem encode_inj {s t : String} : encode s = encode t ↔ s = t := by
  constructor
  · intro same
    rw [← lossy_encode s, same, lossy_encode]
  · rintro rfl
    rfl

theorem decode?_eq_none_iff {bytes : Bytes} : decode? bytes = none ↔ ¬ Valid bytes := by
  rw [Option.eq_none_iff_forall_ne_some]
  simp only [ne_eq, decode?_eq_some_iff, Valid, not_exists]

end BlockExtent.Utf8
