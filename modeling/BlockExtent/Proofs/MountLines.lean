import BlockExtent.Backing.MountTable
import BlockExtent.Proofs.Decoding
import BlockExtent.Proofs.Fields
import BlockExtent.Proofs.Numerals
import Mathlib.Data.List.TakeWhile

/-!
# Lines of the mount table that qualify

A line qualifies for a device if it is a text of at least ten fields, the third of them spells the
number of the device, and the second one after the first lone hyphen is a source that is absolute or
has an entry among the devices. Such a line answers with the path of its source, and no other line
answers.
-/

namespace BlockExtent

namespace MountEntry

/-- A field spells the number of a device: its two numbers with a colon between them, and then
nothing, or a further colon and anything. -/
def SpellsDevice (field : List Char) (device : DeviceNumber) : Prop :=
  ∃ major minor, Text.Reaches ':' field [major] minor ∧
    Numeral.Spells major device.major.toNat ∧ Numeral.Spells minor device.minor.toNat

/-- The source is the second field after the first lone hyphen. -/
def SourceIn (fields : List (List Char)) (source : String) : Prop :=
  ∃ before kind after, fields = before ++ ['-'] :: kind :: source.toList :: after ∧
    ['-'] ∉ before

theorem deviceNumber?_eq_some_iff {field : List Char} {device : DeviceNumber} :
    deviceNumber? field = some device ↔ SpellsDevice field device := by
  constructor
  · intro read
    rw [deviceNumber?] at read
    split at read
    · next major minor after cut =>
        simp only [Option.bind_eq_bind, Option.bind_eq_some_iff, Option.pure_def,
          Option.some.injEq] at read
        obtain ⟨first, firstRead, second, secondRead, rfl⟩ := read
        exact ⟨major, minor, Text.reaches_iff.mpr ⟨after, cut⟩,
          Numeral.word32?_eq_some_iff.mp firstRead, Numeral.word32?_eq_some_iff.mp secondRead⟩
    · cases read
  · rintro ⟨major, minor, reached, first, second⟩
    obtain ⟨after, cut⟩ := Text.reaches_iff.mp reached
    rw [deviceNumber?, cut]
    simp [Numeral.word32?_eq_some_iff.mpr first, Numeral.word32?_eq_some_iff.mpr second]

theorem sourceIn_of_dropWhile {fields : List (List Char)} {field : List Char}
    (third : (fields.dropWhile (· ≠ ['-']))[2]? = some field) :
    SourceIn fields (String.ofList field) := by
  induction fields with
  | nil => cases third
  | cons first rest ih =>
      by_cases lone : first = ['-']
      · subst lone
        have second : rest[1]? = some field := by simpa using third
        cases rest with
        | nil => cases second
        | cons kind rest =>
            cases rest with
            | nil => cases second
            | cons other after =>
                obtain rfl : other = field := by simpa using second
                exact ⟨[], kind, after, by simp, by simp⟩
      · have later : (rest.dropWhile (· ≠ ['-']))[2]? = some field := by
          simpa [lone] using third
        obtain ⟨before, kind, after, rfl, passed⟩ := ih later
        exact ⟨first :: before, kind, after, rfl, by simp [passed, Ne.symm lone]⟩

theorem source?_eq_some_iff {fields : List (List Char)} {source : String} :
    source? fields = some source ↔ SourceIn fields source := by
  constructor
  · intro found
    obtain ⟨field, third, rfl⟩ := Option.map_eq_some_iff.mp found
    exact sourceIn_of_dropWhile third
  · rintro ⟨before, kind, after, rfl, passed⟩
    have kept : ∀ field ∈ before, decide (field ≠ ['-']) = true := by
      intro field among
      simpa using ne_of_mem_of_not_mem among passed
    rw [source?, List.dropWhile_append_of_pos kept]
    simp

/-- The entry in a line is read from its fields as they stand there. -/
theorem ofLine?_eq_some_iff {line : String} {entry : MountEntry} :
    ofLine? line = some entry ↔ ∃ fields, Text.Separated line.toList fields ∧
      10 ≤ fields.length ∧ (∃ third, fields[2]? = some third ∧ SpellsDevice third entry.device) ∧
      SourceIn fields entry.source := by
  obtain ⟨device, source⟩ := entry
  have own {fields : List (List Char)} (separated : Text.Separated line.toList fields) :
      Text.fields line.toList = fields := Text.fields_eq_iff.mpr separated
  constructor
  · intro read
    rw [ofLine?] at read
    split at read
    · cases read
    · next enough =>
        simp only [Option.bind_eq_bind, Option.bind_eq_some_iff, Option.pure_def,
          Option.some.injEq, MountEntry.mk.injEq] at read
        obtain ⟨third, number, _, spelled, _, named, rfl, rfl⟩ := read
        exact ⟨_, Text.fields_eq_iff.mp rfl, Nat.le_of_not_lt enough,
          ⟨third, number, deviceNumber?_eq_some_iff.mp spelled⟩, source?_eq_some_iff.mp named⟩
  · rintro ⟨fields, separated, enough, ⟨third, number, spelled⟩, named⟩
    simp only [ofLine?, own separated, if_neg (Nat.not_lt.mpr enough)]
    simp [number, deviceNumber?_eq_some_iff.mpr spelled, source?_eq_some_iff.mpr named]

end MountEntry

namespace MountTable

/-- The path of a source: itself if it is absolute, else its entry among the devices, which must be
there. -/
inductive Located (isPresent : Bytes → Bool) : (source found : String) → Prop
  | absolute (rest : String) : Located isPresent ("/" ++ rest) ("/" ++ rest)
  | entry {source : String} (relative : ∀ rest, source ≠ "/" ++ rest)
      (present : isPresent (Utf8.encode ("/dev/" ++ source)) = true) :
      Located isPresent source ("/dev/" ++ source)

/-- A line qualifies for a device, with the path of its source. -/
inductive Qualifies (isPresent : Bytes → Bool) (device : DeviceNumber) :
    (line : Bytes) → (found : String) → Prop
  | intro {text source found : String} {fields : List (List Char)} {third : List Char}
      (separated : Text.Separated text.toList fields) (enough : 10 ≤ fields.length)
      (number : fields[2]? = some third) (spelled : MountEntry.SpellsDevice third device)
      (named : MountEntry.SourceIn fields source) (located : Located isPresent source found) :
      Qualifies isPresent device (Utf8.encode text) found

theorem startsWith_slash_iff {source : String} :
    source.startsWith "/" = true ↔ ∃ rest, source = "/" ++ rest := by
  rw [String.startsWith_string_iff]
  constructor
  · rintro ⟨rest, whole⟩
    have back : (String.ofList rest).toList = rest := String.toList_ofList
    refine ⟨String.ofList rest, String.toList_inj.mp ?_⟩
    rw [String.toList_append, back, whole]
  · rintro ⟨rest, rfl⟩
    exact ⟨rest.toList, String.toList_append.symm⟩

variable {isPresent : Bytes → Bool} {device : DeviceNumber}

theorem locate?_eq_some_iff {source found : String} :
    locate? isPresent source = some found ↔ Located isPresent source found := by
  constructor
  · intro answered
    rw [locate?] at answered
    split at answered
    · next absolute =>
        obtain ⟨rest, rfl⟩ := startsWith_slash_iff.mp absolute
        cases answered
        exact .absolute rest
    · next relative =>
        split at answered
        · next present =>
            cases answered
            refine .entry (fun rest same => ?_) present
            exact relative (startsWith_slash_iff.mpr ⟨rest, same⟩)
        · cases answered
  · rintro (rest | ⟨relative, present⟩)
    · rw [locate?, if_pos (startsWith_slash_iff.mpr ⟨rest, rfl⟩)]
    · have unabsolute : ¬ source.startsWith "/" = true := by
        intro absolute
        obtain ⟨rest, same⟩ := startsWith_slash_iff.mp absolute
        exact relative rest same
      rw [locate?, if_neg unabsolute, if_pos present]

/-- A text answers if it qualifies as a line. -/
theorem answer?_eq_some_iff {text found : String} :
    answer? isPresent device text = some found ↔
      Qualifies isPresent device (Utf8.encode text) found := by
  constructor
  · intro answered
    rw [answer?] at answered
    split at answered
    · next entry read =>
        obtain ⟨fields, separated, enough, ⟨third, number, spelled⟩, named⟩ :=
          MountEntry.ofLine?_eq_some_iff.mp read
        split at answered
        · next own =>
            subst own
            exact .intro separated enough number spelled named (locate?_eq_some_iff.mp answered)
        · cases answered
    · cases answered
  · generalize bytes : Utf8.encode text = line
    intro qualifies
    cases qualifies with
    | @intro other source found fields third separated enough number spelled named located =>
        rw [Utf8.encode_inj] at bytes
        subst bytes
        have read : MountEntry.ofLine? text = some ⟨device, source⟩ :=
          MountEntry.ofLine?_eq_some_iff.mpr
            ⟨fields, separated, enough, ⟨third, number, spelled⟩, named⟩
        simp only [answer?, read, if_true]
        exact locate?_eq_some_iff.mpr located

/-- A line is passed over if it is a text that does not qualify. -/
def Passed (isPresent : Bytes → Bool) (device : DeviceNumber) (line : Bytes) : Prop :=
  Utf8.Valid line ∧ ∀ found, ¬ Qualifies isPresent device line found

end MountTable

end BlockExtent
