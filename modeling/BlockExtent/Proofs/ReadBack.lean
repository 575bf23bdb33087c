import BlockExtent.Proofs.Encoding
import BlockExtent.Proofs.OptionFilters
import BlockExtent.Proofs.PlainMode
import BlockExtent.Proofs.RawMode

/-!
# Lines read back

A line of the command is read back from its right end, where everything is the command's own: the
length, the kind before it, and what is left is the path as it is shown. A path may hold anything,
even the text of another line, and nothing in it is ever taken for the end. A path that is a text is
read back as it is, so two lines about such paths are the same only if everything in them is.

## Implementation notes

One of the two kinds ends with the words of the other, so the reader looks for the colon before
them too. A path that is no text is shown with replacement characters, and the reader gives back
what is shown of it.
-/

namespace BlockExtent

namespace Numeral

/-- The integer that characters denote: decimal digits, after a minus sign or without one. -/
def integer? : List Char → Option Int
  | '-' :: digits => (natural? 10 digits).map fun n => -(n : Int)
  | digits => (natural? 10 digits).map fun n => (n : Int)

/-- The numeral of an integer denotes it. -/
theorem integer?_integer (k : Int) : integer? (integer k).toList = some k := by
  cases k with
  | ofNat n =>
      have unsigned : integer? (decimal n).toList =
          (natural? 10 (decimal n).toList).map fun n => (n : Int) := by
        rw [integer?.eq_def]
        split
        · next signed =>
            have sign : '-' ∈ (decimal n).toList := by simp [signed]
            cases isDigit_of_mem_decimal sign
        · rfl
      rw [integer, unsigned, natural?_decimal]
      rfl
  | negSucc n =>
      have signed : (integer (.negSucc n)).toList = '-' :: (decimal (n + 1)).toList := by
        simp [integer]
      rw [signed, integer?, natural?_decimal]
      rfl

theorem tab_not_mem_integer (k : Int) : '\t' ∉ (integer k).toList := by
  intro among
  cases k with
  | ofNat n => cases isDigit_of_mem_decimal among
  | negSucc n =>
      have signed : (integer (.negSucc n)).toList = '-' :: (decimal (n + 1)).toList := by
        simp [integer]
      rw [signed] at among
      obtain sign | digit := List.mem_cons.mp among
      · cases sign
      · cases isDigit_of_mem_decimal digit

end Numeral

theorem dropSuffix?_append (before after : List Char) :
    (before ++ after).dropSuffix? after = some before :=
  List.dropSuffix?_eq_some_iff.mpr ⟨after, rfl, beq_self_eq_true after⟩

namespace Line

/-- What stands before the words for a kind, and the kind. -/
def lastKind? (line : List Char) : Option (List Char × DeviceKind) :=
  match line.dropSuffix? ": not a block device".toList with
  | some front => some (front, .other)
  | none => (line.dropSuffix? ": block device".toList).map fun front => (front, .block)

/-- Path, kind and length in a line on an extent. -/
def readPlain? (line : String) : Option (String × DeviceKind × UInt64) := do
  let front ← line.toList.dropSuffix? " bytes".toList
  let length ← Numeral.natural? 10 (front.rtakeWhile Char.isDigit)
  let front ← (front.rdropWhile Char.isDigit).dropSuffix? ", ".toList
  let (path, kind) ← lastKind? front
  return (String.ofList path, kind, UInt64.ofNat length)

/-- What stands before the last tab and after it. -/
def lastField? (line : List Char) : Option (List Char × List Char) := do
  let front ← (line.rdropWhile (· ≠ '\t')).dropSuffix? ['\t']
  return (front, line.rtakeWhile (· ≠ '\t'))

/-- Path and the two integers in a line on them. -/
def readRaw? (line : String) : Option (String × Int × Int) := do
  let (front, length) ← lastField? line.toList
  let (path, kind) ← lastField? front
  return (String.ofList path, ← Numeral.integer? kind, ← Numeral.integer? length)

theorem lastField?_append_tab (before : List Char) {after : List Char} (last : '\t' ∉ after) :
    lastField? (before ++ '\t' :: after) = some (before, after) := by
  have passes : ∀ c ∈ after, decide (c ≠ '\t') = true := by
    intro c among
    simpa using ne_of_mem_of_not_mem among last
  rw [lastField?, rdropWhile_append_cons before (by decide) passes,
    rtakeWhile_append_cons before (by decide) passes, dropSuffix?_append]
  rfl

/-- A line on two integers is read back. -/
theorem readRaw?_raw (path : Bytes) (kind length : Int) :
    readRaw? (raw path kind length) = some (Utf8.lossy path, kind, length) := by
  have text : (raw path kind length).toList =
      ((Utf8.lossy path).toList ++ '\t' :: (Numeral.integer kind).toList) ++
        '\t' :: (Numeral.integer length).toList := by
    simp [raw]
  rw [readRaw?, text, lastField?_append_tab _ (Numeral.tab_not_mem_integer length)]
  simp [lastField?_append_tab _ (Numeral.tab_not_mem_integer kind), Numeral.integer?_integer]

/-- What ends with the one kind does not end with the other, although the words of the other do. -/
theorem dropSuffix?_other_of_block (before : List Char) :
    (before ++ ": block device".toList).dropSuffix? ": not a block device".toList = none := by
  cases dropped : (before ++ ": block device".toList).dropSuffix? ": not a block device".toList with
  | none => rfl
  | some path =>
      obtain ⟨other, ends, same⟩ := List.dropSuffix?_eq_some_iff.mp dropped
      obtain rfl : other = ": not a block device".toList := eq_of_beq same
      have shorter : ": block device".toList <:+ before ++ ": block device".toList := ⟨before, rfl⟩
      have longer : ": not a block device".toList <:+ before ++ ": block device".toList :=
        ⟨path, ends.symm⟩
      exact absurd (List.suffix_of_suffix_length_le shorter longer (by decide)) (by decide)

theorem lastKind?_append (before : List Char) (kind : DeviceKind) :
    lastKind? (before ++ (": " ++ kind.text).toList) = some (before, kind) := by
  cases kind with
  | other =>
      have ending : (": " ++ DeviceKind.other.text).toList = ": not a block device".toList := by
        decide
      rw [lastKind?, ending, dropSuffix?_append]
  | block =>
      have ending : (": " ++ DeviceKind.block.text).toList = ": block device".toList := by
        decide
      rw [lastKind?, ending, dropSuffix?_other_of_block, dropSuffix?_append]
      rfl

/-- A line on an extent is read back. -/
theorem readPlain?_plain (path : Bytes) (kind : DeviceKind) (length : UInt64) :
    readPlain? (plain path kind length) = some (Utf8.lossy path, kind, length) := by
  have digits : ∀ c ∈ (Numeral.decimal length.toNat).toList, c.isDigit = true :=
    fun _ => Numeral.isDigit_of_mem_decimal
  have space : ' '.isDigit = false := rfl
  have text : (plain path kind length).toList =
      (((Utf8.lossy path).toList ++ (": " ++ kind.text).toList ++ [',']) ++
        ' ' :: (Numeral.decimal length.toNat).toList) ++ " bytes".toList := by
    simp [plain]
  have comma : (Utf8.lossy path).toList ++ (": " ++ kind.text).toList ++ [','] ++ [' '] =
      ((Utf8.lossy path).toList ++ (": " ++ kind.text).toList) ++ ", ".toList :=
    List.append_assoc _ _ _
  rw [readPlain?, text, dropSuffix?_append]
  simp only [Option.bind_eq_bind, Option.bind_some, rtakeWhile_append_cons _ space digits,
    rdropWhile_append_cons _ space digits, Numeral.natural?_decimal, comma, dropSuffix?_append,
    lastKind?_append, UInt64.ofNat_toNat, String.ofList_toList]
  rfl

end Line

namespace Command

variable {facilities : Facilities} {kernel : Kernel} {list : List Bytes}
variable {asked : Arguments} {path : Bytes} {line : String}

/-- Every line that the command prints is that of one of its paths. -/
theorem outcome_of_mem_output (steady : Backing.Steady facilities.lookup)
    (escalates : Escalates facilities.escalate) (accepted : facilities.read list = .ok asked)
    (printed : line ∈ (run facilities kernel list).output) :
    ∃ path ∈ asked.paths, outcome asked kernel path = .ok line := by
  by_cases rights : asked.escalate = true → kernel.effectiveUser = 0
  · rw [run_of_read accepted steady (escalates.grants rights), reportOf] at printed
    obtain ⟨path, given, shown⟩ := List.mem_flatMap.mp printed
    refine ⟨path, given, ?_⟩
    cases found : outcome asked kernel path with
    | error e =>
        rw [found] at shown
        cases shown
    | ok other =>
        rw [found] at shown
        rw [List.eq_of_mem_singleton shown]
  · -- Without the rights that it asks for, the command prints nothing.
    obtain ⟨unmet, ordinary⟩ := Classical.not_imp.mp rights
    obtain ⟨⟨e, denied⟩, silent⟩ := escalates.denied (threshold asked.verbosity) ordinary
    rw [run_of_denied accepted unmet denied, silent] at printed
    cases printed

/-- The line of a path shows the answer of the inspection of that path. -/
theorem readPlain?_of_outcome (plain : asked.raw = false)
    (found : outcome asked kernel path = .ok line) :
    ∃ extent,
      (∀ level, (((Handle.path path).inspectWith asked.options).run level kernel).value =
        .ok extent) ∧
      Line.readPlain? line = some (Utf8.lossy path, extent.kind, extent.length) := by
  have shown := outcome_of_plain .off kernel path plain
  cases answer : (((Handle.path path).inspectWith asked.options).run .off kernel).value with
  | error e =>
      rw [answer, found] at shown
      cases shown
  | ok extent =>
      rw [answer, found] at shown
      cases shown
      refine ⟨extent, ?_, Line.readPlain?_plain path extent.kind extent.length⟩
      intro level
      rw [← answer, (Handle.run_inspectWith_path level kernel path asked.options).1,
        (Handle.run_inspectWith_path .off kernel path asked.options).1]

/-- The line of a path with raw codes shows what was found behind the path. -/
theorem readRaw?_of_outcome (raw : asked.raw = true)
    (found : outcome asked kernel path = .ok line) :
    ∃ opening, kernel.opened path = .ok opening ∧
      Line.readRaw? line = some (Utf8.lossy path,
        EntryPoint.classifyCode (Inspection.kindResult opening.status),
        EntryPoint.lengthCode (Inspection.lengthResult opening.sizeReply)) := by
  rw [outcome_of_raw raw] at found
  cases opens : kernel.opened path with
  | error e =>
      rw [opens] at found
      cases found
  | ok opening =>
      rw [opens] at found
      cases found
      exact ⟨opening, rfl, Line.readRaw?_raw path _ _⟩

end Command

namespace Line

/-- Whatever the path, a line is read back from its right end as the path that it shows, the kind
and the length, or as that path and the two integers; and every line that the command prints is read
back as one of its paths with what was found there. A path that encodes a text is got back from what
is shown of it. So two lines are the same only if they show the same path, kind and length, and two
such paths have no line in common. -/
theorem lines_are_read_back :
    (∀ path kind length,
      readPlain? (plain path kind length) = some (Utf8.lossy path, kind, length)) ∧
    (∀ path kind length,
      readRaw? (raw path kind length) = some (Utf8.lossy path, kind, length)) ∧
    (∀ path, Utf8.Valid path → Utf8.encode (Utf8.lossy path) = path) ∧
    (∀ path path' kind kind' length length',
      plain path kind length = plain path' kind' length' →
      kind = kind' ∧ length = length' ∧ (Utf8.Valid path → Utf8.Valid path' → path = path')) ∧
    (∀ path path' kind kind' length length',
      raw path kind length = raw path' kind' length' →
      kind = kind' ∧ length = length' ∧ (Utf8.Valid path → Utf8.Valid path' → path = path')) ∧
    ∀ facilities, Backing.Steady facilities.lookup → Command.Escalates facilities.escalate →
      ∀ kernel list asked, facilities.read list = .ok asked →
      ∀ line ∈ (Command.run facilities kernel list).output, ∃ path ∈ asked.paths,
        (asked.raw = false → ∃ extent,
          (∀ level, (((Handle.path path).inspectWith asked.options).run level kernel).value =
            .ok extent) ∧
          readPlain? line = some (Utf8.lossy path, extent.kind, extent.length)) ∧
        (asked.raw = true → ∃ opening, kernel.opened path = .ok opening ∧
          readRaw? line = some (Utf8.lossy path,
            EntryPoint.classifyCode (Inspection.kindResult opening.status),
            EntryPoint.lengthCode (Inspection.lengthResult opening.sizeReply))) := by
  have shownAlike {path path' : Bytes} (same : Utf8.lossy path = Utf8.lossy path')
      (valid : Utf8.Valid path) (valid' : Utf8.Valid path') : path = path' := by
    rw [← valid.encode_lossy, same, valid'.encode_lossy]
  refine ⟨readPlain?_plain, readRaw?_raw, fun _ => Utf8.Valid.encode_lossy, ?_, ?_, ?_⟩
  · intro path path' kind kind' length length' same
    have read := readPlain?_plain path kind length
    rw [same, readPlain?_plain] at read
    simp only [Option.some.injEq, Prod.mk.injEq] at read
    obtain ⟨shown, kinds, lengths⟩ := read
    exact ⟨kinds.symm, lengths.symm, shownAlike shown.symm⟩
  · intro path path' kind kind' length length' same
    have read := readRaw?_raw path kind length
    rw [same, readRaw?_raw] at read
    simp only [Option.some.injEq, Prod.mk.injEq] at read
    obtain ⟨shown, kinds, lengths⟩ := read
    exact ⟨kinds.symm, lengths.symm, shownAlike shown.symm⟩
  · intro facilities steady escalates kernel list asked accepted line printed
    obtain ⟨path, given, found⟩ :=
      Command.outcome_of_mem_output steady escalates accepted printed
    exact ⟨path, given, fun plain => Command.readPlain?_of_outcome plain found,
      fun raw => Command.readRaw?_of_outcome raw found⟩

/-- A path that imitates the line of a block device, and a file behind it. The line of the file is
read back as that of a file, and the path from it. -/
theorem lines_are_read_back_despite_imitation :
    let path := Utf8.encode "d: block device, 7 bytes"
    let kernel := Kernel.naming path { size := 12 }
    let line := "d: block device, 7 bytes: not a block device, 12 bytes"
    Utf8.Valid path ∧ Facilities.standard.read [path] = .ok { paths := [path] } ∧
      (Command.run .standard kernel [path]).output = [line] ∧ plain path .other 12 = line ∧
      (∃ extent : Extent, readPlain? line = some (Utf8.lossy path, extent.kind, extent.length)) ∧
      Utf8.encode (Utf8.lossy path) = path ∧ plain path .other 12 ≠ plain path .block 7 := by
  intro path kernel line
  have valid : Utf8.Valid path := ⟨_, rfl⟩
  have accepted : Facilities.standard.read [path] = .ok { paths := [path] } := by decide
  have output : (Command.run .standard kernel [path]).output = [line] := by decide
  obtain ⟨-, -, recovered, apart, -, printed⟩ := lines_are_read_back
  obtain ⟨other, given, shown, -⟩ :=
    printed .standard Backing.steady_lookup Command.escalates_escalate kernel [path] _ accepted line
      (by simp [output])
  obtain rfl := List.eq_of_mem_singleton given
  obtain ⟨extent, -, read⟩ := shown rfl
  refine ⟨valid, accepted, output, by decide, ⟨extent, read⟩, recovered path valid, ?_⟩
  intro same
  cases (apart path path .other .block 12 7 same).1

end Line

end BlockExtent
