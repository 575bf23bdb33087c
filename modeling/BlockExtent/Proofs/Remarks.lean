import BlockExtent.Proofs.PlainMode
import BlockExtent.Proofs.Resolution

/-!
# The remarks of a verbose command

A verbose command remarks on every path whose inspection answers: one line has the length once more,
one line for a block device says that the length is a status size if it is, and one line for
anything else names the device on which the file lies, or says why that is not known. Nothing that
is logged reads like one of these lines.

## Implementation notes

Lines are told apart by what they begin with. The text that names a device comes from the mount
table and may hold line feeds, so what counts as a line is what is written at once.
-/

namespace BlockExtent

namespace Line

/-- The lines that begin with a given text. -/
def beginning (text : String) (lines : List String) : List String :=
  lines.filter (·.startsWith text)

theorem beginning_append (text : String) (first second : List String) :
    beginning text (first ++ second) = beginning text first ++ beginning text second :=
  List.filter_append first second

theorem startsWith_of_head?_ne {line text : String} {c : Char}
    (begins : text.toList.head? = some c) (other : line.toList.head? ≠ some c) :
    line.startsWith text = false := by
  rw [String.startsWith_string_eq_false_iff]
  rintro ⟨more, whole⟩
  rw [← whole, List.head?_append, begins] at other
  exact other rfl

theorem head?_length (n : UInt64) : (length n).toList.head? = some 'L' := by
  simp [length]

theorem head?_fallback : fallback.toList.head? = some '(' := by
  decide

theorem backing_ok (device : String) :
    backing (.ok device) = "Backing block device: " ++ device := rfl

theorem backing_error (e : SystemError) :
    backing (.error e) = "Backing block device: (unable to resolve: " ++ e.text ++ ")" := rfl

theorem head?_backing (answer : Except SystemError String) :
    (backing answer).toList.head? = some 'B' := by
  cases answer <;> simp [backing_ok, backing_error]

/-- No line of the log begins with a text that does not begin as a time of day does. -/
theorem beginning_records {line : Record → String} (timed : Record.Timed line) {text : String}
    {c : Char} (begins : text.toList.head? = some c) (other : c.isDigit = false)
    (records : List Record) : beginning text (records.map line) = [] := by
  apply List.filter_eq_nil_iff.mpr
  intro shown among
  obtain ⟨record, -, rfl⟩ := List.mem_map.mp among
  obtain ⟨first, head, digit⟩ := timed record
  have different : (line record).toList.head? ≠ some c := by
    rw [head]
    rintro ⟨⟩
    exact absurd digit (by simp [other])
  simp [startsWith_of_head?_ne begins different]

theorem length_startsWith (n : UInt64) :
    (length n).startsWith "Length:" = true ∧ (length n).startsWith fallback = false ∧
      (length n).startsWith "Backing block device:" = false := by
  refine ⟨?_, ?_, ?_⟩
  · rw [String.startsWith_string_iff]
    simp [length]
  · exact startsWith_of_head?_ne head?_fallback (by simp [head?_length])
  · exact startsWith_of_head?_ne (c := 'B') (by decide) (by simp [head?_length])

theorem fallback_startsWith :
    fallback.startsWith "Length:" = false ∧ fallback.startsWith fallback = true ∧
      fallback.startsWith "Backing block device:" = false := by
  refine ⟨?_, ?_, ?_⟩
  · exact startsWith_of_head?_ne (c := 'L') (by decide) (by simp [head?_fallback])
  · exact String.startsWith_string_iff.mpr (List.prefix_refl _)
  · exact startsWith_of_head?_ne (c := 'B') (by decide) (by simp [head?_fallback])

theorem backing_startsWith (answer : Except SystemError String) :
    (backing answer).startsWith "Length:" = false ∧ (backing answer).startsWith fallback = false ∧
      (backing answer).startsWith "Backing block device:" = true := by
  refine ⟨?_, ?_, ?_⟩
  · exact startsWith_of_head?_ne (c := 'L') (by decide) (by simp [head?_backing])
  · exact startsWith_of_head?_ne head?_fallback (by simp [head?_backing])
  · rw [String.startsWith_string_iff]
    cases answer <;> simp [backing_ok, backing_error]

end Line

namespace Command

open Line (beginning)

/-- Each of the three lines stands among the remarks where it should, once. -/
theorem beginning_remarksOn (found : Except SystemError String) (extent : Extent) :
    beginning "Length:" (remarksOn found extent) = [Line.length extent.length] ∧
    beginning Line.fallback (remarksOn found extent) =
      (if extent.kind = .block ∧ extent.usedFallback = true then [Line.fallback] else []) ∧
    beginning "Backing block device:" (remarksOn found extent) =
      match extent.kind with
      | .block => []
      | .other => [Line.backing found] := by
  have length := Line.length_startsWith extent.length
  have fallback := Line.fallback_startsWith
  have backing := Line.backing_startsWith found
  cases kind : extent.kind with
  | block =>
      cases fell : extent.usedFallback <;>
        simp [remarksOn, beginning, kind, fell, length, fallback]
  | other => simp [remarksOn, beginning, kind, length, backing]

section Answered

variable {facilities : Facilities} (restores : Backing.Restores facilities.lookup)
variable {asked : Arguments} (plain : asked.raw = false) (verbose : 0 < asked.verbosity)
variable (level : Threshold) (kernel : Kernel) (path : Bytes) {extent : Extent}
variable
  (answered : (((Handle.path path).inspectWith asked.options).run level kernel).value = .ok extent)

include answered

/-- A path opens whose inspection answers. -/
theorem opened_of_answered : ∃ opening, kernel.opened path = .ok opening := by
  rw [(Handle.run_inspectWith_path level kernel path asked.options).1] at answered
  cases opens : kernel.opened path with
  | error e =>
      rw [opens] at answered
      cases answered
  | ok opening => exact ⟨opening, rfl⟩

include restores plain verbose

/-- On a path whose inspection answers, a verbose command writes records and then its remarks. -/
theorem complaints_of_answered :
    ∃ records : List Record,
      ((treat facilities asked path).run level kernel).complaints facilities.line =
        records.map facilities.line ++
          remarksOn (facilities.found level (kernel.whileOpen path) path) extent := by
  obtain ⟨opening, opens⟩ := opened_of_answered level kernel path answered
  have logs := (Handle.run_inspectWith_path level kernel path asked.options).2.1
  rw [opens] at logs
  refine ⟨(Inspection.extentRecords opening.descriptor asked.options opening.status
    opening.sizeReply).filter fun r => level.admits r.level, ?_⟩
  rw [Traced.complaints_eq, (run_treat restores level kernel path asked).2.1,
    treated_of_plain level kernel path plain facilities, answered, logs, List.filterMap_append,
    Threshold.logged_complaints]
  simp [Nat.ne_of_gt verbose, List.filterMap_cons, List.filterMap_map, Function.comp_def]

end Answered

/-- A verbose command without raw codes writes, after the records of how it got its rights, what it
says on each path in turn. On a path whose inspection answers it says the length once, and that this
is a status size if the path leads to a block device and the answer falls back. It names a device on
one line for anything but a block device, and on none for a block device. Which one it names, if it
searches itself, is settled by cases: it is the device registered under the number of the file, else
what the first deciding line of the mount table says. A table that is decided stays so however it
goes on. -/
theorem remarks_of_verbose_run {facilities : Facilities}
    (steady : Backing.Steady facilities.lookup) (escalates : Escalates facilities.escalate)
    (timed : Record.Timed facilities.line) (kernel : Kernel) {list : List Bytes}
    {asked : Arguments} (accepted : facilities.read list = .ok asked) (plain : asked.raw = false)
    (verbose : 0 < asked.verbosity) :
    let level := threshold asked.verbosity
    let complaints := fun path =>
      ((treat facilities asked path).run level kernel).complaints facilities.line
    let during := fun path => ((Action.openPath path).run level kernel).kernel
    let opening := fun path => ((Action.openPath MountTable.path).run level (during path)).value
    ((asked.escalate = true → kernel.effectiveUser = 0) →
      ∃ granted : List Record, (asked.escalate = false → granted = []) ∧
        (run facilities kernel list).complaints =
          granted.map facilities.line ++ asked.paths.flatMap complaints) ∧
    (∀ path extent,
      (((Handle.path path).inspectWith asked.options).run level kernel).value = .ok extent →
      beginning "Length:" (complaints path) = [Line.length extent.length] ∧
      beginning Line.fallback (complaints path) =
        (if extent.kind = .block ∧ extent.usedFallback = true then [Line.fallback] else []) ∧
      (extent.kind = .block → beginning "Backing block device:" (complaints path) = []) ∧
      (extent.kind = .other → ∃ answer,
        (facilities.lookup = Backing.lookup →
          ∀ result, Backing.Resolution kernel (opening path) path result ↔ result = answer) ∧
        beginning "Backing block device:" (complaints path) = [Line.backing answer])) ∧
    ∀ device front outcome, MountTable.Searched kernel.hasStatus device front outcome →
      outcome ≠ .ok none →
      ∀ rest, MountTable.Searched kernel.hasStatus device (front ++ 0x0A :: rest) outcome := by
  intro level complaints during opening
  refine ⟨?_, ?_, ?_⟩
  · intro rights
    rw [run_of_treatments accepted steady (escalates.grants rights)]
    refine ⟨_, ?_, rfl⟩
    intro unasked
    rw [privilegeRecords_of_unasked unasked]
    rfl
  · intro path extent answered
    obtain ⟨content, opens⟩ := opened_of_answered level kernel path answered
    obtain ⟨records, written⟩ :=
      complaints_of_answered steady.toRestores plain verbose level kernel path answered
    obtain ⟨length, fallback, backing⟩ :=
      beginning_remarksOn (facilities.found level (kernel.whileOpen path) path) extent
    simp only [complaints, written, Line.beginning_append]
    rw [Line.beginning_records timed (c := 'L') (by decide) (by decide),
      Line.beginning_records timed Line.head?_fallback (by decide),
      Line.beginning_records timed (c := 'B') (by decide) (by decide)]
    simp only [List.nil_append]
    refine ⟨length, fallback, ?_, ?_⟩
    · intro block
      rw [backing, block]
    · intro regular
      refine ⟨facilities.found level (kernel.whileOpen path) path, ?_, ?_⟩
      · intro own result
        have same := (Kernel.shows_of_opened opens).2.2.sameFiles
        simp only [opening, during]
        rw [Facilities.found, own, (Backing.run_lookup level _ path).1,
          (Action.openPath_of_ok level opens).2, Action.openPath_value,
          ← Backing.answer_eq_iff same, eq_comm]
      · rw [backing, regular]
  · intro device front outcome searched decided rest
    rw [← MountTable.search_eq_iff] at searched ⊢
    rw [MountTable.search_lines_append front rest (searched ▸ decided), searched]

/-- Two files, and a mount table with a line that is too short, a line that qualifies for the device
of the first file, and a line that is no text. The first file gets its device, and on the second one
the search goes on to the last line. -/
theorem remarks_of_run_beside_broken_line :
    let line := Utf8.encode "36 35 +08:01:x / / rw - ext4 /dev/dm-0 rw"
    let table := Utf8.encode "36 35 8:1 /\n" ++ line ++ [0x0A, 0xFF]
    let kernel := Kernel.ofFiles
      [([0x66], { size := 9, device := ⟨8, 1⟩ }), ([0x67], { device := ⟨9, 0⟩ }),
        (MountTable.path, { content := table })]
    let list : List Bytes := [[0x2D, 0x76], [0x66], [0x67]]
    let asked : Arguments := { paths := [[0x66], [0x67]], verbosity := 1 }
    Backing.Steady Facilities.standard.lookup ∧ Escalates Facilities.standard.escalate ∧
      Record.Timed Facilities.standard.line ∧ Facilities.standard.read list = .ok asked ∧
      asked.raw = false ∧ 0 < asked.verbosity ∧
      beginning "Backing block device:" (run .standard kernel list).complaints =
        ["Backing block device: /dev/dm-0",
          "Backing block device: (unable to resolve: stream did not contain valid UTF-8)"] := by
  intro line table kernel list asked
  have steady : Backing.Steady Facilities.standard.lookup := Backing.steady_lookup
  have escalates : Escalates Facilities.standard.escalate := escalates_escalate
  have timed : Record.Timed Facilities.standard.line := Record.timed_line
  have accepted : Facilities.standard.read list = .ok asked := by decide
  obtain ⟨wholeRun, onPaths, -⟩ :=
    remarks_of_verbose_run steady escalates timed kernel accepted rfl (by decide)
  obtain ⟨granted, unasked, whole⟩ := wholeRun nofun
  -- The device of the first file is on the second line.
  have reached : Text.Reaches 0x0A table [Utf8.encode "36 35 8:1 /"] line :=
    Text.reaches_iff.mpr ⟨[[0xFF]], by decide⟩
  have short : MountTable.Passed kernel.hasStatus ⟨8, 1⟩ (Utf8.encode "36 35 8:1 /") := by
    refine ⟨⟨_, rfl⟩, ?_⟩
    intro found qualifies
    rw [← MountTable.answer?_eq_some_iff] at qualifies
    exact absurd (qualifies.symm.trans (show _ = none by decide)) nofun
  have qualifies : MountTable.Qualifies kernel.hasStatus ⟨8, 1⟩ line "/dev/dm-0" :=
    .intro (Text.fields_eq_iff.mp rfl) (by decide) rfl
      (MountEntry.deviceNumber?_eq_some_iff.mp (by decide))
      (MountEntry.source?_eq_some_iff.mp (by decide)) (.absolute "dev/dm-0")
  obtain ⟨first, firstOnly, firstLine⟩ := (onPaths [0x66] ⟨.other, 9, false⟩ (by rfl)).2.2.2 rfl
  obtain ⟨second, secondOnly, secondLine⟩ := (onPaths [0x67] ⟨.other, 0, false⟩ (by rfl)).2.2.2 rfl
  have firstFound := (firstOnly rfl (.ok "/dev/dm-0")).mp
    (.mounted rfl (Backing.registered?_eq_none_iff.mp (by decide))
      (.searched rfl (by rfl) (.found reached (by simpa using short) qualifies)))
  have secondBroken := (secondOnly rfl (.error .invalidText)).mp
    (.broken rfl (Backing.registered?_eq_none_iff.mp (by decide))
      (.searched rfl (by rfl) (MountTable.search_eq_iff.mp (by decide))))
  refine ⟨steady, escalates, timed, accepted, rfl, by decide, ?_⟩
  rw [whole, unasked rfl, List.flatMap_cons, List.flatMap_cons, List.flatMap_nil, List.append_nil,
    List.map_nil, List.nil_append, Line.beginning_append, firstLine, secondLine, ← firstFound,
    ← secondBroken]
  rfl

end Command

end BlockExtent
