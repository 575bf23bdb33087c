import BlockExtent.Proofs.EntryPointRefinement
import BlockExtent.Proofs.PathsApart

/-!
# Raw codes

With raw codes the command prints, for each path that opens, what the two entry points return on
the descriptor of the open object. It asks both questions of every object and is content with any
answer, so only a path that does not open makes it fail. The options of an inspection are not
looked at and make no difference.

## Implementation notes

The codes printed come from the inspections that log and not from the entry points. The two agree
because both are functions of the same reply.
-/

namespace BlockExtent.Command

variable {asked : Arguments} (raw : asked.raw = true)

section Options

variable (facilities : Facilities) (options : Options)
variable (kernel : Kernel) (path : Bytes) (opening : Opened)

include raw

theorem lineOf_withOptions :
    lineOf (asked.withOptions options) path opening = lineOf asked path opening := by
  simp [lineOf, Arguments.withOptions, raw]

theorem recordsOf_withOptions :
    recordsOf (asked.withOptions options) opening = recordsOf asked opening := by
  simp [recordsOf, Arguments.withOptions, raw]

theorem remarksOf_withOptions (found : Except SystemError String) :
    remarksOf (asked.withOptions options) found opening = remarksOf asked found opening := by
  simp [remarksOf, Arguments.withOptions, raw]

theorem outcome_withOptions :
    outcome (asked.withOptions options) kernel path = outcome asked kernel path := by
  simp only [outcome, lineOf_withOptions raw]

theorem complaintsOn_withOptions :
    complaintsOn facilities (asked.withOptions options) kernel path =
      complaintsOn facilities asked kernel path := by
  simp only [complaintsOn, treated, attempted, outcome_withOptions raw, lineOf_withOptions raw,
    recordsOf_withOptions raw, remarksOf_withOptions raw]
  rfl

/-- The options of the arguments have no part in a report of raw codes. -/
theorem reportOf_withOptions :
    reportOf facilities (asked.withOptions options) kernel = reportOf facilities asked kernel := by
  have complaints : complaintsOn facilities (asked.withOptions options) kernel =
      complaintsOn facilities asked kernel :=
    funext (complaintsOn_withOptions raw facilities options kernel)
  simp only [reportOf, outcome_withOptions raw, complaints]
  rfl

end Options

section Treatment

variable {facilities : Facilities} (restores : Backing.Restores facilities.lookup)
variable (threshold : Threshold) (kernel : Kernel) (path : Bytes)

include restores in
/-- A path that does not open gets the line of that failure, with raw codes or without. -/
theorem treat_of_unopened (arguments : Arguments) {e : SystemError}
    (failed : kernel.opened path = .error e) :
    let run := (treat facilities arguments path).run threshold kernel
    run.output = [] ∧ run.complaints facilities.line = [Line.failure path e] := by
  have ends : outcome arguments kernel path = .error e := by rw [outcome, failed]
  have writes := (run_treat restores threshold kernel path arguments).2.1
  constructor
  · rw [treat_output arguments threshold kernel path restores, ends]
    rfl
  · rw [Traced.complaints_eq, writes, treated, attempted, failed, ends]
    rfl

include raw

/-- A path that opens has its line, whatever is found behind it. -/
theorem outcome_of_raw :
    outcome asked kernel path = (kernel.opened path).map fun opening =>
      Line.raw path (EntryPoint.classifyCode (Inspection.kindResult opening.status))
        (EntryPoint.lengthCode (Inspection.lengthResult opening.sizeReply)) := by
  rw [outcome]
  cases kernel.opened path with
  | error e => rfl
  | ok opening => simp [lineOf, raw, Except.map]

theorem outcome_isOk_of_raw :
    (outcome asked kernel path).isOk =
      ((Action.openPath path).run threshold kernel).value.isOk := by
  rw [outcome_of_raw raw, Action.openPath_value]
  cases kernel.opened path <;> rfl

/-- Both requests are made on a path that opens, and then it is closed. -/
theorem treat_calls_of_raw :
    let opening := (Action.openPath path).run threshold kernel
    ((treat facilities asked path).run threshold kernel).calls =
      opening.calls ++
        match opening.value with
        | .error _ => []
        | .ok n => [.status n, .sizeRequest n Call.sizeRequestCode, .closing n] := by
  simp only [treat_eq_attempt, attempt, raw, if_true, printCodes, Action.calls_bind,
    Action.value_bind]
  cases ((Action.openPath path).run threshold kernel).value with
  | error e => simp
  | ok n =>
      simp only [Action.calls_bind, Action.value_bind, Inspection.classify_calls,
        Inspection.deviceLength_calls]
      simp

include restores in
/-- A path gets the line of its codes if it opens, and none if it does not. -/
theorem treat_output_of_raw :
    ((treat facilities asked path).run threshold kernel).output =
      match kernel.opened path with
      | .error _ => []
      | .ok opening =>
          [Line.raw path (EntryPoint.classifyCode (Inspection.kindResult opening.status))
            (EntryPoint.lengthCode (Inspection.lengthResult opening.sizeReply))] := by
  rw [treat_output asked threshold kernel path restores, outcome_of_raw raw]
  cases kernel.opened path <;> rfl

include restores in
/-- The line of a path that opens shows what the entry points return on its descriptor. -/
theorem treat_of_raw_of_ok {opening : Opened} (opens : kernel.opened path = .ok opening)
    (errno errno' : Errno) :
    ((treat facilities asked path).run threshold kernel).output =
      [Line.raw path
        ((EntryPoint.isBlockDevice opening.descriptor errno).run threshold
          (kernel.whileOpen path)).value.code
        ((EntryPoint.blockDeviceLength opening.descriptor errno').run threshold
          (kernel.whileOpen path)).value.code] := by
  obtain ⟨-, -, shows⟩ := Kernel.shows_of_opened opens
  rw [treat_output_of_raw raw restores, opens, EntryPoint.isBlockDevice_code,
    EntryPoint.blockDeviceLength_code, shows.status, shows.sizeReply]

end Treatment

/-- Let a list of arguments with raw codes be accepted, and likewise those that ask for other
options besides. The options make no difference to the report. What it prints is what every path
gets by itself, and the command fails exactly where a path cannot be opened. Each path is treated on
the kernel that the paths before it leave, which makes no difference to what it gets. On whatever
kernel that is, a path that does not open gets the line of that failure and no other; one that opens
gets a line of its own, with what the entry points return on its descriptor there. Its kind and its
length are both asked for in any case. -/
theorem run_prints_codes {facilities : Facilities} (steady : Backing.Steady facilities.lookup)
    (escalates : Escalates facilities.escalate) (kernel : Kernel)
    {list : Options → List Bytes} {asked : Arguments}
    (accepted : ∀ options, facilities.read (list options) = .ok (asked.withOptions options))
    (raw : asked.raw = true) (rights : asked.escalate = true → kernel.effectiveUser = 0) :
    let level := threshold asked.verbosity
    let report := fun options => run facilities kernel (list options)
    let opening := fun here path => (Action.openPath path).run level here
    let treatment := fun here path => (treat facilities asked path).run level here
    (∀ options, report options = report .standard) ∧
    (report .standard).output = asked.paths.flatMap (fun path => (treatment kernel path).output) ∧
    ((report .standard).status = 1 ↔
      ∃ path ∈ asked.paths, (opening kernel path).value.isOk = false) ∧
    ((report .standard).status = 0 ↔
      ∀ path ∈ asked.paths, (opening kernel path).value.isOk = true) ∧
    (∀ before path,
      let first := (treatAll facilities asked before).run level kernel
      ((treatAll facilities asked (before ++ [path])).run level kernel).calls =
        first.calls ++ (treatment first.kernel path).calls ∧
      (treatment first.kernel path).output = (treatment kernel path).output) ∧
    (∀ here path e, (opening here path).value = .error e →
      (treatment here path).output = [] ∧
      (treatment here path).complaints facilities.line = [Utf8.lossy path ++ ": " ++ e.text] ∧
      (treatment here path).calls = (opening here path).calls) ∧
    ∀ here path n, (opening here path).value = .ok n → ∀ errno errno',
      let kind := (EntryPoint.isBlockDevice n errno).run level (opening here path).kernel
      let length := (EntryPoint.blockDeviceLength n errno').run level (opening here path).kernel
      (treatment here path).output =
        [Utf8.lossy path ++ "\t" ++ Numeral.integer kind.value.code ++ "\t" ++
          Numeral.integer length.value.code] ∧
      (treatment here path).calls =
        (opening here path).calls ++
          [.status n, .sizeRequest n Call.sizeRequestCode, .closing n] := by
  intro level report opening treatment
  have restores := steady.toRestores
  have reports (options : Options) : report options = reportOf facilities asked kernel := by
    calc
      report options = reportOf facilities (asked.withOptions options) kernel :=
        run_of_read (accepted options) steady (escalates.grants rights)
      _ = reportOf facilities asked kernel := reportOf_withOptions raw facilities options kernel
  have opens (path : Bytes) :
      (outcome asked kernel path).isOk = (opening kernel path).value.isOk :=
    outcome_isOk_of_raw raw level kernel path
  refine ⟨?_, ?_, ?_, ?_, ?_, ?_, ?_⟩
  · intro options
    rw [reports, reports]
  · rw [reports, reportOf]
    apply List.flatMap_congr
    intro path _
    rw [treat_output asked level kernel path restores]
  · simp only [reports, reportOf_status_one_iff, opens]
  · simp only [reports, reportOf_status_zero_iff, opens]
  · intro before path first
    have same := treatAll_sameButInterruptions restores level kernel asked before
    constructor
    · exact treatAll_append_calls level kernel path asked before
    · rw [treat_output asked level first.kernel path restores,
        treat_output asked level kernel path restores, outcome_congr same]
  · intro here path e failed
    have unopened := (Action.openPath_error_iff level).mp failed
    obtain ⟨nothing, line⟩ := treat_of_unopened restores level here path asked unopened
    refine ⟨nothing, line, ?_⟩
    rw [treat_calls_of_raw raw, failed]
    simp [opening]
  · intro here path n answered errno errno' kind length
    obtain ⟨opened, shown, rfl⟩ := (Action.openPath_ok_iff level).mp answered
    have left : (opening here path).kernel = here.whileOpen path :=
      (Action.openPath_of_ok level shown).2
    constructor
    · rw [treat_of_raw_of_ok raw restores level here path shown errno errno', ← left]
      rfl
    · rw [treat_calls_of_raw raw, answered]

/-- Neither request on the first file is answered, and the second one is a disk whose length is too
large for an entry point. The command does not fail on them, and not even a demand for block devices
makes it fail; a path that names nothing would. -/
theorem run_prints_codes_of_unanswered_file :
    let disk : FileObject :=
      { mode := 0o060660, sizeReply := .answered 0 (some 0x8000000000000000) (by decide) }
    let kernel := Kernel.ofFiles [([0x66], { statusFailure := some ⟨5⟩ }), ([0x64], disk)]
    let list := fun options =>
      Arguments.spelled ([.single .raw] ++ Arguments.optionWords options) [[0x66], [0x64]]
    let asked : Arguments := { paths := [[0x66], [0x64]], raw := true }
    Backing.Steady Facilities.standard.lookup ∧ Escalates Facilities.standard.escalate ∧
      (∀ options, Facilities.standard.read (list options) = .ok (asked.withOptions options)) ∧
      asked.raw = true ∧ (asked.escalate = true → kernel.effectiveUser = 0) ∧
      run .standard kernel (list ⟨false, true⟩) = ⟨0, ["f\t-1\t-1", "d\t1\t-1"], []⟩ ∧
      ((treat .standard asked [0x66]).run (threshold asked.verbosity) kernel).calls =
        [.opening [0x66] 0o2000000, .status 3, .sizeRequest 3 0x80081272, .closing 3] ∧
      ((treat .standard asked [0x6D]).run (threshold asked.verbosity) kernel).complaints
        Record.line = ["m: No such file or directory (os error 2)"] := by
  intro disk kernel list asked
  have steady : Backing.Steady Facilities.standard.lookup := Backing.steady_lookup
  have escalates : Escalates Facilities.standard.escalate := escalates_escalate
  have accepted (options : Options) :
      Facilities.standard.read (list options) = .ok (asked.withOptions options) :=
    Arguments.read_optionWords (by decide) rfl options
  have rights : asked.escalate = true → kernel.effectiveUser = 0 := nofun
  obtain ⟨same, -, -, -, -, unopened, opened⟩ :=
    run_prints_codes steady escalates kernel accepted rfl rights
  refine ⟨steady, escalates, accepted, rfl, rights, (same ⟨false, true⟩).trans (by decide), ?_, ?_⟩
  · exact (opened kernel [0x66] 3 rfl ⟨0⟩ ⟨0⟩).2.trans (by decide)
  · exact (unopened kernel [0x6D] (.os .noSuchFile) rfl).2.1

end BlockExtent.Command
