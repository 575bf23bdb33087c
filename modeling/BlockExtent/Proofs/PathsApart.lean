import BlockExtent.Proofs.FlagWords
import BlockExtent.Proofs.Treatment
import Mathlib.Data.List.Basic

/-!
# Paths are treated apart

A run over two lists of paths writes what a run over the first one writes and then what a run over
the second one writes, each as if it were the only run, and it fails if one of them fails. So a
run over a list comes apart into runs over single paths, and each of these ends in one of two ways:
with a line on the path, or with a failure that is reported.

## Implementation notes

A path may be so named that the line of its failure reads like another line of the error output.
Which lines are failures is therefore told by the attempt behind them and not by their text.
-/

namespace BlockExtent

namespace Report

/-- What is left after a run and another one. -/
def followedBy (first second : Report) : Report where
  status := max first.status second.status
  output := first.output ++ second.output
  complaints := first.complaints ++ second.complaints

end Report

namespace Command

/-- The lines on the standard output that are about a path. -/
inductive PathLine (path : Bytes) : String → Prop
  | plain (kind : DeviceKind) (length : UInt64) : PathLine path (Line.plain path kind length)
  | raw (kind length : Int) : PathLine path (Line.raw path kind length)

/-- The lines on the standard error output that come with failure and success alike: lines that
show records of the log, and the remarks of a verbose command. -/
inductive Diagnostic (line : Record → String) : String → Prop
  | record (record : Record) : Diagnostic line (line record)
  | length (n : UInt64) : Diagnostic line (Line.length n)
  | fallback : Diagnostic line Line.fallback
  | backing (found : Except SystemError String) : Diagnostic line (Line.backing found)

/-- The report on a single path after an attempt at it that writes these lines to the error output:
with one line on the path and no failure, or with no line and one failure. -/
inductive PathReport (path : Bytes) (attempt : Traced (Except SystemError Unit))
    (complaints : List String) : Report → Prop
  | printed {line : String} (succeeds : attempt.value = .ok ()) (prints : attempt.output = [line])
      (about : PathLine path line) : PathReport path attempt complaints ⟨0, [line], complaints⟩
  | failed {e : SystemError} (fails : attempt.value = .error e) (silent : attempt.output = []) :
      PathReport path attempt complaints ⟨1, [], complaints ++ [Line.failure path e]⟩

section Attempt

variable (facilities : Facilities) (arguments : Arguments) (kernel : Kernel) (path : Bytes)

theorem pathLine_of_lineOf {opening : Opened} {line : String}
    (shown : lineOf arguments path opening = .ok line) : PathLine path line := by
  cases raw : arguments.raw with
  | true =>
      simp only [lineOf, raw, if_true, Except.ok.injEq] at shown
      subst shown
      exact .raw _ _
  | false =>
      simp only [lineOf, raw, Bool.false_eq_true, if_false] at shown
      cases inspected : Inspection.extentResult arguments.options opening.status
          opening.sizeReply with
      | error e =>
          rw [inspected] at shown
          cases shown
      | ok extent =>
          rw [inspected] at shown
          cases shown
          exact .plain _ _

theorem pathLine_of_outcome {line : String} (shown : outcome arguments kernel path = .ok line) :
    PathLine path line := by
  rw [outcome] at shown
  cases opens : kernel.opened path with
  | error e =>
      rw [opens] at shown
      cases shown
  | ok opening =>
      rw [opens] at shown
      exact pathLine_of_lineOf arguments path shown

theorem diagnostic_of_remarksOn (line : Record → String) (found : Except SystemError String)
    (extent : Extent) : ∀ said ∈ remarksOn found extent, Diagnostic line said := by
  intro said among
  rw [remarksOn, List.mem_cons] at among
  obtain rfl | rest := among
  · exact .length extent.length
  · cases kind : extent.kind with
    | block =>
        cases usedFallback : extent.usedFallback with
        | false => simp [kind, usedFallback] at rest
        | true =>
            have only : said = Line.fallback := by simpa [kind, usedFallback] using rest
            subst only
            exact .fallback
    | other =>
        have only : said = Line.backing found := by simpa [kind] using rest
        subst only
        exact .backing found

theorem diagnostic_of_remarksOf (line : Record → String) (found : Except SystemError String)
    (opening : Opened) : ∀ said ∈ remarksOf arguments found opening, Diagnostic line said := by
  intro said among
  by_cases quiet : arguments.raw ∨ arguments.verbosity = 0
  · simp [remarksOf, if_pos quiet] at among
  · rw [remarksOf, if_neg quiet] at among
    cases inspected : Inspection.extentResult arguments.options opening.status
        opening.sizeReply with
    | error e => simp [inspected] at among
    | ok extent =>
        rw [inspected] at among
        exact diagnostic_of_remarksOn line found extent said among

/-- Until a failure is reported nothing but diagnostics goes to the error output. -/
theorem diagnostic_of_attempt (restores : Backing.Restores facilities.lookup)
    (threshold : Threshold) :
    ∀ said ∈ ((attempt facilities arguments path).run threshold kernel).complaints facilities.line,
      Diagnostic facilities.line said := by
  intro said among
  rw [Traced.complaints_eq, (run_attempt restores threshold kernel path arguments).2.1,
    attempted] at among
  cases opens : kernel.opened path with
  | error e =>
      rw [opens] at among
      cases among
  | ok opening =>
      rw [opens] at among
      simp only [List.filterMap_append, Threshold.logged_complaints, List.mem_append] at among
      obtain (logged | printed) | remarked := among
      · obtain ⟨record, -, rfl⟩ := List.mem_map.mp logged
        exact .record record
      · simp [List.filterMap_map, Function.comp_def] at printed
      · apply diagnostic_of_remarksOf arguments facilities.line
          (facilities.found threshold (kernel.whileOpen path) path) opening
        simpa [List.filterMap_map, Function.comp_def] using remarked

end Attempt

section Report

theorem isOk_eq_true_iff {ε α : Type} (x : Except ε α) :
    x.isOk = true ↔ x.map (fun _ => ()) = .ok () := by
  cases x <;> simp [Except.isOk, Except.toBool, Except.map]

theorem isOk_eq_false_iff {ε α : Type} (x : Except ε α) :
    x.isOk = false ↔ ∃ e, x.map (fun _ => ()) = .error e := by
  cases x <;> simp [Except.isOk, Except.toBool, Except.map]

variable {facilities : Facilities} {arguments : Arguments} (kernel : Kernel)
variable (unprivileged : arguments.escalate = false)

include unprivileged

/-- What the arguments ask for but for their paths decides what is reported on each path. -/
theorem reportOf_withPaths (paths : List Bytes) :
    reportOf facilities { arguments with paths } kernel =
      ⟨if paths.any fun path => !(outcome arguments kernel path).isOk then 1 else 0,
        paths.flatMap fun path => (outcome arguments kernel path).toOption.toList,
        paths.flatMap (complaintsOn facilities arguments kernel)⟩ := by
  have unasked : { arguments with paths }.escalate = false := unprivileged
  rw [reportOf, privilegeRecords_of_unasked unasked]
  rfl

/-- Reports over lists of paths are put together as the lists are. -/
theorem reportOf_append (first second : List Bytes) :
    reportOf facilities { arguments with paths := first ++ second } kernel =
      (reportOf facilities { arguments with paths := first } kernel).followedBy
        (reportOf facilities { arguments with paths := second } kernel) := by
  simp only [reportOf_withPaths kernel unprivileged, Report.followedBy, List.any_append,
    List.flatMap_append]
  cases first.any fun path => !(outcome arguments kernel path).isOk <;>
    cases second.any fun path => !(outcome arguments kernel path).isOk <;> rfl

/-- The report on a single path is that of the attempt at it, and a line if that failed. -/
theorem pathReport_of_single (restores : Backing.Restores facilities.lookup) (path : Bytes) :
    let attempt := (attempt facilities arguments path).run (threshold arguments.verbosity) kernel
    PathReport path attempt (attempt.complaints facilities.line)
      (reportOf facilities { arguments with paths := [path] } kernel) := by
  intro attempt
  obtain ⟨value, writes, -⟩ :=
    run_attempt restores (threshold arguments.verbosity) kernel path arguments
  have output := attempt.output_eq
  have complaints := attempt.complaints_eq facilities.line
  rw [writes, attempted_output] at output
  rw [writes] at complaints
  simp only [reportOf_withPaths kernel unprivileged, List.any_cons, List.any_nil, Bool.or_false,
    List.flatMap_cons, List.flatMap_nil, List.append_nil, complaintsOn, treated,
    List.filterMap_append, ← complaints]
  cases ended : outcome arguments kernel path with
  | ok line =>
      rw [ended] at value output
      simpa [Except.isOk, Except.toBool, Except.toOption] using
        PathReport.printed value output (pathLine_of_outcome arguments kernel path ended)
  | error e =>
      rw [ended] at value output
      exact .failed value output

end Report

section Run

variable {facilities : Facilities} (reads : facilities.read = Arguments.read)
variable (steady : Backing.Steady facilities.lookup)
variable (kernel : Kernel) {words : List Word} {asked : Arguments}

include reads steady

/-- A run with words that are accepted with some paths is a run with what they ask for, on any
other paths as well. -/
theorem run_spelled {given paths : List Bytes}
    (accepted : facilities.read (Arguments.spelled words given) = .ok asked)
    (unprivileged : asked.escalate = false) (named : [] ∉ paths) (some_path : paths ≠ []) :
    run facilities kernel (Arguments.spelled words paths) =
      reportOf facilities { asked with paths } kernel := by
  rw [reads] at accepted
  obtain ⟨once, -, -, rfl⟩ := Arguments.read_words_iff.mp accepted
  have read := Arguments.read_words_iff.mpr ⟨once, named, some_path, rfl⟩
  rw [← reads] at read
  exact run_of_unasked read steady unprivileged kernel

/-- Under the same flags, a run over the paths of two lists reports what the run over the first one
reports and then what the run over the second one reports, on the same kernel; so a run reports
what the runs over its single paths report, in their order. On each path that is the report of an
attempt which succeeds with one line, or fails with none and gets the line of its failure, and the
run as a whole fails where some attempt does. -/
theorem run_over_paths {first second : List Bytes} {others : Arguments}
    (acceptedFirst : facilities.read (Arguments.spelled words first) = .ok asked)
    (acceptedSecond : facilities.read (Arguments.spelled words second) = .ok others)
    (unprivileged : asked.escalate = false) :
    let report := fun paths => run facilities kernel (Arguments.spelled words paths)
    let attemptAt := fun path =>
      (attempt facilities asked path).run (threshold asked.verbosity) kernel
    let complaintsAt := fun path => (attemptAt path).complaints facilities.line
    report (first ++ second) = (report first).followedBy (report second) ∧
    (report first).output = first.flatMap (fun path => (report [path]).output) ∧
    (report first).complaints = first.flatMap (fun path => (report [path]).complaints) ∧
    (∀ path ∈ first, PathReport path (attemptAt path) (complaintsAt path) (report [path]) ∧
      ∀ said ∈ complaintsAt path, Diagnostic facilities.line said) ∧
    ((report first).status = 1 ↔ ∃ path ∈ first, ∃ e, (attemptAt path).value = .error e) ∧
    ((report first).status = 0 ↔ ∀ path ∈ first, (attemptAt path).value = .ok ()) := by
  intro report attemptAt complaintsAt
  obtain ⟨-, named, some_path, -⟩ := Arguments.read_words_iff.mp (reads ▸ acceptedFirst)
  obtain ⟨-, namedSecond, some_second, -⟩ :=
    Arguments.read_words_iff.mp (reads ▸ acceptedSecond)
  have reported {paths : List Bytes} : [] ∉ paths → paths ≠ [] →
      report paths = reportOf facilities { asked with paths } kernel :=
    run_spelled reads steady kernel acceptedFirst unprivileged
  have single {path : Bytes} (among : path ∈ first) :
      report [path] = reportOf facilities { asked with paths := [path] } kernel := by
    apply reported _ (List.cons_ne_nil path [])
    rintro empty
    rw [List.mem_singleton.mp empty] at named
    exact named among
  have whole := reported named some_path
  have value (path : Bytes) :
      (attemptAt path).value = (outcome asked kernel path).map fun _ => () :=
    (run_attempt steady.toRestores (threshold asked.verbosity) kernel path asked).1
  refine ⟨?_, ?_, ?_, ?_, ?_, ?_⟩
  · have both : [] ∉ first ++ second := by simp [named, namedSecond]
    rw [reported both (by simp [some_path]), whole, reported namedSecond some_second,
      reportOf_append kernel unprivileged]
  · rw [whole, reportOf_withPaths kernel unprivileged]
    apply List.flatMap_congr
    intro path among
    simp [single among, reportOf_withPaths kernel unprivileged]
  · rw [whole, reportOf_withPaths kernel unprivileged]
    apply List.flatMap_congr
    intro path among
    simp [single among, reportOf_withPaths kernel unprivileged]
  · intro path among
    constructor
    · rw [single among]
      exact pathReport_of_single kernel unprivileged steady.toRestores path
    · exact diagnostic_of_attempt facilities asked kernel path steady.toRestores
        (threshold asked.verbosity)
  · rw [whole, reportOf_withPaths kernel unprivileged]
    simp [value, isOk_eq_false_iff]
  · rw [whole, reportOf_withPaths kernel unprivileged]
    simp [value, isOk_eq_true_iff]

end Run

/-- A path that names nothing comes before a disk at which an attempt is interrupted: its failure
is reported, and the disk gets its line all the same. -/
theorem run_over_missing_path_and_disk :
    let kernel := Kernel.naming [0x2F, 0x64]
      { mode := 0o060660, sizeReply := .answered 0 (some 512) (by decide), interruptions := 1 }
    let words : List Word := [.letters 0, .single .requireBlockDevice]
    let read := Facilities.standard.read
    read = Arguments.read ∧ Backing.Steady Facilities.standard.lookup ∧
      read (Arguments.spelled words [[0x6D]]) = .ok (Arguments.ofWords words [[0x6D]]) ∧
      read (Arguments.spelled words [[0x2F, 0x64]]) =
        .ok (Arguments.ofWords words [[0x2F, 0x64]]) ∧
      (Arguments.ofWords words [[0x6D]]).escalate = false ∧
      run .standard kernel (Arguments.spelled words [[0x6D], [0x2F, 0x64]]) =
        ⟨1, ["/d: block device, 512 bytes"],
          ["m: No such file or directory (os error 2)", "Length: 512 (0x200)"]⟩ := by
  intro kernel words read
  have steady : Backing.Steady Facilities.standard.lookup := Backing.steady_lookup
  have first : read (Arguments.spelled words [[0x6D]]) =
      .ok (Arguments.ofWords words [[0x6D]]) := by decide
  have second : read (Arguments.spelled words [[0x2F, 0x64]]) =
      .ok (Arguments.ofWords words [[0x2F, 0x64]]) := by decide
  have both := (run_over_paths rfl steady kernel first second rfl).1
  exact ⟨rfl, steady, first, second, rfl, both.trans (by decide)⟩

end Command

end BlockExtent
