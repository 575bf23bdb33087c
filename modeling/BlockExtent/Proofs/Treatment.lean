import BlockExtent.Command.Run
import BlockExtent.Proofs.Facilities

/-!
# What treating a path comes to

The command opens a path, asks about its object, prints a line with remarks on it, and closes the
path; where one of these fails, a line about the failure follows instead. Here stands what it
writes as a function of the kernel that it starts on. As it leaves that kernel but for
interruptions as it was, every path of a list is treated as if it were the first one.

## Implementation notes

What is said here of one path needs a search for the device of a file that leaves no trace. That
the paths of a list are treated apart needs one that is steady besides, for each search is made on
the kernel that the paths before it leave.
-/

namespace BlockExtent

/-- What the search for the device of a file finds. -/
def Facilities.found (facilities : Facilities) (threshold : Threshold) (kernel : Kernel)
    (path : Bytes) : Except SystemError String :=
  ((facilities.lookup path).run threshold kernel).value

namespace Command

open Inspection

/-- Treat one path as the arguments ask, and say why it failed. -/
def attempt (facilities : Facilities) (arguments : Arguments) (path : Bytes) :
    Action (Except SystemError Unit) :=
  if arguments.raw then printCodes path
  else inspectPath facilities path arguments.options (0 < arguments.verbosity)

/-- The line of a failure is all that the command adds to an attempt. -/
theorem treat_eq_attempt (facilities : Facilities) (arguments : Arguments) (path : Bytes) :
    treat facilities arguments path = do
      match ← attempt facilities arguments path with
      | .ok () => return false
      | .error e =>
          Action.complain (Line.failure path e)
          return true := by
  cases raw : arguments.raw <;> simp only [treat, attempt, raw] <;> rfl

/-- The line on an opened path, or why there is none. -/
def lineOf (arguments : Arguments) (path : Bytes) (opening : Opened) :
    Except SystemError String :=
  if arguments.raw then
    .ok (Line.raw path (EntryPoint.classifyCode (kindResult opening.status))
      (EntryPoint.lengthCode (lengthResult opening.sizeReply)))
  else
    match extentResult arguments.options opening.status opening.sizeReply with
    | .error e => .error e.toSystemError
    | .ok extent => .ok (Line.plain path extent.kind extent.length)

/-- The line of the standard output that a path gets, or the failure that it meets. -/
def outcome (arguments : Arguments) (kernel : Kernel) (path : Bytes) :
    Except SystemError String :=
  match kernel.opened path with
  | .error e => .error e
  | .ok opening => lineOf arguments path opening

/-- The records of what is asked about an opened path. -/
def recordsOf (arguments : Arguments) (opening : Opened) : List Record :=
  if arguments.raw then
    kindRecords opening.descriptor opening.status ++
      lengthRecords opening.descriptor opening.sizeReply
  else
    extentRecords opening.descriptor arguments.options opening.status opening.sizeReply

/-- The remarks on an extent, with what is found where the device of the file is searched for. -/
def remarksOn (found : Except SystemError String) (extent : Extent) : List String :=
  Line.length extent.length ::
    match extent.kind with
    | .block => if extent.usedFallback then [Line.fallback] else []
    | .other => [Line.backing found]

/-- The remarks of the command on an opened path. -/
def remarksOf (arguments : Arguments) (found : Except SystemError String) (opening : Opened) :
    List String :=
  if arguments.raw ∨ arguments.verbosity = 0 then []
  else
    match extentResult arguments.options opening.status opening.sizeReply with
    | .error _ => []
    | .ok extent => remarksOn found extent

/-- What an attempt writes: the records, the line of the path, and the remarks on it. -/
def attempted (facilities : Facilities) (arguments : Arguments) (threshold : Threshold)
    (kernel : Kernel) (path : Bytes) : List Event :=
  match kernel.opened path with
  | .error _ => []
  | .ok opening =>
      threshold.logged (recordsOf arguments opening) ++
        (lineOf arguments path opening).toOption.toList.map .output ++
        (remarksOf arguments (facilities.found threshold (kernel.whileOpen path) path)
          opening).map .complaint

/-- The kernels that an attempt may leave: interruptions at the path have been waited for, and that
is all, or a verbose command has searched for a device while the path was open. -/
inductive Leaves (facilities : Facilities) (arguments : Arguments) (threshold : Threshold)
    (kernel : Kernel) (path : Bytes) : Kernel → Prop
  | waited : Leaves facilities arguments threshold kernel path (kernel.waitedFor path)
  | searched {opening : Opened} (verbose : 0 < arguments.verbosity)
      (opens : kernel.opened path = .ok opening) :
      Leaves facilities arguments threshold kernel path
        (((facilities.lookup path).run threshold (kernel.whileOpen path)).kernel.close
          opening.descriptor).2

section Leaves

variable {facilities : Facilities} {arguments : Arguments} {threshold : Threshold}
variable {kernel after : Kernel} {path : Bytes}
variable (leaves : Leaves facilities arguments threshold kernel path after)

include leaves

theorem Leaves.sameButInterruptions (restores : Backing.Restores facilities.lookup) :
    (kernel.waitedFor path).SameButInterruptions after := by
  cases leaves with
  | waited => exact .refl _
  | @searched opening verbose opens =>
      obtain ⟨noNull, -, shows⟩ := Kernel.shows_of_opened opens
      have restored := restores.restored threshold (kernel.whileOpen path) path
      have closed := (restored.close opening.descriptor).2
      rwa [shows.closed, ← Kernel.waitedFor_of_noNull noNull] at closed

end Leaves

section Run

variable {facilities : Facilities} (restores : Backing.Restores facilities.lookup)
variable (threshold : Threshold) (kernel : Kernel) (path : Bytes)

include restores

theorem run_present (extent : Extent) (verbose : Bool) :
    let run := (present facilities path extent verbose).run threshold kernel
    run.written = .output (Line.plain path extent.kind extent.length) ::
      (if verbose then remarksOn (facilities.found threshold kernel path) extent
        else []).map .complaint ∧
    (run.kernel = kernel ∨
      verbose = true ∧
        run.kernel = ((facilities.lookup path).run threshold kernel).kernel) := by
  cases verbose with
  | false => simp [present]
  | true =>
      simp only [present, remarksOn, if_true, Action.written_bind, Action.kernel_bind,
        Action.run_output, Action.run_complain]
      cases extent.kind with
      | block => cases extent.usedFallback <;> simp [List.filter_cons]
      | other =>
          simp only [Action.written_bind, Action.kernel_bind, restores.silent, Facilities.found]
          simp [List.filter_cons]

/-- What is written about the extent of an open path. -/
def presented (found : Except SystemError String) (path : Bytes) (verbose : Bool) :
    Except InspectError Extent → List Event
  | .error _ => []
  | .ok extent =>
      .output (Line.plain path extent.kind extent.length) ::
        (if verbose then remarksOn found extent else []).map .complaint

theorem run_inspectPath_of_ok (options : Options) (verbose : Bool) {opening : Opened}
    (opens : kernel.opened path = .ok opening) :
    let run := (inspectPath facilities path options verbose).run threshold kernel
    let extent := extentResult options opening.status opening.sizeReply
    let searched := (facilities.lookup path).run threshold (kernel.whileOpen path)
    run.value = (extent.mapError InspectError.toSystemError).map (fun _ => ()) ∧
    run.written =
      threshold.logged
          (extentRecords opening.descriptor options opening.status opening.sizeReply) ++
        presented (facilities.found threshold (kernel.whileOpen path) path) path verbose extent ∧
    (run.kernel = kernel.waitedFor path ∨
      verbose = true ∧ run.kernel = (searched.kernel.close opening.descriptor).2) := by
  obtain ⟨answered, left⟩ := Action.openPath_of_ok threshold opens
  obtain ⟨noNull, -, shows⟩ := Kernel.shows_of_opened opens
  have closed : ((kernel.whileOpen path).close opening.descriptor).2 = kernel.waitedFor path := by
    rw [shows.closed, Kernel.waitedFor_of_noNull noNull]
  have inspected := inspect_value threshold (kernel.whileOpen path) opening.descriptor options
  have logged := inspect_written opening.descriptor threshold (kernel.whileOpen path) options
  rw [shows.status, shows.sizeReply] at inspected logged
  simp only [inspectPath, Handle.inspectWith, Handle.withDescriptor, Action.value_bind,
    Action.written_bind, Action.kernel_bind, Action.openPath_written, answered, left, inspected,
    logged, inspect_kernel]
  cases extentResult options opening.status opening.sizeReply with
  | error e => exact ⟨rfl, by simp [presented], .inl closed⟩
  | ok extent =>
      obtain ⟨printed, after⟩ :=
        run_present restores threshold (kernel.whileOpen path) path extent verbose
      simp only [Action.value_bind, Action.written_bind, Action.kernel_bind, printed]
      refine ⟨rfl, by simp [presented], ?_⟩
      obtain same | ⟨remarked, searched⟩ := after
      · simp [same, closed]
      · exact .inr ⟨remarked, by simp [searched]⟩

omit restores in
theorem run_printCodes_of_ok {opening : Opened} (opens : kernel.opened path = .ok opening) :
    let run := (printCodes path).run threshold kernel
    run.value = .ok () ∧
    run.written =
      threshold.logged
          (kindRecords opening.descriptor opening.status ++
            lengthRecords opening.descriptor opening.sizeReply) ++
        [.output (Line.raw path (EntryPoint.classifyCode (kindResult opening.status))
          (EntryPoint.lengthCode (lengthResult opening.sizeReply)))] ∧
    run.kernel = kernel.waitedFor path := by
  obtain ⟨answered, left⟩ := Action.openPath_of_ok threshold opens
  obtain ⟨noNull, -, shows⟩ := Kernel.shows_of_opened opens
  have kind := classify_value threshold (kernel.whileOpen path) opening.descriptor
  have length := deviceLength_value threshold (kernel.whileOpen path) opening.descriptor
  have kindLogged := classify_written opening.descriptor threshold (kernel.whileOpen path)
  have lengthLogged := deviceLength_written opening.descriptor threshold (kernel.whileOpen path)
  rw [shows.status] at kind kindLogged
  rw [shows.sizeReply] at length lengthLogged
  simp only [printCodes, Action.value_bind, Action.written_bind, Action.kernel_bind,
    Action.openPath_written, answered, left, kind, length, kindLogged, lengthLogged,
    classify_kernel, deviceLength_kernel]
  simp [shows.closed, Kernel.waitedFor_of_noNull noNull]

variable (arguments : Arguments)

omit restores in
theorem presented_eq (found : Except SystemError String) (opening : Opened)
    (raw : arguments.raw = false) :
    presented found path (0 < arguments.verbosity)
        (extentResult arguments.options opening.status opening.sizeReply) =
      (lineOf arguments path opening).toOption.toList.map .output ++
        (remarksOf arguments found opening).map .complaint := by
  simp only [lineOf, remarksOf, raw, Bool.false_eq_true, if_false, false_or]
  cases extentResult arguments.options opening.status opening.sizeReply with
  | error e => simp [presented, Except.toOption]
  | ok extent =>
      by_cases quiet : arguments.verbosity = 0 <;>
        simp [presented, Except.toOption, quiet, Nat.pos_iff_ne_zero]

/-- An attempt gives the path its line or meets its failure, and leaves nothing behind but what
waiting for interruptions and a search leave. -/
theorem run_attempt :
    let run := (attempt facilities arguments path).run threshold kernel
    run.value = (outcome arguments kernel path).map (fun _ => ()) ∧
    run.written = attempted facilities arguments threshold kernel path ∧
    Leaves facilities arguments threshold kernel path run.kernel := by
  cases opens : kernel.opened path with
  | error e =>
      obtain ⟨answered, left⟩ := Action.openPath_of_error threshold opens
      cases raw : arguments.raw <;>
        simp only [attempt, raw, if_true, Bool.false_eq_true, if_false, printCodes, inspectPath,
          Action.value_bind, Action.written_bind, Action.kernel_bind, Action.openPath_written,
          answered, left] <;>
        exact ⟨by simp [outcome, opens, Except.map], by simp [attempted, opens], .waited⟩
  | ok opening =>
      cases raw : arguments.raw with
      | true =>
          obtain ⟨answered, writes, left⟩ := run_printCodes_of_ok threshold kernel path opens
          simp only [attempt, raw, if_true, answered, writes, left]
          refine ⟨?_, ?_, .waited⟩
          · simp [outcome, opens, lineOf, raw, Except.map]
          · simp [attempted, opens, lineOf, recordsOf, remarksOf, raw, Except.toOption]
      | false =>
          obtain ⟨answered, writes, left⟩ := run_inspectPath_of_ok restores threshold kernel path
            arguments.options (0 < arguments.verbosity) opens
          simp only [attempt, raw, Bool.false_eq_true, if_false]
          refine ⟨?_, ?_, ?_⟩
          · rw [answered]
            simp only [outcome, opens, lineOf, raw, Bool.false_eq_true, if_false]
            cases extentResult arguments.options opening.status opening.sizeReply <;> rfl
          · rw [writes, presented_eq path arguments _ opening raw]
            simp [attempted, opens, recordsOf, raw]
          · obtain waited | ⟨verbose, searched⟩ := left
            · exact waited ▸ .waited
            · exact searched ▸ .searched (of_decide_eq_true verbose) opens

/-- What treating a path writes: what the attempt writes, and a line if it failed. -/
def treated (facilities : Facilities) (arguments : Arguments) (threshold : Threshold)
    (kernel : Kernel) (path : Bytes) : List Event :=
  attempted facilities arguments threshold kernel path ++
    match outcome arguments kernel path with
    | .ok _ => []
    | .error e => [.complaint (Line.failure path e)]

theorem run_treat :
    let run := (treat facilities arguments path).run threshold kernel
    run.value = !(outcome arguments kernel path).isOk ∧
    run.written = treated facilities arguments threshold kernel path ∧
    Leaves facilities arguments threshold kernel path run.kernel := by
  obtain ⟨answered, writes, left⟩ := run_attempt restores threshold kernel path arguments
  simp only [treat_eq_attempt, Action.value_bind, Action.written_bind, Action.kernel_bind,
    answered, writes, treated]
  cases outcome arguments kernel path with
  | error e => exact ⟨rfl, rfl, left⟩
  | ok line => exact ⟨rfl, rfl, left⟩

theorem treat_sameButInterruptions :
    kernel.SameButInterruptions
      ((treat facilities arguments path).run threshold kernel).kernel := by
  obtain ⟨-, -, left⟩ := run_treat restores threshold kernel path arguments
  exact (kernel.sameButInterruptions_waitedFor path).trans (left.sameButInterruptions restores)

theorem treatAll_sameButInterruptions (paths : List Bytes) :
    kernel.SameButInterruptions
      ((treatAll facilities arguments paths).run threshold kernel).kernel := by
  induction paths generalizing kernel with
  | nil => exact .refl kernel
  | cons path rest ih =>
      exact (treat_sameButInterruptions restores threshold kernel path arguments).trans (ih _)

omit restores in
/-- A further path is treated on the kernel that the paths before it leave. -/
theorem treatAll_append_calls (before : List Bytes) :
    let run := (treatAll facilities arguments before).run threshold kernel
    ((treatAll facilities arguments (before ++ [path])).run threshold kernel).calls =
      run.calls ++ ((treat facilities arguments path).run threshold run.kernel).calls := by
  induction before generalizing kernel with
  | nil =>
      simp only [List.nil_append, treatAll, Action.calls_bind]
      simp
  | cons first rest ih =>
      simp only [List.cons_append, treatAll, Action.calls_bind, Action.kernel_bind, ih]
      simp

end Run

section Congruence

variable {kernel other : Kernel} (same : kernel.SameButInterruptions other)
variable {facilities : Facilities} (steady : Backing.Steady facilities.lookup)
variable (arguments : Arguments) (threshold : Threshold) (path : Bytes)

include same

theorem outcome_congr : outcome arguments other path = outcome arguments kernel path := by
  rw [outcome, outcome, same.opened]

include steady

theorem treated_congr :
    treated facilities arguments threshold other path =
      treated facilities arguments threshold kernel path := by
  rw [treated, treated, outcome_congr same, attempted, attempted, same.opened]
  cases opens : kernel.opened path with
  | error e => rfl
  | ok opening =>
      have found : facilities.found threshold (other.whileOpen path) path =
          facilities.found threshold (kernel.whileOpen path) path :=
        steady.value_congr (same.whileOpen opens) threshold threshold path
      simp only [found]

/-- On kernels that differ only in interruptions every path of a list is treated alike, and as if
it were the only one. -/
theorem run_treatAll (paths : List Bytes) :
    let run := (treatAll facilities arguments paths).run threshold other
    run.value = paths.any (fun path => !(outcome arguments kernel path).isOk) ∧
    run.written = paths.flatMap (treated facilities arguments threshold kernel) := by
  -- Treating a path leaves another kernel, but one that still differs in interruptions only.
  induction paths generalizing other with
  | nil => exact ⟨rfl, rfl⟩
  | cons path rest ih =>
      have restores := steady.toRestores
      obtain ⟨answered, writes, -⟩ := run_treat restores threshold other path arguments
      obtain ⟨others, othersWrite⟩ :=
        ih (same.trans (treat_sameButInterruptions restores threshold other path arguments))
      simp only [treatAll, Action.value_bind, Action.written_bind, answered, writes, others,
        othersWrite, outcome_congr same, treated_congr same steady]
      simp

end Congruence

/-- The records of how the command got its rights. -/
def privilegeRecords (facilities : Facilities) (arguments : Arguments) (kernel : Kernel) :
    List Record :=
  if arguments.escalate = false then []
  else (facilities.escalate.run (.upTo .trace) kernel).records

/-- The command gets the rights that it asks for, if it asks, and only logs on the way. -/
def Granted (facilities : Facilities) (arguments : Arguments) (kernel : Kernel) : Prop :=
  ∀ threshold, arguments.escalate = true → facilities.escalate.run threshold kernel =
    ⟨.ok (), threshold.logged (privilegeRecords facilities arguments kernel), kernel⟩

/-- The lines of the standard error output that a path gets. -/
def complaintsOn (facilities : Facilities) (arguments : Arguments) (kernel : Kernel)
    (path : Bytes) : List String :=
  (treated facilities arguments (threshold arguments.verbosity) kernel path).filterMap
    (Event.complaint? facilities.line)

/-- What a run of the command leaves, as a function of its arguments and of the kernel that it
starts on. -/
def reportOf (facilities : Facilities) (arguments : Arguments) (kernel : Kernel) : Report where
  status :=
    if arguments.paths.any fun path => !(outcome arguments kernel path).isOk then 1 else 0
  output := arguments.paths.flatMap fun path => (outcome arguments kernel path).toOption.toList
  complaints :=
    ((threshold arguments.verbosity).logged
        (privilegeRecords facilities arguments kernel)).filterMap
          (Event.complaint? facilities.line) ++
      arguments.paths.flatMap (complaintsOn facilities arguments kernel)

section Rights

variable {facilities : Facilities} {arguments : Arguments} {kernel : Kernel}

theorem privilegeRecords_of_unasked (unasked : arguments.escalate = false) (kernel : Kernel) :
    privilegeRecords facilities arguments kernel = [] := by
  rw [privilegeRecords, if_pos unasked]

theorem granted_of_unasked (unasked : arguments.escalate = false) (kernel : Kernel) :
    Granted facilities arguments kernel := by
  intro threshold asked
  cases asked.symm.trans unasked

theorem Escalates.grants (escalates : Escalates facilities.escalate)
    (rights : arguments.escalate = true → kernel.effectiveUser = 0) :
    Granted facilities arguments kernel := by
  intro threshold asked
  rw [escalates.granted threshold (rights asked), privilegeRecords, if_neg (by simp [asked])]

end Rights

section Output

variable {facilities : Facilities} (arguments : Arguments) (threshold : Threshold)
variable (kernel : Kernel) (path : Bytes)

theorem attempted_output :
    (attempted facilities arguments threshold kernel path).filterMap Event.output? =
      (outcome arguments kernel path).toOption.toList := by
  rw [attempted, outcome]
  cases kernel.opened path with
  | error e => rfl
  | ok opening => simp [List.filterMap_map, Function.comp_def]

theorem treated_output :
    (treated facilities arguments threshold kernel path).filterMap Event.output? =
      (outcome arguments kernel path).toOption.toList := by
  rw [treated, List.filterMap_append, attempted_output]
  cases outcome arguments kernel path <;> simp

/-- A path gets its line on the standard output, or nothing. -/
theorem treat_output (restores : Backing.Restores facilities.lookup) :
    ((treat facilities arguments path).run threshold kernel).output =
      (outcome arguments kernel path).toOption.toList := by
  rw [Traced.output_eq, (run_treat restores threshold kernel path arguments).2.1, treated_output]

/-- A path does not fail exactly where it gets a line. -/
theorem treat_succeeds_iff (restores : Backing.Restores facilities.lookup) :
    let run := (treat facilities arguments path).run threshold kernel
    run.value = false ↔ run.output ≠ [] := by
  intro run
  rw [treat_output arguments threshold kernel path restores,
    (run_treat restores threshold kernel path arguments).1]
  cases outcome arguments kernel path <;> simp [Except.isOk, Except.toBool, Except.toOption]

/-- The last line of the error output on a path that fails is that of its failure. -/
theorem treat_complaints_of_failed (restores : Backing.Restores facilities.lookup)
    (failed : ((treat facilities arguments path).run threshold kernel).value = true) :
    ∃ before e, ((treat facilities arguments path).run threshold kernel).complaints
      facilities.line = before ++ [Line.failure path e] := by
  obtain ⟨value, writes, -⟩ := run_treat restores threshold kernel path arguments
  rw [Traced.complaints_eq, writes, treated, List.filterMap_append]
  cases ended : outcome arguments kernel path with
  | error e => exact ⟨_, e, rfl⟩
  | ok line =>
      rw [value, ended] at failed
      cases failed

end Output

section Report

variable (facilities : Facilities) (arguments : Arguments) (kernel : Kernel)

theorem reportOf_status_one_iff :
    (reportOf facilities arguments kernel).status = 1 ↔
      ∃ path ∈ arguments.paths, (outcome arguments kernel path).isOk = false := by
  simp [reportOf]

theorem reportOf_status_zero_iff :
    (reportOf facilities arguments kernel).status = 0 ↔
      ∀ path ∈ arguments.paths, (outcome arguments kernel path).isOk = true := by
  simp [reportOf]

end Report

section Run

variable {facilities : Facilities} {kernel : Kernel} {list : List Bytes} {arguments : Arguments}
variable (accepted : facilities.read list = .ok arguments)

include accepted

/-- A run of the command with the rights that it asks for shows how it got them and then treats all
paths in turn. -/
theorem run_of_granted (granted : Granted facilities arguments kernel) :
    let level := threshold arguments.verbosity
    let treatments := (treatAll facilities arguments arguments.paths).run level kernel
    run facilities kernel list =
      ⟨if treatments.value then 1 else 0, treatments.output,
        (level.logged (privilegeRecords facilities arguments kernel)).filterMap
            (Event.complaint? facilities.line) ++
          treatments.complaints facilities.line⟩ := by
  intro level treatments
  cases asked : arguments.escalate with
  | false =>
      simp only [run, accepted, perform, asked, Bool.false_eq_true, if_false,
        privilegeRecords_of_unasked asked]
      simp [level, treatments, Traced.output, Traced.complaints]
  | true =>
      simp only [run, accepted, perform, asked, if_true, Action.run_bind,
        granted (threshold arguments.verbosity) asked]
      simp [level, treatments, Traced.output, Traced.complaints]

/-- A run of the command without the rights that it asks for treats no path. It leaves what the
attempt to get them writes, and a line about that failure. -/
theorem run_of_denied (asked : arguments.escalate = true) {e : SystemError}
    (denied : (facilities.escalate.run (threshold arguments.verbosity) kernel).value = .error e) :
    let rights := facilities.escalate.run (threshold arguments.verbosity) kernel
    run facilities kernel list =
      ⟨1, rights.output, rights.complaints facilities.line ++
        ["Error: Failed to escalate privileges: " ++ e.text]⟩ := by
  simp only [run, accepted, perform, asked, if_true, Action.run_bind, denied]
  simp [Traced.output, Traced.complaints]

variable (steady : Backing.Steady facilities.lookup)

include steady

/-- A run of the command with arguments that are read, and with the rights that it asks for. -/
theorem run_of_read (granted : Granted facilities arguments kernel) :
    run facilities kernel list = reportOf facilities arguments kernel := by
  obtain ⟨answered, writes⟩ := run_treatAll (.refl kernel) steady arguments
    (threshold arguments.verbosity) arguments.paths
  rw [run_of_granted accepted granted, answered, Traced.output_eq, Traced.complaints_eq, writes,
    List.filterMap_flatMap, List.filterMap_flatMap]
  simp only [treated_output]
  rfl

/-- The same where no rights are asked for. -/
theorem run_of_unasked (unasked : arguments.escalate = false) (kernel : Kernel) :
    run facilities kernel list = reportOf facilities arguments kernel :=
  run_of_read accepted steady (granted_of_unasked unasked kernel)

/-- What a run reports is how it got its rights and what it reports on each path, as if that were
the only one. -/
theorem run_of_treatments (granted : Granted facilities arguments kernel) :
    let level := threshold arguments.verbosity
    let treatment := fun path => (treat facilities arguments path).run level kernel
    run facilities kernel list =
      ⟨if arguments.paths.any fun path => (treatment path).value then 1 else 0,
        arguments.paths.flatMap fun path => (treatment path).output,
        ((privilegeRecords facilities arguments kernel).filter fun r =>
            level.admits r.level).map facilities.line ++
          arguments.paths.flatMap fun path =>
            (treatment path).complaints facilities.line⟩ := by
  intro level treatment
  have restores := steady.toRestores
  have value (path : Bytes) :
      (!(outcome arguments kernel path).isOk) = (treatment path).value :=
    (run_treat restores level kernel path arguments).1.symm
  have output (path : Bytes) :
      (outcome arguments kernel path).toOption.toList = (treatment path).output :=
    (treat_output arguments level kernel path restores).symm
  have complaints (path : Bytes) : complaintsOn facilities arguments kernel path =
      (treatment path).complaints facilities.line := by
    rw [Traced.complaints_eq, (run_treat restores level kernel path arguments).2.1]
    rfl
  rw [run_of_read accepted steady granted, reportOf, Threshold.logged_complaints,
    funext complaints]
  simp only [value, output]
  rfl

end Run

end Command

end BlockExtent
