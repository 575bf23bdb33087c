import BlockExtent.Proofs.Treatment
import Mathlib.Data.List.Forall2

/-!
# What a run depends on

The output and the exit status of a run depend on the objects at its paths, as descriptors show
them, and on the table of descriptors, but on nothing else that the kernel holds. The search for
the device of a file may look at more, and shows it in one line of the error output only. This holds
of every search that leaves no trace, whatever it looks at and whatever it finds.

## Implementation notes

Which kernels may be told apart is said by `FileObject.shown`: it leaves out the interruptions, the
number of the device, the failure of a status request by path, and the link.
-/

namespace BlockExtent

namespace Kernel

variable {kernel other : Kernel} {paths : List Bytes}

/-- The same numbers are taken within the same bounds, and at each of the paths there is the same
object as far as descriptors show it. -/
structure AgreesOn (kernel other : Kernel) (paths : List Bytes) : Prop where
  taken : ∀ n, other.isOpen n = kernel.isOpen n
  firstDescriptor : other.firstDescriptor = kernel.firstDescriptor
  descriptorLimit : other.descriptorLimit = kernel.descriptorLimit
  objects : ∀ path ∈ paths,
    (other.named? path).map FileObject.shown = (kernel.named? path).map FileObject.shown

/-- Interruptions on either side have no part in it. -/
theorem AgreesOn.congr {kernel' other' : Kernel} (agree : kernel.AgreesOn other paths)
    (here : kernel.SameButInterruptions kernel') (there : other.SameButInterruptions other') :
    kernel'.AgreesOn other' paths where
  taken n := by rw [there.isOpen, agree.taken, here.isOpen]
  firstDescriptor := by rw [there.firstDescriptor, agree.firstDescriptor, here.firstDescriptor]
  descriptorLimit := by rw [there.descriptorLimit, agree.descriptorLimit, here.descriptorLimit]
  objects path among := by
    rw [there.named_shown, agree.objects path among, here.named_shown]

theorem AgreesOn.opened (agree : kernel.AgreesOn other paths) {path : Bytes}
    (among : path ∈ paths) : other.opened path = kernel.opened path := by
  apply opened_congr
  · exact agree.objects path among
  · exact freeDescriptor_congr agree.taken agree.firstDescriptor agree.descriptorLimit

end Kernel

namespace Command

/-- Lines of the error output that are the same, or that are both about the device of a file. -/
inductive AlikeButBacking : String → String → Prop
  | same (line : String) : AlikeButBacking line line
  | backing (first second : Except SystemError String) :
      AlikeButBacking (Line.backing first) (Line.backing second)

instance : Std.Refl AlikeButBacking :=
  ⟨AlikeButBacking.same⟩

/-- Two runs that are told apart by lines about the device of a file, if at all, and not by them
where nothing is said about it. They leave kernels that agree on some paths. -/
structure RunsAlike (line : Record → String) (quiet : Prop) (paths : List Bytes)
    (first second : Traced Bool) : Prop where
  value : second.value = first.value
  output : second.output = first.output
  complaints : List.Forall₂ AlikeButBacking (first.complaints line) (second.complaints line)
  quiet : quiet → second.complaints line = first.complaints line
  kernel : first.kernel.AgreesOn second.kernel paths

/-- On any two kernels the remarks differ in what they say about the device of the file. -/
theorem remarksOf_alike (arguments : Arguments) (found found' : Except SystemError String)
    (opening : Opened) :
    List.Forall₂ AlikeButBacking (remarksOf arguments found opening)
      (remarksOf arguments found' opening) := by
  by_cases quiet : arguments.raw ∨ arguments.verbosity = 0
  · simp [remarksOf, if_pos quiet]
  · simp only [remarksOf, if_neg quiet]
    cases Inspection.extentResult arguments.options opening.status opening.sizeReply with
    | error e => exact .nil
    | ok extent =>
        apply List.Forall₂.cons (.same _)
        cases extent.kind with
        | block => exact List.forall₂_refl _
        | other => exact .cons (.backing _ _) .nil

theorem remarksOf_of_quiet {arguments : Arguments}
    (quiet : arguments.raw = true ∨ arguments.verbosity = 0)
    (found : Except SystemError String) (opening : Opened) :
    remarksOf arguments found opening = [] := by
  rw [remarksOf, if_pos quiet]

/-- The error output on a path, part by part: the records, the remarks and the failure. -/
theorem treated_complaints_eq (facilities : Facilities) (arguments : Arguments)
    (threshold : Threshold) (kernel : Kernel) (path : Bytes) :
    (treated facilities arguments threshold kernel path).filterMap
        (Event.complaint? facilities.line) =
      match kernel.opened path with
      | .error e => [Line.failure path e]
      | .ok opening =>
          (threshold.logged (recordsOf arguments opening)).filterMap
              (Event.complaint? facilities.line) ++
            remarksOf arguments (facilities.found threshold (kernel.whileOpen path) path)
              opening ++
            match lineOf arguments path opening with
            | .ok _ => []
            | .error e => [Line.failure path e] := by
  rw [treated, attempted, outcome]
  cases kernel.opened path with
  | error e => rfl
  | ok opening =>
      cases shown : lineOf arguments path opening <;>
        simp [shown, Except.toOption, List.filterMap_cons, List.filterMap_map, Function.comp_def]

/-- What is written about a list of paths is written about the first one and then about the others,
on the kernel that the first one leaves. -/
theorem treatAll_cons (facilities : Facilities) (arguments : Arguments) (threshold : Threshold)
    (kernel : Kernel) (path : Bytes) (rest : List Bytes) :
    let run := (treatAll facilities arguments (path :: rest)).run threshold kernel
    let first := (treat facilities arguments path).run threshold kernel
    let others := (treatAll facilities arguments rest).run threshold first.kernel
    run.value = (first.value || others.value) ∧ run.output = first.output ++ others.output ∧
      run.complaints facilities.line =
        first.complaints facilities.line ++ others.complaints facilities.line := by
  simp [treatAll, Traced.output, Traced.complaints]

section Paths

variable {facilities : Facilities} (restores : Backing.Restores facilities.lookup)
variable (arguments : Arguments) (threshold : Threshold) {kernel other : Kernel}
variable {paths : List Bytes} (agree : kernel.AgreesOn other paths)

theorem outcome_of_agreesOn {path : Bytes} (agree : kernel.AgreesOn other paths)
    (among : path ∈ paths) : outcome arguments other path = outcome arguments kernel path := by
  rw [outcome, outcome, agree.opened among]

include restores agree

/-- On kernels that agree on a path, treating it is told apart by what is said about the device of
the file, and leaves kernels that still agree. -/
theorem treat_runsAlike {path : Bytes} (among : path ∈ paths) :
    RunsAlike facilities.line (arguments.raw = true ∨ arguments.verbosity = 0) paths
      ((treat facilities arguments path).run threshold kernel)
      ((treat facilities arguments path).run threshold other) := by
  obtain ⟨value, writes, -⟩ := run_treat restores threshold kernel path arguments
  obtain ⟨value', writes', -⟩ := run_treat restores threshold other path arguments
  refine ⟨?_, ?_, ?_, ?_, ?_⟩
  · rw [value, value', outcome_of_agreesOn arguments agree among]
  · rw [treat_output arguments threshold kernel path restores,
      treat_output arguments threshold other path restores,
      outcome_of_agreesOn arguments agree among]
  · rw [Traced.complaints_eq, Traced.complaints_eq, writes, writes', treated_complaints_eq,
      treated_complaints_eq, agree.opened among]
    cases kernel.opened path with
    | error e => exact List.forall₂_refl _
    | ok opening =>
        apply List.rel_append
        · apply List.rel_append
          · exact List.forall₂_refl _
          · exact remarksOf_alike arguments _ _ opening
        · exact List.forall₂_refl _
  · intro quiet
    simp only [Traced.complaints_eq, writes, writes', treated_complaints_eq, agree.opened among,
      remarksOf_of_quiet quiet]
  · exact agree.congr (treat_sameButInterruptions restores threshold kernel path arguments)
      (treat_sameButInterruptions restores threshold other path arguments)

/-- Path by path the kernels that are left agree, so the whole run is told apart by no more than
its steps are. -/
theorem treatAll_runsAlike {some_paths : List Bytes} (among : ∀ path ∈ some_paths, path ∈ paths) :
    RunsAlike facilities.line (arguments.raw = true ∨ arguments.verbosity = 0) paths
      ((treatAll facilities arguments some_paths).run threshold kernel)
      ((treatAll facilities arguments some_paths).run threshold other) := by
  induction some_paths generalizing kernel other with
  | nil => exact ⟨rfl, rfl, .nil, fun _ => rfl, agree⟩
  | cons path rest ih =>
      have first := treat_runsAlike restores arguments threshold agree (among path (.head rest))
      have others := ih first.kernel fun path later => among path (.tail _ later)
      obtain ⟨value, output, complaints⟩ :=
        treatAll_cons facilities arguments threshold kernel path rest
      obtain ⟨value', output', complaints'⟩ :=
        treatAll_cons facilities arguments threshold other path rest
      refine ⟨?_, ?_, ?_, ?_, others.kernel⟩
      · rw [value, value', first.value, others.value]
      · rw [output, output', first.output, others.output]
      · rw [complaints, complaints']
        exact List.rel_append first.complaints others.complaints
      · intro quiet
        rw [complaints, complaints', first.quiet quiet, others.quiet quiet]

end Paths

/-- Whatever search a command is given that leaves no trace, two kernels that agree on the paths of
a list of arguments, and on the table of descriptors, are told apart neither by the output nor by
the status of a run. On the error output they are told apart by lines about the device of a file, if
at all, and not without a verbose command that looks for it. -/
theorem run_of_agreesOn {facilities : Facilities}
    (restores : Backing.Restores facilities.lookup) {kernel other : Kernel} {list : List Bytes}
    {asked : Arguments} (accepted : facilities.read list = .ok asked)
    (unprivileged : asked.escalate = false) (agree : kernel.AgreesOn other asked.paths) :
    (run facilities other list).output = (run facilities kernel list).output ∧
    (run facilities other list).status = (run facilities kernel list).status ∧
    List.Forall₂ AlikeButBacking (run facilities kernel list).complaints
      (run facilities other list).complaints ∧
    (asked.raw = true ∨ asked.verbosity = 0 →
      (run facilities other list).complaints = (run facilities kernel list).complaints) := by
  have alike := treatAll_runsAlike restores asked (threshold asked.verbosity) agree
    fun path among => among
  rw [run_of_granted accepted (granted_of_unasked unprivileged kernel),
    run_of_granted accepted (granted_of_unasked unprivileged other),
    privilegeRecords_of_unasked unprivileged, privilegeRecords_of_unasked unprivileged]
  exact ⟨alike.output, by rw [alike.value], alike.complaints, alike.quiet⟩

/-- A file on a device that nothing is known of, and the same file where opening it is interrupted
and the mount table is no text: only the reason why its device is not found is another one. -/
theorem run_beside_broken_table :
    let kernel := Kernel.ofFiles [([0x66], { size := 9, device := ⟨8, 1⟩ })]
    let other := Kernel.ofFiles
      [([0x66], { size := 9, interruptions := 3 }), (MountTable.path, { content := [0xFF] })]
    let list : List Bytes := [[0x2D, 0x76], [0x66]]
    let asked : Arguments := { paths := [[0x66]], verbosity := 1 }
    Backing.Restores Facilities.standard.lookup ∧
      Facilities.standard.read list = .ok asked ∧ asked.escalate = false ∧
      kernel.AgreesOn other asked.paths ∧
      (run .standard other list).output = ["f: not a block device, 9 bytes"] ∧
      (run .standard other list).status = 0 ∧
      (run .standard kernel list).complaints =
        ["Length: 9 (0x9)",
          "Backing block device: (unable to resolve: Could not resolve device for dev 8:1)"] ∧
      (run .standard other list).complaints =
        ["Length: 9 (0x9)",
          "Backing block device: (unable to resolve: stream did not contain valid UTF-8)"] := by
  intro kernel other list asked
  have restores : Backing.Restores Facilities.standard.lookup := Backing.steady_lookup.toRestores
  have accepted : Facilities.standard.read list = .ok asked := by decide
  have agree : kernel.AgreesOn other asked.paths := ⟨fun n => rfl, rfl, rfl, by decide⟩
  obtain ⟨output, status, -, -⟩ := run_of_agreesOn restores accepted rfl agree
  exact ⟨restores, accepted, rfl, agree, output.trans (by decide), status.trans (by decide),
    by decide, by decide⟩

end Command

end BlockExtent
