import BlockExtent.Proofs.Reached
import BlockExtent.Proofs.Treatment

/-!
# The command beside an inspection through a path

The command opens a file and inspects it, where the library inspects the path. The two come to the
same: a path gets its line exactly where the inspection through it answers, the line shows that
answer, and where there is none the line of the failure shows the failure of the inspection as a
failure of the system.
-/

namespace BlockExtent

namespace Kernel

end Kernel

namespace Handle

variable (threshold : Threshold) (kernel : Kernel) (path : Bytes) (options : Options)

/-- An inspection through a path answers with what opening the path shows. -/
theorem run_inspectWith_path :
    let run := ((Handle.path path).inspectWith options).run threshold kernel
    run.value =
      (match kernel.opened path with
      | .error e => .error (.opening path e)
      | .ok opening => Inspection.extentResult options opening.status opening.sizeReply) ∧
    run.written =
      (match kernel.opened path with
      | .error _ => []
      | .ok opening =>
          threshold.logged (Inspection.extentRecords opening.descriptor options opening.status
            opening.sizeReply)) ∧
    run.kernel = kernel.waitedFor path := by
  obtain ⟨answers, writes⟩ := (Operation.inspectWith options).run_throughPath threshold kernel path
  exact ⟨answers, writes, Inspection.throughPath_kernel threshold kernel path
    (Inspection.inspect_onlyAsks · options)⟩

end Handle

namespace Command

section Plain

variable (threshold : Threshold) (kernel : Kernel) {arguments : Arguments} (path : Bytes)
variable (plain : arguments.raw = false)

include plain

/-- The answer of the inspection decides between a line and a failure. -/
theorem outcome_of_plain :
    outcome arguments kernel path =
      match (((Handle.path path).inspectWith arguments.options).run threshold kernel).value with
      | .ok extent => .ok (Line.plain path extent.kind extent.length)
      | .error e => .error e.toSystemError := by
  rw [(Handle.run_inspectWith_path threshold kernel path arguments.options).1, outcome]
  cases kernel.opened path with
  | error e => rfl
  | ok opening =>
      simp only [lineOf, plain, Bool.false_eq_true, if_false]
      cases Inspection.extentResult arguments.options opening.status opening.sizeReply <;> rfl

/-- The command writes what the inspection writes, and then about its answer. -/
theorem treated_of_plain (facilities : Facilities) :
    let inspection :=
      ((Handle.path path).inspectWith arguments.options).run threshold kernel
    treated facilities arguments threshold kernel path = inspection.written ++
      match inspection.value with
      | .ok extent =>
          .output (Line.plain path extent.kind extent.length) ::
            (if arguments.verbosity = 0 then []
              else remarksOn (facilities.found threshold (kernel.whileOpen path) path)
                extent).map .complaint
      | .error e => [.complaint (Line.failure path e.toSystemError)] := by
  intro inspection
  obtain ⟨answer, logs, -⟩ :=
    Handle.run_inspectWith_path threshold kernel path arguments.options
  rw [treated, attempted, outcome, logs, answer]
  cases kernel.opened path with
  | error e => rfl
  | ok opening =>
      simp only [lineOf, recordsOf, remarksOf, plain, Bool.false_eq_true, if_false, false_or]
      cases Inspection.extentResult arguments.options opening.status opening.sizeReply with
      | error e => simp [Except.toOption]
      | ok extent => simp [Except.toOption]

/-- A path gets the line of what the inspection answers, or none. -/
theorem treat_output_of_plain {facilities : Facilities}
    (restores : Backing.Restores facilities.lookup) :
    ((treat facilities arguments path).run threshold kernel).output =
      match (((Handle.path path).inspectWith arguments.options).run threshold kernel).value with
      | .ok extent => [Line.plain path extent.kind extent.length]
      | .error _ => [] := by
  rw [treat_output arguments threshold kernel path restores,
    outcome_of_plain threshold kernel path plain]
  cases (((Handle.path path).inspectWith arguments.options).run threshold kernel).value <;> rfl

end Plain

end Command

end BlockExtent
