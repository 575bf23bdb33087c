import BlockExtent.Proofs.Inquiries
import BlockExtent.Proofs.Opened

/-!
# What a handle leads to

A handle leads to a descriptor and to the replies that are got through it, or it does not lead
anywhere because its path fails to open. What an operation on the handle answers and writes is a
function of that, and the same function for every kind of handle. Interruptions to come make no
difference to it.
-/

namespace BlockExtent

namespace Kernel

variable {kernel other : Kernel} (same : kernel.SameButInterruptions other) (n : Int)

include same

/-- What is seen of an object through a descriptor has nothing to do with interruptions. -/
theorem SameButInterruptions.seen {α : Type} (view : FileObject → α)
    (settled : ∀ object, view object.settled = view object) :
    (other.behind? n).map view = (kernel.behind? n).map view := by
  rw [behind?, behind?, same.descriptors]
  cases kernel.descriptors.lookup n with
  | none => rfl
  | some place =>
      have there := congrArg (fun objects => (objects[place]?).map view) same.objects
      simpa [Function.comp_def, settled] using there

theorem SameButInterruptions.status : other.status n = kernel.status n := by
  have status_eq (kernel : Kernel) : kernel.status n =
      ((kernel.behind? n).map FileObject.status).getD (.error .badDescriptor) := by
    cases behind : kernel.behind? n <;> simp [Kernel.status, behind]
  rw [status_eq, status_eq, same.seen n FileObject.status fun _ => rfl]

theorem SameButInterruptions.sizeReply : other.sizeReply n = kernel.sizeReply n := by
  have sizeReply_eq (kernel : Kernel) : kernel.sizeReply n =
      ((kernel.behind? n).map FileObject.sizeReply).getD (.refused .badDescriptor) := by
    cases behind : kernel.behind? n <;> simp [Kernel.sizeReply, behind]
  rw [sizeReply_eq, sizeReply_eq, same.seen n FileObject.sizeReply fun _ => rfl]

end Kernel

namespace Handle

/-- What is learnt through a handle, or why nothing is. -/
def reached (handle : Handle) (kernel : Kernel) : Except InspectError Opened :=
  match handle with
  | .borrowed n | .file n =>
      .ok ⟨n, kernel.status n, kernel.sizeReply n,
        ((kernel.behind? n).map FileObject.content).getD []⟩
  | .path name | .pathBuffer name => (kernel.opened name).mapError (.opening name)

variable {kernel other : Kernel}

theorem OnDescriptor.reached_eq {handle : Handle} {n : Int} (on : handle.OnDescriptor n) :
    handle.reached kernel = .ok ⟨n, kernel.status n, kernel.sizeReply n,
      ((kernel.behind? n).map FileObject.content).getD []⟩ := by
  obtain rfl | rfl := on <;> rfl

theorem OnPath.reached_eq {handle : Handle} {path : Bytes} (on : handle.OnPath path) :
    handle.reached kernel = (kernel.opened path).mapError (.opening path) := by
  obtain rfl | rfl := on <;> rfl

/-- Whatever keeps a handle from leading anywhere is the failure to open its path. -/
theorem opening_of_reached {handle : Handle} {e : InspectError}
    (failed : handle.reached kernel = .error e) : ∃ path cause, e = .opening path cause := by
  cases handle with
  | borrowed n => cases failed
  | file n => cases failed
  | path name | pathBuffer name =>
      rw [reached] at failed
      cases opens : kernel.opened name with
      | ok opening =>
          rw [opens] at failed
          cases failed
      | error cause =>
          rw [opens] at failed
          cases failed
          exact ⟨name, cause, rfl⟩

theorem reached_congr (same : kernel.SameButInterruptions other) (handle : Handle) :
    handle.reached other = handle.reached kernel := by
  cases handle with
  | borrowed n | file n =>
      have content := same.seen n FileObject.content fun _ => rfl
      rw [reached, reached, same.status, same.sizeReply, content]
  | path name | pathBuffer name => rw [reached, reached, same.opened]

end Handle

namespace Operation

open Inspection

variable (operation : Operation) (threshold : Threshold) (kernel : Kernel)

/-- An operation through a path answers and writes what it would on the opened descriptor. -/
theorem run_throughPath (path : Bytes) :
    let run := (throughPath path operation.body).run threshold kernel
    run.value =
      (match kernel.opened path with
      | .error e => .error (.opening path e)
      | .ok opening => operation.result opening.status opening.sizeReply) ∧
    run.written =
      (match kernel.opened path with
      | .error _ => []
      | .ok opening =>
          threshold.logged
            (operation.records opening.descriptor opening.status opening.sizeReply)) := by
  simp only [throughPath, Action.value_bind, Action.written_bind, Action.openPath_written]
  cases opens : kernel.opened path with
  | error e => simp [(Action.openPath_of_error threshold opens).1]
  | ok opening =>
      obtain ⟨answered, left⟩ := Action.openPath_of_ok threshold opens
      obtain ⟨-, -, shows⟩ := Kernel.shows_of_opened opens
      have inner := operation.body_comesTo (kernel.whileOpen path) opening.descriptor
      rw [shows.status, shows.sizeReply] at inner
      simp only [answered, left, Action.value_bind, Action.written_bind, inner.value,
        inner.written]
      simp

/-- An operation on a handle answers and writes by what the handle leads to. -/
theorem run_onHandle (handle : Handle) :
    let run := (handle.withDescriptor operation.body).run threshold kernel
    run.value =
      (handle.reached kernel).bind (fun opening =>
        operation.result opening.status opening.sizeReply) ∧
    run.written =
      (match handle.reached kernel with
      | .error _ => []
      | .ok opening =>
          threshold.logged
            (operation.records opening.descriptor opening.status opening.sizeReply)) := by
  cases handle with
  | borrowed n | file n =>
      have comes := operation.body_comesTo kernel n
      exact ⟨comes.value threshold, comes.written threshold⟩
  | path name | pathBuffer name =>
      obtain ⟨answered, writes⟩ := operation.run_throughPath threshold kernel name
      simp only [Handle.withDescriptor, Handle.reached, answered, writes]
      cases kernel.opened name <;> exact ⟨rfl, rfl⟩

end Operation

end BlockExtent
