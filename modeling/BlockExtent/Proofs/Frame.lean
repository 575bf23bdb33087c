import BlockExtent.Proofs.EntryPointRefinement
import BlockExtent.Proofs.PathSimulation

/-!
# What a step of the library leaves alone

A step of the library gives the kernel back as it found it, but for the interruptions that it
waited for: a step on a descriptor changes nothing at all, and one on a path closes the descriptor
that it opened. What it closes was not open before the step.

## Implementation notes

The kernel after a step on a path is known exactly: it is the kernel in which the interruptions at
that path have been waited for. So the answer of a second such step is that of the first.
-/

namespace BlockExtent

namespace Kernel

variable {kernel : Kernel} {path : Bytes}

/-- Two kernels with the same descriptors on the same objects under the same paths, where the
objects may differ in how often opening them is still going to be interrupted. -/
structure SameButInterruptions (before after : Kernel) : Prop where
  descriptors : after.descriptors = before.descriptors
  paths : after.paths = before.paths
  objects : after.objects.map FileObject.settled = before.objects.map FileObject.settled
  firstDescriptor : after.firstDescriptor = before.firstDescriptor
  descriptorLimit : after.descriptorLimit = before.descriptorLimit
  user : after.user = before.user
  effectiveUser : after.effectiveUser = before.effectiveUser

theorem SameButInterruptions.refl (kernel : Kernel) : kernel.SameButInterruptions kernel :=
  ⟨rfl, rfl, rfl, rfl, rfl, rfl, rfl⟩

/-- Waiting for interruptions changes nothing else. -/
theorem sameButInterruptions_settledAt (kernel : Kernel) (path : Bytes) :
    kernel.SameButInterruptions (kernel.settledAt path) := by
  obtain unknown | ⟨place, object, names⟩ := named_cases kernel path
  · rw [settledAt_of_unknown unknown]
    exact .refl kernel
  · rw [names.settledAt_eq]
    refine ⟨rfl, rfl, ?_, rfl, rfl, rfl, rfl⟩
    obtain ⟨bound, rfl⟩ := List.getElem?_eq_some_iff.mp names.2
    have bound' : place < (kernel.objects.map FileObject.settled).length := by simpa using bound
    have same : kernel.objects[place].settled.settled =
        (kernel.objects.map FileObject.settled)[place] := by
      rw [List.getElem_map]
      rfl
    rw [replaceObject, List.map_set, same, List.set_getElem_self]

theorem isOpen_settledAt (kernel : Kernel) (path : Bytes) (n : Int) :
    (kernel.settledAt path).isOpen n = kernel.isOpen n := by
  rw [isOpen, isOpen, (sameButInterruptions_settledAt kernel path).descriptors]

/-- The last attempt fails, or takes a descriptor that was free. -/
theorem lastAttempt_cases (kernel : Kernel) (path : Bytes) :
    (∃ e, kernel.lastAttempt path = (.error e, kernel.settledAt path)) ∨
    ∃ n place, kernel.isOpen n = false ∧
      kernel.lastAttempt path =
        (.ok n, { kernel.settledAt path with
          descriptors := (n, place) :: (kernel.settledAt path).descriptors }) := by
  rcases attemptOpen_cases (interruptionsAt_settledAt kernel path) with
    failed | ⟨n, place, free, opened⟩
  · exact .inl failed
  · exact .inr ⟨n, place, isOpen_settledAt kernel path n ▸ free, opened⟩

end Kernel

/-- An action that asks without changing the kernel, and that closes nothing. -/
structure Action.OnlyAsks {α : Type} (action : Action α) : Prop where
  kernel : ∀ threshold kernel, (action.run threshold kernel).kernel = kernel
  closes : ∀ threshold kernel n, .closing n ∉ (action.run threshold kernel).calls

namespace Inspection

theorem classify_onlyAsks (n : Int) : (classify n).OnlyAsks := by
  constructor
  · intro threshold kernel
    exact classify_kernel threshold kernel n
  · intro threshold kernel m made
    rw [classify_calls] at made
    cases List.mem_singleton.mp made

theorem deviceLength_onlyAsks (n : Int) : (deviceLength n).OnlyAsks := by
  constructor
  · intro threshold kernel
    exact deviceLength_kernel threshold kernel n
  · intro threshold kernel m made
    rw [deviceLength_calls] at made
    cases List.mem_singleton.mp made

theorem inspect_onlyAsks (n : Int) (options : Options) : (inspect n options).OnlyAsks := by
  constructor
  · intro threshold kernel
    exact inspect_kernel threshold kernel n options
  · intro threshold kernel m made
    obtain h | h := mem_inspect_calls threshold kernel n made <;> cases h

end Inspection

namespace EntryPoint

theorem isBlockDevice_onlyAsks (n : Int) (errno : Errno) : (isBlockDevice n errno).OnlyAsks := by
  constructor
  · intro threshold kernel
    exact isBlockDevice_kernel threshold kernel n errno
  · intro threshold kernel m
    simp [Traced.calls, isBlockDevice_events]

theorem blockDeviceLength_onlyAsks (n : Int) (errno : Errno) :
    (blockDeviceLength n errno).OnlyAsks := by
  constructor
  · intro threshold kernel
    exact blockDeviceLength_kernel threshold kernel n errno
  · intro threshold kernel m
    simp [Traced.calls, blockDeviceLength_events]

end EntryPoint

theorem Session.codes_onlyAsks (n : Int) : (Session.codes n).OnlyAsks := by
  constructor
  · intro threshold kernel
    simp [codes]
  · intro threshold kernel m
    simp only [codes, Action.calls_bind, Inspection.classify_calls, Inspection.deviceLength_calls]
    simp

namespace Inspection

variable {α : Type} (threshold : Threshold) (kernel : Kernel) (path : Bytes)

/-- Once the interruptions at a path have been waited for, an action through it comes to the same
without the attempts that were interrupted. -/
theorem run_throughPath_settledAt (body : Int → Action (Except InspectError α))
    (noNull : 0 ∉ path) :
    let first := (throughPath path body).run threshold kernel
    let again := (throughPath path body).run threshold (kernel.settledAt path)
    again.value = first.value ∧ again.kernel = first.kernel ∧
      first.events =
        List.replicate (kernel.interruptionsAt path) (.call (.opening path Call.openFlags)) ++
          again.events := by
  have settled := kernel.interruptionsAt_settledAt path
  have last : (kernel.settledAt path).lastAttempt path = kernel.lastAttempt path :=
    Kernel.lastAttempt_of_uninterrupted settled
  simp only [run_throughPath threshold body noNull, last, settled]
  obtain ⟨answer | answer, after⟩ := kernel.lastAttempt path
  · simp [List.replicate_succ']
  · simp [List.replicate_succ']

section OnlyAsks

variable {body : Int → Action (Except InspectError α)} (asks : ∀ n, (body n).OnlyAsks)

include asks

/-- What is left of an action through a path are the interruptions that were waited for. -/
theorem throughPath_kernel :
    ((throughPath path body).run threshold kernel).kernel =
      if 0 ∈ path then kernel else kernel.settledAt path := by
  by_cases null : 0 ∈ path
  · rw [run_throughPath_of_null threshold body null, if_pos null]
  · rw [run_throughPath threshold body null, if_neg null]
    obtain ⟨e, failed⟩ | ⟨n, place, free, opened⟩ := kernel.lastAttempt_cases path
    · rw [failed]
    · simp only [opened, (asks n).kernel]
      exact Kernel.close_allocated (kernel.isOpen_settledAt path n ▸ free) place

/-- An action through a path closes no descriptor that was open before. -/
theorem throughPath_closes {m : Int}
    (made : .closing m ∈ ((throughPath path body).run threshold kernel).calls) :
    kernel.isOpen m = false := by
  by_cases null : 0 ∈ path
  · rw [run_throughPath_of_null threshold body null] at made
    cases made
  · rw [run_throughPath threshold body null] at made
    obtain ⟨e, failed⟩ | ⟨n, place, free, opened⟩ := kernel.lastAttempt_cases path
    · simp [failed, List.filterMap_replicate] at made
    · rw [opened] at made
      simp only [Traced.calls_mk, List.filterMap_append, List.mem_append] at made
      obtain opening | asked | closed := made
      · simp [List.filterMap_replicate] at opening
      · exact absurd asked ((asks n).closes _ _ m)
      · obtain rfl : m = n := by simpa using closed
        exact free

end OnlyAsks

end Inspection

namespace Handle

/-- The kernel in which the interruptions on the way to what a handle refers to have been waited
for. -/
def settled (handle : Handle) (kernel : Kernel) : Kernel :=
  match handle with
  | .borrowed _ | .file _ => kernel
  | .path name | .pathBuffer name => if 0 ∈ name then kernel else kernel.settledAt name

theorem settled_settled (handle : Handle) (kernel : Kernel) :
    handle.settled (handle.settled kernel) = handle.settled kernel := by
  cases handle with
  | borrowed n => rfl
  | file n => rfl
  | path name | pathBuffer name =>
      by_cases null : 0 ∈ name
      · simp [settled, null]
      · simp only [settled, if_neg null]
        exact Kernel.settledAt_of_uninterrupted (kernel.interruptionsAt_settledAt name)

theorem sameButInterruptions_settled (handle : Handle) (kernel : Kernel) :
    kernel.SameButInterruptions (handle.settled kernel) := by
  cases handle with
  | borrowed n => exact .refl kernel
  | file n => exact .refl kernel
  | path name | pathBuffer name =>
      by_cases null : 0 ∈ name
      · rw [settled, if_pos null]
        exact .refl kernel
      · rw [settled, if_neg null]
        exact kernel.sameButInterruptions_settledAt name

/-- What an action on a handle may do: wait for the interruptions on the way, and close what was
not open. A second action finds nothing changed but that. -/
structure Settles {α : Type} (handle : Handle) (action : Action α) : Prop where
  kernel : ∀ threshold kernel, (action.run threshold kernel).kernel = handle.settled kernel
  closes : ∀ threshold kernel n, .closing n ∈ (action.run threshold kernel).calls →
    kernel.isOpen n = false
  value : ∀ threshold kernel,
    (action.run threshold (handle.settled kernel)).value = (action.run threshold kernel).value
  records : ∀ threshold kernel,
    (action.run threshold (handle.settled kernel)).records = (action.run threshold kernel).records

variable {α : Type}

theorem settles_of_onlyAsks {action : Action α} (asks : action.OnlyAsks) {handle : Handle}
    {descriptor : Int} (given : handle.OnDescriptor descriptor) : handle.Settles action := by
  have unsettled : ∀ kernel, handle.settled kernel = kernel := by
    intro kernel
    obtain rfl | rfl := given <;> rfl
  constructor
  · intro threshold kernel
    rw [unsettled, asks.kernel]
  · intro threshold kernel n made
    exact absurd made (asks.closes threshold kernel n)
  · intro threshold kernel
    rw [unsettled]
  · intro threshold kernel
    rw [unsettled]

theorem settles_throughPath {body : Int → Action (Except InspectError α)}
    (asks : ∀ n, (body n).OnlyAsks) {handle : Handle} {path : Bytes}
    (given : handle.OnPath path) : handle.Settles (Inspection.throughPath path body) := by
  have settled_eq : ∀ kernel : Kernel, handle.settled kernel =
      if 0 ∈ path then kernel else kernel.settledAt path := by
    intro kernel
    obtain rfl | rfl := given <;> rfl
  have again (threshold : Threshold) (kernel : Kernel) :
      let first := (Inspection.throughPath path body).run threshold kernel
      let again := (Inspection.throughPath path body).run threshold (handle.settled kernel)
      again.value = first.value ∧ again.records = first.records := by
    rw [settled_eq]
    by_cases null : 0 ∈ path
    · simp [null]
    · have h := Inspection.run_throughPath_settledAt threshold kernel path body null
      rw [if_neg null]
      refine ⟨h.1, ?_⟩
      simp [Traced.records, h.2.2, List.filterMap_replicate]
  constructor
  · intro threshold kernel
    rw [settled_eq, Inspection.throughPath_kernel threshold kernel path asks]
  · intro threshold kernel n made
    exact Inspection.throughPath_closes threshold kernel path asks made
  · exact fun threshold kernel => (again threshold kernel).1
  · exact fun threshold kernel => (again threshold kernel).2

/-- An action that only asks settles the handle that it gets its descriptor from. -/
theorem settles_withDescriptor (handle : Handle) {body : Int → Action (Except InspectError α)}
    (asks : ∀ n, (body n).OnlyAsks) : handle.Settles (handle.withDescriptor body) := by
  obtain ⟨n, given⟩ | ⟨path, given⟩ := handle.onDescriptor_or_onPath
  · rw [given.withDescriptor_eq]
    exact settles_of_onlyAsks (asks n) given
  · rw [given.withDescriptor_eq]
    exact settles_throughPath asks given

end Handle

namespace Step

/-- The handle that a step of the library works on, which is a lent descriptor where the step is
given nothing but a descriptor. The other steps come from outside. -/
def handle? : Step → Option Handle
  | .classify handle | .deviceLength handle | .inspect handle | .inspectWith handle _ =>
      some handle
  | .classifyDescriptor n | .descriptorLength n | .codes n | .isBlockDevice n _
  | .blockDeviceLength n _ => some (.borrowed n)
  | .openFile _ | .duplicate _ | .close _ | .link _ _ | .unlink _ | .setThreshold _ => none

/-- A step that comes from the library and not from outside. -/
def OfLibrary (step : Step) : Prop :=
  ∃ handle, step.handle? = some handle

/-- A step of the library that is given a descriptor. -/
def AsksDescriptor (step : Step) : Prop :=
  ∃ handle descriptor, step.handle? = some handle ∧ handle.OnDescriptor descriptor

/-- Every step of the library runs an action that settles its handle, and nothing else. -/
theorem perform_of_handle {step : Step} {handle : Handle} (h : step.handle? = some handle) :
    ∃ (α : Type) (action : Action α) (answer : α → Answer), handle.Settles action ∧
      ∀ session : Session, session.step step = session.perform action answer := by
  have lent {α : Type} {n : Int} {action : Action α} (asks : action.OnlyAsks) :
      (Handle.borrowed n).Settles action := Handle.settles_of_onlyAsks asks (.inl rfl)
  cases step <;> cases h
  case classify => exact ⟨_, _, _, handle.settles_withDescriptor Inspection.classify_onlyAsks,
    fun _ => rfl⟩
  case deviceLength => exact ⟨_, _, _,
    handle.settles_withDescriptor Inspection.deviceLength_onlyAsks, fun _ => rfl⟩
  case inspect => exact ⟨_, _, _,
    handle.settles_withDescriptor (Inspection.inspect_onlyAsks · .standard), fun _ => rfl⟩
  case inspectWith options => exact ⟨_, _, _,
    handle.settles_withDescriptor (Inspection.inspect_onlyAsks · options), fun _ => rfl⟩
  case classifyDescriptor n => exact ⟨_, _, _, lent (Inspection.classify_onlyAsks n),
    fun _ => rfl⟩
  case descriptorLength n => exact ⟨_, _, _, lent (Inspection.deviceLength_onlyAsks n),
    fun _ => rfl⟩
  case codes n => exact ⟨_, _, fun c => .codes c.1 c.2, lent (Session.codes_onlyAsks n),
    fun _ => rfl⟩
  case isBlockDevice n errno => exact ⟨_, _, _,
    lent (EntryPoint.isBlockDevice_onlyAsks n errno), fun _ => rfl⟩
  case blockDeviceLength n errno => exact ⟨_, _, _,
    lent (EntryPoint.blockDeviceLength_onlyAsks n errno), fun _ => rfl⟩

end Step

namespace Session

variable (session : Session) {step : Step} {handle : Handle}

/-- After a step of the library only the interruptions on its way have been waited for. -/
theorem step_settles (h : step.handle? = some handle) :
    (session.step step).2 = { session with kernel := handle.settled session.kernel } := by
  obtain ⟨α, action, answer, settles, performs⟩ := Step.perform_of_handle h
  simp [performs, perform, settles.kernel]

theorem step_sameButInterruptions (h : step.handle? = some handle) :
    session.kernel.SameButInterruptions (session.step step).2.kernel := by
  rw [step_settles session h]
  exact handle.sameButInterruptions_settled session.kernel

/-- A step of the library closes no descriptor that was open before it. -/
theorem step_closes (h : step.handle? = some handle) {n : Int}
    (made : .closing n ∈ (session.step step).1.calls) : session.kernel.isOpen n = false := by
  obtain ⟨α, action, answer, settles, performs⟩ := Step.perform_of_handle h
  rw [performs] at made
  exact settles.closes session.threshold session.kernel n made

/-- A step of the library, taken again at once, answers and logs the same and changes nothing. -/
theorem step_again (h : step.handle? = some handle) :
    let first := session.step step
    let again := first.2.step step
    again.1.answer = first.1.answer ∧ again.1.records = first.1.records ∧
      again.2 = first.2 := by
  intro first again
  obtain ⟨α, action, answer, settles, performs⟩ := Step.perform_of_handle h
  have idle : handle.settled (handle.settled session.kernel) = handle.settled session.kernel :=
    handle.settled_settled session.kernel
  refine ⟨?_, ?_, ?_⟩
  · simp [again, first, performs, perform, settles.kernel, settles.value]
  · simp [again, first, performs, perform, settles.kernel, settles.records]
  · simp [again, first, step_settles _ h, idle]

end Session

end BlockExtent
