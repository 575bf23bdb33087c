import BlockExtent.Proofs.Frame

/-!
# Steps that can be left out of a session

A step that leaves the session as it is can be left out, and every other step of the session
answers, logs and asks as it did. Steps of the library on a descriptor are such steps, and so are
those on a path as long as no object interrupts an attempt to open it.

## Implementation notes

Which steps stay is said by one flag for each step, so equal steps can be told apart. That the
state is left alone is needed only in the states that a run can be in; the invariant that says so
is a parameter of the argument on runs.
-/

namespace BlockExtent

/-- The elements of a list whose flags say that they stay. -/
def kept {α : Type} (flags : List Bool) (list : List α) : List α :=
  ((flags.zip list).filter Prod.fst).map Prod.snd

section Kept

variable {α : Type} (flags : List Bool) (x : α) (list : List α)

@[simp] theorem kept_nil : kept flags ([] : List α) = [] := by simp [kept]

@[simp] theorem kept_true_cons : kept (true :: flags) (x :: list) = x :: kept flags list := rfl

@[simp] theorem kept_false_cons : kept (false :: flags) (x :: list) = kept flags list := rfl

end Kept

namespace Session

variable {flags : List Bool} {steps : List Step}

@[simp] theorem entries_cons (session : Session) (step : Step) :
    session.entries (step :: steps) =
      (session.step step).1 :: (session.step step).2.entries steps := rfl

@[simp] theorem after_cons (session : Session) (step : Step) :
    session.after (step :: steps) = (session.step step).2.after steps := rfl

/-- Leaving out steps that leave the session as it is changes no entry of another step, and not
the session at the end. -/
theorem entries_kept (Inv : Session → Prop) (length : flags.length = steps.length)
    (keeps : ∀ step ∈ steps, ∀ session, Inv session → Inv (session.step step).2)
    (inert : ∀ m ∈ flags.zip steps, m.1 = false →
      ∀ session, Inv session → (session.step m.2).2 = session)
    (session : Session) (start : Inv session) :
    session.entries (kept flags steps) = kept flags (session.entries steps) ∧
      session.after (kept flags steps) = session.after steps := by
  induction steps generalizing flags session with
  | nil => simp [entries]
  | cons step rest ih =>
      obtain _ | ⟨flag, flags⟩ := flags
      · simp at length
      have later := ih (Nat.succ.inj length)
        (fun other listed => keeps other (List.mem_cons_of_mem step listed))
        (fun m listed => inert m (List.mem_cons_of_mem _ listed))
      cases flag with
      | true =>
          have next := later (session.step step).2 (keeps step List.mem_cons_self session start)
          simp [next.1, next.2]
      | false =>
          have same : (session.step step).2 = session :=
            inert (false, step) List.mem_cons_self rfl session start
          have next := later session start
          simp [same, next.1, next.2]

end Session

namespace Kernel

variable {kernel after : Kernel}

/-- No object interrupts an attempt to open it. -/
def Uninterrupted (kernel : Kernel) : Prop :=
  ∀ object ∈ kernel.objects, object.interruptions = 0

theorem Uninterrupted.of_objects (calm : kernel.Uninterrupted)
    (same : after.objects = kernel.objects) : after.Uninterrupted := by
  rwa [Uninterrupted, same]

theorem Uninterrupted.interruptionsAt (calm : kernel.Uninterrupted) (path : Bytes) :
    kernel.interruptionsAt path = 0 := by
  obtain unknown | ⟨place, object, names⟩ := named_cases kernel path
  · simp [Kernel.interruptionsAt, unknown]
  · rw [names.interruptionsAt_eq]
    exact calm object (List.mem_of_getElem? names.2)

theorem Uninterrupted.settled (calm : kernel.Uninterrupted) (handle : Handle) :
    handle.settled kernel = kernel := by
  cases handle with
  | borrowed n => rfl
  | file n => rfl
  | path name | pathBuffer name =>
      have waited : kernel.settledAt name = kernel :=
        settledAt_of_uninterrupted (calm.interruptionsAt name)
      simp [Handle.settled, waited]

/-- Giving out a descriptor leaves the objects alone. -/
theorem allocate_objects (kernel : Kernel) (place : Nat) :
    (kernel.allocate place).2.objects = kernel.objects := by
  obtain full | ⟨n, -, given⟩ := allocate_cases kernel place
  · rw [full]
  · rw [given]

theorem Uninterrupted.attemptOpen (calm : kernel.Uninterrupted) (path : Bytes) :
    (kernel.attemptOpen path).2.Uninterrupted := by
  obtain ⟨e, failed⟩ | ⟨n, place, -, opened⟩ := attemptOpen_cases (calm.interruptionsAt path)
  · rwa [failed]
  · rw [opened]
    exact calm.of_objects rfl

theorem Uninterrupted.duplicate (calm : kernel.Uninterrupted) (descriptor : Int) :
    (kernel.duplicate descriptor).2.Uninterrupted := by
  cases found : kernel.descriptors.lookup descriptor with
  | none => simpa only [Kernel.duplicate, found] using calm
  | some place =>
      have given := calm.of_objects (allocate_objects kernel place)
      simpa only [Kernel.duplicate, found] using given

theorem Uninterrupted.close (calm : kernel.Uninterrupted) (descriptor : Int) :
    (kernel.close descriptor).2.Uninterrupted := by
  cases opened : kernel.isOpen descriptor with
  | true =>
      have released : (kernel.release descriptor).Uninterrupted := calm.of_objects rfl
      simpa only [Kernel.close, opened, if_true] using released
  | false => simpa only [Kernel.close, opened, Bool.false_eq_true, if_false] using calm

theorem Uninterrupted.unlink (calm : kernel.Uninterrupted) (path : Bytes) :
    (kernel.unlink path).2.Uninterrupted := by
  cases linked : kernel.place? path with
  | none => simpa only [Kernel.unlink, linked] using calm
  | some place =>
      rw [Kernel.unlink, linked]
      exact calm.of_objects rfl

/-- Linking is the only way in which an object that interrupts comes in. -/
theorem Uninterrupted.link (calm : kernel.Uninterrupted) (path : Bytes) {object : FileObject}
    (opens : object.interruptions = 0) : (kernel.link path object).Uninterrupted := by
  intro other listed
  have old_or_new : other ∈ kernel.objects ∨ other = object := by
    cases linked : kernel.place? path with
    | some place =>
        apply List.mem_or_eq_of_mem_set (i := place)
        simpa only [Kernel.link, linked, replaceObject] using listed
    | none => simpa [Kernel.link, linked] using listed
  obtain old | rfl := old_or_new
  · exact calm other old
  · exact opens

end Kernel

/-- A step that links no object that interrupts. -/
def Step.LinksUninterrupted : Step → Prop
  | .link _ object => object.interruptions = 0
  | _ => True

namespace Session

variable (session : Session) {step : Step}

/-- A step of the library leaves the session as it is where there is nothing to wait for. -/
theorem step_of_settled {handle : Handle} (h : step.handle? = some handle)
    (settled : handle.settled session.kernel = session.kernel) :
    (session.step step).2 = session := by
  rw [step_settles session h, settled]

theorem step_of_asksDescriptor (asks : step.AsksDescriptor) :
    (session.step step).2 = session := by
  obtain ⟨handle, descriptor, h, given⟩ := asks
  apply step_of_settled session h
  obtain rfl | rfl := given <;> rfl

/-- Without interruptions to begin with, none come in by steps that link no object with some. -/
theorem step_uninterrupted (calm : session.kernel.Uninterrupted)
    (links : step.LinksUninterrupted) : (session.step step).2.kernel.Uninterrupted := by
  cases h : step.handle? with
  | some handle =>
      rwa [step_of_settled session h (calm.settled handle)]
  | none =>
      cases step with
      | openFile path => exact calm.attemptOpen path
      | duplicate descriptor => exact calm.duplicate descriptor
      | close descriptor => exact calm.close descriptor
      | link path object => exact calm.link path links
      | unlink path => exact calm.unlink path
      | setThreshold threshold => exact calm
      | _ => cases h

/-- Over every session, a step of the library leaves descriptors, paths and objects as they were,
but for the interruptions that it waited for, and closes nothing that was open. So steps on a
descriptor can be left out anywhere, steps on a path can be left out where no object interrupts,
and a step taken again at once tells nothing new. -/
theorem library_steps_leave_kernel (session : Session) :
    (∀ before step, step.OfLibrary →
      let here := session.after before
      let taken := here.step step
      here.kernel.SameButInterruptions taken.2.kernel ∧ taken.2.threshold = here.threshold ∧
        ∀ n, .closing n ∈ taken.1.calls → here.kernel.isOpen n = false) ∧
    (∀ flags steps, flags.length = steps.length →
      (∀ m ∈ flags.zip steps, m.1 = false → m.2.AsksDescriptor) →
      session.entries (kept flags steps) = kept flags (session.entries steps) ∧
        session.after (kept flags steps) = session.after steps) ∧
    (session.kernel.Uninterrupted → ∀ flags steps, flags.length = steps.length →
      (∀ step ∈ steps, step.LinksUninterrupted) →
      (∀ m ∈ flags.zip steps, m.1 = false → m.2.OfLibrary) →
      session.entries (kept flags steps) = kept flags (session.entries steps) ∧
        session.after (kept flags steps) = session.after steps) ∧
    (∀ before step, step.AsksDescriptor →
      let taken := (session.after before).step step
      taken.2.step step = taken) ∧
    ∀ before step, step.OfLibrary →
      let taken := (session.after before).step step
      let again := taken.2.step step
      again.1.answer = taken.1.answer ∧ again.1.records = taken.1.records ∧
        again.2 = taken.2 := by
  refine ⟨?_, ?_, ?_, ?_, ?_⟩
  · rintro before step ⟨handle, h⟩ here taken
    refine ⟨step_sameButInterruptions here h, ?_, fun n => step_closes here h⟩
    rw [step_settles here h]
  · intro flags steps length erased
    -- These steps are inert in every state, so no invariant is needed.
    apply entries_kept (fun _ => True) length
    · intro step listed other _
      trivial
    · intro m listed out other _
      exact step_of_asksDescriptor other (erased m listed out)
    · trivial
  · intro calm flags steps length links erased
    apply entries_kept (fun other => other.kernel.Uninterrupted) length
    · intro step listed other calm'
      exact step_uninterrupted other calm' (links step listed)
    · intro m listed out other calm'
      obtain ⟨handle, h⟩ := erased m listed out
      exact step_of_settled other h (calm'.settled handle)
    · exact calm
  · intro before step asks
    exact congrArg (·.step step) (step_of_asksDescriptor (session.after before) asks)
  · rintro before step ⟨handle, h⟩
    exact step_again (session.after before) h

/-- An inspection through a path takes the number that has just been closed. Leaving it out, the
next opening still gets that number. -/
theorem library_steps_leave_reused_number :
    let session := start (Kernel.naming [0x61] {})
    let steps : List Step := [.openFile [0x61], .close 3, .inspect (.path [0x61]),
      .openFile [0x61], .classify (.borrowed 3)]
    let flags := [true, true, false, true, true]
    session.entries (kept flags steps) = kept flags (session.entries steps) ∧
      (session.entries steps).map Entry.calls =
        [[], [], [.opening [0x61] 0o2000000, .status 3, .closing 3], [], [.status 3]] := by
  intro session steps flags
  have calm : session.kernel.Uninterrupted := by
    simp [session, start, Kernel.naming, Kernel.Uninterrupted]
  have links : ∀ step ∈ steps, step.LinksUninterrupted := by
    simp [steps, Step.LinksUninterrupted]
  have erased : ∀ m ∈ flags.zip steps, m.1 = false → m.2.OfLibrary := by
    simp [flags, steps, Step.OfLibrary, Step.handle?]
  obtain ⟨-, -, leftOut, -⟩ := library_steps_leave_kernel session
  exact ⟨(leftOut calm flags steps rfl links erased).1, by decide⟩

end Session

end BlockExtent
