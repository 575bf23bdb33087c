import BlockExtent.Action

/-!
# Opening a path, attempt by attempt

Opening a path repeats an attempt that was interrupted and takes the answer of the first attempt
that was not. `Opens` says so without a bound on the attempts. What `Action.openPath` does under a
bound is the same, and both come down to one attempt on the kernel in which all interruptions to
come have been waited for.

## Implementation notes

No object fails with the very number of an interruption, so asking again comes to an end and each
path has exactly one run of `Opens`.
-/

namespace BlockExtent

namespace Kernel

variable {kernel after : Kernel} {path : Bytes} {place : Nat} {object : FileObject}

/-- Opening a path: the attempts made, the answer of the last one, and the kernel after it. -/
inductive Opens (path : Bytes) : Kernel → Nat → Except Errno Int → Kernel → Prop
  | answered {kernel : Kernel}
      (final : (kernel.attemptOpen path).1 ≠ .error .interrupted) :
      Opens path kernel 1 (kernel.attemptOpen path).1 (kernel.attemptOpen path).2
  | again {kernel after : Kernel} {attempts : Nat} {answer : Except Errno Int}
      (interrupted : (kernel.attemptOpen path).1 = .error .interrupted)
      (rest : Opens path (kernel.attemptOpen path).2 attempts answer after) :
      Opens path kernel (attempts + 1) answer after

/-- The path leads to the object in this place. -/
def Names (kernel : Kernel) (path : Bytes) (place : Nat) (object : FileObject) : Prop :=
  kernel.place? path = some place ∧ kernel.objects[place]? = some object

/-- The kernel in which opening a path is not interrupted any more. -/
def settledAt (kernel : Kernel) (path : Bytes) : Kernel :=
  match kernel.place? path, kernel.named? path with
  | some place, some object => kernel.replaceObject place object.settled
  | _, _ => kernel

theorem Names.named_eq (h : kernel.Names path place object) : kernel.named? path = some object := by
  simp [named?, h.1, h.2]

theorem Names.settledAt_eq (h : kernel.Names path place object) :
    kernel.settledAt path = kernel.replaceObject place object.settled := by
  simp [settledAt, h.1, h.named_eq]

theorem Names.interruptionsAt_eq (h : kernel.Names path place object) :
    kernel.interruptionsAt path = object.interruptions := by
  simp [interruptionsAt, h.named_eq]

theorem Names.replaceObject (h : kernel.Names path place object) (other : FileObject) :
    (kernel.replaceObject place other).Names path place other := by
  obtain ⟨bound, -⟩ := List.getElem?_eq_some_iff.mp h.2
  exact ⟨h.1, by simp [Kernel.replaceObject, bound]⟩

/-- A path leads nowhere, or to an object in a place. -/
theorem named_cases (kernel : Kernel) (path : Bytes) :
    kernel.named? path = none ∨ ∃ place object, kernel.Names path place object := by
  cases place : kernel.place? path with
  | none => exact .inl (by simp [named?, place])
  | some place' =>
      cases object : kernel.objects[place']? with
      | none => exact .inl (by simp [named?, place, object])
      | some object' => exact .inr ⟨place', object', place, object⟩

/-- The number that a search for a free one ends with is not taken. -/
theorem firstFree_not_taken {taken : Int → Bool} {count candidate : Nat} {n : Int}
    (h : firstFree taken count candidate = some n) : taken n = false := by
  induction count generalizing candidate with
  | zero => simp [firstFree] at h
  | succ count ih =>
      simp only [firstFree] at h
      cases occupied : taken candidate with
      | true => exact ih (by simpa [occupied] using h)
      | false =>
          obtain rfl : (candidate : Int) = n := by simpa [occupied] using h
          exact occupied

/-- Giving out a descriptor takes one that was free, or changes nothing. -/
theorem allocate_cases (kernel : Kernel) (place : Nat) :
    kernel.allocate place = (.error .tooManyOpenFiles, kernel) ∨
    ∃ n, kernel.isOpen n = false ∧
      kernel.allocate place =
        (.ok n, { kernel with descriptors := (n, place) :: kernel.descriptors }) := by
  cases free : kernel.freeDescriptor? with
  | none => exact .inl (by simp [allocate, free])
  | some n => exact .inr ⟨n, firstFree_not_taken free, by simp [allocate, free]⟩

/-- Closing the descriptor that was given out last gives back the table. -/
theorem close_allocated {n : Int} (free : kernel.isOpen n = false) (place : Nat) :
    ({ kernel with descriptors := (n, place) :: kernel.descriptors }.close n).2 = kernel := by
  have unlisted : kernel.descriptors.lookup n = none := by
    simpa only [isOpen, Option.isSome_eq_false_iff, Option.isNone_iff_eq_none] using free
  have others : kernel.descriptors.filter (fun entry => entry.1 ≠ n) = kernel.descriptors := by
    apply List.filter_eq_self.mpr
    intro entry listed
    have different : n ≠ entry.1 := by
      simpa using List.lookup_eq_none_iff.mp unlisted entry listed
    simpa using different.symm
  have dropped : ((n, place) :: kernel.descriptors).filter (fun entry => entry.1 ≠ n) =
      kernel.descriptors := by
    rw [List.filter_cons_of_neg (by simp), others]
  have opened :
      { kernel with descriptors := (n, place) :: kernel.descriptors }.isOpen n = true := by
    simp [isOpen]
  rw [close, if_pos opened, release, dropped]

theorem attemptOpen_of_unknown (unknown : kernel.named? path = none) :
    kernel.attemptOpen path = (.error .noSuchFile, kernel) := by
  cases place : kernel.place? path with
  | none => simp [attemptOpen, place]
  | some n =>
      have missing : kernel.objects[n]? = none := by simpa [named?, place] using unknown
      simp [attemptOpen, place, missing]

/-- An attempt on a path that is still to be interrupted only counts the interruption. -/
theorem Names.attemptOpen_of_pending (h : kernel.Names path place object)
    (pending : object.interruptions ≠ 0) :
    kernel.attemptOpen path =
      (.error .interrupted, kernel.replaceObject place object.countDown) := by
  simp [attemptOpen, h.1, h.2, pending]

/-- An attempt that is not interrupted on the way meets the failure of the object itself before it
asks for a descriptor. -/
theorem Names.attemptOpen_of_settled (h : kernel.Names path place object)
    (settled : object.interruptions = 0) :
    kernel.attemptOpen path =
      match object.openFailure with
      | some e => (.error e, kernel)
      | none => kernel.allocate place := by
  cases failure : object.openFailure <;> simp [attemptOpen, h.1, h.2, settled, failure]

/-- An attempt that is not interrupted on the way fails and changes nothing, or takes a free
descriptor. -/
theorem attemptOpen_cases (settled : kernel.interruptionsAt path = 0) :
    (∃ e, kernel.attemptOpen path = (.error e, kernel)) ∨
    ∃ n place, kernel.isOpen n = false ∧
      kernel.attemptOpen path =
        (.ok n, { kernel with descriptors := (n, place) :: kernel.descriptors }) := by
  obtain unknown | ⟨place, object, names⟩ := named_cases kernel path
  · exact .inl ⟨_, attemptOpen_of_unknown unknown⟩
  · rw [names.attemptOpen_of_settled (names.interruptionsAt_eq.symm.trans settled)]
    cases object.openFailure with
    | some e => exact .inl ⟨e, rfl⟩
    | none =>
        obtain failed | ⟨n, free, taken⟩ := allocate_cases kernel place
        · exact .inl ⟨_, failed⟩
        · exact .inr ⟨n, place, free, taken⟩

theorem settledAt_of_unknown (unknown : kernel.named? path = none) :
    kernel.settledAt path = kernel := by
  cases place : kernel.place? path <;> simp [settledAt, unknown, place]

theorem settledAt_of_uninterrupted (settled : kernel.interruptionsAt path = 0) :
    kernel.settledAt path = kernel := by
  obtain unknown | ⟨place, object, names⟩ := named_cases kernel path
  · exact settledAt_of_unknown unknown
  · have none_left : object.interruptions = 0 := names.interruptionsAt_eq.symm.trans settled
    have same : object.settled = object := by
      simp [FileObject.settled, ← none_left]
    rw [names.settledAt_eq, same, replaceObject]
    obtain ⟨bound, found⟩ := List.getElem?_eq_some_iff.mp names.2
    simp [← found]

/-- The attempt that ends the opening of a path: the first one that is not interrupted on the
way. -/
def lastAttempt (kernel : Kernel) (path : Bytes) : Except Errno Int × Kernel :=
  (kernel.settledAt path).attemptOpen path

theorem lastAttempt_of_uninterrupted (settled : kernel.interruptionsAt path = 0) :
    kernel.lastAttempt path = kernel.attemptOpen path := by
  rw [lastAttempt, settledAt_of_uninterrupted settled]

/-- An interrupted attempt leaves one interruption less and the same last attempt. -/
theorem attemptOpen_of_pending {n : Nat} (pending : kernel.interruptionsAt path = n + 1) :
    (kernel.attemptOpen path).1 = .error .interrupted ∧
      (kernel.attemptOpen path).2.interruptionsAt path = n ∧
      (kernel.attemptOpen path).2.lastAttempt path = kernel.lastAttempt path := by
  obtain unknown | ⟨place, object, names⟩ := named_cases kernel path
  · simp [interruptionsAt, unknown] at pending
  · have count : object.interruptions = n + 1 := names.interruptionsAt_eq.symm.trans pending
    have counted := names.replaceObject object.countDown
    rw [names.attemptOpen_of_pending (by omega)]
    refine ⟨rfl, ?_, ?_⟩
    · rw [counted.interruptionsAt_eq]
      simp [FileObject.countDown, count]
    · rw [lastAttempt, lastAttempt, counted.settledAt_eq, names.settledAt_eq]
      simp [replaceObject, FileObject.settled, FileObject.countDown]

/-- After all interruptions have been waited for, none is left. -/
theorem interruptionsAt_settledAt (kernel : Kernel) (path : Bytes) :
    (kernel.settledAt path).interruptionsAt path = 0 := by
  obtain unknown | ⟨place, object, names⟩ := named_cases kernel path
  · simp [settledAt_of_unknown unknown, interruptionsAt, unknown]
  · rw [names.settledAt_eq, (names.replaceObject object.settled).interruptionsAt_eq]
    rfl

/-- The last attempt on a path with an object meets the failure of that object, or asks for a
descriptor. -/
theorem Names.lastAttempt_eq (h : kernel.Names path place object) :
    kernel.lastAttempt path =
      match object.openFailure with
      | some e => (.error e, kernel.settledAt path)
      | none => (kernel.settledAt path).allocate place := by
  rw [lastAttempt, h.settledAt_eq]
  exact (h.replaceObject object.settled).attemptOpen_of_settled rfl

theorem lastAttempt_of_unknown (unknown : kernel.named? path = none) :
    kernel.lastAttempt path = (.error .noSuchFile, kernel) := by
  have settled : kernel.interruptionsAt path = 0 := by simp [interruptionsAt, unknown]
  rw [lastAttempt_of_uninterrupted settled, attemptOpen_of_unknown unknown]

/-- The last attempt does not meet one more interruption. -/
theorem lastAttempt_ne_interrupted (kernel : Kernel) (path : Bytes) :
    (kernel.lastAttempt path).1 ≠ .error .interrupted := by
  obtain unknown | ⟨place, object, names⟩ := named_cases kernel path
  · simp [lastAttempt_of_unknown unknown, Errno.noSuchFile, Errno.interrupted]
  · have failure := object.openFailure_ne_interrupted
    rw [names.lastAttempt_eq]
    cases own : object.openFailure with
    | some e => simpa [own] using failure
    | none =>
        obtain full | ⟨n, -, given⟩ := allocate_cases (kernel.settledAt path) place
        · simp [full, Errno.tooManyOpenFiles, Errno.interrupted]
        · simp [given]

/-- Every opening comes to an end, and ends with the last attempt. -/
theorem opens_lastAttempt (kernel : Kernel) (path : Bytes) :
    Opens path kernel (kernel.interruptionsAt path + 1) (kernel.lastAttempt path).1
      (kernel.lastAttempt path).2 := by
  generalize pending : kernel.interruptionsAt path = n
  induction n generalizing kernel with
  | zero =>
      have final := lastAttempt_ne_interrupted kernel path
      rw [lastAttempt_of_uninterrupted pending] at final ⊢
      exact .answered final
  | succ n ih =>
      obtain ⟨interrupted, fewer, last⟩ := attemptOpen_of_pending pending
      rw [← last]
      exact .again interrupted (ih _ fewer)

/-- An opening makes one attempt more than there are interruptions to come. -/
theorem Opens.eq_lastAttempt {attempts : Nat} {answer : Except Errno Int}
    (opens : kernel.Opens path attempts answer after) :
    attempts = kernel.interruptionsAt path + 1 ∧ kernel.lastAttempt path = (answer, after) := by
  induction opens with
  | @answered kernel final =>
      cases pending : kernel.interruptionsAt path with
      | zero => exact ⟨rfl, lastAttempt_of_uninterrupted pending⟩
      | succ n => exact absurd (attemptOpen_of_pending pending).1 final
  | @again kernel after attempts answer interrupted rest ih =>
      cases pending : kernel.interruptionsAt path with
      | zero =>
          -- With nothing left to wait for this attempt is the last one.
          have final := lastAttempt_ne_interrupted kernel path
          rw [lastAttempt_of_uninterrupted pending] at final
          exact absurd interrupted final
      | succ n =>
          obtain ⟨-, fewer, last⟩ := attemptOpen_of_pending pending
          rw [fewer, last] at ih
          exact ⟨by rw [ih.1], ih.2⟩

end Kernel

namespace Action

variable (threshold : Threshold) {kernel : Kernel} {path : Bytes}

/-- The bound on the attempts never cuts an opening short. -/
theorem run_openRetrying {retries : Nat} (bound : kernel.interruptionsAt path = retries) :
    (openRetrying path retries).run threshold kernel =
      ⟨(kernel.lastAttempt path).1,
        List.replicate (retries + 1) (.call (.opening path Call.openFlags)),
        (kernel.lastAttempt path).2⟩ := by
  induction retries generalizing kernel with
  | zero => simp [openRetrying, Kernel.lastAttempt_of_uninterrupted bound]
  | succ retries ih =>
      obtain ⟨interrupted, fewer, last⟩ := Kernel.attemptOpen_of_pending bound
      simp [openRetrying, interrupted, ih fewer, last, List.replicate_succ]

theorem run_openPath_of_null (null : 0 ∈ path) :
    (openPath path).run threshold kernel = ⟨.error .nullInPath, [], kernel⟩ := by
  simp [openPath, null]

/-- Opening a path waits for all interruptions to come and then makes the last attempt. -/
theorem run_openPath (noNull : 0 ∉ path) :
    (openPath path).run threshold kernel =
      ⟨(kernel.lastAttempt path).1.mapError .os,
        List.replicate (kernel.interruptionsAt path + 1) (.call (.opening path Call.openFlags)),
        (kernel.lastAttempt path).2⟩ := by
  simp [openPath, noNull, run_openRetrying threshold rfl]

end Action

end BlockExtent
