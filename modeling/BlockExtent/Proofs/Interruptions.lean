import BlockExtent.Proofs.Erasure
import BlockExtent.Proofs.Reached
import BlockExtent.Proofs.Treatment

/-!
# Interruptions cannot be told from the answers

An opening that is interrupted is repeated until it is not, so interruptions show in the requests
of a step and nowhere else. Two kernels that differ in interruptions alone give the same answers and
records to any steps that wait for interruptions, and the command the same report.

## Implementation notes

The relation between two runs is `SameButInterruptions`, and every step keeps it. After a step on a
path the two kernels agree at that path, so a later step is not interrupted again.
-/

namespace BlockExtent

namespace Kernel

variable {kernel other after : Kernel} {path : Bytes} {attempts : Nat}
variable {answer : Except Errno Int}

theorem opens_iff :
    kernel.Opens path attempts answer after ↔
      attempts = kernel.interruptionsAt path + 1 ∧ kernel.lastAttempt path = (answer, after) := by
  constructor
  · exact Opens.eq_lastAttempt
  · rintro ⟨rfl, last⟩
    have opens := kernel.opens_lastAttempt path
    rwa [last] at opens

/-- Interruptions make an opening longer and change nothing else of it. -/
theorem opens_iff_settledAt :
    kernel.Opens path attempts answer after ↔
      attempts = kernel.interruptionsAt path + 1 ∧
        (kernel.settledAt path).Opens path 1 answer after := by
  have settled := kernel.interruptionsAt_settledAt path
  have last : (kernel.settledAt path).lastAttempt path = kernel.lastAttempt path :=
    lastAttempt_of_uninterrupted settled
  simp only [opens_iff, settled, last, true_and]

section Congruence

variable (same : kernel.SameButInterruptions other)

include same

theorem SameButInterruptions.allocate (place : Nat) :
    (other.allocate place).1 = (kernel.allocate place).1 ∧
      (kernel.allocate place).2.SameButInterruptions (other.allocate place).2 := by
  rw [Kernel.allocate, Kernel.allocate, same.freeDescriptor]
  cases kernel.freeDescriptor? with
  | none => exact ⟨rfl, same⟩
  | some n =>
      refine ⟨rfl, ?_⟩
      rw [same.descriptors]
      exact same.withDescriptors _

theorem SameButInterruptions.duplicate (n : Int) :
    (other.duplicate n).1 = (kernel.duplicate n).1 ∧
      (kernel.duplicate n).2.SameButInterruptions (other.duplicate n).2 := by
  rw [Kernel.duplicate, Kernel.duplicate, same.descriptors]
  cases kernel.descriptors.lookup n with
  | none => exact ⟨rfl, same⟩
  | some place => exact same.allocate place

theorem SameButInterruptions.link (path : Bytes) (object : FileObject) :
    (kernel.link path object).SameButInterruptions (other.link path object) := by
  have count : other.objects.length = kernel.objects.length := by
    simpa using congrArg List.length same.objects
  rw [Kernel.link, Kernel.link, same.place]
  cases kernel.place? path with
  | some place =>
      refine ⟨same.descriptors, same.paths, ?_, same.firstDescriptor, same.descriptorLimit,
        same.user, same.effectiveUser⟩
      simp only [replaceObject, List.map_set, same.objects]
  | none =>
      refine ⟨same.descriptors, ?_, ?_, same.firstDescriptor, same.descriptorLimit, same.user,
        same.effectiveUser⟩
      · simp only [same.paths, count]
      · simp only [List.map_append, same.objects]

theorem SameButInterruptions.unlink (path : Bytes) :
    (other.unlink path).1 = (kernel.unlink path).1 ∧
      (kernel.unlink path).2.SameButInterruptions (other.unlink path).2 := by
  rw [Kernel.unlink, Kernel.unlink, same.place]
  cases kernel.place? path with
  | none => exact ⟨rfl, same⟩
  | some place =>
      exact ⟨rfl, same.descriptors, by simp only [same.paths], same.objects,
        same.firstDescriptor, same.descriptorLimit, same.user, same.effectiveUser⟩

end Congruence

end Kernel

/-- The bounded attempts of an action are those of an opening without a bound. -/
theorem Action.run_openPath_of_opens (threshold : Threshold) {kernel after : Kernel}
    {path : Bytes} {attempts : Nat} {answer : Except Errno Int} (noNull : 0 ∉ path)
    (opens : kernel.Opens path attempts answer after) :
    (openPath path).run threshold kernel =
      ⟨answer.mapError .os, List.replicate attempts (.call (.opening path Call.openFlags)),
        after⟩ := by
  obtain ⟨rfl, last⟩ := opens.eq_lastAttempt
  rw [run_openPath threshold noNull, last]

namespace Step

/-- A step that waits for interruptions wherever it opens a path. The attempt from outside is a
single one and does not wait. -/
def Waits : Step → Prop
  | .openFile _ => False
  | _ => True

/-- A step of the library is an operation on a handle or an inquiry about a descriptor. -/
theorem operation_or_inquiry {step : Step} (ofLibrary : step.OfLibrary) :
    (∃ operation : Operation, ∃ handle, step = operation.on handle) ∨
      ∃ inquiry n, step = Inquiry.about n inquiry := by
  obtain ⟨handle, h⟩ := ofLibrary
  cases step <;> cases h
  case classify => exact .inl ⟨.classify, handle, rfl⟩
  case deviceLength => exact .inl ⟨.deviceLength, handle, rfl⟩
  case inspect => exact .inl ⟨.inspect, handle, rfl⟩
  case inspectWith options => exact .inl ⟨.inspectWith options, handle, rfl⟩
  all_goals exact .inr (Inquiry.exists_eq_about ⟨_, _, rfl, .inl rfl⟩)

end Step

namespace Session

/-- Two sessions under one threshold on kernels that differ in interruptions alone. -/
structure SameButInterruptions (session other : Session) : Prop where
  threshold : other.threshold = session.threshold
  kernel : session.kernel.SameButInterruptions other.kernel

section Congruence

variable {session other : Session} (same : session.SameButInterruptions other)

include same

theorem operation_congr (operation : Operation) (handle : Handle) :
    let here := session.step (operation.on handle)
    let there := other.step (operation.on handle)
    there.1.answer = here.1.answer ∧ there.1.records = here.1.records := by
  obtain ⟨answers, writes⟩ := operation.run_onHandle session.threshold session.kernel handle
  obtain ⟨answers', writes'⟩ := operation.run_onHandle session.threshold other.kernel handle
  rw [Handle.reached_congr same.kernel] at answers' writes'
  simp only [Operation.step_on, perform, Traced.records_eq, same.threshold]
  rw [answers', writes', answers, writes]
  exact ⟨rfl, rfl⟩

theorem inquiry_congr (inquiry : Inquiry) (n : Int) :
    let here := session.step (inquiry.about n)
    let there := other.step (inquiry.about n)
    there.1.answer = here.1.answer ∧ there.1.records = here.1.records := by
  simp only [step_about, same.kernel.status, same.kernel.sizeReply, same.threshold, and_self]

/-- A step that waits keeps the relation, and answers and logs the same on both sides. -/
theorem step_congr {step : Step} (waits : step.Waits) :
    let here := session.step step
    let there := other.step step
    there.1.answer = here.1.answer ∧ there.1.records = here.1.records ∧
      here.2.SameButInterruptions there.2 := by
  intro here there
  -- A step of the library waits in each kernel for other interruptions; the others wait for none.
  cases h : step.handle? with
  | some handle =>
      have entries : there.1.answer = here.1.answer ∧ there.1.records = here.1.records := by
        obtain ⟨operation, handle, rfl⟩ | ⟨inquiry, n, rfl⟩ :=
          Step.operation_or_inquiry ⟨handle, h⟩
        · exact operation_congr same operation handle
        · exact inquiry_congr same inquiry n
      refine ⟨entries.1, entries.2, ?_, ?_⟩
      · simp only [here, there, step_settles _ h, same.threshold]
      · exact ((step_sameButInterruptions session h).symm.trans same.kernel).trans
          (step_sameButInterruptions other h)
  | none =>
      cases step with
      | openFile path => exact waits.elim
      | duplicate n =>
          obtain ⟨answer, kernels⟩ := same.kernel.duplicate n
          exact ⟨congrArg Answer.ofDescriptor answer, rfl, same.threshold, kernels⟩
      | close n =>
          obtain ⟨answer, kernels⟩ := same.kernel.close n
          exact ⟨congrArg Answer.ofUnit answer, rfl, same.threshold, kernels⟩
      | link path object => exact ⟨rfl, rfl, same.threshold, same.kernel.link path object⟩
      | unlink path =>
          obtain ⟨answer, kernels⟩ := same.kernel.unlink path
          exact ⟨congrArg Answer.ofUnit answer, rfl, same.threshold, kernels⟩
      | setThreshold threshold => exact ⟨rfl, rfl, rfl, same.kernel⟩
      | _ => cases h

/-- Steps that wait leave the same answers and the same records on both sides. -/
theorem entries_congr {steps : List Step} (waits : ∀ step ∈ steps, step.Waits) :
    (other.entries steps).map Entry.answer = (session.entries steps).map Entry.answer ∧
      (other.entries steps).map Entry.records = (session.entries steps).map Entry.records := by
  -- After each step the sessions are others, but they still differ in interruptions alone.
  induction steps generalizing session other with
  | nil => exact ⟨rfl, rfl⟩
  | cons step rest ih =>
      obtain ⟨answer, records, next⟩ := step_congr same (waits step List.mem_cons_self)
      obtain ⟨answers, allRecords⟩ := ih next fun s later => waits s (List.mem_cons_of_mem _ later)
      simp [answer, records, answers, allRecords]

end Congruence

end Session

namespace Command

variable {facilities : Facilities} (steady : Backing.Steady facilities.lookup)
variable (escalates : Escalates facilities.escalate)
variable {kernel other : Kernel} (same : kernel.SameButInterruptions other)

include escalates same

theorem privilegeRecords_congr (arguments : Arguments) :
    privilegeRecords facilities arguments other = privilegeRecords facilities arguments kernel := by
  rw [privilegeRecords, privilegeRecords, Traced.records_eq, Traced.records_eq,
    (escalates.congr same (.upTo .trace)).2]

include steady

theorem reportOf_congr (arguments : Arguments) :
    reportOf facilities arguments other = reportOf facilities arguments kernel := by
  have outcomes : outcome arguments other = outcome arguments kernel :=
    funext (outcome_congr same arguments)
  have complaints :
      complaintsOn facilities arguments other = complaintsOn facilities arguments kernel := by
    funext path
    rw [complaintsOn, complaintsOn, treated_congr same steady]
  rw [reportOf, reportOf, outcomes, complaints, privilegeRecords_congr escalates same]

/-- The command reports the same on kernels that differ in interruptions alone. -/
theorem run_congr (list : List Bytes) : run facilities other list = run facilities kernel list := by
  cases accepted : facilities.read list with
  | error stop => cases stop <;> simp only [run, accepted]
  | ok arguments =>
      by_cases rights : arguments.escalate = true → kernel.effectiveUser = 0
      · have rightsToo := same.effectiveUser ▸ rights
        rw [run_of_read accepted steady (escalates.grants rights),
          run_of_read accepted steady (escalates.grants rightsToo),
          reportOf_congr steady escalates same]
      · -- Without the rights that it asks for, the command does not look at any path.
        obtain ⟨asked, ordinary⟩ := Classical.not_imp.mp rights
        obtain ⟨⟨e, denied⟩, -⟩ := escalates.denied (threshold arguments.verbosity) ordinary
        obtain ⟨value, written⟩ := escalates.congr same (threshold arguments.verbosity)
        rw [run_of_denied accepted asked denied,
          run_of_denied accepted asked (value.trans denied)]
        simp only [Traced.output_eq, Traced.complaints_eq, written]

end Command

namespace Session

variable (session : Session) (operation : Operation) {handle : Handle} {path : Bytes}

theorem step_onPath_settles (given : handle.OnPath path) (noNull : 0 ∉ path) :
    (session.step (operation.on handle)).2 =
      { session with kernel := session.kernel.settledAt path } := by
  have h : (operation.on handle).handle? = some handle := by cases operation <;> rfl
  rw [step_settles session h]
  obtain rfl | rfl := given <;> simp [Handle.settled, noNull]

/-- A step on a path makes the requests that it would make with nothing left to wait for, after an
attempt for each interruption. -/
theorem step_onPath_calls (given : handle.OnPath path) (noNull : 0 ∉ path) :
    (session.step (operation.on handle)).1.calls =
      List.replicate (session.kernel.interruptionsAt path) (.opening path Call.openFlags) ++
        ({ session with kernel := session.kernel.settledAt path }.step
          (operation.on handle)).1.calls := by
  have again := Inspection.run_throughPath_settledAt session.threshold session.kernel path
    operation.body noNull
  simp only [Operation.step_on, given.withDescriptor_eq, perform, Traced.calls, again.2.2,
    List.filterMap_append, List.filterMap_replicate, Event.call?_call]

/-- On every kernel and whatever follows the interruptions, a step on a path answers and logs as if
nothing were left to wait for. Opening the path comes to an end; it takes one attempt more for each
interruption and is the same otherwise. These attempts are the first requests of the step, the
others are those that it makes without interruptions, and none is left to wait for after it; a path
with a null byte is not asked for at all. So steps that wait leave the same answers and records on
kernels that differ in interruptions alone, however often they come to the same path, and the
command leaves the same report, whoever searches for devices and takes up rights for it. -/
theorem answers_despite_interruptions (given : handle.OnPath path) :
    let pending := session.kernel.interruptionsAt path
    let calm : Session := { session with kernel := session.kernel.settledAt path }
    let here := session.step (operation.on handle)
    let there := calm.step (operation.on handle)
    (session.SameButInterruptions calm ∧ calm.kernel.interruptionsAt path = 0) ∧
    (∃ attempts answer after, session.kernel.Opens path attempts answer after) ∧
    (∀ attempts answer after, session.kernel.Opens path attempts answer after ↔
      attempts = pending + 1 ∧ calm.kernel.Opens path 1 answer after) ∧
    (here.1.answer = there.1.answer ∧ here.1.records = there.1.records) ∧
    (0 ∉ path →
      (∀ attempts answer after, session.kernel.Opens path attempts answer after →
        (Action.openPath path).run session.threshold session.kernel =
          ⟨answer.mapError .os, List.replicate attempts (.call (.opening path Call.openFlags)),
            after⟩) ∧
      here.1.calls = List.replicate pending (.opening path Call.openFlags) ++ there.1.calls ∧
        here.2 = calm ∧ there.2 = calm) ∧
    (0 ∈ path → here.1.calls = [] ∧ here.2 = session) ∧
    ∀ other, session.SameButInterruptions other →
      (∀ steps, (∀ step ∈ steps, Step.Waits step) →
        (other.entries steps).map Entry.answer = (session.entries steps).map Entry.answer ∧
        (other.entries steps).map Entry.records = (session.entries steps).map Entry.records) ∧
      ∀ facilities, Backing.Steady facilities.lookup → Command.Escalates facilities.escalate →
        ∀ list, Command.run facilities other.kernel list =
          Command.run facilities session.kernel list := by
  intro pending calm here there
  have same : session.SameButInterruptions calm :=
    ⟨rfl, session.kernel.sameButInterruptions_settledAt path⟩
  have settled : calm.kernel.interruptionsAt path = 0 :=
    session.kernel.interruptionsAt_settledAt path
  refine ⟨⟨same, settled⟩, ⟨_, _, _, session.kernel.opens_lastAttempt path⟩,
    fun _ _ _ => Kernel.opens_iff_settledAt, ?_, ?_, ?_, ?_⟩
  · obtain ⟨answer, records⟩ := operation_congr same operation handle
    exact ⟨answer.symm, records.symm⟩
  · intro noNull
    refine ⟨fun _ _ _ => Action.run_openPath_of_opens session.threshold noNull,
      step_onPath_calls session operation given noNull,
      step_onPath_settles session operation given noNull, ?_⟩
    have idle : calm.kernel.settledAt path = calm.kernel :=
      Kernel.settledAt_of_uninterrupted settled
    have after := step_onPath_settles calm operation given noNull
    rwa [idle] at after
  · intro null
    have entry := step_onPath_of_null session operation given null
    exact ⟨congrArg (·.1.calls) entry, congrArg Prod.snd entry⟩
  · intro other alike
    refine ⟨fun steps => entries_congr alike, ?_⟩
    intro facilities steady escalates list
    exact Command.run_congr steady escalates alike.kernel list

/-- A disk that interrupts three attempts, inspected through its path and given twice to the
command: the attempts are seen in the requests, and not in the report. -/
theorem answers_despite_three_interruptions :
    let disk : FileObject := { mode := 0o060660, sizeReply := .answered 0 (some 512) (by decide) }
    let session := start (.naming [0x64] { disk with interruptions := 3 })
    (Handle.pathBuffer [0x64]).OnPath [0x64] ∧
      (session.step (Operation.inspect.on (.pathBuffer [0x64]))).1.calls =
        List.replicate 3 (.opening [0x64] 0o2000000) ++
          [.opening [0x64] 0o2000000, .status 3, .sizeRequest 3 0x80081272, .closing 3] ∧
      Command.run .standard session.kernel [[0x64], [0x64]] =
        ⟨0, ["d: block device, 512 bytes", "d: block device, 512 bytes"], []⟩ := by
  intro disk session
  have given : (Handle.pathBuffer [0x64]).OnPath [0x64] := .inr rfl
  obtain ⟨-, -, -, -, asked, -, alike⟩ :=
    answers_despite_interruptions session .inspect given
  have same : session.SameButInterruptions (start (.naming [0x64] disk)) :=
    ⟨rfl, rfl, rfl, rfl, rfl, rfl, rfl, rfl⟩
  refine ⟨given, (asked (by decide)).2.1.trans (by decide), ?_⟩
  exact ((alike _ same).2 .standard Backing.steady_lookup Command.escalates_escalate _).symm.trans
    (by decide)

end Session

end BlockExtent
