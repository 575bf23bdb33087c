import BlockExtent.Proofs.Causes
import BlockExtent.Proofs.Interruptions
import Mathlib.Algebra.GroupWithZero.Nat

/-!
# Requests are made once, and only when they are needed

A step asks about the object behind a descriptor by a status request, by a size request, or by one
after the other. Which of them it makes is decided by what is asked and by the reply to the status
request, and neither is ever made again. So over a run the inspections make as many size requests
as they find block devices.

## Implementation notes

A step on a path asks in between opening and closing. What it asks is what an inquiry about the
opened descriptor asks, so each step of the library is described once, by its inquiry and by what
its handle leads to.
-/

namespace BlockExtent

namespace Call

/-- Whether a request is for the status of an object. -/
def isStatus : Call → Bool
  | .status _ => true
  | _ => false

/-- Whether a request is for the size of an object as a block device. -/
def isSizeRequest : Call → Bool
  | .sizeRequest .. => true
  | _ => false

/-- Whether a request asks about the object behind a descriptor, and neither opens nor closes. -/
def asks (call : Call) : Bool :=
  call.isStatus || call.isSizeRequest

/-- The code of a control request that reads an answer of some bytes: two bits for the direction,
fourteen for the size of the answer, eight for the driver and eight for the request. -/
def readRequestCode (driver request bytes : Nat) : Nat :=
  2 <<< 30 ||| bytes <<< 16 ||| driver <<< 8 ||| request

end Call

namespace Handle

variable {handle : Handle} {kernel during : Kernel} {n : Int}

/-- What a handle leads to is learnt through it. -/
theorem Leads.reached (leads : handle.Leads kernel n during) :
    ∃ content, handle.reached kernel = .ok ⟨n, during.status n, during.sizeReply n, content⟩ := by
  cases leads with
  | given on => exact ⟨_, on.reached_eq⟩
  | @opened path _ _ _ on noNull opens =>
      have last := opens.eq_lastAttempt.2
      obtain ⟨e, -, failed⟩ | ⟨m, place, object, -, -, opened, got⟩ :=
        kernel.opened_cases noNull
      · rw [last] at failed
        cases failed
      · obtain ⟨-, -, shows⟩ := Kernel.shows_of_opened opened
        have number : m = n := by
          rw [last] at got
          exact (Except.ok.inj (congrArg Prod.fst got)).symm
        have moment : kernel.whileOpen path = during := congrArg Prod.snd last
        have status := shows.status
        have sizeReply := shows.sizeReply
        simp only [moment, number] at status sizeReply
        refine ⟨object.content, ?_⟩
        rw [on.reached_eq, opened, number, ← status, ← sizeReply]
        rfl

/-- What is learnt through a handle is what it leads to. -/
theorem leads_of_reached {opening : Opened} (reached : handle.reached kernel = .ok opening) :
    ∃ during, handle.Leads kernel opening.descriptor during ∧
      during.status opening.descriptor = opening.status ∧
      during.sizeReply opening.descriptor = opening.sizeReply := by
  obtain ⟨n, on⟩ | ⟨path, on⟩ := handle.onDescriptor_or_onPath
  · rw [on.reached_eq] at reached
    obtain rfl := Except.ok.inj reached
    exact ⟨kernel, .given on, rfl, rfl⟩
  · rw [on.reached_eq] at reached
    cases opens : kernel.opened path with
    | error e =>
        rw [opens] at reached
        cases reached
    | ok found =>
        rw [opens] at reached
        obtain rfl : found = opening := Except.ok.inj reached
        obtain ⟨noNull, answer, shows⟩ := Kernel.shows_of_opened opens
        have last := kernel.opens_lastAttempt path
        rw [answer] at last
        exact ⟨_, .opened on noNull last, shows.status, shows.sizeReply⟩

/-- A lent descriptor leads to itself, on the kernel as it is. -/
theorem Leads.eq_of_borrowed {m : Int} (leads : (Handle.borrowed m).Leads kernel n during) :
    n = m ∧ during = kernel := by
  cases leads with
  | given on =>
      obtain same | other := on
      · cases same
        exact ⟨rfl, rfl⟩
      · cases other
  | opened on noNull opens => obtain other | other := on <;> cases other

end Handle

/-- A handle leads to a descriptor, or its path fails to open. -/
theorem Handle.leads_or_unopened (handle : Handle) (kernel : Kernel) :
    (∃ n during, handle.Leads kernel n during) ∨
      ∃ path cause, handle.reached kernel = .error (.opening path cause) := by
  cases reached : handle.reached kernel with
  | ok opening =>
      obtain ⟨during, leads, -⟩ := leads_of_reached reached
      exact .inl ⟨opening.descriptor, during, leads⟩
  | error e =>
      obtain ⟨path, cause, rfl⟩ := opening_of_reached reached
      exact .inr ⟨path, cause, rfl⟩

namespace Action

/-- Opening a path asks nothing about any object. -/
theorem openPath_asked (threshold : Threshold) (kernel : Kernel) (path : Bytes) :
    ((openPath path).run threshold kernel).calls.filter Call.asks = [] := by
  by_cases null : 0 ∈ path
  · simp [run_openPath_of_null threshold null]
  · simp [run_openPath threshold null, List.filterMap_replicate, Call.asks, Call.isStatus,
      Call.isSizeRequest]

end Action

namespace Handle

variable {α : Type} {handle : Handle} {kernel during : Kernel} {n : Int}
variable (body : Int → Action (Except InspectError α)) (threshold : Threshold)

/-- What an action asks through a handle, it asks on the descriptor that the handle leads to. -/
theorem Leads.asked (leads : handle.Leads kernel n during) :
    ((handle.withDescriptor body).run threshold kernel).calls.filter Call.asks =
      ((body n).run threshold during).calls.filter Call.asks := by
  cases leads with
  | given on => rw [on.withDescriptor_eq]
  | opened on noNull opens =>
      rw [on.withDescriptor_eq, Inspection.run_throughPath_of_ok threshold body noNull opens]
      simp [Traced.calls, List.filterMap_replicate, Call.asks, Call.isStatus, Call.isSizeRequest]

/-- Through a handle that leads nowhere nothing is asked. -/
theorem asked_of_unopened {e : InspectError} (failed : handle.reached kernel = .error e) :
    ((handle.withDescriptor body).run threshold kernel).calls.filter Call.asks = [] := by
  obtain ⟨n, on⟩ | ⟨path, on⟩ := handle.onDescriptor_or_onPath
  · rw [on.reached_eq] at failed
    cases failed
  · rw [on.reached_eq] at failed
    rw [on.withDescriptor_eq, Inspection.throughPath, Action.calls_bind, Action.openPath_value,
      List.filter_append, Action.openPath_asked]
    cases opens : kernel.opened path with
    | error cause => rfl
    | ok opening =>
        rw [opens] at failed
        cases failed

end Handle

/-- What a step of the library asks about a descriptor, however it comes by the descriptor. -/
def Step.inquiry? : Step → Option Inquiry
  | .classify _ => some (.lent .classify)
  | .classifyDescriptor _ => some .kind
  | .deviceLength _ => some (.lent .deviceLength)
  | .descriptorLength _ => some .length
  | .inspect _ => some (.lent .inspect)
  | .inspectWith _ options => some (.lent (.inspectWith options))
  | .codes _ => some .codes
  | .isBlockDevice _ errno => some (.isBlockDevice errno)
  | .blockDeviceLength _ errno => some (.blockDeviceLength errno)
  | .openFile _ | .duplicate _ | .close _ | .link _ _ | .unlink _ | .setThreshold _ => none

/-- A step of the library is an operation on its handle, or it asks about the descriptor that its
handle lends. -/
theorem Step.inquiry_cases {step : Step} {handle : Handle} (h : step.handle? = some handle) :
    ∃ inquiry, step.inquiry? = some inquiry ∧
      ((∃ operation, inquiry = .lent operation ∧ step = operation.on handle) ∨
        ∃ n, handle = .borrowed n ∧ step = inquiry.about n) := by
  cases step <;> cases h
  case classify => exact ⟨_, rfl, .inl ⟨.classify, rfl, rfl⟩⟩
  case deviceLength => exact ⟨_, rfl, .inl ⟨.deviceLength, rfl, rfl⟩⟩
  case inspect => exact ⟨_, rfl, .inl ⟨.inspect, rfl, rfl⟩⟩
  case inspectWith options => exact ⟨_, rfl, .inl ⟨.inspectWith options, rfl, rfl⟩⟩
  all_goals exact ⟨_, rfl, .inr ⟨_, rfl, rfl⟩⟩

namespace Inquiry

variable (inquiry : Inquiry) (n : Int) (statusReply : Except Errno FileStatus)

/-- An inquiry makes one of the two requests, or the one for the status and then the other. -/
theorem calls_cases :
    inquiry.calls n statusReply = [.status n] ∨
      inquiry.calls n statusReply = [.sizeRequest n Call.sizeRequestCode] ∨
      inquiry.calls n statusReply = [.status n, .sizeRequest n Call.sizeRequestCode] := by
  have extent : Inspection.extentCalls n statusReply = [.status n] ∨
      Inspection.extentCalls n statusReply = [.sizeRequest n Call.sizeRequestCode] ∨
      Inspection.extentCalls n statusReply = [.status n, .sizeRequest n Call.sizeRequestCode] := by
    rw [Inspection.extentCalls]
    split
    · exact .inr (.inr rfl)
    · exact .inl rfl
  cases inquiry with
  | lent operation | owned operation =>
      cases operation with
      | classify => exact .inl rfl
      | deviceLength => exact .inr (.inl rfl)
      | inspect => exact extent
      | inspectWith options => exact extent
  | kind => exact .inl rfl
  | length => exact .inr (.inl rfl)
  | codes => exact .inr (.inr rfl)
  | isBlockDevice errno => exact .inl rfl
  | blockDeviceLength errno => exact .inr (.inl rfl)

theorem calls_filter_asks :
    (inquiry.calls n statusReply).filter Call.asks = inquiry.calls n statusReply := by
  obtain only | only | both := inquiry.calls_cases n statusReply
  · rw [only]
    rfl
  · rw [only]
    rfl
  · rw [both]
    rfl

/-- An inquiry makes either request at most once. -/
theorem calls_once :
    (inquiry.calls n statusReply).countP Call.isStatus ≤ 1 ∧
      (inquiry.calls n statusReply).countP Call.isSizeRequest ≤ 1 := by
  obtain only | only | both := inquiry.calls_cases n statusReply
  · rw [only]
    exact ⟨Nat.le_refl 1, Nat.zero_le 1⟩
  · rw [only]
    exact ⟨Nat.zero_le 1, Nat.le_refl 1⟩
  · rw [both]
    exact ⟨Nat.le_refl 1, Nat.le_refl 1⟩

end Inquiry

namespace Session

variable (session : Session) {step : Step} {handle : Handle} {inquiry : Inquiry}
variable {during : Kernel} {n : Int}

/-- An operation on a handle answers, records and asks as an inquiry about the descriptor that the
handle leads to. -/
theorem operation_of_leads (operation : Operation)
    (leads : handle.Leads session.kernel n during) :
    let entry := (session.step (operation.on handle)).1
    let inquiry := Inquiry.lent operation
    entry.answer = inquiry.answer (during.status n) (during.sizeReply n) ∧
      entry.records =
        (inquiry.records n (during.status n) (during.sizeReply n)).filter
          (fun r => session.threshold.admits r.level) ∧
      entry.calls.filter Call.asks = inquiry.calls n (during.status n) := by
  obtain ⟨content, reached⟩ := leads.reached
  obtain ⟨answers, writes⟩ := operation.run_onHandle session.threshold session.kernel handle
  rw [reached] at answers writes
  simp only [Operation.step_on, perform]
  refine ⟨?_, ?_, ?_⟩
  · rw [answers]
    rfl
  · rw [Traced.records_eq, writes, Threshold.logged_records]
    rfl
  · rw [leads.asked operation.body session.threshold, (operation.body_comesTo during n).calls]
    exact Inquiry.calls_filter_asks (.lent operation) n _

/-- Every step of the library answers, records and asks as its inquiry about the descriptor that
its handle leads to. -/
theorem step_of_leads (h : step.handle? = some handle) (asks : step.inquiry? = some inquiry)
    (leads : handle.Leads session.kernel n during) :
    let entry := (session.step step).1
    entry.answer = inquiry.answer (during.status n) (during.sizeReply n) ∧
      entry.records =
        (inquiry.records n (during.status n) (during.sizeReply n)).filter
          (fun r => session.threshold.admits r.level) ∧
      entry.calls.filter Call.asks = inquiry.calls n (during.status n) := by
  obtain ⟨found, finds, way⟩ := Step.inquiry_cases h
  obtain rfl : inquiry = found := Option.some.inj (asks.symm.trans finds)
  obtain ⟨operation, rfl, rfl⟩ | ⟨m, rfl, rfl⟩ := way
  · exact session.operation_of_leads operation leads
  · obtain ⟨rfl, rfl⟩ := leads.eq_of_borrowed
    simp only [step_about, Inquiry.calls_filter_asks, and_self]

/-- A step of the library whose path fails to open is an operation that fails with that, records
nothing and asks nothing. -/
theorem step_of_unopened (h : step.handle? = some handle) {e : InspectError}
    (failed : handle.reached session.kernel = .error e) :
    let entry := (session.step step).1
    (∃ operation : Operation, step = operation.on handle ∧ entry.answer = operation.failed e) ∧
      entry.records = [] ∧ entry.calls.filter Call.asks = [] := by
  obtain ⟨inquiry, -, ⟨operation, -, rfl⟩ | ⟨n, rfl, -⟩⟩ := Step.inquiry_cases h
  · obtain ⟨answers, writes⟩ := operation.run_onHandle session.threshold session.kernel handle
    rw [failed] at answers writes
    refine ⟨⟨operation, rfl, ?_⟩, ?_, ?_⟩ <;> simp only [Operation.step_on, perform]
    · rw [answers]
      rfl
    · rw [Traced.records_eq, writes]
      rfl
    · exact Handle.asked_of_unopened operation.body session.threshold failed
  · cases failed

/-- A step on a descriptor neither opens nor closes anything. -/
theorem calls_of_asksDescriptor (asks : step.AsksDescriptor) :
    (session.step step).1.calls.filter Call.asks = (session.step step).1.calls := by
  obtain ⟨inquiry, n, rfl⟩ := Inquiry.exists_eq_about asks
  simp only [step_about, Inquiry.calls_filter_asks]

/-- A step from outside makes no requests of its own. -/
theorem calls_of_outside (outside : step.handle? = none) : (session.step step).1.calls = [] := by
  cases step with
  | openFile path => rfl
  | duplicate n => rfl
  | close n => rfl
  | link path object => rfl
  | unlink path => rfl
  | setThreshold threshold => rfl
  | _ => cases outside

end Session

/-- Requests of a kind that asks are counted among those that ask. -/
theorem Call.countP_filter_asks {p : Call → Bool}
    (asking : ∀ call, p call = true → call.asks = true) (calls : List Call) :
    (calls.filter Call.asks).countP p = calls.countP p := by
  rw [List.countP_filter]
  apply List.countP_congr
  intro call _
  simpa using asking call

theorem Call.asks_of_isStatus (call : Call) (status : call.isStatus = true) :
    call.asks = true := by
  simp [asks, status]

theorem Call.asks_of_isSizeRequest (call : Call) (size : call.isSizeRequest = true) :
    call.asks = true := by
  simp [asks, size]

/-- A reply to a status request that tells of a block device. -/
def ReportsBlock (reply : Except Errno FileStatus) : Prop :=
  ∃ status, reply = .ok status ∧ status.mode &&& typeMask = blockType

theorem reportsBlock_iff {reply : Except Errno FileStatus} :
    ReportsBlock reply ↔ Inspection.kindResult reply = .ok .block := by
  cases reply with
  | error e => simp [ReportsBlock]
  | ok status => by_cases block : status.mode &&& typeMask = blockType <;>
      simp [ReportsBlock, DeviceKind.ofMode, block]

instance (reply : Except Errno FileStatus) : Decidable (ReportsBlock reply) :=
  decidable_of_iff _ reportsBlock_iff.symm

/-- An inspection asks for the size where the status tells of a block device, and only there. -/
theorem Inspection.extentCalls_eq (n : Int) (reply : Except Errno FileStatus) :
    extentCalls n reply =
      if ReportsBlock reply then [.status n, .sizeRequest n Call.sizeRequestCode]
      else [.status n] := by
  by_cases block : kindResult reply = .ok .block
  · rw [if_pos (reportsBlock_iff.mpr block), extentCalls, block]
  · rw [if_neg (reportsBlock_iff.not.mpr block), extentCalls]
    split
    · contradiction
    · rfl

namespace Step

/-- Whether a step is an inspection. -/
def inspects : Step → Bool
  | .inspect _ | .inspectWith _ _ => true
  | _ => false

/-- The handle of a step leads to a descriptor on which a status request tells of a block device. -/
def FindsBlock (step : Step) (kernel : Kernel) : Prop :=
  ∃ handle n during, step.handle? = some handle ∧ handle.Leads kernel n during ∧
    ReportsBlock (during.status n)

/-- The same, looked up. -/
def findsBlock (step : Step) (kernel : Kernel) : Bool :=
  match step.handle?.map (Handle.reached · kernel) with
  | some (.ok opening) => decide (ReportsBlock opening.status)
  | _ => false

section FindsBlock

variable {step : Step} {handle : Handle} {kernel during : Kernel} {n : Int}

theorem findsBlock_of_leads (h : step.handle? = some handle)
    (leads : handle.Leads kernel n during) :
    step.findsBlock kernel = decide (ReportsBlock (during.status n)) := by
  obtain ⟨content, reached⟩ := leads.reached
  simp only [findsBlock, h, Option.map_some, reached]

theorem findsBlock_of_unopened (h : step.handle? = some handle) {e : InspectError}
    (failed : handle.reached kernel = .error e) : step.findsBlock kernel = false := by
  simp only [findsBlock, h, Option.map_some, failed]

theorem findsBlock_iff : step.findsBlock kernel = true ↔ step.FindsBlock kernel := by
  constructor
  · intro found
    cases h : step.handle? with
    | none => simp [findsBlock, h] at found
    | some handle =>
        obtain ⟨n, during, leads⟩ | ⟨path, cause, failed⟩ := handle.leads_or_unopened kernel
        · rw [findsBlock_of_leads h leads, decide_eq_true_iff] at found
          exact ⟨handle, n, during, h, leads, found⟩
        · rw [findsBlock_of_unopened h failed] at found
          cases found
  · rintro ⟨handle, n, during, h, leads, block⟩
    rw [findsBlock_of_leads h leads]
    exact decide_eq_true block

instance (step : Step) (kernel : Kernel) : Decidable (step.FindsBlock kernel) :=
  decidable_of_iff _ findsBlock_iff

end FindsBlock

/-- What an inspection asks does not depend on its options. -/
theorem calls_of_inspects {step : Step} {inquiry : Inquiry} (inspects : step.inspects = true)
    (asks : step.inquiry? = some inquiry) (n : Int) (statusReply : Except Errno FileStatus) :
    inquiry.calls n statusReply = Inspection.extentCalls n statusReply := by
  cases step <;> cases inspects <;> cases asks <;> rfl

end Step

/-- A step of a run, with the kernel that it finds and the entry that it leaves. -/
structure Moment where
  kernel : Kernel
  step : Step
  entry : Entry

namespace Session

variable (session : Session) (step : Step)

/-- The steps of a run in order. -/
def moments (session : Session) : List Step → List Moment
  | [] => []
  | step :: rest =>
      ⟨session.kernel, step, (session.step step).1⟩ :: (session.step step).2.moments rest

/-- No step repeats a request. -/
theorem step_asks_once :
    (session.step step).1.calls.countP Call.isStatus ≤ 1 ∧
      (session.step step).1.calls.countP Call.isSizeRequest ≤ 1 := by
  rw [← Call.countP_filter_asks Call.asks_of_isStatus,
    ← Call.countP_filter_asks Call.asks_of_isSizeRequest]
  cases h : step.handle? with
  | none => simp [session.calls_of_outside h]
  | some handle =>
      obtain ⟨n, during, leads⟩ | ⟨path, cause, failed⟩ := handle.leads_or_unopened session.kernel
      · obtain ⟨inquiry, asks, -⟩ := Step.inquiry_cases h
        rw [(session.step_of_leads h asks leads).2.2]
        exact inquiry.calls_once n (during.status n)
      · simp [(session.step_of_unopened h failed).2.2]

/-- An inspection makes one size request where it finds a block device, and else none. -/
theorem sizeRequests_of_inspects {step : Step} (inspects : step.inspects = true) :
    (session.step step).1.calls.countP Call.isSizeRequest =
      if step.FindsBlock session.kernel then 1 else 0 := by
  obtain ⟨handle, h⟩ : ∃ handle, step.handle? = some handle := by
    cases step <;> cases inspects <;> exact ⟨_, rfl⟩
  obtain ⟨inquiry, asks, -⟩ := Step.inquiry_cases h
  rw [← Call.countP_filter_asks Call.asks_of_isSizeRequest]
  simp only [← Step.findsBlock_iff]
  obtain ⟨n, during, leads⟩ | ⟨path, cause, failed⟩ := handle.leads_or_unopened session.kernel
  · rw [(session.step_of_leads h asks leads).2.2, Step.calls_of_inspects inspects asks,
      Inspection.extentCalls_eq, Step.findsBlock_of_leads h leads]
    by_cases block : ReportsBlock (during.status n)
    · simp [block, Call.isSizeRequest]
    · simp [block, Call.isSizeRequest]
  · simp [(session.step_of_unopened h failed).2.2, Step.findsBlock_of_unopened h failed]

theorem moments_entries (steps : List Step) :
    (session.moments steps).map Moment.entry = session.entries steps := by
  induction steps generalizing session with
  | nil => rfl
  | cons step rest ih => simp [moments, ih]

/-- Step by step, a run adds as many size requests as block devices that its inspections find. -/
theorem sizeRequests_of_inspections (steps : List Step) :
    let inspections := (session.moments steps).filter fun moment => moment.step.inspects
    (inspections.map fun moment => moment.entry.calls.countP Call.isSizeRequest).sum =
      inspections.countP fun moment => moment.step.FindsBlock moment.kernel := by
  induction steps generalizing session with
  | nil => rfl
  | cons step rest ih =>
      have later := ih (session.step step).2
      cases inspects : step.inspects with
      | false => simpa [moments, inspects] using later
      | true =>
          have here := session.sizeRequests_of_inspects inspects
          simp only [moments, inspects, List.filter_cons, if_true, List.map_cons, List.sum_cons,
            List.countP_cons, decide_eq_true_eq, here] at later ⊢
          omega

/-- In every session, whatever the kernel replies: to classify makes one status request, to ask for
the length makes one size request, and neither makes any other on the descriptor, be it given or got
by opening a path; so do the entry points. An inspection makes one status request, and one size
request on the same descriptor after it exactly where the status tells of a block device, under
every option. On a descriptor that is given nothing else is requested at all, and where a path leads
to no descriptor nothing is asked. No step makes either request twice, so over a run the inspections
make one size request for each block device that they find. -/
theorem requests_made_as_needed (session : Session) :
    (Call.sizeRequestCode = 0x80081272 ∧
      Call.sizeRequestCode = Call.readRequestCode 0x12 114 8) ∧
    (∀ before n errno,
      let calls := fun step => ((session.after before).step step).1.calls
      calls (.classifyDescriptor n) = [.status n] ∧ calls (.isBlockDevice n errno) = [.status n] ∧
      calls (.descriptorLength n) = [.sizeRequest n Call.sizeRequestCode] ∧
      calls (.blockDeviceLength n errno) = [.sizeRequest n Call.sizeRequestCode]) ∧
    (∀ before handle n during, handle.Leads (session.after before).kernel n during →
      let calls := fun step => ((session.after before).step step).1.calls
      let asked := fun step => (calls step).filter Call.asks
      (handle.OnDescriptor n → ∀ step, step.handle? = some handle → calls step = asked step) ∧
      asked (.classify handle) = [.status n] ∧
      asked (.deviceLength handle) = [.sizeRequest n Call.sizeRequestCode] ∧
      ∀ step, (step = .inspect handle ∨ ∃ options, step = .inspectWith handle options) →
        (asked step = [.status n, .sizeRequest n Call.sizeRequestCode] ↔
          ReportsBlock (during.status n)) ∧
        (asked step = [.status n] ↔ ¬ ReportsBlock (during.status n))) ∧
    (∀ before handle step, step.handle? = some handle →
      (∀ n during, ¬ handle.Leads (session.after before).kernel n during) →
      ((session.after before).step step).1.calls.filter Call.asks = []) ∧
    (∀ before step,
      let calls := ((session.after before).step step).1.calls
      calls.countP Call.isStatus ≤ 1 ∧ calls.countP Call.isSizeRequest ≤ 1) ∧
    ∀ steps,
      let moments := session.moments steps
      let inspections := moments.filter fun moment => moment.step.inspects
      moments.map Moment.entry = session.entries steps ∧
      (inspections.map fun moment => moment.entry.calls.countP Call.isSizeRequest).sum =
        inspections.countP fun moment => moment.step.FindsBlock moment.kernel := by
  refine ⟨⟨rfl, by decide⟩, ?_, ?_, ?_, ?_, ?_⟩
  · intro before n errno calls
    have asked (inquiry : Inquiry) : calls (inquiry.about n) =
        inquiry.calls n ((session.after before).kernel.status n) := by
      simp only [calls, step_about]
    exact ⟨asked .kind, asked (.isBlockDevice errno), asked .length,
      asked (.blockDeviceLength errno)⟩
  · intro before handle n during leads calls asked
    have asked_eq (step : Step) (inquiry : Inquiry) (h : step.handle? = some handle)
        (asks : step.inquiry? = some inquiry) :
        asked step = inquiry.calls n (during.status n) :=
      ((session.after before).step_of_leads h asks leads).2.2
    refine ⟨?_, asked_eq _ (.lent .classify) rfl rfl, asked_eq _ (.lent .deviceLength) rfl rfl, ?_⟩
    · intro given step h
      exact ((session.after before).calls_of_asksDescriptor ⟨handle, n, h, given⟩).symm
    · intro step inspection
      have extent : asked step = Inspection.extentCalls n (during.status n) := by
        obtain rfl | ⟨options, rfl⟩ := inspection
        · exact asked_eq _ (.lent .inspect) rfl rfl
        · exact asked_eq _ (.lent (.inspectWith options)) rfl rfl
      rw [extent, Inspection.extentCalls_eq]
      by_cases block : ReportsBlock (during.status n) <;> simp [block]
  · intro before handle step h nowhere
    obtain ⟨n, during, leads⟩ | ⟨path, cause, failed⟩ :=
      handle.leads_or_unopened (session.after before).kernel
    · exact absurd leads (nowhere n during)
    · exact ((session.after before).step_of_unopened h failed).2.2
  · intro before step
    exact (session.after before).step_asks_once step
  · intro steps
    exact ⟨session.moments_entries steps, session.sizeRequests_of_inspections steps⟩

/-- A block device whose size request is interrupted, and an object whose status request is. Neither
request is made again, and two of the three inspections find the block device. -/
theorem requests_made_as_needed_despite_interruptions :
    let device : FileObject := { mode := 0o060660, sizeReply := .refused .interrupted }
    let mute : FileObject := { mode := 0o060660, statusFailure := some .interrupted }
    let session := start
      { objects := [device, mute], paths := [([0x61], 0), ([0x62], 1)], descriptors := [(3, 0)] }
    let steps : List Step := [.inspect (.borrowed 3), .inspectWith (.path [0x62]) ⟨true, true⟩,
      .classify (.file 3), .inspect (.pathBuffer [0x61])]
    (Handle.borrowed 3).Leads session.kernel 3 session.kernel ∧
      (Handle.borrowed 3).OnDescriptor 3 ∧
      (session.step (.inspect (.borrowed 3))).1.calls = [.status 3, .sizeRequest 3 0x80081272] ∧
      (((session.moments steps).filter fun moment => moment.step.inspects).map
        fun moment => moment.entry.calls.countP Call.isSizeRequest).sum = 2 := by
  intro device mute session steps
  have given : (Handle.borrowed 3).OnDescriptor 3 := .inl rfl
  have leads : (Handle.borrowed 3).Leads session.kernel 3 session.kernel := .given given
  have block : ReportsBlock (session.kernel.status 3) := ⟨⟨0o060660, 0⟩, rfl, rfl⟩
  obtain ⟨-, -, asked, -, -, counted⟩ := requests_made_as_needed session
  obtain ⟨nothingElse, -, -, inspection⟩ := asked [] (.borrowed 3) 3 session.kernel leads
  refine ⟨leads, given, ?_, ?_⟩
  · exact (nothingElse given _ rfl).trans ((inspection _ (.inl rfl)).1.mpr block)
  · exact (counted steps).2.trans (by decide)

end Session

end BlockExtent
