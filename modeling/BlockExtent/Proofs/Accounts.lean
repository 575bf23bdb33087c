import BlockExtent.Proofs.Requests
import BlockExtent.Proofs.Thresholds

/-!
# The log accounts for the requests

With everything logged, the log of a step is an account of its requests: each request that is
refused leaves one record with the text of its failure, and each that is answered leaves one record
of what was learnt, or none where an inspection goes on from there. A warning is no account of a
request. It closes the log of an inspection that falls back on the status size.

## Implementation notes

The account of a request is written out here with its texts and not put together from the records
of the model. It depends on the request, on the reply to it and on whether the step is to tell the
kind. So the log of a step follows its requests in order.
-/

namespace BlockExtent

open EntryPoint (Query)

namespace EntryPoint.Query

/-- The request that a query makes. -/
def request : Query → Call
  | .kind n => .status n
  | .size n => .sizeRequest n Call.sizeRequestCode

theorem request_injective : Function.Injective request := by
  intro query other same
  cases query <;> cases other <;> cases same <;> rfl

/-- The record of a request that is refused. -/
def refusal (cause : SystemError) : Query → Record
  | .kind n =>
      ⟨.debug, "blkinspect::inspect",
        "fstat on fd " ++ Numeral.integer n ++ " failed: " ++ cause.text⟩
  | .size n =>
      ⟨.debug, "blkinspect::inspect",
        "BLKGETSIZE64 on fd " ++ Numeral.integer n ++ " failed: " ++ cause.text⟩

end EntryPoint.Query

/-- The records that account for a request, in a step that is to tell the kind or not. -/
def Call.account (tellsKind : Bool) (kernel : Kernel) : Call → List Record
  | .opening .. | .closing _ => []
  | .status n =>
      match kernel.status n with
      | .error e => [(Query.kind n).refusal (.os e.folded)]
      | .ok found =>
          if tellsKind then
            [⟨.trace, "blkinspect::inspect",
              "fd " ++ Numeral.integer n ++ " is " ++
                if found.mode &&& typeMask = blockType then "block device"
                else "not a block device"⟩]
          else []
  | .sizeRequest n _ =>
      match kernel.sizeReply n with
      | .refused e => [(Query.size n).refusal (.os e.folded)]
      | .answered _ stored _ =>
          [⟨.trace, "blkinspect::inspect",
            "fd " ++ Numeral.integer n ++ " has " ++ Numeral.decimal (stored.getD 0).toNat ++
              " bytes"⟩]

/-- The warning that a length is the status size of a block device. -/
def Extent.warning (n : Int) (extent : Extent) : Record :=
  ⟨.warn, "blkinspect::inspect",
    "fd " ++ Numeral.integer n ++ ": block device size request failed, using status size " ++
      Numeral.decimal extent.length.toNat⟩

namespace Answer

/-- The failure that an answer holds. -/
def failure? : Answer → Option InspectError
  | .kind (.error e) | .length (.error e) | .extent (.error e) => some e
  | _ => none

/-- The warnings that go with an answer. -/
def warnings (n : Int) : Answer → List Record
  | .extent (.ok found) => if found.usedFallback then [found.warning n] else []
  | _ => []

/-- An answer whose length is the status size of a block device. -/
def FellBack (answer : Answer) (extent : Extent) : Prop :=
  answer = .extent (.ok extent) ∧ extent.usedFallback = true

end Answer

namespace Step

/-- Whether a step is to tell the kind of an object. -/
def tellsKind : Step → Bool
  | .classify _ | .classifyDescriptor _ | .codes _ => true
  | _ => false

/-- Whether a step of the library keeps a log, as all but the entry points do. -/
def keepsLog : Step → Bool
  | .isBlockDevice _ _ | .blockDeviceLength _ _ => false
  | _ => true

end Step

/-- The four ways in which a step that keeps a log answers, records and asks about a descriptor. -/
inductive Logged (kernel : Kernel) (n : Int) : Bool → Answer → List Record → List Call → Prop
  | kind :
      Logged kernel n true (.kind (Inspection.kindResult (kernel.status n)))
        (Inspection.kindRecords n (kernel.status n)) [.status n]
  | length :
      Logged kernel n false (.length (Inspection.lengthResult (kernel.sizeReply n)))
        (Inspection.lengthRecords n (kernel.sizeReply n)) [.sizeRequest n Call.sizeRequestCode]
  | extent (options : Options) :
      Logged kernel n false
        (.extent (Inspection.extentResult options (kernel.status n) (kernel.sizeReply n)))
        (Inspection.extentRecords n options (kernel.status n) (kernel.sizeReply n))
        (Inspection.extentCalls n (kernel.status n))
  | codes :
      Logged kernel n true
        (.codes (EntryPoint.classifyCode (Inspection.kindResult (kernel.status n)))
          (EntryPoint.lengthCode (Inspection.lengthResult (kernel.sizeReply n))))
        (Inspection.kindRecords n (kernel.status n) ++
          Inspection.lengthRecords n (kernel.sizeReply n))
        [.status n, .sizeRequest n Call.sizeRequestCode]

namespace Inspection

variable (kernel : Kernel) (n : Int)

theorem kindRecords_eq_account :
    kindRecords n (kernel.status n) = Call.account true kernel (.status n) := by
  rw [Call.account]
  cases kernel.status n with
  | error e => rfl
  | ok found =>
      by_cases block : found.mode &&& typeMask = blockType <;>
        simp [kindRecords, classified, target, DeviceKind.ofMode, DeviceKind.text, block]

theorem statusRecords_eq_account :
    statusRecords n (kernel.status n) = Call.account false kernel (.status n) := by
  rw [Call.account]
  cases kernel.status n <;> rfl

theorem lengthRecords_eq_account (tellsKind : Bool) :
    lengthRecords n (kernel.sizeReply n) =
      Call.account tellsKind kernel (.sizeRequest n Call.sizeRequestCode) := by
  rw [Call.account]
  cases kernel.sizeReply n <;> rfl

theorem fellBack_eq_warning (cause : SystemError) (size : UInt64) :
    fellBack n (.controlRequest cause) size = (Extent.fallback size).warning n := by
  have said : ": " ++ "block device size request failed" ++ ", using status size " =
      ": block device size request failed, using status size " := by decide
  rw [Extent.warning, ← said, fellBack]
  simp only [InspectError.text, String.append_assoc]
  rfl

/-- An inspection falls back exactly on a block device that refuses the size request where that is
allowed. -/
theorem extentResult_fellBack_iff (options : Options) (statusReply : Except Errno FileStatus)
    (sizeReply : SizeReply) (extent : Extent) :
    (extentResult options statusReply sizeReply = .ok extent ∧ extent.usedFallback = true) ↔
      ∃ status e, statusReply = .ok status ∧ DeviceKind.ofMode status.mode = .block ∧
        sizeReply = .refused e ∧ options.allowFallback = true ∧
        extent = .fallback status.length := by
  constructor
  · rintro ⟨found, fell⟩
    cases statusReply with
    | error e => cases found
    | ok status =>
        simp only [extentResult, statusResult, extentOf] at found
        cases kind : DeviceKind.ofMode status.mode with
        | other =>
            cases required : options.requireBlockDevice with
            | true => simp [kind, required] at found
            | false =>
                obtain rfl : Extent.measured .other status.length = extent := by
                  simpa [kind, required] using found
                cases fell
        | block =>
            cases sizeReply with
            | answered code stored accepted =>
                obtain rfl : Extent.measured .block (stored.getD 0) = extent := by
                  simpa [kind, lengthResult] using found
                cases fell
            | refused e =>
                cases allowed : options.allowFallback with
                | false => simp [kind, lengthResult, allowed] at found
                | true =>
                    obtain rfl : Extent.fallback status.length = extent := by
                      simpa [kind, lengthResult, allowed] using found
                    exact ⟨status, e, rfl, kind, rfl, rfl, rfl⟩
  · rintro ⟨status, e, rfl, block, rfl, allowed, rfl⟩
    simp [extentResult, statusResult, extentOf, block, lengthResult, allowed, Extent.fallback]

/-- The records of an inspection are those of its status request, those of its size request where it
makes one, and the warning that goes with its answer. -/
theorem extentRecords_eq (options : Options) (statusReply : Except Errno FileStatus)
    (sizeReply : SizeReply) :
    extentRecords n options statusReply sizeReply =
      statusRecords n statusReply ++
        (if ReportsBlock statusReply then lengthRecords n sizeReply else []) ++
        (Answer.extent (extentResult options statusReply sizeReply)).warnings n := by
  cases statusReply with
  | error e => simp [extentRecords, reportsBlock_iff, extentResult, statusResult, Answer.warnings]
  | ok status =>
      simp only [extentRecords, statusRecords, reportsBlock_iff, kindResult_ok, extentResult,
        statusResult, List.nil_append]
      cases DeviceKind.ofMode status.mode with
      | other => cases required : options.requireBlockDevice <;>
          simp [extentOf, required, Answer.warnings, Extent.measured]
      | block =>
          cases sizeReply with
          | answered code stored accepted =>
              simp [blockRecords, extentOf, lengthResult, Answer.warnings, Extent.measured]
          | refused e =>
              cases allowed : options.allowFallback with
              | false => simp [blockRecords, extentOf, lengthResult, allowed, Answer.warnings]
              | true =>
                  simp only [blockRecords, allowed, if_true, extentOf, lengthResult,
                    fellBack_eq_warning]
                  rfl

theorem extentRecords_eq_account (options : Options) :
    let statusReply := kernel.status n
    let sizeReply := kernel.sizeReply n
    extentRecords n options statusReply sizeReply =
      (extentCalls n statusReply).flatMap (Call.account false kernel) ++
        (Answer.extent (extentResult options statusReply sizeReply)).warnings n := by
  intro statusReply sizeReply
  rw [extentRecords_eq, statusRecords_eq_account, lengthRecords_eq_account kernel n false,
    extentCalls_eq]
  by_cases block : ReportsBlock statusReply
  · simp only [if_pos block, List.flatMap_cons, List.flatMap_nil, List.append_nil]
  · simp only [if_neg block, List.flatMap_cons, List.flatMap_nil, List.append_nil]

/-- The requests of an inspection as queries: the kind, and the size of a block device. -/
theorem request_mem_extentCalls_iff {query : Query} {statusReply : Except Errno FileStatus} :
    query.request ∈ extentCalls n statusReply ↔
      query = .kind n ∨ query = .size n ∧ ReportsBlock statusReply := by
  rw [extentCalls_eq]
  by_cases block : ReportsBlock statusReply <;> cases query <;> simp [block, Query.request]

/-- An inspection that meets a refusal fails with it, or falls back and would else have failed
with it. -/
theorem extentResult_of_refusal {query : Query} {e : Errno} (options : Options)
    (asked : query.request ∈ extentCalls n (kernel.status n))
    (refused : query.RefusedWith kernel e) :
    let answer := fun options => extentResult options (kernel.status n) (kernel.sizeReply n)
    let failure := Except.error (query.report (.os e.folded))
    answer options = failure ∨
      (∃ extent, answer options = .ok extent ∧ extent.usedFallback = true) ∧
        ∀ require, answer ⟨false, require⟩ = failure := by
  intro answer failure
  obtain rfl | ⟨rfl, block⟩ := (request_mem_extentCalls_iff n).mp asked
  · left
    exact (extentResult_eq_statusQuery_iff options).mpr ⟨e, refused, rfl⟩
  · have strict (options : Options) (disallowed : options.allowFallback = false) :
        answer options = failure :=
      (extentResult_eq_controlRequest_iff options).mpr
        ⟨⟨reportsBlock_iff.mp block, disallowed⟩, e, refused, rfl⟩
    cases allowed : options.allowFallback with
    | false => exact .inl (strict options allowed)
    | true =>
        obtain ⟨status, found, kind⟩ := block
        have fell := (extentResult_fellBack_iff options (kernel.status n) (kernel.sizeReply n)
          (.fallback status.length)).mpr ⟨status, e, found, if_pos kind, refused, allowed, rfl⟩
        exact .inr ⟨⟨_, fell⟩, fun require => strict ⟨false, require⟩ rfl⟩

end Inspection

theorem Call.account_level {tellsKind : Bool} {kernel : Kernel} {call : Call} {record : Record}
    (mem : record ∈ call.account tellsKind kernel) : record.level ≠ .warn := by
  cases call with
  | opening path flags => cases mem
  | closing n => cases mem
  | status n =>
      rw [account] at mem
      split at mem
      · rw [List.eq_of_mem_singleton mem]
        nofun
      · cases tellsKind with
        | false => cases mem
        | true =>
            rw [List.eq_of_mem_singleton mem]
            nofun
  | sizeRequest n code =>
      rw [account] at mem
      split at mem
      · rw [List.eq_of_mem_singleton mem]
        nofun
      · rw [List.eq_of_mem_singleton mem]
        nofun

/-- Only requests that ask are accounted for. -/
theorem Call.flatMap_account_filter_asks (tellsKind : Bool) (kernel : Kernel) (calls : List Call) :
    (calls.filter Call.asks).flatMap (Call.account tellsKind kernel) =
      calls.flatMap (Call.account tellsKind kernel) := by
  induction calls with
  | nil => rfl
  | cons call rest ih =>
      cases call with
      | opening path flags => exact ih
      | closing n => exact ih
      | status n => exact congrArg (Call.account tellsKind kernel (.status n) ++ ·) ih
      | sizeRequest n code =>
          exact congrArg (Call.account tellsKind kernel (.sizeRequest n code) ++ ·) ih

theorem Answer.mem_warnings_iff {answer : Answer} {n : Int} {record : Record} :
    record ∈ answer.warnings n ↔ ∃ extent, answer.FellBack extent ∧ record = extent.warning n := by
  simp only [FellBack]
  constructor
  · intro mem
    cases answer with
    | extent result =>
        cases result with
        | error e => cases mem
        | ok found =>
            cases fell : found.usedFallback with
            | false => simp [warnings, fell] at mem
            | true => exact ⟨found, ⟨rfl, fell⟩, by simpa [warnings, fell] using mem⟩
    | _ => cases mem
  · rintro ⟨found, ⟨rfl, fell⟩, rfl⟩
    simp [warnings, fell]

namespace Logged

variable {kernel : Kernel} {n : Int} {tellsKind : Bool} {answer : Answer}
variable {records : List Record} {calls : List Call}

/-- The log accounts for the requests in order, and closes with the warning that goes with the
answer. -/
theorem accounts (logged : Logged kernel n tellsKind answer records calls) :
    records = calls.flatMap (Call.account tellsKind kernel) ++ answer.warnings n := by
  cases logged with
  | kind => simp [Inspection.kindRecords_eq_account, Answer.warnings]
  | length =>
      simp [Inspection.lengthRecords_eq_account kernel n false, Answer.warnings]
  | extent options => exact Inspection.extentRecords_eq_account kernel n options
  | codes =>
      simp [Inspection.kindRecords_eq_account, Inspection.lengthRecords_eq_account kernel n true,
        Answer.warnings]

/-- A refused request is the failure in the answer, unless the answer falls back. -/
theorem failure_of_refused (logged : Logged kernel n tellsKind answer records calls)
    {query : Query} {e : Errno} (asked : query.request ∈ calls)
    (refused : query.RefusedWith kernel e) (plain : ∀ kind length, answer ≠ .codes kind length) :
    let failure := query.report (.os e.folded)
    answer.failure? = some failure ∨
      (∃ extent, answer.FellBack extent) ∧ ∀ require,
        Inspection.extentResult ⟨false, require⟩ (kernel.status n) (kernel.sizeReply n) =
          .error failure := by
  intro failure
  cases logged with
  | kind =>
      obtain rfl : query = .kind n := Query.request_injective (List.eq_of_mem_singleton asked)
      rw [show kernel.status n = .error e from refused]
      exact .inl rfl
  | length =>
      obtain rfl : query = .size n := Query.request_injective (List.eq_of_mem_singleton asked)
      rw [show kernel.sizeReply n = .refused e from refused]
      exact .inl rfl
  | extent options =>
      obtain failed | ⟨⟨extent, found, fell⟩, strict⟩ :=
        Inspection.extentResult_of_refusal kernel n options asked refused
      · exact .inl (congrArg (fun result => (Answer.extent result).failure?) failed)
      · exact .inr ⟨⟨extent, congrArg Answer.extent found, fell⟩, strict⟩
  | codes => exact absurd rfl (plain _ _)

/-- An answer that falls back follows a refused size request: the log is the account of that
refusal and the warning, and the length is the status size. -/
theorem of_fellBack (logged : Logged kernel n tellsKind answer records calls) {extent : Extent}
    (fell : answer.FellBack extent) :
    ∃ cause, records = [(Query.size n).refusal cause, extent.warning n] ∧
      (kernel.status n).map FileStatus.length = .ok extent.length ∧
      ∀ require, Inspection.extentResult ⟨false, require⟩ (kernel.status n) (kernel.sizeReply n) =
        .error (.controlRequest cause) := by
  obtain ⟨answers, flag⟩ := fell
  cases logged with
  | extent options =>
      obtain ⟨status, e, found, kind, refused, allowed, rfl⟩ :=
        (Inspection.extentResult_fellBack_iff options (kernel.status n) (kernel.sizeReply n)
          extent).mp ⟨Answer.extent.inj answers, flag⟩
      have block : ReportsBlock (kernel.status n) := by
        rw [reportsBlock_iff, found, Inspection.kindResult_ok, kind]
      refine ⟨.os e.folded, ?_, ?_, ?_⟩
      · rw [Inspection.extentRecords_eq_account, answers, Inspection.extentCalls_eq, if_pos block]
        simp [Call.account, found, refused, Answer.warnings, Extent.fallback]
      · rw [found]
        rfl
      · intro require
        exact (Inspection.extentResult_eq_controlRequest_iff ⟨false, require⟩).mpr
          ⟨⟨reportsBlock_iff.mp block, rfl⟩, e, refused, rfl⟩
  | _ => cases answers

/-- There is a warning exactly where the answer falls back. -/
theorem warns_iff (logged : Logged kernel n tellsKind answer records calls) :
    (∃ record ∈ records, record.level = .warn) ↔ ∃ extent, answer.FellBack extent := by
  rw [logged.accounts]
  constructor
  · rintro ⟨record, mem, warn⟩
    obtain account | warning := List.mem_append.mp mem
    · obtain ⟨call, -, accounted⟩ := List.mem_flatMap.mp account
      exact absurd warn (Call.account_level accounted)
    · obtain ⟨extent, fell, -⟩ := Answer.mem_warnings_iff.mp warning
      exact ⟨extent, fell⟩
  · rintro ⟨extent, fell⟩
    have warning := (Answer.mem_warnings_iff (n := n)).mpr ⟨extent, fell, rfl⟩
    exact ⟨extent.warning n, List.mem_append_right _ warning, rfl⟩

end Logged

namespace Session

variable (session : Session) {step : Step} {handle : Handle} {during : Kernel} {n : Int}

/-- A step that keeps a log goes one of the four ways on the descriptor that its handle leads
to. -/
theorem logged_of_leads (everything : session.threshold = .everything)
    (h : step.handle? = some handle) (keeps : step.keepsLog = true)
    (leads : handle.Leads session.kernel n during) :
    let entry := (session.step step).1
    Logged during n step.tellsKind entry.answer entry.records (entry.calls.filter Call.asks) := by
  intro entry
  obtain ⟨inquiry, asks, -⟩ := Step.inquiry_cases h
  obtain ⟨answers, records, asked⟩ := session.step_of_leads h asks leads
  rw [everything, List.filter_eq_self.mpr fun r _ => Threshold.admits_everything r.level] at records
  rw [answers, records, asked]
  cases step <;> cases asks
  case classify => exact .kind
  case classifyDescriptor => exact .kind
  case deviceLength => exact .length
  case descriptorLength => exact .length
  case inspect => exact .extent .standard
  case inspectWith options => exact .extent options
  case codes => exact .codes
  case isBlockDevice => cases keeps
  case blockDeviceLength => cases keeps

/-- What an inspection without the fallback answers, from the replies on the way. -/
theorem strict_of_leads (leads : handle.Leads session.kernel n during) (require : Bool) :
    (session.step (.inspectWith handle ⟨false, require⟩)).1.answer =
      .extent (Inspection.extentResult ⟨false, require⟩ (during.status n) (during.sizeReply n)) :=
  (session.operation_of_leads (.inspectWith ⟨false, require⟩) leads).1

/-- In every session that logs everything, the log of a step on a descriptor is the account of its
requests in order, with a warning after it where the answer falls back. A request that is refused is
accounted for by one record with the text of a failure, and the answer holds that very failure
unless it is made of integers, or it falls back and the inspection without the fallback would have
held it. An answer that falls back comes with the account of the refused size request and the
warning, in that order and with nothing else, and the length that the warning names is the status
size. No other step warns. Opening and closing leave no record, so a step whose path does not open
logs nothing. -/
theorem log_accounts_for_requests (session : Session) (before : List Step) :
    let now := session.after before
    now.threshold = .upTo .trace →
    ∀ step handle, step.handle? = some handle → step.keepsLog = true →
      let entry := (now.step step).1
      (∀ n during, handle.Leads now.kernel n during →
        let wouldFail := fun failure => ∀ require,
          (now.step (.inspectWith handle ⟨false, require⟩)).1.answer = .extent (.error failure)
        entry.records =
          entry.calls.flatMap (Call.account step.tellsKind during) ++ entry.answer.warnings n ∧
        (∀ (query : Query) e, query.request ∈ entry.calls → query.RefusedWith during e →
          (∀ kind length, entry.answer ≠ .codes kind length) →
          ∃ cause, Call.account step.tellsKind during query.request = [query.refusal cause] ∧
            (entry.answer.failure? = some (query.report cause) ∨
              (∃ extent, entry.answer.FellBack extent) ∧ wouldFail (query.report cause))) ∧
        ∀ extent, entry.answer.FellBack extent →
          ∃ cause, entry.records = [(Query.size n).refusal cause, extent.warning n] ∧
            (during.status n).map FileStatus.length = .ok extent.length ∧
            wouldFail (.controlRequest cause)) ∧
      ((∃ record ∈ entry.records, record.level = .warn) ↔
        ∃ extent, entry.answer.FellBack extent) ∧
      ((∀ n during, ¬ handle.Leads now.kernel n during) →
        entry.records = [] ∧ ∃ path cause, entry.answer.failure? = some (.opening path cause)) := by
  intro now everything step handle h keeps entry
  obtain ⟨n, during, leads⟩ | ⟨path, cause, failed⟩ := handle.leads_or_unopened now.kernel
  · refine ⟨?_, (now.logged_of_leads everything h keeps leads).warns_iff,
      fun nowhere => absurd leads (nowhere n during)⟩
    intro n during leads wouldFail
    have logged := now.logged_of_leads everything h keeps leads
    have strict {failure : InspectError} (fails : ∀ require,
        Inspection.extentResult ⟨false, require⟩ (during.status n) (during.sizeReply n) =
          .error failure) : wouldFail failure := fun require =>
      (now.strict_of_leads leads require).trans (congrArg Answer.extent (fails require))
    refine ⟨?_, ?_, ?_⟩
    · rw [← Call.flatMap_account_filter_asks]
      exact logged.accounts
    · intro query e made refused plain
      have asked : query.request ∈ entry.calls.filter Call.asks :=
        List.mem_filter.mpr ⟨made, by cases query <;> rfl⟩
      refine ⟨.os e.folded, ?_, ?_⟩
      · cases query with
        | kind m => simp only [Query.request, Call.account, show during.status m = _ from refused]
        | size m =>
            simp only [Query.request, Call.account, show during.sizeReply m = _ from refused]
      · obtain held | ⟨fell, fails⟩ := logged.failure_of_refused asked refused plain
        · exact .inl held
        · exact .inr ⟨fell, strict fails⟩
    · intro extent fell
      obtain ⟨cause, records, length, fails⟩ := logged.of_fellBack fell
      exact ⟨cause, records, length, strict fails⟩
  · obtain ⟨⟨operation, rfl, answers⟩, records, -⟩ := now.step_of_unopened h failed
    refine ⟨?_, ?_, fun _ => ⟨records, path, cause, ?_⟩⟩
    · intro n during leads
      obtain ⟨content, reached⟩ := leads.reached
      rw [reached] at failed
      cases failed
    · constructor
      · rintro ⟨record, mem, -⟩
        rw [records] at mem
        cases mem
      · rintro ⟨extent, fell, -⟩
        rw [answers] at fell
        cases operation <;> cases fell
    · rw [answers]
      cases operation <;> rfl

/-- A path to a block device that interrupts an attempt to open it and refuses the size request. The
requests between opening and closing are accounted for, and the warning names the status size. A
classification through the same path leaves the record of the kind, and through a path that is not
there nothing is logged. -/
theorem log_accounts_for_fallback :
    let device : FileObject :=
      { mode := 0o060660, size := 77, sizeReply := .refused .inappropriateControl,
        interruptions := 1 }
    let session := start { objects := [device], paths := [([0x64], 0)] }
    let entry := (session.step (.inspectWith (.path [0x64]) ⟨true, true⟩)).1
    let kind := (session.step (.classify (.path [0x64]))).1
    let missing := (session.step (.classify (.path [0x65]))).1
    entry.calls =
        [.opening [0x64] 0o2000000, .opening [0x64] 0o2000000, .status 3, .sizeRequest 3 0x80081272,
          .closing 3] ∧
      (∃ cause, entry.records = [(Query.size 3).refusal cause, (Extent.fallback 77).warning 3]) ∧
      kind.records = [⟨.trace, "blkinspect::inspect", "fd 3 is block device"⟩] ∧
      missing.records = [] := by
  intro device session entry kind missing
  have opens : session.kernel.Opens [0x64] 2 (.ok 3) (session.kernel.whileOpen [0x64]) :=
    .again rfl (.answered nofun)
  have leads : (Handle.path [0x64]).Leads session.kernel 3 (session.kernel.whileOpen [0x64]) :=
    .opened (.inl rfl) (by decide) opens
  have accounts := log_accounts_for_requests session [] rfl
  obtain ⟨onDescriptor, -, -⟩ := accounts (.inspectWith (.path [0x64]) ⟨true, true⟩) _ rfl rfl
  obtain ⟨-, -, fallenBack⟩ := onDescriptor 3 _ leads
  obtain ⟨classified, -, -⟩ := accounts (.classify (.path [0x64])) _ rfl rfl
  obtain ⟨-, -, unopened⟩ := accounts (.classify (.path [0x65])) _ rfl rfl
  refine ⟨?_, ?_, (classified 3 _ leads).1.trans (by decide), (unopened ?_).1⟩
  · exact (step_onPath_calls session (.inspectWith ⟨true, true⟩) (.inl rfl) (by decide)).trans
      (by decide)
  · have answers := (session.operation_of_leads (.inspectWith ⟨true, true⟩) leads).1
    obtain ⟨result, -⟩ := (Inspection.extentResult_fellBack_iff ⟨true, true⟩ _ _ _).mpr
      ⟨⟨0o060660, 77⟩, .inappropriateControl, rfl, rfl, rfl, rfl, rfl⟩
    have fell := answers.trans (congrArg Answer.extent result)
    obtain ⟨cause, records, -⟩ := fallenBack (.fallback 77) ⟨fell, rfl⟩
    exact ⟨cause, records⟩
  · rintro n during leads
    obtain ⟨content, reached⟩ := leads.reached
    cases reached

end Session

end BlockExtent
