import BlockExtent.Proofs.Frame
import BlockExtent.Proofs.Records
import Mathlib.Data.List.Forall2

/-!
# Asking about a descriptor

A descriptor can be asked about in several ways: lent or owned by a file, without a handle, as
integers, or through an entry point. Whatever the way, the step looks at the kernel only through
the replies to its two requests. So its entry is a function of the number, of the two replies and
of the log threshold, and the session stays as it is.

## Implementation notes

The number occurs in requests and records and never in an answer.
-/

namespace BlockExtent

theorem Traced.records_eq {α : Type} (run : Traced α) :
    run.records = run.written.filterMap Event.record? := by
  rw [records, written, List.filterMap_filter]
  congr 1
  funext event
  cases event <;> rfl

theorem Threshold.logged_records (threshold : Threshold) (records : List Record) :
    (threshold.logged records).filterMap Event.record? =
      records.filter fun r => threshold.admits r.level := by
  rw [logged, List.filterMap_map]
  exact List.filterMap_some

/-- What an action comes to on a kernel that it leaves as it is: its answer, everything that it
records, and its requests. -/
structure Action.ComesTo {α : Type} (action : Action α) (kernel : Kernel) (value : α)
    (records : List Record) (calls : List Call) : Prop where
  value : ∀ threshold, (action.run threshold kernel).value = value
  written : ∀ threshold, (action.run threshold kernel).written = threshold.logged records
  calls : ∀ threshold, (action.run threshold kernel).calls = calls
  kernel : ∀ threshold, (action.run threshold kernel).kernel = kernel

/-- A step that runs such an action leaves the session alone. -/
theorem Session.perform_of_comesTo {α : Type} {action : Action α} {session : Session} {value : α}
    {records : List Record} {calls : List Call}
    (comes : action.ComesTo session.kernel value records calls) (answer : α → Answer) :
    session.perform action answer =
      (⟨answer value, records.filter fun r => session.threshold.admits r.level, calls⟩,
        session) := by
  simp only [perform, comes.value, comes.calls, comes.kernel, Traced.records_eq, comes.written,
    Threshold.logged_records]

namespace Inspection

variable (kernel : Kernel) (n : Int)

theorem classify_comesTo :
    (classify n).ComesTo kernel (kindResult (kernel.status n)) (kindRecords n (kernel.status n))
      [.status n] where
  value threshold := classify_value threshold kernel n
  written threshold := classify_written n threshold kernel
  calls threshold := classify_calls threshold kernel n
  kernel threshold := classify_kernel threshold kernel n

theorem deviceLength_comesTo :
    (deviceLength n).ComesTo kernel (lengthResult (kernel.sizeReply n))
      (lengthRecords n (kernel.sizeReply n)) [.sizeRequest n Call.sizeRequestCode] where
  value threshold := deviceLength_value threshold kernel n
  written threshold := deviceLength_written n threshold kernel
  calls threshold := deviceLength_calls threshold kernel n
  kernel threshold := deviceLength_kernel threshold kernel n

/-- The requests of an inspection, from the reply to the first of them. -/
def extentCalls (statusReply : Except Errno FileStatus) : List Call :=
  .status n ::
    match kindResult statusReply with
    | .ok .block => [.sizeRequest n Call.sizeRequestCode]
    | _ => []

theorem inspect_comesTo (options : Options) :
    (inspect n options).ComesTo kernel
      (extentResult options (kernel.status n) (kernel.sizeReply n))
      (extentRecords n options (kernel.status n) (kernel.sizeReply n))
      (extentCalls n (kernel.status n)) where
  value threshold := inspect_value threshold kernel n options
  written threshold := inspect_written n threshold kernel options
  calls threshold := inspect_calls threshold kernel n options
  kernel threshold := inspect_kernel threshold kernel n options

end Inspection

namespace EntryPoint

/-- What `isBlockDevice` returns, from the reply to its request. -/
def kindReturn (errno : Errno) : Except Errno FileStatus → Return
  | .ok status => ⟨classifyCode (.ok (DeviceKind.ofMode status.mode)), errno⟩
  | .error e => ⟨failed, e⟩

/-- What `blockDeviceLength` returns, from the reply to its request. -/
def lengthReturn (errno : Errno) : SizeReply → Return
  | .answered _ stored _ =>
      if lengthLimit ≤ (stored.getD 0).toNat then ⟨failed, .overflow⟩
      else ⟨(stored.getD 0).toNat, errno⟩
  | .refused e => ⟨failed, e⟩

variable (kernel : Kernel) (n : Int) (errno : Errno)

theorem isBlockDevice_comesTo :
    (isBlockDevice n errno).ComesTo kernel (kindReturn errno (kernel.status n)) []
      [.status n] where
  value threshold := by
    cases reply : kernel.status n with
    | error e => simp [isBlockDevice, kindReturn, reply]
    | ok status =>
        by_cases block : status.mode &&& typeMask = blockType <;>
          simp [isBlockDevice, kindReturn, reply, classifyCode, DeviceKind.ofMode, block]
  written threshold := by simp [Traced.written, isBlockDevice_events]
  calls threshold := by simp [Traced.calls, isBlockDevice_events]
  kernel threshold := isBlockDevice_kernel threshold kernel n errno

theorem blockDeviceLength_comesTo :
    (blockDeviceLength n errno).ComesTo kernel (lengthReturn errno (kernel.sizeReply n)) []
      [.sizeRequest n Call.sizeRequestCode] where
  value threshold := by
    cases reply : kernel.sizeReply n with
    | refused e => simp [blockDeviceLength, lengthReturn, reply]
    | answered code stored accepted =>
        by_cases above : lengthLimit ≤ (stored.getD 0).toNat <;>
          simp [blockDeviceLength, lengthReturn, reply, above]
  written threshold := by simp [Traced.written, blockDeviceLength_events]
  calls threshold := by simp [Traced.calls, blockDeviceLength_events]
  kernel threshold := blockDeviceLength_kernel threshold kernel n errno

end EntryPoint

theorem Session.codes_comesTo (kernel : Kernel) (n : Int) :
    (codes n).ComesTo kernel
      (EntryPoint.classifyCode (Inspection.kindResult (kernel.status n)),
        EntryPoint.lengthCode (Inspection.lengthResult (kernel.sizeReply n)))
      (Inspection.kindRecords n (kernel.status n) ++
        Inspection.lengthRecords n (kernel.sizeReply n))
      [.status n, .sizeRequest n Call.sizeRequestCode] := by
  have kind := Inspection.classify_comesTo kernel n
  have length := Inspection.deviceLength_comesTo kernel n
  constructor
  · intro threshold
    simp only [codes, Action.value_bind, kind.value, kind.kernel, length.value, Action.run_pure]
  · intro threshold
    simp only [codes, Action.written_bind, kind.written, kind.kernel, length.written,
      Action.pure_written, Threshold.logged_append, List.append_nil]
  · intro threshold
    simp only [codes, Action.calls_bind, kind.calls, kind.kernel, length.calls]
    rfl
  · intro threshold
    simp only [codes, Action.kernel_bind, kind.kernel, length.kernel, Action.run_pure]

namespace Operation

/-- What an operation finds out, from the replies to its requests. -/
def result : (operation : Operation) → Except Errno FileStatus → SizeReply →
    Except InspectError operation.Result
  | .classify, statusReply, _ => Inspection.kindResult statusReply
  | .deviceLength, _, sizeReply => Inspection.lengthResult sizeReply
  | .inspect, statusReply, sizeReply => Inspection.extentResult .standard statusReply sizeReply
  | .inspectWith options, statusReply, sizeReply =>
      Inspection.extentResult options statusReply sizeReply

/-- The records of an operation on a descriptor, from the replies to its requests. -/
def records (n : Int) : Operation → Except Errno FileStatus → SizeReply → List Record
  | .classify, statusReply, _ => Inspection.kindRecords n statusReply
  | .deviceLength, _, sizeReply => Inspection.lengthRecords n sizeReply
  | .inspect, statusReply, sizeReply => Inspection.extentRecords n .standard statusReply sizeReply
  | .inspectWith options, statusReply, sizeReply =>
      Inspection.extentRecords n options statusReply sizeReply

/-- The requests of an operation on a descriptor, from the reply to the first of them. -/
def calls (n : Int) : Operation → Except Errno FileStatus → List Call
  | .classify, _ => [.status n]
  | .deviceLength, _ => [.sizeRequest n Call.sizeRequestCode]
  | .inspect, statusReply => Inspection.extentCalls n statusReply
  | .inspectWith _, statusReply => Inspection.extentCalls n statusReply

theorem body_comesTo (operation : Operation) (kernel : Kernel) (n : Int) :
    (operation.body n).ComesTo kernel
      (operation.result (kernel.status n) (kernel.sizeReply n))
      (operation.records n (kernel.status n) (kernel.sizeReply n))
      (operation.calls n (kernel.status n)) := by
  cases operation with
  | classify => exact Inspection.classify_comesTo kernel n
  | deviceLength => exact Inspection.deviceLength_comesTo kernel n
  | inspect => exact Inspection.inspect_comesTo kernel n .standard
  | inspectWith options => exact Inspection.inspect_comesTo kernel n options

end Operation

/-- The ways to ask about a descriptor. -/
inductive Inquiry where
  /-- An operation on the descriptor as its owner lends it. -/
  | lent (operation : Operation)
  /-- An operation on the open file that owns the descriptor. -/
  | owned (operation : Operation)
  /-- The kind, without a handle. -/
  | kind
  /-- The length, without a handle. -/
  | length
  | codes
  | isBlockDevice (errno : Errno)
  | blockDeviceLength (errno : Errno)

namespace Inquiry

/-- The step that asks about a descriptor. -/
def about (n : Int) : Inquiry → Step
  | .lent operation => operation.on (.borrowed n)
  | .owned operation => operation.on (.file n)
  | .kind => .classifyDescriptor n
  | .length => .descriptorLength n
  | .codes => .codes n
  | .isBlockDevice errno => .isBlockDevice n errno
  | .blockDeviceLength errno => .blockDeviceLength n errno

/-- Every step of the library that is given a descriptor asks about it in one of these ways. -/
theorem exists_eq_about {step : Step} (asks : step.AsksDescriptor) :
    ∃ inquiry n, step = about n inquiry := by
  obtain ⟨handle, n, h, given⟩ := asks
  have operated (operation : Operation) : ∃ inquiry m, operation.on handle = about m inquiry := by
    obtain rfl | rfl := given
    · exact ⟨.lent operation, n, rfl⟩
    · exact ⟨.owned operation, n, rfl⟩
  cases step <;> cases h
  case classify => exact operated .classify
  case deviceLength => exact operated .deviceLength
  case inspect => exact operated .inspect
  case inspectWith options => exact operated (.inspectWith options)
  case classifyDescriptor m => exact ⟨.kind, m, rfl⟩
  case descriptorLength m => exact ⟨.length, m, rfl⟩
  case codes m => exact ⟨.codes, m, rfl⟩
  case isBlockDevice m errno => exact ⟨.isBlockDevice errno, m, rfl⟩
  case blockDeviceLength m errno => exact ⟨.blockDeviceLength errno, m, rfl⟩

/-- The answer to an inquiry, from the replies to its requests. -/
def answer (statusReply : Except Errno FileStatus) (sizeReply : SizeReply) : Inquiry → Answer
  | .lent operation | .owned operation =>
      operation.answer (operation.result statusReply sizeReply)
  | .kind => .kind (Inspection.kindResult statusReply)
  | .length => .length (Inspection.lengthResult sizeReply)
  | .codes =>
      .codes (EntryPoint.classifyCode (Inspection.kindResult statusReply))
        (EntryPoint.lengthCode (Inspection.lengthResult sizeReply))
  | .isBlockDevice errno => .returned (EntryPoint.kindReturn errno statusReply)
  | .blockDeviceLength errno => .returned (EntryPoint.lengthReturn errno sizeReply)

/-- The records of an inquiry, from the replies to its requests. -/
def records (n : Int) (statusReply : Except Errno FileStatus) (sizeReply : SizeReply) :
    Inquiry → List Record
  | .lent operation | .owned operation => operation.records n statusReply sizeReply
  | .kind => Inspection.kindRecords n statusReply
  | .length => Inspection.lengthRecords n sizeReply
  | .codes => Inspection.kindRecords n statusReply ++ Inspection.lengthRecords n sizeReply
  | .isBlockDevice _ | .blockDeviceLength _ => []

/-- The requests of an inquiry, from the reply to the first of them. -/
def calls (n : Int) (statusReply : Except Errno FileStatus) : Inquiry → List Call
  | .lent operation | .owned operation => operation.calls n statusReply
  | .kind | .isBlockDevice _ => [.status n]
  | .length | .blockDeviceLength _ => [.sizeRequest n Call.sizeRequestCode]
  | .codes => [.status n, .sizeRequest n Call.sizeRequestCode]

end Inquiry

/-- Two records that are the same but for the number of a descriptor in their message. -/
inductive Record.AlikeButNumber (n m : Int) : Record → Record → Prop
  | intro (level : Level) (target before after : String) :
      AlikeButNumber n m ⟨level, target, before ++ Numeral.integer n ++ after⟩
        ⟨level, target, before ++ Numeral.integer m ++ after⟩

/-- Two requests that are the same but for the number of the descriptor that they concern. -/
inductive Call.AlikeButNumber (n m : Int) : Call → Call → Prop
  | status : AlikeButNumber n m (.status n) (.status m)
  | sizeRequest (code : Nat) : AlikeButNumber n m (.sizeRequest n code) (.sizeRequest m code)

/-- Two entries with the same answer, whose records and requests differ in nothing but the number
of a descriptor. -/
structure Entry.AlikeButNumber (n m : Int) (first second : Entry) : Prop where
  answer : second.answer = first.answer
  records : List.Forall₂ (Record.AlikeButNumber n m) first.records second.records
  calls : List.Forall₂ (Call.AlikeButNumber n m) first.calls second.calls

namespace Inspection

variable (n m : Int) (statusReply : Except Errno FileStatus) (sizeReply : SizeReply)

theorem statusFailed_alike (cause : SystemError) :
    Record.AlikeButNumber n m (statusFailed n cause) (statusFailed m cause) := by
  simpa only [statusFailed, String.append_assoc] using
    Record.AlikeButNumber.intro .debug target "fstat on fd " (" failed: " ++ cause.text)

theorem sizeRequestFailed_alike (cause : SystemError) :
    Record.AlikeButNumber n m (sizeRequestFailed n cause) (sizeRequestFailed m cause) := by
  simpa only [sizeRequestFailed, String.append_assoc] using
    Record.AlikeButNumber.intro .debug target "BLKGETSIZE64 on fd " (" failed: " ++ cause.text)

theorem classified_alike (kind : DeviceKind) :
    Record.AlikeButNumber n m (classified n kind) (classified m kind) := by
  simpa only [classified, String.append_assoc] using
    Record.AlikeButNumber.intro .trace target "fd " (" is " ++ kind.text)

theorem lengthAnswered_alike (length : UInt64) :
    Record.AlikeButNumber n m (lengthAnswered n length) (lengthAnswered m length) := by
  simpa only [lengthAnswered, String.append_assoc] using
    Record.AlikeButNumber.intro .trace target "fd "
      (" has " ++ Numeral.decimal length.toNat ++ " bytes")

theorem fellBack_alike (error : InspectError) (length : UInt64) :
    Record.AlikeButNumber n m (fellBack n error length) (fellBack m error length) := by
  simpa only [fellBack, String.append_assoc] using
    Record.AlikeButNumber.intro .warn target "fd "
      (": " ++ error.text ++ ", using status size " ++ Numeral.decimal length.toNat)

theorem kindRecords_alike :
    List.Forall₂ (Record.AlikeButNumber n m) (kindRecords n statusReply)
      (kindRecords m statusReply) := by
  cases statusReply with
  | ok status => exact .cons (classified_alike n m _) .nil
  | error e => exact .cons (statusFailed_alike n m _) .nil

theorem lengthRecords_alike :
    List.Forall₂ (Record.AlikeButNumber n m) (lengthRecords n sizeReply)
      (lengthRecords m sizeReply) := by
  cases sizeReply with
  | answered code stored accepted => exact .cons (lengthAnswered_alike n m _) .nil
  | refused e => exact .cons (sizeRequestFailed_alike n m _) .nil

theorem blockRecords_alike (options : Options) (statusSize : UInt64) :
    List.Forall₂ (Record.AlikeButNumber n m) (blockRecords n options statusSize sizeReply)
      (blockRecords m options statusSize sizeReply) := by
  apply List.rel_append (lengthRecords_alike n m sizeReply)
  cases sizeReply with
  | answered code stored accepted => exact .nil
  | refused e =>
      cases allowed : options.allowFallback with
      | false => simp
      | true => simpa using fellBack_alike n m _ _

theorem extentRecords_alike (options : Options) :
    List.Forall₂ (Record.AlikeButNumber n m) (extentRecords n options statusReply sizeReply)
      (extentRecords m options statusReply sizeReply) := by
  cases statusReply with
  | error e => exact .cons (statusFailed_alike n m _) .nil
  | ok status =>
      simp only [extentRecords, statusRecords, List.nil_append]
      cases DeviceKind.ofMode status.mode with
      | other => exact .nil
      | block => exact blockRecords_alike n m sizeReply options _

theorem extentCalls_alike :
    List.Forall₂ (Call.AlikeButNumber n m) (extentCalls n statusReply)
      (extentCalls m statusReply) := by
  apply List.Forall₂.cons .status
  split
  · exact .cons (.sizeRequest _) .nil
  · exact .nil

end Inspection

namespace Inquiry

variable (n m : Int) (statusReply : Except Errno FileStatus) (sizeReply : SizeReply)

theorem records_alike (inquiry : Inquiry) :
    List.Forall₂ (Record.AlikeButNumber n m) (inquiry.records n statusReply sizeReply)
      (inquiry.records m statusReply sizeReply) := by
  have kind := Inspection.kindRecords_alike n m statusReply
  have length := Inspection.lengthRecords_alike n m sizeReply
  have extent := Inspection.extentRecords_alike n m statusReply sizeReply
  cases inquiry with
  | lent operation | owned operation =>
      cases operation with
      | classify => exact kind
      | deviceLength => exact length
      | inspect => exact extent .standard
      | inspectWith options => exact extent options
  | kind => exact kind
  | length => exact length
  | codes => exact List.rel_append kind length
  | isBlockDevice errno => exact .nil
  | blockDeviceLength errno => exact .nil

theorem calls_alike (inquiry : Inquiry) :
    List.Forall₂ (Call.AlikeButNumber n m) (inquiry.calls n statusReply)
      (inquiry.calls m statusReply) := by
  cases inquiry with
  | lent operation | owned operation =>
      cases operation with
      | classify => exact .cons .status .nil
      | deviceLength => exact .cons (.sizeRequest _) .nil
      | inspect => exact Inspection.extentCalls_alike n m statusReply
      | inspectWith options => exact Inspection.extentCalls_alike n m statusReply
  | kind => exact .cons .status .nil
  | length => exact .cons (.sizeRequest _) .nil
  | codes => exact .cons .status (.cons (.sizeRequest _) .nil)
  | isBlockDevice errno => exact .cons .status .nil
  | blockDeviceLength errno => exact .cons (.sizeRequest _) .nil

end Inquiry

/-- The entry of an inquiry is decided by the two replies, and the session stays as it is. -/
theorem Session.step_about (session : Session) (n : Int) (inquiry : Inquiry) :
    let statusReply := session.kernel.status n
    let sizeReply := session.kernel.sizeReply n
    session.step (inquiry.about n) =
      (⟨inquiry.answer statusReply sizeReply,
          (inquiry.records n statusReply sizeReply).filter fun r =>
            session.threshold.admits r.level,
          inquiry.calls n statusReply⟩, session) := by
  cases inquiry with
  | lent operation =>
      exact (operation.step_on session (.borrowed n)).trans
        (perform_of_comesTo (operation.body_comesTo session.kernel n) operation.answer)
  | owned operation =>
      exact (operation.step_on session (.file n)).trans
        (perform_of_comesTo (operation.body_comesTo session.kernel n) operation.answer)
  | kind => exact perform_of_comesTo (Inspection.classify_comesTo session.kernel n) _
  | length => exact perform_of_comesTo (Inspection.deviceLength_comesTo session.kernel n) _
  | codes =>
      exact perform_of_comesTo (codes_comesTo session.kernel n) fun c => .codes c.1 c.2
  | isBlockDevice errno =>
      exact perform_of_comesTo (EntryPoint.isBlockDevice_comesTo session.kernel n errno) _
  | blockDeviceLength errno =>
      exact perform_of_comesTo (EntryPoint.blockDeviceLength_comesTo session.kernel n errno) _

end BlockExtent
