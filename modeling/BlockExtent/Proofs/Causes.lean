import BlockExtent.Proofs.ErrorCell
import BlockExtent.Proofs.Frame

/-!
# The causes of failures

An operation that fails because a request was refused keeps the number of that request if it is a
recognised one, and the success number in its place if it is not; the entry points leave every
number as it is. A path that does not open keeps its number too. A caller may look at the cause of a
failure, at its source or at what it converts to, and sees the same number, kind and text.

## Implementation notes

A path has a descriptor only while it is open, so the requests of an operation on a path are looked
at on the kernel of that moment. `Handle.Leads` names the descriptor and the kernel.
-/

namespace BlockExtent

namespace Errno

variable {e e' : Errno}

theorem folded_of_recognised (kept : e.Recognised) : e.folded = e := if_pos kept

theorem folded_of_unrecognised (lost : ¬ e.Recognised) : e.folded = success := if_neg lost

theorem recognised_ne_success (kept : e.Recognised) : e ≠ success := by
  rintro rfl
  exact absurd kept (by decide)

/-- A number survives where it is recognised, and the success number survives as what it is folded
into. -/
theorem folded_eq_self_iff : e.folded = e ↔ e.Recognised ∨ e = success := by
  by_cases kept : e.Recognised
  · simp [folded_of_recognised kept, kept]
  · simp [folded_of_unrecognised kept, kept, eq_comm]

/-- Two numbers are told apart unless both are lost. -/
theorem folded_eq_folded_iff (different : e ≠ e') :
    e.folded = e'.folded ↔ e.folded = success ∧ e'.folded = success := by
  constructor
  · intro same
    by_cases kept : e.Recognised
    · by_cases kept' : e'.Recognised
      · rw [folded_of_recognised kept, folded_of_recognised kept'] at same
        exact absurd same different
      · rw [folded_of_recognised kept, folded_of_unrecognised kept'] at same
        exact absurd same (recognised_ne_success kept)
    · have lost := folded_of_unrecognised kept
      exact ⟨lost, same ▸ lost⟩
  · rintro ⟨first, second⟩
    rw [first, second]

end Errno

namespace InspectError

/-- The number of the kernel that a failure reports, if it reports one. -/
def errno? (error : InspectError) : Option Errno :=
  error.systemError?.bind SystemError.errno?

/-- All but one of the failures have a cause, and show it whichever way they are looked at. -/
theorem cause_cases (error : InspectError) :
    error = .notBlockDevice ∨
      ∃ cause, error.systemError? = some cause ∧ error.source? = some cause ∧
        error.toSystemError = cause := by
  cases error with
  | notBlockDevice => exact .inl rfl
  | statusQuery cause => exact .inr ⟨cause, rfl, rfl, rfl⟩
  | controlRequest cause => exact .inr ⟨cause, rfl, rfl, rfl⟩
  | opening path cause => exact .inr ⟨cause, rfl, rfl, rfl⟩

end InspectError

/-- The number of the kernel that an answer reports, if it is a failure that reports one. -/
def reportedErrno {α : Type} : Except InspectError α → Option Errno
  | .ok _ => none
  | .error e => e.errno?

namespace EntryPoint.Query

/-- The descriptor that a query is about. -/
def descriptor : Query → Int
  | .kind n => n
  | .size n => n

/-- The request of a query is refused with a number. -/
def RefusedWith (kernel : Kernel) (e : Errno) : Query → Prop
  | .kind n => kernel.status n = .error e
  | .size n => kernel.sizeReply n = .refused e

/-- The failure of an inspection whose request is refused. -/
def report : Query → SystemError → InspectError
  | .kind _ => .statusQuery
  | .size _ => .controlRequest

theorem report_errno (query : Query) (e : Errno) : (query.report (.os e)).errno? = some e := by
  cases query <;> rfl

variable {kernel : Kernel} {e : Errno}

/-- What an entry point leaves in the error cell is the number of its own request. -/
theorem ask_errno_of_refused {query : Query} (refused : query.RefusedWith kernel e)
    (threshold : Threshold) (errno : Errno) :
    ((query.ask errno).run threshold kernel).value.errno = e := by
  rw [ask_errno]
  cases query with
  | kind n => rw [failure_kind_iff.mpr refused, Option.getD_some]
  | size n => rw [failure_size_iff.mpr (.inl refused), Option.getD_some]

end EntryPoint.Query

open EntryPoint (Query)

namespace Operation

/-- The requests without which an operation has no answer, on a kernel that tells the kind of the
object: the size of a block device may be given up where the options allow the fallback. -/
def Needs (kernel : Kernel) : Operation → Query → Prop
  | .classify, .kind _ => True
  | .classify, .size _ => False
  | .deviceLength, .kind _ => False
  | .deviceLength, .size _ => True
  | .inspect, .kind _ => True
  | .inspect, .size n => Inspection.kindResult (kernel.status n) = .ok .block
  | .inspectWith _, .kind _ => True
  | .inspectWith options, .size n =>
      Inspection.kindResult (kernel.status n) = .ok .block ∧ options.allowFallback = false

end Operation

namespace Inspection

variable {statusReply : Except Errno FileStatus} {sizeReply : SizeReply} {reported : SystemError}

theorem kindResult_eq_statusQuery_iff :
    kindResult statusReply = .error (.statusQuery reported) ↔
      ∃ e, statusReply = .error e ∧ reported = cause e := by
  cases statusReply <;> simp [eq_comm]

theorem lengthResult_eq_controlRequest_iff :
    lengthResult sizeReply = .error (.controlRequest reported) ↔
      ∃ e, sizeReply = .refused e ∧ reported = cause e := by
  cases sizeReply <;> simp [lengthResult, eq_comm]

theorem extentResult_eq_statusQuery_iff (options : Options) :
    extentResult options statusReply sizeReply = .error (.statusQuery reported) ↔
      ∃ e, statusReply = .error e ∧ reported = cause e := by
  cases statusReply with
  | error e => simp [extentResult, statusResult, eq_comm]
  | ok status =>
      simp only [extentResult, statusResult, extentOf]
      cases DeviceKind.ofMode status.mode with
      | other => cases options.requireBlockDevice <;> simp
      | block => cases sizeReply <;> cases options.allowFallback <;> simp [lengthResult]

theorem extentResult_eq_controlRequest_iff (options : Options) :
    extentResult options statusReply sizeReply = .error (.controlRequest reported) ↔
      (kindResult statusReply = .ok .block ∧ options.allowFallback = false) ∧
        ∃ e, sizeReply = .refused e ∧ reported = cause e := by
  cases statusReply with
  | error e => simp [extentResult, statusResult]
  | ok status =>
      simp only [extentResult, statusResult, extentOf, kindResult_ok]
      cases DeviceKind.ofMode status.mode with
      | other => cases options.requireBlockDevice <;> simp
      | block =>
          cases sizeReply <;> cases options.allowFallback <;> simp [lengthResult, eq_comm]

end Inspection

namespace Operation

/-- An operation reports a request where it needs it and the request is refused, and what it
reports is the number as an inspection keeps it. -/
theorem result_eq_report_iff (operation : Operation) (kernel : Kernel) (query : Query)
    (reported : SystemError) :
    operation.result (kernel.status query.descriptor) (kernel.sizeReply query.descriptor) =
        .error (query.report reported) ↔
      operation.Needs kernel query ∧
        ∃ e, query.RefusedWith kernel e ∧ reported = Inspection.cause e := by
  cases query with
  | kind n =>
      cases operation with
      | classify =>
          exact Inspection.kindResult_eq_statusQuery_iff.trans (and_iff_right trivial).symm
      | deviceLength =>
          simp only [Needs, false_and, iff_false]
          change Inspection.lengthResult (kernel.sizeReply n) ≠ .error (.statusQuery reported)
          cases kernel.sizeReply n <;> simp [Inspection.lengthResult]
      | inspect =>
          exact (Inspection.extentResult_eq_statusQuery_iff .standard).trans
            (and_iff_right trivial).symm
      | inspectWith options =>
          exact (Inspection.extentResult_eq_statusQuery_iff options).trans
            (and_iff_right trivial).symm
  | size n =>
      cases operation with
      | classify =>
          simp only [Needs, false_and, iff_false]
          change Inspection.kindResult (kernel.status n) ≠ .error (.controlRequest reported)
          cases kernel.status n <;> simp
      | deviceLength =>
          exact Inspection.lengthResult_eq_controlRequest_iff.trans (and_iff_right trivial).symm
      | inspect =>
          have strict : Options.standard.allowFallback = false := rfl
          exact (Inspection.extentResult_eq_controlRequest_iff .standard).trans
            (and_congr_left' (and_iff_left strict))
      | inspectWith options => exact Inspection.extentResult_eq_controlRequest_iff options

end Operation

namespace Handle

/-- A handle leads to a descriptor on a kernel: the one that it gives, on the kernel as it is, or
the one that opening its path gets, on the kernel after that. -/
inductive Leads (handle : Handle) (kernel : Kernel) : Int → Kernel → Prop
  | given {n : Int} (on : handle.OnDescriptor n) : Leads handle kernel n kernel
  | opened {path : Bytes} {attempts : Nat} {n : Int} {during : Kernel} (on : handle.OnPath path)
      (noNull : 0 ∉ path) (opens : kernel.Opens path attempts (.ok n) during) :
      Leads handle kernel n during

variable {handle : Handle} {kernel during : Kernel} {n : Int}

theorem Leads.value {α : Type} (leads : handle.Leads kernel n during)
    (body : Int → Action (Except InspectError α)) (threshold : Threshold) :
    ((handle.withDescriptor body).run threshold kernel).value =
      ((body n).run threshold during).value := by
  cases leads with
  | given on => rw [on.withDescriptor_eq]
  | opened on noNull opens =>
      rw [on.withDescriptor_eq, Inspection.run_throughPath_of_ok threshold body noNull opens]

/-- A handle that leads to no descriptor makes every action on it fail with the failure to open
its path. -/
theorem leads_or_opening (handle : Handle) (kernel : Kernel) :
    (∃ n during, handle.Leads kernel n during) ∨
      ∃ path reported, ∀ {α : Type} (body : Int → Action (Except InspectError α)) threshold,
        ((handle.withDescriptor body).run threshold kernel).value =
          .error (.opening path reported) := by
  obtain ⟨n, on⟩ | ⟨path, on⟩ := handle.onDescriptor_or_onPath
  · exact .inl ⟨n, kernel, .given on⟩
  · by_cases null : 0 ∈ path
    · right
      refine ⟨path, .nullInPath, fun body threshold => ?_⟩
      rw [on.withDescriptor_eq, Inspection.run_throughPath_of_null threshold body null]
    · obtain ⟨e, failed⟩ | ⟨n, place, -, opened⟩ := kernel.lastAttempt_cases path
      · right
        refine ⟨path, .os e, fun body threshold => ?_⟩
        rw [on.withDescriptor_eq, Inspection.run_throughPath threshold body null, failed]
      · left
        have opens := kernel.opens_lastAttempt path
        rw [opened] at opens
        exact ⟨n, _, .opened on null opens⟩

end Handle

namespace Operation

/-- An operation on a handle needs a request that is refused with a number, on the kernel on which
it makes the request. -/
structure Meets (operation : Operation) (handle : Handle) (kernel : Kernel) (query : Query)
    (during : Kernel) (e : Errno) : Prop where
  leads : handle.Leads kernel query.descriptor during
  needs : operation.Needs during query
  refused : query.RefusedWith during e

section Meets

variable {operation : Operation} {handle : Handle} {kernel during : Kernel} {query : Query}
variable {e : Errno}

/-- What an operation on a handle answers, from the replies on the way. -/
theorem value_of_leads (operation : Operation) {n : Int} (leads : handle.Leads kernel n during)
    (threshold : Threshold) :
    ((handle.withDescriptor operation.body).run threshold kernel).value =
      operation.result (during.status n) (during.sizeReply n) := by
  rw [leads.value, (operation.body_comesTo during n).value]

theorem Meets.value (meets : operation.Meets handle kernel query during e)
    (threshold : Threshold) :
    ((handle.withDescriptor operation.body).run threshold kernel).value =
      .error (query.report (Inspection.cause e)) := by
  rw [operation.value_of_leads meets.leads]
  exact (operation.result_eq_report_iff during query _).mpr ⟨meets.needs, e, meets.refused, rfl⟩

theorem Meets.reportedErrno (meets : operation.Meets handle kernel query during e)
    (threshold : Threshold) :
    reportedErrno ((handle.withDescriptor operation.body).run threshold kernel).value =
      some e.folded := by
  rw [meets.value]
  exact query.report_errno e.folded

/-- A failure that is reported for a request is met there. -/
theorem meets_of_report {threshold : Threshold} {reported : SystemError}
    (leads : handle.Leads kernel query.descriptor during)
    (failed : ((handle.withDescriptor operation.body).run threshold kernel).value =
      .error (query.report reported)) :
    ∃ e, operation.Meets handle kernel query during e ∧ reported = Inspection.cause e := by
  rw [operation.value_of_leads leads] at failed
  obtain ⟨needs, e, refused, kept⟩ := (operation.result_eq_report_iff during query _).mp failed
  exact ⟨e, ⟨leads, needs, refused⟩, kept⟩

theorem value_eq_statusQuery_iff {threshold : Threshold} {reported : SystemError} :
    ((handle.withDescriptor operation.body).run threshold kernel).value =
        .error (.statusQuery reported) ↔
      ∃ n during e, operation.Meets handle kernel (.kind n) during e ∧
        reported = Inspection.cause e := by
  constructor
  · intro failed
    obtain ⟨n, during, leads⟩ | ⟨path, cause, fails⟩ := handle.leads_or_opening kernel
    · have leads' : handle.Leads kernel (Query.kind n).descriptor during := leads
      exact ⟨n, during, meets_of_report leads' failed⟩
    · rw [fails] at failed
      cases failed
  · rintro ⟨n, during, e, meets, rfl⟩
    exact meets.value threshold

theorem value_eq_controlRequest_iff {threshold : Threshold} {reported : SystemError} :
    ((handle.withDescriptor operation.body).run threshold kernel).value =
        .error (.controlRequest reported) ↔
      ∃ n during e, operation.Meets handle kernel (.size n) during e ∧
        reported = Inspection.cause e := by
  constructor
  · intro failed
    obtain ⟨n, during, leads⟩ | ⟨path, cause, fails⟩ := handle.leads_or_opening kernel
    · have leads' : handle.Leads kernel (Query.size n).descriptor during := leads
      exact ⟨n, during, meets_of_report leads' failed⟩
    · rw [fails] at failed
      cases failed
  · rintro ⟨n, during, e, meets, rfl⟩
    exact meets.value threshold

theorem Meets.ask_errno (meets : operation.Meets handle kernel query during e)
    (threshold : Threshold) (errno : Errno) :
    ((query.ask errno).run threshold during).value.errno = e :=
  Query.ask_errno_of_refused meets.refused threshold errno

end Meets

/-- On every kernel, every operation on every handle that fails because a request on the descriptor
is refused, be it given or got by opening a path, reports the number of that request if it is one
of 1 to 133 without 41 and 58, and 0 if it is not. That is the number that the entry point for the
same request leaves in the error cell exactly where it is recognised or 0; and two numbers are
confused exactly where 0 is reported for both. The failure to open a path reports the number of the
kernel, whatever it is. A failure shows one and the same cause, with its number, its kind and its
text, wherever it is looked for, but the failure for want of a block device has no cause and
converts to an invalid input. -/
theorem reports_recognised_numbers (operation : Operation) (threshold : Threshold)
    (kernel : Kernel) (handle : Handle) :
    let answer := ((handle.withDescriptor operation.body).run threshold kernel).value
    (∀ cause,
      (answer = .error (.statusQuery cause) ↔
        ∃ n during e, operation.Meets handle kernel (.kind n) during e ∧
          cause = .os (if e.Recognised then e else ⟨0⟩)) ∧
      (answer = .error (.controlRequest cause) ↔
        ∃ n during e, operation.Meets handle kernel (.size n) during e ∧
          cause = .os (if e.Recognised then e else ⟨0⟩))) ∧
    (∀ query during e, operation.Meets handle kernel query during e →
      reportedErrno answer = some (if e.Recognised then e else ⟨0⟩) ∧
      (∀ errno,
        reportedErrno answer = some ((query.ask errno).run threshold during).value.errno ↔
          e.Recognised ∨ e = ⟨0⟩) ∧
      ∀ operation' handle' kernel' query' during' e',
        Meets operation' handle' kernel' query' during' e' → e ≠ e' →
        let answer' := ((handle'.withDescriptor operation'.body).run threshold kernel').value
        (reportedErrno answer = reportedErrno answer' ↔
          reportedErrno answer = some ⟨0⟩ ∧ reportedErrno answer' = some ⟨0⟩)) ∧
    (∀ path attempts e after, handle.OnPath path → 0 ∉ path →
      kernel.Opens path attempts (.error e) after →
        answer = .error (.opening path (.os e)) ∧ reportedErrno answer = some e) ∧
    (∀ error, answer = .error error → error ≠ .notBlockDevice →
      ∃ cause, error.systemError? = some cause ∧ error.source? = some cause ∧
        error.toSystemError = cause) ∧
    let missing := InspectError.notBlockDevice
    missing.systemError? = none ∧ missing.source? = none ∧
      missing.toSystemError.errno? = none ∧ missing.toSystemError.kind = .invalidInput ∧
      missing.toSystemError.text = "not a block device" := by
  intro answer
  refine ⟨?_, ?_, ?_, ?_, rfl, rfl, rfl, rfl, rfl⟩
  · intro cause
    exact ⟨value_eq_statusQuery_iff, value_eq_controlRequest_iff⟩
  · intro query during e meets
    have reported : reportedErrno answer = some e.folded := meets.reportedErrno threshold
    refine ⟨reported, ?_, ?_⟩
    · intro errno
      rw [reported, meets.ask_errno, Option.some.injEq]
      exact Errno.folded_eq_self_iff
    · intro operation' handle' kernel' query' during' e' meets' different answer'
      have reported' : reportedErrno answer' = some e'.folded := meets'.reportedErrno threshold
      simp only [reported, reported', Option.some.injEq]
      exact Errno.folded_eq_folded_iff different
  · intro path attempts e after on noNull opens
    have failed : answer = .error (.opening path (.os e)) := by
      simp only [answer, on.withDescriptor_eq]
      rw [Inspection.run_throughPath_of_error threshold _ noNull opens]
    exact ⟨failed, by rw [failed]; rfl⟩
  · intro error failed other
    exact error.cause_cases.resolve_left other

/-- A driver refuses with a number that is not recognised, and the failure looks like a success. -/
example :
    let device : FileObject := { mode := 0o060660, sizeReply := .refused ⟨524⟩, interruptions := 2 }
    let answer := ((Handle.path [0x64]).inspect.run .off (.naming [0x64] device)).value
    answer = .error (.controlRequest (.os ⟨0⟩)) ∧
      SystemError.text (.os ⟨0⟩) = "Success (os error 0)" := by
  decide

end Operation

end BlockExtent
