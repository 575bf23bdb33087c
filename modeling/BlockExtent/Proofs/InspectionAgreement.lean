import BlockExtent.Proofs.Replies

/-!
# An inspection agrees with its two parts

`inspectWith` asks for kind and length by itself. Its answer is decided by what `classify` and
`deviceLength` answer on the same kernel, by the status size and by the options, and each of its
six forms occurs exactly under one condition on these.

## Implementation notes

The conditions are first proved of the replies, where a case is a reply and a kind, and then read
back as conditions on the runs.
-/

namespace BlockExtent

/-- A status size as a length is the size itself, and zero where the size is negative. -/
theorem FileStatus.length_toNat (status : FileStatus) :
    status.length.toNat = status.size.toNatClampNeg := by
  by_cases h : status.size < 0
  · have negative : status.size.toInt < 0 := Int64.lt_iff_toInt_lt.mp h
    have clamped : status.size.toNatClampNeg = 0 := Int.toNat_of_nonpos (by omega)
    simp [FileStatus.length, h, clamped]
  · rw [FileStatus.length, if_neg h]
    exact Int64.toNat_toUInt64_of_le (Int64.not_lt.mp h)

/-- A kernel that holds one object, open under the lowest descriptor. -/
def Kernel.holding (object : FileObject) : Kernel :=
  { objects := [object], descriptors := [(3, 0)] }

/-- A reply to a status request carries this length: its size, or zero for a negative one. -/
def ReportsSize (reply : Except Errno FileStatus) (length : UInt64) : Prop :=
  ∃ status, reply = .ok status ∧ length.toNat = status.size.toNatClampNeg

theorem reportsSize_ok_iff (status : FileStatus) (length : UInt64) :
    ReportsSize (.ok status) length ↔ status.length = length := by
  simp [ReportsSize, ← FileStatus.length_toNat, UInt64.toNat_inj, eq_comm]

namespace Inspection

/-- How the answer of an inspection goes with those of `classify` and `deviceLength`. Where the
kind decides alone, the length may be anything. -/
inductive Answers (options : Options) (statusReply : Except Errno FileStatus) :
    Except InspectError DeviceKind → Except InspectError UInt64 → Except InspectError Extent → Prop
  | statusFailed (e : SystemError) (length : Except InspectError UInt64) :
      Answers options statusReply (.error (.statusQuery e)) length (.error (.statusQuery e))
  | rejected (length : Except InspectError UInt64) (required : options.requireBlockDevice = true) :
      Answers options statusReply (.ok .other) length (.error .notBlockDevice)
  | sized {status : FileStatus} (length : Except InspectError UInt64)
      (found : statusReply = .ok status) (notRequired : options.requireBlockDevice = false) :
      Answers options statusReply (.ok .other) length (.ok ⟨.other, status.length, false⟩)
  | measured (n : UInt64) :
      Answers options statusReply (.ok .block) (.ok n) (.ok ⟨.block, n, false⟩)
  | fellBack {status : FileStatus} (e : SystemError) (found : statusReply = .ok status)
      (allowed : options.allowFallback = true) :
      Answers options statusReply (.ok .block) (.error (.controlRequest e))
        (.ok ⟨.block, status.length, true⟩)
  | controlFailed (e : SystemError) (notAllowed : options.allowFallback = false) :
      Answers options statusReply (.ok .block) (.error (.controlRequest e))
        (.error (.controlRequest e))

/-- Every pair of replies leads to answers that go together. -/
theorem answers_of_replies (options : Options) (statusReply : Except Errno FileStatus)
    (sizeReply : SizeReply) :
    Answers options statusReply (kindResult statusReply) (lengthResult sizeReply)
      (extentResult options statusReply sizeReply) := by
  cases statusReply with
  | error e => exact .statusFailed (cause e) _
  | ok status =>
      simp only [kindResult_ok, extentResult, statusResult]
      cases DeviceKind.ofMode status.mode with
      | other =>
          cases required : options.requireBlockDevice with
          | true =>
              simp only [extentOf, required, if_true]
              exact .rejected _ required
          | false =>
              simp only [extentOf, required, Bool.false_eq_true, if_false]
              exact .sized _ rfl required
      | block =>
          cases sizeReply with
          | answered code stored accepted => exact .measured (stored.getD 0)
          | refused e =>
              cases allowed : options.allowFallback with
              | true =>
                  simp only [extentOf, lengthResult, allowed, if_true]
                  exact .fellBack (cause e) rfl allowed
              | false =>
                  simp only [extentOf, lengthResult, allowed, Bool.false_eq_true, if_false]
                  exact .controlFailed (cause e) allowed

/-- On one kernel the three inspections of a descriptor answer together, whatever is logged. -/
theorem inspect_answers (threshold : Threshold) (kernel : Kernel) (descriptor : Int)
    (options : Options) :
    Answers options (kernel.status descriptor)
      ((classify descriptor).run threshold kernel).value
      ((deviceLength descriptor).run threshold kernel).value
      ((inspect descriptor options).run threshold kernel).value := by
  rw [classify_value, deviceLength_value, inspect_value]
  exact answers_of_replies options (kernel.status descriptor) (kernel.sizeReply descriptor)

end Inspection

namespace Handle

/-- An inspection of a descriptor is decided by the answers of `classify` and `deviceLength` on
the same kernel, by the status size and by the options: each of its six answers, and there is no
other, occurs exactly where they say so. -/
theorem inspectWith_agrees (threshold : Threshold) (kernel : Kernel) (descriptor : Int)
    (options : Options) (handle : Handle) (given : handle.OnDescriptor descriptor) :
    let kind := ((Inspection.classify descriptor).run threshold kernel).value
    let length := ((Inspection.deviceLength descriptor).run threshold kernel).value
    let extent := ((handle.inspectWith options).run threshold kernel).value
    let reported := ReportsSize (kernel.status descriptor)
    (∀ e, extent = .error (.statusQuery e) ↔ kind = .error (.statusQuery e)) ∧
    (extent = .error .notBlockDevice ↔
      kind = .ok .other ∧ options.requireBlockDevice = true) ∧
    (∀ n, extent = .ok ⟨.other, n, false⟩ ↔
      kind = .ok .other ∧ options.requireBlockDevice = false ∧ reported n) ∧
    (∀ n, extent = .ok ⟨.block, n, false⟩ ↔ kind = .ok .block ∧ length = .ok n) ∧
    (∀ n, extent = .ok ⟨.block, n, true⟩ ↔
      kind = .ok .block ∧ (∃ e, length = .error e) ∧ options.allowFallback = true ∧ reported n) ∧
    (∀ e, extent = .error (.controlRequest e) ↔
      kind = .ok .block ∧ length = .error (.controlRequest e) ∧ options.allowFallback = false) ∧
    ((∃ e, extent = .error (.statusQuery e)) ∨ extent = .error .notBlockDevice ∨
      (∃ n, extent = .ok ⟨.other, n, false⟩) ∨ (∃ n, extent = .ok ⟨.block, n, false⟩) ∨
      (∃ n, extent = .ok ⟨.block, n, true⟩) ∨ ∃ e, extent = .error (.controlRequest e)) := by
  intro kind length extent reported
  have together : Inspection.Answers options (kernel.status descriptor) kind length extent := by
    have h := Inspection.inspect_answers threshold kernel descriptor options
    rwa [← given.withDescriptor_eq (Inspection.inspect · options)] at h
  clear_value kind length extent
  cases together with
  | statusFailed e => simp
  | rejected _ required => simp [required]
  | sized _ found notRequired => simp [reported, found, notRequired, reportsSize_ok_iff]
  | measured n => simp
  | fellBack e found allowed => simp [reported, found, allowed, reportsSize_ok_iff]
  | controlFailed e notAllowed => simp [notAllowed]

/-- A block device of negative status size whose driver returns 7 and stores 2⁶³ + 1 bytes is
measured through an open file, although a fallback is allowed. -/
theorem inspectWith_agrees_large_device :
    (Handle.file 3).OnDescriptor 3 ∧
      (((Handle.file 3).inspectWith ⟨true, true⟩).run (.upTo .trace) (Kernel.holding
        { mode := 0o060660, size := -1,
          sizeReply := .answered 7 (some 0x8000000000000001) (by decide) })).value =
        .ok ⟨.block, 0x8000000000000001, false⟩ := by
  have given : (Handle.file 3).OnDescriptor 3 := .inr rfl
  obtain ⟨-, -, -, measured, -⟩ := inspectWith_agrees (.upTo .trace) (Kernel.holding
    { mode := 0o060660, size := -1,
      sizeReply := .answered 7 (some 0x8000000000000001) (by decide) })
    3 ⟨true, true⟩ (.file 3) given
  exact ⟨given, (measured _).mpr ⟨rfl, rfl⟩⟩

end Handle

end BlockExtent
