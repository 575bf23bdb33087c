import BlockExtent.EntryPoint
import BlockExtent.Proofs.Replies

/-!
# The entry points refine the inspections

An entry point returns the code of what the inspection of the same descriptor answers, makes the
same request and leaves the same kernel, but logs nothing. The codes themselves are faithful: a
code that is not negative is a length, and it is the length of one answer only.
-/

namespace BlockExtent

/-- The size request returned anything but -1, and this length is then in the caller's variable,
which starts at zero. -/
def SizeReply.Leaves (reply : SizeReply) (length : UInt64) : Prop :=
  ∃ code stored accepted, reply = .answered code stored accepted ∧ stored.getD 0 = length

theorem Inspection.lengthResult_ok_iff (reply : SizeReply) (length : UInt64) :
    lengthResult reply = .ok length ↔ reply.Leaves length := by
  cases reply with
  | refused e => simp [lengthResult, SizeReply.Leaves]
  | answered code stored accepted =>
      rw [lengthResult, Except.ok.injEq]
      constructor
      · intro left
        exact ⟨code, stored, accepted, rfl, left⟩
      · rintro ⟨_, _, _, same, left⟩
        cases same
        exact left

namespace EntryPoint

section Codes

variable (result : Except InspectError UInt64)

/-- A length is its own code exactly where it was answered and fits. -/
theorem lengthCode_eq_iff (n : UInt64) :
    lengthCode result = n.toNat ↔ result = .ok n ∧ n.toNat < lengthLimit := by
  cases result with
  | error e => simp [lengthCode, failed]
  | ok length =>
      by_cases fits : length.toNat < lengthLimit
      · simp only [lengthCode, if_pos fits, Int.natCast_inj, UInt64.toNat_inj, Except.ok.injEq]
        exact ⟨fun h => ⟨h, h ▸ fits⟩, And.left⟩
      · simp only [lengthCode, if_neg fits, failed, Except.ok.injEq]
        constructor
        · intro h
          omega
        · rintro ⟨rfl, h⟩
          exact absurd h fits

theorem lengthCode_nonneg_iff :
    0 ≤ lengthCode result ↔ ∃ n, result = .ok n ∧ n.toNat < lengthLimit := by
  constructor
  · intro nonneg
    cases result with
    | error e => simp [lengthCode, failed] at nonneg
    | ok length =>
        by_cases fits : length.toNat < lengthLimit
        · exact ⟨length, rfl, fits⟩
        · simp [lengthCode, fits, failed] at nonneg
  · rintro ⟨n, answered, fits⟩
    rw [(lengthCode_eq_iff result n).mpr ⟨answered, fits⟩]
    exact Int.natCast_nonneg n.toNat

/-- Every code is that of failure or a length below the limit. -/
theorem lengthCode_range :
    lengthCode result = failed ∨ 0 ≤ lengthCode result ∧ lengthCode result < lengthLimit := by
  cases result with
  | error e => exact .inl rfl
  | ok length =>
      by_cases fits : length.toNat < lengthLimit
      · right
        simp only [lengthCode, if_pos fits]
        omega
      · exact .inl (if_neg fits)

/-- Two results with the same code that is not negative are the same length. -/
theorem lengthCode_injective {other : Except InspectError UInt64} (nonneg : 0 ≤ lengthCode result)
    (same : lengthCode result = lengthCode other) : result = other := by
  obtain ⟨n, answered, fits⟩ := (lengthCode_nonneg_iff result).mp nonneg
  have code := (lengthCode_eq_iff result n).mpr ⟨answered, fits⟩
  rw [answered, ((lengthCode_eq_iff other n).mp (same ▸ code)).1]

end Codes

/-- Where both make one and the same request and the entry point does nothing else, only the codes
have to be compared. -/
theorem refines_of_single_call {α : Type} {entry : Traced Return} {inspection : Traced α}
    {encode : α → Int} {call : Call} (code : entry.value.code = encode inspection.value)
    (asked : inspection.calls = [call]) (events : entry.events = [.call call])
    (kernel : entry.kernel = inspection.kernel) :
    entry.value.code = encode inspection.value ∧ entry.calls = inspection.calls ∧
      entry.kernel = inspection.kernel ∧ entry.records = [] := by
  refine ⟨code, ?_, kernel, ?_⟩
  · rw [asked, Traced.calls, events]
    rfl
  · rw [Traced.records, events]
    rfl

section Runs

variable (threshold : Threshold) (kernel : Kernel) (descriptor : Int) (errno : Errno)

theorem isBlockDevice_code :
    ((isBlockDevice descriptor errno).run threshold kernel).value.code =
      classifyCode (Inspection.kindResult (kernel.status descriptor)) := by
  cases h : kernel.status descriptor with
  | error e => simp [isBlockDevice, h, classifyCode]
  | ok status =>
      by_cases block : status.mode &&& typeMask = blockType <;>
        simp [isBlockDevice, h, classifyCode, DeviceKind.ofMode, block]

theorem isBlockDevice_events :
    ((isBlockDevice descriptor errno).run threshold kernel).events =
      [.call (.status descriptor)] := by
  cases h : kernel.status descriptor <;> simp [isBlockDevice, h]

theorem isBlockDevice_kernel :
    ((isBlockDevice descriptor errno).run threshold kernel).kernel = kernel := by
  cases h : kernel.status descriptor <;> simp [isBlockDevice, h]

theorem blockDeviceLength_code :
    ((blockDeviceLength descriptor errno).run threshold kernel).value.code =
      lengthCode (Inspection.lengthResult (kernel.sizeReply descriptor)) := by
  cases h : kernel.sizeReply descriptor with
  | refused e => simp [blockDeviceLength, h, Inspection.lengthResult, lengthCode]
  | answered code stored accepted =>
      by_cases fits : (stored.getD 0).toNat < lengthLimit
      · have below : ¬ lengthLimit ≤ (stored.getD 0).toNat := by omega
        simp [blockDeviceLength, h, Inspection.lengthResult, lengthCode, fits, below]
      · have above : lengthLimit ≤ (stored.getD 0).toNat := by omega
        simp [blockDeviceLength, h, Inspection.lengthResult, lengthCode, fits, above]

theorem blockDeviceLength_events :
    ((blockDeviceLength descriptor errno).run threshold kernel).events =
      [.call (.sizeRequest descriptor Call.sizeRequestCode)] := by
  cases h : kernel.sizeReply descriptor with
  | refused e => simp [blockDeviceLength, h]
  | answered code stored accepted =>
      by_cases fits : lengthLimit ≤ (stored.getD 0).toNat <;> simp [blockDeviceLength, h, fits]

theorem blockDeviceLength_kernel :
    ((blockDeviceLength descriptor errno).run threshold kernel).kernel = kernel := by
  cases h : kernel.sizeReply descriptor with
  | refused e => simp [blockDeviceLength, h]
  | answered code stored accepted =>
      by_cases fits : lengthLimit ≤ (stored.getD 0).toNat <;> simp [blockDeviceLength, h, fits]

theorem isBlockDevice_refines :
    let kind := (Inspection.classify descriptor).run threshold kernel
    let code := (isBlockDevice descriptor errno).run threshold kernel
    code.value.code = classifyCode kind.value ∧ code.calls = kind.calls ∧
      code.kernel = kind.kernel ∧ code.records = [] := by
  apply refines_of_single_call
  · rw [isBlockDevice_code, Inspection.classify_value]
  · exact Inspection.classify_calls threshold kernel descriptor
  · exact isBlockDevice_events threshold kernel descriptor errno
  · rw [isBlockDevice_kernel, Inspection.classify_kernel]

theorem blockDeviceLength_refines :
    let length := (Inspection.deviceLength descriptor).run threshold kernel
    let code := (blockDeviceLength descriptor errno).run threshold kernel
    code.value.code = lengthCode length.value ∧ code.calls = length.calls ∧
      code.kernel = length.kernel ∧ code.records = [] := by
  apply refines_of_single_call
  · rw [blockDeviceLength_code, Inspection.deviceLength_value]
  · exact Inspection.deviceLength_calls threshold kernel descriptor
  · exact blockDeviceLength_events threshold kernel descriptor errno
  · rw [blockDeviceLength_kernel, Inspection.deviceLength_kernel]

end Runs

/-- The three codes of a classification tell the three replies to the status request apart. -/
theorem classifyCode_reply_iff (reply : Except Errno FileStatus) :
    let code := classifyCode (Inspection.kindResult reply)
    (code = 1 ↔ ∃ status, reply = .ok status ∧ DeviceKind.ofMode status.mode = .block) ∧
    (code = 0 ↔ ∃ status, reply = .ok status ∧ DeviceKind.ofMode status.mode = .other) ∧
    (code = failed ↔ ∃ e, reply = .error e) := by
  cases reply with
  | error e => simp [classifyCode, failed]
  | ok status => cases h : DeviceKind.ofMode status.mode <;> simp [classifyCode, failed, h]

/-- On one kernel and whatever the error cell holds, an entry point returns the code of the
inspection that it stands beside, with the same requests, the same kernel after it and no record
at any threshold. So the code of `isBlockDevice` tells a block device, anything else and a failed
request apart; the code of `blockDeviceLength` is -1 or lies in [0, 2⁶³ - 1], is the length that
the request leaves exactly where that length fits, and no two lengths share it. -/
theorem refines_inspection (threshold : Threshold) (kernel : Kernel) (descriptor : Int)
    (errno : Errno) :
    let kind := (Inspection.classify descriptor).run threshold kernel
    let length := (Inspection.deviceLength descriptor).run threshold kernel
    let isBlock := (isBlockDevice descriptor errno).run threshold kernel
    let size := (blockDeviceLength descriptor errno).run threshold kernel
    (isBlock.value.code = classifyCode kind.value ∧ isBlock.calls = kind.calls ∧
      isBlock.kernel = kind.kernel ∧ isBlock.records = []) ∧
    (size.value.code = lengthCode length.value ∧ size.calls = length.calls ∧
      size.kernel = length.kernel ∧ size.records = []) ∧
    ((isBlock.value.code = 1 ↔
        ∃ status, kernel.status descriptor = .ok status ∧
          DeviceKind.ofMode status.mode = .block) ∧
      (isBlock.value.code = 0 ↔
        ∃ status, kernel.status descriptor = .ok status ∧
          DeviceKind.ofMode status.mode = .other) ∧
      (isBlock.value.code = -1 ↔ ∃ e, kernel.status descriptor = .error e)) ∧
    (size.value.code = -1 ∨ 0 ≤ size.value.code ∧ size.value.code ≤ 0x7fffffffffffffff) ∧
    (0 ≤ size.value.code ↔
      ∃ n, (kernel.sizeReply descriptor).Leaves n ∧ n.toNat < 0x8000000000000000) ∧
    (∀ n : UInt64, size.value.code = n.toNat ↔
      (kernel.sizeReply descriptor).Leaves n ∧ n.toNat < 0x8000000000000000) ∧
    (∀ (otherKernel : Kernel) (otherDescriptor : Int) (otherErrno : Errno),
      let other := (blockDeviceLength otherDescriptor otherErrno).run threshold otherKernel
      0 ≤ size.value.code → size.value.code = other.value.code →
        ∃ n, (kernel.sizeReply descriptor).Leaves n ∧
          (otherKernel.sizeReply otherDescriptor).Leaves n) := by
  intro kind length isBlock size
  have isBlockCode := isBlockDevice_code threshold kernel descriptor errno
  have sizeCode := blockDeviceLength_code threshold kernel descriptor errno
  have stored := Inspection.lengthResult_ok_iff (kernel.sizeReply descriptor)
  refine ⟨isBlockDevice_refines threshold kernel descriptor errno,
    blockDeviceLength_refines threshold kernel descriptor errno, ?_, ?_, ?_, ?_, ?_⟩
  · simp only [isBlock, isBlockCode]
    exact classifyCode_reply_iff (kernel.status descriptor)
  · simp only [size, sizeCode]
    exact (lengthCode_range _).imp_right fun h => ⟨h.1, Int.le_of_lt_add_one h.2⟩
  · simp only [size, sizeCode, lengthCode_nonneg_iff, stored, lengthLimit]
  · intro n
    simp only [size, sizeCode, lengthCode_eq_iff, stored, lengthLimit]
  · intro otherKernel otherDescriptor otherErrno other nonneg same
    simp only [size, other, sizeCode, blockDeviceLength_code] at nonneg same
    obtain ⟨n, answered, -⟩ := (lengthCode_nonneg_iff _).mp nonneg
    have sameResult := lengthCode_injective _ nonneg same
    refine ⟨n, (stored n).mp answered, ?_⟩
    exact (Inspection.lengthResult_ok_iff _ n).mp (sameResult ▸ answered)

end EntryPoint

end BlockExtent
