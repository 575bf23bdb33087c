import BlockExtent.Inspection

/-!
# What the replies of the kernel come to

An inspection of a descriptor asks the kernel at most twice, and its answer is a function of the
two replies. Here stand that function for each inspection, the requests that each of them makes,
and the fact that none of them touches the kernel.

## Implementation notes

A run is described projection by projection: the answer, the requests and the kernel after it.
The records depend on the log threshold as well, and no answer depends on them.
-/

namespace BlockExtent

namespace Traced

variable {α : Type} (value : α) (events : List Event) (kernel : Kernel)

@[simp] theorem calls_mk :
    (⟨value, events, kernel⟩ : Traced α).calls = events.filterMap Event.call? := rfl

@[simp] theorem records_mk :
    (⟨value, events, kernel⟩ : Traced α).records = events.filterMap Event.record? := rfl

end Traced

namespace Event

@[simp] theorem call?_call (c : Call) : (Event.call c).call? = some c := rfl

@[simp] theorem call?_record (r : Record) : (Event.record r).call? = none := rfl

@[simp] theorem call?_output (line : String) : (Event.output line).call? = none := rfl

@[simp] theorem call?_complaint (line : String) : (Event.complaint line).call? = none := rfl

@[simp] theorem record?_call (c : Call) : (Event.call c).record? = none := rfl

/-- A record that is made only under a condition is no request. -/
@[simp] theorem calls_of_record (condition : Prop) [Decidable condition] (r : Record) :
    (if condition then [Event.record r] else []).filterMap Event.call? = [] := by
  by_cases h : condition <;> simp [h]

end Event

namespace Action

variable {α β : Type} (action : Action α) (next : α → Action β)
variable (threshold : Threshold) (kernel : Kernel)

theorem calls_bind :
    ((action >>= next).run threshold kernel).calls =
      (action.run threshold kernel).calls ++
        ((next (action.run threshold kernel).value).run threshold
          (action.run threshold kernel).kernel).calls := by
  simp [Traced.calls]

end Action

namespace Inspection

/-- The status that follows from the reply to a status request. -/
def statusResult (reply : Except Errno FileStatus) : Except InspectError FileStatus :=
  match reply with
  | .ok status => .ok status
  | .error e => .error (.statusQuery (cause e))

/-- The kind that follows from the reply to a status request. -/
def kindResult (reply : Except Errno FileStatus) : Except InspectError DeviceKind :=
  (statusResult reply).map fun status => DeviceKind.ofMode status.mode

/-- The length that follows from the reply to a size request. -/
def lengthResult : SizeReply → Except InspectError UInt64
  | .answered _ stored _ => .ok (stored.getD 0)
  | .refused e => .error (.controlRequest (cause e))

/-- The extent of an object of known kind and status size, from the reply to a size request. -/
def extentOf (options : Options) (kind : DeviceKind) (statusSize : UInt64) (reply : SizeReply) :
    Except InspectError Extent :=
  match kind, lengthResult reply with
  | .other, _ =>
      if options.requireBlockDevice then .error .notBlockDevice
      else .ok (.measured .other statusSize)
  | .block, .ok length => .ok (.measured .block length)
  | .block, .error e => if options.allowFallback then .ok (.fallback statusSize) else .error e

/-- The extent that follows from the replies to both requests. -/
def extentResult (options : Options) (statusReply : Except Errno FileStatus)
    (sizeReply : SizeReply) : Except InspectError Extent :=
  match statusResult statusReply with
  | .ok status => extentOf options (DeviceKind.ofMode status.mode) status.length sizeReply
  | .error e => .error e

@[simp] theorem kindResult_error (e : Errno) :
    kindResult (.error e) = .error (.statusQuery (cause e)) := rfl

@[simp] theorem kindResult_ok (status : FileStatus) :
    kindResult (.ok status) = .ok (DeviceKind.ofMode status.mode) := rfl

section Run

variable (threshold : Threshold) (kernel : Kernel) (descriptor : Int)

theorem status_value :
    ((status descriptor).run threshold kernel).value = statusResult (kernel.status descriptor) := by
  cases h : kernel.status descriptor <;> simp [status, statusResult, h]

@[simp] theorem status_kernel : ((status descriptor).run threshold kernel).kernel = kernel := by
  cases h : kernel.status descriptor <;> simp [status, h]

@[simp] theorem status_calls :
    ((status descriptor).run threshold kernel).calls = [.status descriptor] := by
  cases h : kernel.status descriptor <;> simp [status, h]

theorem classify_value :
    ((classify descriptor).run threshold kernel).value = kindResult (kernel.status descriptor) := by
  cases h : kernel.status descriptor <;>
    simp [classify, statusResult, status_value, h]

@[simp] theorem classify_kernel :
    ((classify descriptor).run threshold kernel).kernel = kernel := by
  cases h : kernel.status descriptor <;> simp [classify, status_value, statusResult, h]

@[simp] theorem classify_calls :
    ((classify descriptor).run threshold kernel).calls = [.status descriptor] := by
  simp only [classify, Action.calls_bind, status_calls, status_value]
  cases statusResult (kernel.status descriptor) <;> simp

theorem deviceLength_value :
    ((deviceLength descriptor).run threshold kernel).value =
      lengthResult (kernel.sizeReply descriptor) := by
  cases h : kernel.sizeReply descriptor <;> simp [deviceLength, lengthResult, h]

@[simp] theorem deviceLength_kernel :
    ((deviceLength descriptor).run threshold kernel).kernel = kernel := by
  cases h : kernel.sizeReply descriptor <;> simp [deviceLength, h]

@[simp] theorem deviceLength_calls :
    ((deviceLength descriptor).run threshold kernel).calls =
      [.sizeRequest descriptor Call.sizeRequestCode] := by
  cases h : kernel.sizeReply descriptor <;> simp [deviceLength, h]

theorem resolve_value (options : Options) (kind : DeviceKind) (statusSize : UInt64) :
    ((resolve descriptor options kind statusSize).run threshold kernel).value =
      extentOf options kind statusSize (kernel.sizeReply descriptor) := by
  cases kind with
  | other =>
      by_cases h : options.requireBlockDevice = true <;> simp [resolve, extentOf, h]
  | block =>
      simp only [resolve, extentOf, Action.run_bind, deviceLength_value]
      cases lengthResult (kernel.sizeReply descriptor) with
      | ok length => simp
      | error e => by_cases h : options.allowFallback = true <;> simp [h]

@[simp] theorem resolve_kernel (options : Options) (kind : DeviceKind) (statusSize : UInt64) :
    ((resolve descriptor options kind statusSize).run threshold kernel).kernel = kernel := by
  cases kind with
  | other => by_cases h : options.requireBlockDevice = true <;> simp [resolve, h]
  | block =>
      simp only [resolve, Action.run_bind, deviceLength_value]
      cases lengthResult (kernel.sizeReply descriptor) with
      | ok length => simp
      | error e => by_cases h : options.allowFallback = true <;> simp [h]

theorem inspect_value (options : Options) :
    ((inspect descriptor options).run threshold kernel).value =
      extentResult options (kernel.status descriptor) (kernel.sizeReply descriptor) := by
  simp only [inspect, extentResult, Action.run_bind, status_value]
  cases statusResult (kernel.status descriptor) with
  | error e => simp
  | ok status => simp [resolve_value]

@[simp] theorem inspect_kernel (options : Options) :
    ((inspect descriptor options).run threshold kernel).kernel = kernel := by
  simp only [inspect, Action.run_bind, status_value]
  cases statusResult (kernel.status descriptor) <;> simp

theorem resolve_calls (options : Options) (kind : DeviceKind) (statusSize : UInt64) :
    ((resolve descriptor options kind statusSize).run threshold kernel).calls =
      if kind = .block then [.sizeRequest descriptor Call.sizeRequestCode] else [] := by
  cases kind with
  | other => by_cases h : options.requireBlockDevice = true <;> simp [resolve, h]
  | block =>
      simp only [resolve, Action.calls_bind, deviceLength_calls, deviceLength_value]
      cases lengthResult (kernel.sizeReply descriptor) with
      | ok length => simp
      | error e => by_cases h : options.allowFallback = true <;> simp [h]

/-- The size request follows exactly where the status is that of a block device. -/
theorem inspect_calls (options : Options) :
    ((inspect descriptor options).run threshold kernel).calls =
      .status descriptor ::
        match kindResult (kernel.status descriptor) with
        | .ok .block => [.sizeRequest descriptor Call.sizeRequestCode]
        | _ => [] := by
  simp only [inspect, Action.calls_bind, status_calls, status_value, kindResult]
  cases statusResult (kernel.status descriptor) with
  | error e => simp [Except.map]
  | ok status =>
      simp only [Except.map, status_kernel, resolve_calls]
      cases DeviceKind.ofMode status.mode <;> simp

theorem mem_inspect_calls {options : Options} {call : Call}
    (made : call ∈ ((inspect descriptor options).run threshold kernel).calls) :
    call = .status descriptor ∨ call = .sizeRequest descriptor Call.sizeRequestCode := by
  rw [inspect_calls] at made
  obtain status | made := List.mem_cons.mp made
  · exact .inl status
  · split at made
    · exact .inr (List.mem_singleton.mp made)
    · cases made

end Run

end Inspection

namespace Handle

/-- A handle that is given as a descriptor: lent for the call, or owned by an open file. -/
def OnDescriptor (handle : Handle) (descriptor : Int) : Prop :=
  handle = .borrowed descriptor ∨ handle = .file descriptor

/-- A handle that is given as a path, which is opened for the call. -/
def OnPath (handle : Handle) (path : Bytes) : Prop :=
  handle = .path path ∨ handle = .pathBuffer path

theorem onDescriptor_or_onPath (handle : Handle) :
    (∃ n, handle.OnDescriptor n) ∨ ∃ path, handle.OnPath path := by
  cases handle with
  | borrowed n => exact .inl ⟨n, .inl rfl⟩
  | file n => exact .inl ⟨n, .inr rfl⟩
  | path name => exact .inr ⟨name, .inl rfl⟩
  | pathBuffer name => exact .inr ⟨name, .inr rfl⟩

variable {α : Type} {handle : Handle} (body : Int → Action (Except InspectError α))

theorem OnDescriptor.withDescriptor_eq {descriptor : Int} (h : handle.OnDescriptor descriptor) :
    handle.withDescriptor body = body descriptor := by
  obtain rfl | rfl := h <;> rfl

theorem OnPath.withDescriptor_eq {path : Bytes} (h : handle.OnPath path) :
    handle.withDescriptor body = Inspection.throughPath path body := by
  obtain rfl | rfl := h <;> rfl

end Handle

end BlockExtent
