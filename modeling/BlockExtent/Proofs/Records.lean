import BlockExtent.Proofs.Replies

/-!
# What a run writes

Of the events of a run all but the requests are written: lines of the standard output, lines of
the standard error output, and records, which are lines of the latter too. An inspection writes
nothing but records. Which ones is a function of the replies of the kernel, as its answer is, and
the log threshold only leaves out some of them.

## Implementation notes

What an inspection writes does not depend on the kernel but through the two replies, so kernels
with the same replies need not be compared further.
-/

namespace BlockExtent

namespace Event

/-- Whether an event is written on one of the outputs. -/
def isWritten : Event → Bool
  | .call _ => false
  | _ => true

@[simp] theorem isWritten_call (c : Call) : (Event.call c).isWritten = false := rfl

@[simp] theorem isWritten_record (r : Record) : (Event.record r).isWritten = true := rfl

@[simp] theorem isWritten_output (line : String) : (Event.output line).isWritten = true := rfl

@[simp] theorem isWritten_complaint (line : String) :
    (Event.complaint line).isWritten = true := rfl

@[simp] theorem output?_output (line : String) : (Event.output line).output? = some line := rfl

@[simp] theorem output?_record (r : Record) : (Event.record r).output? = none := rfl

@[simp] theorem output?_complaint (line : String) : (Event.complaint line).output? = none := rfl

section Complaint

variable (lineOf : Record → String)

@[simp] theorem complaint?_output (line : String) :
    (Event.output line).complaint? lineOf = none := rfl

@[simp] theorem complaint?_record (r : Record) :
    (Event.record r).complaint? lineOf = some (lineOf r) := rfl

@[simp] theorem complaint?_complaint (line : String) :
    (Event.complaint line).complaint? lineOf = some line := rfl

end Complaint

end Event

namespace Threshold

/-- The records among these that a threshold lets through, as events. -/
def logged (threshold : Threshold) (records : List Record) : List Event :=
  (records.filter fun r => threshold.admits r.level).map .record

@[simp] theorem logged_nil (threshold : Threshold) : threshold.logged [] = [] := rfl

@[simp] theorem logged_append (threshold : Threshold) (first second : List Record) :
    threshold.logged (first ++ second) = threshold.logged first ++ threshold.logged second := by
  simp [logged]

@[simp] theorem logged_output (threshold : Threshold) (records : List Record) :
    (threshold.logged records).filterMap Event.output? = [] := by
  simp [logged, List.filterMap_map, Function.comp_def]

@[simp] theorem logged_written (threshold : Threshold) (records : List Record) :
    (threshold.logged records).filter Event.isWritten = threshold.logged records := by
  simp [logged, List.filter_map, Function.comp_def]

theorem logged_complaints (threshold : Threshold) (line : Record → String)
    (records : List Record) :
    (threshold.logged records).filterMap (Event.complaint? line) =
      (records.filter fun r => threshold.admits r.level).map line := by
  simp [logged, List.filterMap_map, Function.comp_def]

end Threshold

namespace Traced

variable {α : Type}

/-- What a run writes, in order. -/
def written (run : Traced α) : List Event :=
  run.events.filter Event.isWritten

/-- The lines of the standard output of a run, in order. -/
def output (run : Traced α) : List String :=
  run.events.filterMap Event.output?

/-- The lines of the standard error output of a run, in order, with records shown by these
lines. -/
def complaints (run : Traced α) (line : Record → String) : List String :=
  run.events.filterMap (Event.complaint? line)

@[simp] theorem written_mk (value : α) (events : List Event) (kernel : Kernel) :
    (⟨value, events, kernel⟩ : Traced α).written = events.filter Event.isWritten := rfl

theorem output_eq (run : Traced α) : run.output = run.written.filterMap Event.output? := by
  rw [output, written, List.filterMap_filter]
  congr 1
  funext event
  cases event <;> rfl

theorem complaints_eq (run : Traced α) (line : Record → String) :
    run.complaints line = run.written.filterMap (Event.complaint? line) := by
  rw [complaints, written, List.filterMap_filter]
  congr 1
  funext event
  cases event <;> rfl

end Traced

namespace Action

variable {α β : Type} (action : Action α) (next : α → Action β)
variable (threshold : Threshold) (kernel : Kernel)

theorem value_bind :
    ((action >>= next).run threshold kernel).value =
      ((next (action.run threshold kernel).value).run threshold
        (action.run threshold kernel).kernel).value := rfl

theorem kernel_bind :
    ((action >>= next).run threshold kernel).kernel =
      ((next (action.run threshold kernel).value).run threshold
        (action.run threshold kernel).kernel).kernel := rfl

theorem written_bind :
    ((action >>= next).run threshold kernel).written =
      (action.run threshold kernel).written ++
        ((next (action.run threshold kernel).value).run threshold
          (action.run threshold kernel).kernel).written := by
  simp [Traced.written]

@[simp] theorem pure_written (x : α) :
    ((pure x : Action α).run threshold kernel).written = [] := rfl

@[simp] theorem output_written (line : String) :
    ((output line).run threshold kernel).written = [.output line] := rfl

@[simp] theorem complain_written (line : String) :
    ((complain line).run threshold kernel).written = [.complaint line] := rfl

@[simp] theorem close_written (n : Int) :
    ((close n).run threshold kernel).written = [] := rfl

theorem run_log_eq (record : Record) :
    (log record).run threshold kernel = ⟨(), threshold.logged [record], kernel⟩ := by
  by_cases h : threshold.admits record.level = true <;> simp [Threshold.logged, h]

@[simp] theorem log_written (record : Record) :
    ((log record).run threshold kernel).written = threshold.logged [record] := by
  rw [run_log_eq, Traced.written_mk, Threshold.logged_written]

end Action

namespace Inspection

variable (n : Int)

/-- The records of a status request. -/
def statusRecords : Except Errno FileStatus → List Record
  | .ok _ => []
  | .error e => [statusFailed n (cause e)]

/-- The records of a classification, from the reply to its status request. -/
def kindRecords : Except Errno FileStatus → List Record
  | .ok status => [classified n (DeviceKind.ofMode status.mode)]
  | .error e => [statusFailed n (cause e)]

/-- The records of a request for the length, from the reply to its size request. -/
def lengthRecords : SizeReply → List Record
  | .answered _ stored _ => [lengthAnswered n (stored.getD 0)]
  | .refused e => [sizeRequestFailed n (cause e)]

/-- The records of finding the extent of a block device of this status size, from the reply to the
size request. -/
def blockRecords (options : Options) (statusSize : UInt64) (reply : SizeReply) : List Record :=
  lengthRecords n reply ++
    match reply with
    | .answered .. => []
    | .refused e =>
        if options.allowFallback then [fellBack n (.controlRequest (cause e)) statusSize] else []

/-- The records of an inspection, from the replies to both requests. -/
def extentRecords (options : Options) (statusReply : Except Errno FileStatus)
    (sizeReply : SizeReply) : List Record :=
  statusRecords n statusReply ++
    match statusReply with
    | .error _ => []
    | .ok status =>
        match DeviceKind.ofMode status.mode with
        | .other => []
        | .block => blockRecords n options status.length sizeReply

section Run

variable (threshold : Threshold) (kernel : Kernel)

theorem status_written :
    ((status n).run threshold kernel).written =
      threshold.logged (statusRecords n (kernel.status n)) := by
  cases h : kernel.status n with
  | ok found => simp [status, statusRecords, h]
  | error e =>
      have failed := Action.log_written threshold kernel (statusFailed n (cause e))
      simpa [status, statusRecords, h] using failed

theorem classify_written :
    ((classify n).run threshold kernel).written =
      threshold.logged (kindRecords n (kernel.status n)) := by
  simp only [classify, Action.written_bind, status_written, status_value, status_kernel]
  cases kernel.status n with
  | error e => simp [statusResult, statusRecords, kindRecords]
  | ok status =>
      simp only [statusResult, Action.written_bind, Action.log_written]
      simp [statusRecords, kindRecords]

theorem deviceLength_written :
    ((deviceLength n).run threshold kernel).written =
      threshold.logged (lengthRecords n (kernel.sizeReply n)) := by
  simp only [deviceLength, Action.written_bind, Action.run_sizeRequest]
  cases kernel.sizeReply n with
  | refused e =>
      simp only [Action.written_bind, Action.log_written]
      simp [lengthRecords]
  | answered code stored accepted =>
      simp only [Action.written_bind, Action.log_written]
      simp [lengthRecords]

theorem resolve_block_written (options : Options) (statusSize : UInt64) :
    ((resolve n options .block statusSize).run threshold kernel).written =
      threshold.logged (blockRecords n options statusSize (kernel.sizeReply n)) := by
  simp only [resolve, Action.written_bind, deviceLength_written, deviceLength_value]
  cases kernel.sizeReply n with
  | answered code stored accepted => simp [lengthResult, blockRecords]
  | refused e =>
      cases allowed : options.allowFallback with
      | false => simp [lengthResult, blockRecords, allowed]
      | true =>
          simp only [lengthResult, if_true, Action.written_bind, Action.log_written]
          simp [blockRecords, allowed]

theorem inspect_written (options : Options) :
    ((inspect n options).run threshold kernel).written =
      threshold.logged
        (extentRecords n options (kernel.status n) (kernel.sizeReply n)) := by
  simp only [inspect, Action.written_bind, status_written, status_value, status_kernel]
  cases kernel.status n with
  | error e => simp [statusResult, extentRecords]
  | ok status =>
      simp only [statusResult, extentRecords]
      cases DeviceKind.ofMode status.mode with
      | other =>
          by_cases required : options.requireBlockDevice = true <;> simp [resolve, required]
      | block => simp [resolve_block_written]

end Run

end Inspection

end BlockExtent
