import BlockExtent.EntryPoint
import BlockExtent.Inspection

/-!
# Sessions

A session is a list of steps on one kernel. Some steps change the kernel or the log threshold from
outside, the others run the library; each leaves its answer, its records and its requests.
-/

namespace BlockExtent

/-- One step of a session. -/
inductive Step where
  /-- Try once to open a path from outside. -/
  | openFile (path : Bytes)
  | duplicate (descriptor : Int)
  | close (descriptor : Int)
  | link (path : Bytes) (object : FileObject)
  | unlink (path : Bytes)
  | setThreshold (threshold : Threshold)
  | classify (handle : Handle)
  /-- Classify a descriptor without a handle. -/
  | classifyDescriptor (descriptor : Int)
  | deviceLength (handle : Handle)
  /-- Ask for the length of the device behind a descriptor without a handle. -/
  | descriptorLength (descriptor : Int)
  | inspect (handle : Handle)
  | inspectWith (handle : Handle) (options : Options)
  /-- Bring classification and length of a descriptor into integers. -/
  | codes (descriptor : Int)
  | isBlockDevice (descriptor : Int) (errno : Errno)
  | blockDeviceLength (descriptor : Int) (errno : Errno)
  deriving DecidableEq

/-- The answer to a step. -/
inductive Answer where
  | descriptor (descriptor : Int)
  | refused (errno : Errno)
  | done
  | kind (result : Except InspectError DeviceKind)
  | length (result : Except InspectError UInt64)
  | extent (result : Except InspectError Extent)
  | codes (classification length : Int)
  | returned (result : EntryPoint.Return)

namespace Answer

/-- The answer to a request for a descriptor. -/
def ofDescriptor : Except Errno Int → Answer
  | .ok n => .descriptor n
  | .error e => .refused e

/-- The answer to a request that only succeeds or fails. -/
def ofUnit : Except Errno Unit → Answer
  | .ok () => .done
  | .error e => .refused e

end Answer

/-- What a step leaves: its answer, its records and its requests. -/
structure Entry where
  answer : Answer
  records : List Record
  calls : List Call

/-- A kernel and the log threshold in force. -/
structure Session where
  kernel : Kernel
  threshold : Threshold

namespace Session

/-- Everything is logged at the start of a session. -/
def start (kernel : Kernel) : Session :=
  ⟨kernel, .upTo .trace⟩

/-- A step from outside: a new state of the kernel and no events. -/
def changed (session : Session) (answer : Answer) (kernel : Kernel) : Entry × Session :=
  (⟨answer, [], []⟩, { session with kernel })

/-- A step that runs the library. -/
def perform {α : Type} (session : Session) (action : Action α) (answer : α → Answer) :
    Entry × Session :=
  let run := action.run session.threshold session.kernel
  (⟨answer run.value, run.records, run.calls⟩, { session with kernel := run.kernel })

/-- Classification and length of a descriptor, both asked for and brought into integers. -/
def codes (descriptor : Int) : Action (Int × Int) := do
  let kind ← Inspection.classify descriptor
  let length ← Inspection.deviceLength descriptor
  return (EntryPoint.classifyCode kind, EntryPoint.lengthCode length)

/-- Take one step. -/
def step (session : Session) : Step → Entry × Session
  | .openFile path =>
      let (answer, kernel) := session.kernel.attemptOpen path
      session.changed (.ofDescriptor answer) kernel
  | .duplicate descriptor =>
      let (answer, kernel) := session.kernel.duplicate descriptor
      session.changed (.ofDescriptor answer) kernel
  | .close descriptor =>
      let (answer, kernel) := session.kernel.close descriptor
      session.changed (.ofUnit answer) kernel
  | .link path object => session.changed .done (session.kernel.link path object)
  | .unlink path =>
      let (answer, kernel) := session.kernel.unlink path
      session.changed (.ofUnit answer) kernel
  | .setThreshold threshold => (⟨.done, [], []⟩, { session with threshold })
  | .classify handle => session.perform handle.classify .kind
  | .classifyDescriptor descriptor => session.perform (Inspection.classify descriptor) .kind
  | .deviceLength handle => session.perform handle.deviceLength .length
  | .descriptorLength descriptor =>
      session.perform (Inspection.deviceLength descriptor) .length
  | .inspect handle => session.perform handle.inspect .extent
  | .inspectWith handle options => session.perform (handle.inspectWith options) .extent
  | .codes descriptor => session.perform (codes descriptor) fun c => .codes c.1 c.2
  | .isBlockDevice descriptor errno =>
      session.perform (EntryPoint.isBlockDevice descriptor errno) .returned
  | .blockDeviceLength descriptor errno =>
      session.perform (EntryPoint.blockDeviceLength descriptor errno) .returned

/-- The entries of a list of steps, taken one after the other. -/
def entries (session : Session) : List Step → List Entry
  | [] => []
  | step :: rest =>
      let (entry, next) := session.step step
      entry :: next.entries rest

/-- The state after a list of steps. -/
def after (session : Session) (steps : List Step) : Session :=
  steps.foldl (fun session step => (session.step step).2) session

end Session

end BlockExtent
