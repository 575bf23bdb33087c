import BlockExtent.Errno
import BlockExtent.Text.Utf8

/-!
# Objects behind paths and descriptors

A file object fixes how the kernel answers every request about it: its status, its size as a
device, opening its path, and what a search for its device looks at.
-/

namespace BlockExtent

/-- The number of a device: its driver and its place among the devices of that driver. -/
structure DeviceNumber where
  major : UInt32
  minor : UInt32
  deriving DecidableEq, Repr

/-- What a successful status request reports. -/
structure FileStatus where
  mode : UInt32
  size : Int64
  deriving DecidableEq, Repr

namespace FileStatus

/-- The status size as a length in bytes; a negative one counts as nothing. -/
def length (status : FileStatus) : UInt64 :=
  if status.size < 0 then 0 else status.size.toUInt64

end FileStatus

/-- How an object answers the size request of block devices. -/
inductive SizeReply where
  /-- The request returns -1 and leaves this number. -/
  | refused (errno : Errno)
  /-- The request returns anything but -1, and has stored a size for the caller or none. -/
  | answered (code : Int) (stored : Option UInt64) (accepted : code ≠ -1)
  deriving DecidableEq

/-- An object of the file system, with its answer to every request. -/
structure FileObject where
  mode : UInt32 := 0o100644
  size : Int64 := 0
  /-- The number with which status requests on a descriptor fail. -/
  statusFailure : Option Errno := none
  sizeReply : SizeReply := .refused .inappropriateControl
  /-- The number with which opening fails, once it is not interrupted. -/
  openFailure : Option Errno := none
  /-- An interruption is not a failure to stay with: the attempt is repeated until none is left. -/
  openFailure_ne_interrupted : openFailure ≠ some .interrupted := by decide
  /-- How many attempts to open the object are still going to be interrupted. -/
  interruptions : Nat := 0
  /-- The device on which the object lies. -/
  device : DeviceNumber := ⟨0, 0⟩
  /-- The number with which status requests by path fail. -/
  pathStatusFailure : Option Errno := none
  /-- The target, if the object is a symbolic link. -/
  link : Option Bytes := none
  /-- The bytes read from the opened object. -/
  content : Bytes := []
  deriving DecidableEq

namespace FileObject

/-- The answer to a status request on a descriptor of the object. -/
def status (object : FileObject) : Except Errno FileStatus :=
  match object.statusFailure with
  | some e => .error e
  | none => .ok ⟨object.mode, object.size⟩

/-- The object with one interruption less to come. -/
def countDown (object : FileObject) : FileObject :=
  { object with interruptions := object.interruptions - 1 }

/-- The object as every request but opening sees it. -/
def settled (object : FileObject) : FileObject :=
  { object with interruptions := 0 }

end FileObject

end BlockExtent
