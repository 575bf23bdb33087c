import BlockExtent.Action
import BlockExtent.Extent
import BlockExtent.InspectError
import BlockExtent.Options

/-!
# Inspecting what a handle refers to

Two requests say all that is known of an object: its status tells the kind and a size, and the size
request tells the length of a block device. `classify` makes the first, `deviceLength` the second,
and `inspect` the first and, for block devices alone, the second.

A handle is a descriptor, lent for the call or owned by an open file, or a path that is opened for
the call and closed after it.
-/

namespace BlockExtent

namespace Inspection

/-- The part of the program named in the records of inspections. -/
def target : String := "blkinspect::inspect"

/-- A request that failed with a number: the number as the inspection keeps it. -/
def cause (errno : Errno) : SystemError :=
  .os errno.folded

/-- A record that a status request failed. -/
def statusFailed (descriptor : Int) (cause : SystemError) : Record :=
  ⟨.debug, target, "fstat on fd " ++ Numeral.integer descriptor ++ " failed: " ++ cause.text⟩

/-- A record that a size request failed. -/
def sizeRequestFailed (descriptor : Int) (cause : SystemError) : Record :=
  ⟨.debug, target,
    "BLKGETSIZE64 on fd " ++ Numeral.integer descriptor ++ " failed: " ++ cause.text⟩

/-- A record of the kind found behind a descriptor. -/
def classified (descriptor : Int) (kind : DeviceKind) : Record :=
  ⟨.trace, target, "fd " ++ Numeral.integer descriptor ++ " is " ++ kind.text⟩

/-- A record of the length that a block device answered. -/
def lengthAnswered (descriptor : Int) (length : UInt64) : Record :=
  ⟨.trace, target,
    "fd " ++ Numeral.integer descriptor ++ " has " ++ Numeral.decimal length.toNat ++ " bytes"⟩

/-- A record that the status size stands in for the length of a block device. -/
def fellBack (descriptor : Int) (error : InspectError) (length : UInt64) : Record :=
  ⟨.warn, target,
    "fd " ++ Numeral.integer descriptor ++ ": " ++ error.text ++ ", using status size " ++
      Numeral.decimal length.toNat⟩

/-- The status behind a descriptor. -/
def status (descriptor : Int) : Action (Except InspectError FileStatus) := do
  match ← Action.status descriptor with
  | .ok status => return .ok status
  | .error e =>
      Action.log (statusFailed descriptor (cause e))
      return .error (.statusQuery (cause e))

/-- The kind of object behind a descriptor, by one status request. -/
def classify (descriptor : Int) : Action (Except InspectError DeviceKind) := do
  match ← status descriptor with
  | .error e => return .error e
  | .ok status =>
      let kind := DeviceKind.ofMode status.mode
      Action.log (classified descriptor kind)
      return .ok kind

/-- The length of the block device behind a descriptor, by one size request. The kind of the
object is not looked at first. A request that stores no size leaves the zero that stood in the
variable for it. -/
def deviceLength (descriptor : Int) : Action (Except InspectError UInt64) := do
  match ← Action.sizeRequest descriptor with
  | .refused e =>
      Action.log (sizeRequestFailed descriptor (cause e))
      return .error (.controlRequest (cause e))
  | .answered _ stored _ =>
      let length := stored.getD 0
      Action.log (lengthAnswered descriptor length)
      return .ok length

/-- The extent of an object of known kind and status size. Only a block device is asked for its
length; if it refuses, the status size is taken where the options allow it. -/
def resolve (descriptor : Int) (options : Options) (kind : DeviceKind) (statusSize : UInt64) :
    Action (Except InspectError Extent) :=
  match kind with
  | .other =>
      if options.requireBlockDevice then pure (.error .notBlockDevice)
      else pure (.ok (.measured .other statusSize))
  | .block => do
      match ← deviceLength descriptor with
      | .ok length => return .ok (.measured .block length)
      | .error e =>
          if options.allowFallback then
            Action.log (fellBack descriptor e statusSize)
            return .ok (.fallback statusSize)
          else return .error e

/-- Kind and usable length of the object behind a descriptor. -/
def inspect (descriptor : Int) (options : Options) : Action (Except InspectError Extent) := do
  match ← status descriptor with
  | .error e => return .error e
  | .ok status => resolve descriptor options (DeviceKind.ofMode status.mode) status.length

/-- Open a path, do something with its descriptor, and close the descriptor again. -/
def throughPath {α : Type} (path : Bytes) (body : Int → Action (Except InspectError α)) :
    Action (Except InspectError α) := do
  match ← Action.openPath path with
  | .error e => return .error (.opening path e)
  | .ok descriptor =>
      let answer ← body descriptor
      Action.close descriptor
      return answer

end Inspection

/-- What an inspection is handed: a descriptor lent by its owner, an open file, a path, or a path
held in a buffer of its own. -/
inductive Handle where
  | borrowed (descriptor : Int)
  | file (descriptor : Int)
  | path (path : Bytes)
  | pathBuffer (path : Bytes)
  deriving DecidableEq, Repr

namespace Handle

/-- Do something with the descriptor of a handle, which a path has for the time of the action. -/
def withDescriptor {α : Type} (handle : Handle) (body : Int → Action (Except InspectError α)) :
    Action (Except InspectError α) :=
  match handle with
  | .borrowed descriptor => body descriptor
  | .file descriptor => body descriptor
  | .path name => Inspection.throughPath name body
  | .pathBuffer name => Inspection.throughPath name body

/-- The kind of object that a handle refers to. -/
def classify (handle : Handle) : Action (Except InspectError DeviceKind) :=
  handle.withDescriptor Inspection.classify

/-- The length of the block device that a handle refers to. -/
def deviceLength (handle : Handle) : Action (Except InspectError UInt64) :=
  handle.withDescriptor Inspection.deviceLength

/-- Kind and usable length of the object that a handle refers to. -/
def inspectWith (handle : Handle) (options : Options) : Action (Except InspectError Extent) :=
  handle.withDescriptor (Inspection.inspect · options)

/-- Kind and usable length of the object that a handle refers to, under the standard options. -/
def inspect (handle : Handle) : Action (Except InspectError Extent) :=
  handle.inspectWith .standard

end Handle

end BlockExtent
