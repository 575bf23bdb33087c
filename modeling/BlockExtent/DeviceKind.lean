/-!
# Kinds of device

The type bits of a status mode say whether an object is a block device.
-/

namespace BlockExtent

/-- What a descriptor refers to, as far as its length is concerned. -/
inductive DeviceKind where
  /-- A disk, a partition, a loop device. -/
  | block
  /-- Anything else: a file, a directory, a terminal, a pipe. -/
  | other
  deriving DecidableEq, Repr

/-- The bits of a mode that hold the type of the object. -/
def typeMask : UInt32 := 0o170000

/-- The type bits of a block device. -/
def blockType : UInt32 := 0o060000

namespace DeviceKind

/-- The kind that a status mode denotes. -/
def ofMode (mode : UInt32) : DeviceKind :=
  if mode &&& typeMask = blockType then .block else .other

/-- Whether a kind is that of block devices. -/
def isBlock (kind : DeviceKind) : Bool :=
  kind = .block

/-- What a kind is called in a report. -/
def text : DeviceKind → String
  | .block => "block device"
  | .other => "not a block device"

/-- The name of a kind, as diagnoses spell it. -/
def name : DeviceKind → String
  | .block => "BlockDevice"
  | .other => "NotBlockDevice"

end DeviceKind

end BlockExtent
