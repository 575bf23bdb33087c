import BlockExtent.Action
import BlockExtent.Extent
import BlockExtent.InspectError

/-!
# Answers in one integer

Callers without the types of this library get one integer, where -1 means failure, and find the
number of the failed request in their error cell. The two entry points ask the kernel themselves:
they log nothing and keep the number as the kernel gave it. `classifyCode` and `lengthCode` bring
the answers of an inspection into the same form.
-/

namespace BlockExtent.EntryPoint

/-- The integer that means failure. -/
def failed : Int := -1

/-- A length fits if it is below 2⁶³. -/
def lengthLimit : Nat := 0x8000000000000000

/-- A classification in one integer: 1 for a block device, 0 for anything else. -/
def classifyCode : Except InspectError DeviceKind → Int
  | .ok .block => 1
  | .ok .other => 0
  | .error _ => failed

/-- A length in one integer; one that does not fit is a failure. -/
def lengthCode : Except InspectError UInt64 → Int
  | .ok length => if length.toNat < lengthLimit then length.toNat else failed
  | .error _ => failed

/-- What an entry point returns, and the error cell after it. -/
structure Return where
  code : Int
  errno : Errno
  deriving DecidableEq, Repr

/-- Whether a descriptor refers to a block device: 1, 0, or -1 if its status is not available. -/
def isBlockDevice (descriptor : Int) (errno : Errno) : Action Return := do
  match ← Action.status descriptor with
  | .error e => return ⟨failed, e⟩
  | .ok status => return ⟨if status.mode &&& typeMask = blockType then 1 else 0, errno⟩

/-- The byte length of the block device behind a descriptor, or -1. A length of 2⁶³ or more leaves
the overflow number in the error cell. -/
def blockDeviceLength (descriptor : Int) (errno : Errno) : Action Return := do
  match ← Action.sizeRequest descriptor with
  | .refused e => return ⟨failed, e⟩
  | .answered _ stored _ =>
      let length := stored.getD 0
      if lengthLimit ≤ length.toNat then return ⟨failed, .overflow⟩
      else return ⟨length.toNat, errno⟩

end BlockExtent.EntryPoint
