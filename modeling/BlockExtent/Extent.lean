import BlockExtent.DeviceKind
import BlockExtent.Text.Numeral

/-!
# The extent of an object

An inspection answers with the kind of the object, its length in bytes, and whether that length is
a status size standing in for the answer of a block device.
-/

namespace BlockExtent

/-- Kind and usable length of an object. -/
structure Extent where
  kind : DeviceKind
  length : UInt64
  usedFallback : Bool
  deriving DecidableEq, Repr

namespace Extent

/-- The extent whose length was obtained in the regular way. -/
def measured (kind : DeviceKind) (length : UInt64) : Extent :=
  ⟨kind, length, false⟩

/-- The extent of a block device whose size request was refused. -/
def fallback (length : UInt64) : Extent :=
  ⟨.block, length, true⟩

/-- An extent written out for diagnosis. -/
def diagnosis (extent : Extent) : String :=
  "DeviceInfo \x7b kind: " ++ extent.kind.name ++ ", length: " ++
    Numeral.decimal extent.length.toNat ++ ", used_fallback: " ++
    toString extent.usedFallback ++ " \x7d"

end Extent

end BlockExtent
