import BlockExtent.Kernel.State
import BlockExtent.Text.Numeral

/-!
# Listings of objects

A listing describes the objects of a kernel, one in each line: the mode in octal, the status size,
the size as a block device or a hyphen, and the path, with one space after each of the first three.
-/

namespace BlockExtent.Listing

/-- The answer to the size request that a field describes: a size, or a hyphen for an object that
does not know the request. -/
def sizeReply? (field : List Char) : Option SizeReply :=
  if field = ['-'] then some (.refused .inappropriateControl)
  else (Numeral.natural? 10 field).map fun n => .answered 0 (some (UInt64.ofNat n)) (by decide)

/-- The path and the object that a line describes. -/
def object? (line : List Char) : Option (Bytes × FileObject) :=
  match line.splitOn ' ' with
  | mode :: size :: reply :: path => do
      let mode ← Numeral.natural? 8 mode
      let size ← Numeral.natural? 10 size
      let sizeReply ← sizeReply? reply
      return (Utf8.encode (String.ofList (List.intercalate [' '] path)),
        { mode := UInt32.ofNat mode, size := Int64.ofNat size, sizeReply })
  | _ => none

/-- The kernel that a listing describes, if each of its lines that is not empty can be read. -/
def kernel? (listing : String) : Option Kernel :=
  let lines := (listing.toList.splitOn '\n').filter fun line => !line.isEmpty
  (lines.mapM object?).map Kernel.ofFiles

end BlockExtent.Listing
