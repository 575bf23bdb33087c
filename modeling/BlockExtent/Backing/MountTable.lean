import BlockExtent.Kernel.FileObject
import BlockExtent.SystemError
import BlockExtent.Text.Blank

/-!
# The mount table

Each line of the mount table describes one mounted file system in blank-separated fields. The
third field holds the device number, and the second field after the first lone hyphen names the
source. A search goes through the lines in order and stops at the first answer, or at the first
line that is no text.
-/

namespace BlockExtent

/-- What a line of the mount table says about a device. -/
structure MountEntry where
  device : DeviceNumber
  source : String
  deriving DecidableEq, Repr

namespace MountEntry

/-- A device number: two 32-bit numbers with a colon between them. Whatever follows a second colon
does not matter. -/
def deviceNumber? (field : List Char) : Option DeviceNumber :=
  match field.splitOn ':' with
  | major :: minor :: _ => do
      return ⟨← Numeral.word32? major, ← Numeral.word32? minor⟩
  | _ => none

/-- The second field after the first lone hyphen. -/
def source? (fields : List (List Char)) : Option String :=
  (fields.dropWhile (· ≠ ['-']))[2]?.map String.ofList

/-- The entry in a line, which has at least ten fields. -/
def ofLine? (line : String) : Option MountEntry :=
  let fields := Text.fields line.toList
  if fields.length < 10 then none
  else do
    return ⟨← deviceNumber? (← fields[2]?), ← source? fields⟩

end MountEntry

namespace MountTable

/-- The path of the mount table. -/
def path : Bytes :=
  Utf8.encode "/proc/self/mountinfo"

/-- The lines of a table. What follows the last line feed is a line of its own. -/
def lines (content : Bytes) : List Bytes :=
  content.splitOn 0x0A

/-- The path of a source: itself if it is absolute, else its entry among the devices if there is
one. -/
def locate? (isPresent : Bytes → Bool) (source : String) : Option String :=
  if source.startsWith "/" then some source
  else if isPresent (Utf8.encode ("/dev/" ++ source)) then some ("/dev/" ++ source)
  else none

/-- What a line says of a device: the path of its source, if the line is about that device. -/
def answer? (isPresent : Bytes → Bool) (device : DeviceNumber) (line : String) : Option String :=
  match MountEntry.ofLine? line with
  | some entry => if entry.device = device then locate? isPresent entry.source else none
  | none => none

/-- The first answer of a list of lines. -/
def search (isPresent : Bytes → Bool) (device : DeviceNumber) :
    List Bytes → Except SystemError (Option String)
  | [] => .ok none
  | line :: rest =>
      match Utf8.decode? line with
      | none => .error .invalidText
      | some text =>
          match answer? isPresent device text with
          | some found => .ok (some found)
          | none => search isPresent device rest

end MountTable

end BlockExtent
