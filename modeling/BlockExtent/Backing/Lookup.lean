import BlockExtent.Action
import BlockExtent.Backing.MountTable

/-!
# The device on which a file lies

The number of the device is part of a file's status. A device registered under that number is the
answer; else the mount table is searched, if there is one.
-/

namespace BlockExtent.Backing

/-- The last name of a path. Slashes at the end and components of a single dot do not count; a
path that ends in two dots has no last name. -/
def lastName? (path : Bytes) : Option Bytes :=
  match ((path.splitOn 0x2F).filter fun part => part ≠ [] ∧ part ≠ [0x2E]).getLast? with
  | some name => if name = [0x2E, 0x2E] then none else some name
  | none => none

/-- A device number as it is spelled in paths and messages. -/
def numeral (device : DeviceNumber) : String :=
  Numeral.decimal device.major.toNat ++ ":" ++ Numeral.decimal device.minor.toNat

/-- The path under which the devices are registered by number. -/
def registryPath (device : DeviceNumber) : Bytes :=
  Utf8.encode ("/sys/dev/block/" ++ numeral device)

/-- The device registered under a number: the entry of the registry is a link, and the last name
of its target names an entry among the devices. -/
def registered? (kernel : Kernel) (device : DeviceNumber) : Option String := do
  let entry ← (kernel.statusAt (registryPath device)).toOption
  let name ← Utf8.decode? (← lastName? (← entry.link))
  let found := "/dev/" ++ name
  if kernel.hasStatus (Utf8.encode found) then some found else none

/-- The answer of the mount table, if there is such a table. -/
def mounted (device : DeviceNumber) : Action (Except SystemError (Option String)) := do
  if ← Action.look (·.hasStatus MountTable.path) then
    match ← Action.openPath MountTable.path with
    | .error e => return .error e
    | .ok descriptor =>
        let answer ← Action.look fun kernel =>
          MountTable.search kernel.hasStatus device
            (MountTable.lines (((kernel.behind? descriptor).map FileObject.content).getD []))
        Action.close descriptor
        return answer
  else return .ok none

/-- No device of this number was found. -/
def unresolved (device : DeviceNumber) : SystemError :=
  .described .notFound ("Could not resolve device for dev " ++ numeral device)

/-- The device of a given number. -/
def ofNumber (device : DeviceNumber) : Action (Except SystemError String) := do
  match ← Action.look (registered? · device) with
  | some found => return .ok found
  | none =>
      match ← mounted device with
      | .error e => return .error e
      | .ok (some found) => return .ok found
      | .ok none => return .error (unresolved device)

/-- The device on which the object at a path lies. -/
def lookup (path : Bytes) : Action (Except SystemError String) := do
  match ← Action.look (·.statusAt path) with
  | .error e => return .error (.os e)
  | .ok object => ofNumber object.device

end BlockExtent.Backing
