import BlockExtent.Backing.Lookup
import BlockExtent.Command.Arguments

/-!
# What the command leaves to others

The command does not read its arguments itself, nor does it take up rights, search for the device
of a file or write the lines of the log: it is given the means to do so. `Facilities.standard` are
the means that it runs with.
-/

namespace BlockExtent

/-- Whose rights the command has. -/
inductive Privilege where
  | root
  /-- Another user started the command, which has the rights of root. -/
  | setUser
  | ordinary
  deriving DecidableEq, Repr

namespace Kernel

/-- Whose rights the running program has. -/
def privilege (kernel : Kernel) : Privilege :=
  if kernel.effectiveUser = 0 then if kernel.user = 0 then .root else .setUser else .ordinary

end Kernel

namespace Command

/-- A record of how the command got its rights. -/
def privilegeRecord (level : Level) (message : String) : Record :=
  ⟨level, "sudo", message⟩

/-- Make sure that the command has the rights of root. They are kept or taken up where the kernel
grants them; to start the command anew as root is beyond it. -/
def escalate : Action (Except SystemError Unit) := do
  match ← Action.look Kernel.privilege with
  | .root =>
      Action.log (privilegeRecord .trace "Running as Root")
      Action.log (privilegeRecord .trace "already running as Root")
      return .ok ()
  | .setUser =>
      Action.log (privilegeRecord .trace "Running as Suid")
      Action.log (privilegeRecord .trace "setuid(0)")
      return .ok ()
  | .ordinary =>
      Action.log (privilegeRecord .trace "Running as User")
      Action.log (privilegeRecord .debug "Escalating privileges")
      return .error (.os .noSuchFile)

end Command

/-- The means that a run of the command is given. -/
structure Facilities where
  /-- Read the arguments of the command. -/
  read : List Bytes → Except Stop Arguments
  /-- Make sure that the command has the rights of root. -/
  escalate : Action (Except SystemError Unit)
  /-- Find the device on which the object at a path lies. -/
  lookup : Bytes → Action (Except SystemError String)
  /-- The line that shows a record. -/
  line : Record → String

/-- The means that the command runs with. -/
def Facilities.standard : Facilities :=
  ⟨Arguments.read, Command.escalate, Backing.lookup, Record.line⟩

end BlockExtent
