import BlockExtent.Command.Facilities
import BlockExtent.Command.Line
import BlockExtent.Command.Manual
import BlockExtent.EntryPoint
import BlockExtent.Inspection

/-!
# Running the command

The command inspects one path after the other and prints a line for each. A path that fails gets a
line on the error output and does not keep the others from being inspected; it only makes the
command as a whole fail.
-/

namespace BlockExtent

/-- What a run of the command leaves: its exit status and what it wrote on either output, message
by message. -/
structure Report where
  status : Nat
  output : List String
  complaints : List String
  deriving DecidableEq, Repr

namespace Report

/-- Messages as they are written, each with its line end. -/
def written (messages : List String) : String :=
  String.join (messages.map (· ++ "\n"))

end Report

namespace Command

/-- Print the kind and the length of an open object, with the remarks of a verbose command. -/
def present (facilities : Facilities) (path : Bytes) (extent : Extent) (verbose : Bool) :
    Action Unit := do
  Action.output (Line.plain path extent.kind extent.length)
  if verbose then
    Action.complain (Line.length extent.length)
    match extent.kind with
    | .block => if extent.usedFallback then Action.complain Line.fallback
    | .other => Action.complain (Line.backing (← facilities.lookup path))

/-- Inspect a path and print its kind and length. -/
def inspectPath (facilities : Facilities) (path : Bytes) (options : Options) (verbose : Bool) :
    Action (Except SystemError Unit) := do
  match ← Action.openPath path with
  | .error e => return .error e
  | .ok descriptor =>
      let answer ← (Handle.file descriptor).inspectWith options
      match answer with
      | .error e =>
          Action.close descriptor
          return .error e.toSystemError
      | .ok extent =>
          present facilities path extent verbose
          Action.close descriptor
          return .ok ()

/-- Print the two integers that stand for kind and length of the object at a path. -/
def printCodes (path : Bytes) : Action (Except SystemError Unit) := do
  match ← Action.openPath path with
  | .error e => return .error e
  | .ok descriptor =>
      let kind ← Inspection.classify descriptor
      let length ← Inspection.deviceLength descriptor
      Action.output
        (Line.raw path (EntryPoint.classifyCode kind) (EntryPoint.lengthCode length))
      Action.close descriptor
      return .ok ()

/-- Treat one path as the arguments ask, and say whether it failed. -/
def treat (facilities : Facilities) (arguments : Arguments) (path : Bytes) : Action Bool := do
  let answer ←
    if arguments.raw then printCodes path
    else inspectPath facilities path arguments.options (0 < arguments.verbosity)
  match answer with
  | .ok () => return false
  | .error e =>
      Action.complain (Line.failure path e)
      return true

/-- Treat paths in order, and say whether any of them failed. -/
def treatAll (facilities : Facilities) (arguments : Arguments) : List Bytes → Action Bool
  | [] => pure false
  | path :: rest => do
      let failed ← treat facilities arguments path
      let othersFailed ← treatAll facilities arguments rest
      return failed || othersFailed

/-- Do what the arguments ask for; the answer is the exit status. -/
def perform (facilities : Facilities) (arguments : Arguments) : Action Nat := do
  let granted ← if arguments.escalate then facilities.escalate else pure (.ok ())
  match granted with
  | .error e =>
      Action.complain ("Error: Failed to escalate privileges: " ++ e.text)
      return 1
  | .ok () =>
      let failed ← treatAll facilities arguments arguments.paths
      return if failed then 1 else 0

/-- How much is logged at a verbosity. -/
def threshold : (verbosity : Nat) → Threshold
  | 0 => .upTo .warn
  | 1 => .upTo .info
  | 2 => .upTo .debug
  | _ => .upTo .trace

/-- Run the command with a list of arguments on a kernel. -/
def run (facilities : Facilities) (kernel : Kernel) (list : List Bytes) : Report :=
  match facilities.read list with
  | .error .help => ⟨0, [Manual.help], []⟩
  | .error .version => ⟨0, [Manual.version], []⟩
  | .error (.refused e) => ⟨2, [], [e.text]⟩
  | .ok arguments =>
      let run := (perform facilities arguments).run (threshold arguments.verbosity) kernel
      ⟨run.value, run.events.filterMap Event.output?,
        run.events.filterMap (Event.complaint? facilities.line)⟩

end Command

end BlockExtent
