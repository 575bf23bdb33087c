import BlockExtent.Command.Flag
import BlockExtent.Options
import BlockExtent.Text.Terminal
import BlockExtent.Text.Utf8

/-!
# Arguments of the command

Arguments are read from left to right. One that starts with a hyphen and is longer than that holds
flags; every other one is a path, and so is whatever follows the first double hyphen.

## Implementation notes

An empty argument is no path. It is reported by the next flag that is known, or at the end, but a
flag that is unknown or has a value is reported before it. Help and version end the reading where
they stand. A missing path is noticed last.
-/

namespace BlockExtent

/-- What the arguments of a command ask for. -/
structure Arguments where
  paths : List Bytes := []
  /-- How often more was asked to be said, counted up to 255. -/
  verbosity : Nat := 0
  allowFallback : Bool := false
  requireBlockDevice : Bool := false
  raw : Bool := false
  escalate : Bool := false
  deriving DecidableEq, Repr

/-- Why arguments are refused. -/
inductive UsageError where
  /-- There is no such flag. -/
  | unexpectedArgument (shown : String)
  /-- A flag has a value. -/
  | unexpectedValue (flag : Flag) (value : Bytes)
  /-- A flag that may be given once is repeated. -/
  | repeated (switch : Switch)
  /-- An argument is empty. -/
  | emptyPath
  /-- There is no path. -/
  | noPath
  deriving DecidableEq, Repr

/-- Why reading ends without arguments to act on. -/
inductive Stop where
  | help
  | version
  | refused (error : UsageError)
  deriving DecidableEq, Repr

namespace UsageError

/-- What a refusal says. It shows what was given without terminal controls. -/
def text : UsageError → String
  | .unexpectedArgument shown =>
      "error: unexpected argument '" ++ Terminal.visible shown ++ "' found"
  | .unexpectedValue flag value =>
      "error: unexpected value '" ++ Terminal.visible (Utf8.lossy value) ++ "' for '" ++
        flag.shown ++ "' found; no more were expected"
  | .repeated switch =>
      "error: the argument '" ++ (Flag.switch switch).shown ++ "' cannot be used multiple times"
  | .emptyPath => "error: a value is required for '<PATHS>...' but none was supplied"
  | .noPath => "error: the following required arguments were not provided:"

end UsageError

namespace Arguments

/-- The verbosity counts no further than this. -/
def verbosityLimit : Nat := 255

/-- The options that the arguments set for an inspection, one after the other. -/
def options (arguments : Arguments) : Options :=
  (Options.standard.withAllowFallback arguments.allowFallback).withRequireBlockDevice
    arguments.requireBlockDevice

/-- Whether a switch was given. -/
def isOn (arguments : Arguments) : Switch → Bool
  | .allowFallback => arguments.allowFallback
  | .requireBlockDevice => arguments.requireBlockDevice
  | .raw => arguments.raw
  | .escalate => arguments.escalate

/-- The arguments with a switch given. -/
def turnOn (arguments : Arguments) : Switch → Arguments
  | .allowFallback => { arguments with allowFallback := true }
  | .requireBlockDevice => { arguments with requireBlockDevice := true }
  | .raw => { arguments with raw := true }
  | .escalate => { arguments with escalate := true }

/-- The arguments with one more path. -/
def addPath (arguments : Arguments) (path : Bytes) : Arguments :=
  { arguments with paths := arguments.paths ++ [path] }

/-- The arguments with the verbosity raised by one. -/
def raiseVerbosity (arguments : Arguments) : Arguments :=
  { arguments with verbosity := min verbosityLimit (arguments.verbosity + 1) }

/-- Refuse an empty path among those read so far. -/
def settle (arguments : Arguments) : Except Stop Arguments :=
  if [] ∈ arguments.paths then .error (.refused .emptyPath) else .ok arguments

/-- Take in a flag. -/
def addFlag (arguments : Arguments) (flag : Flag) : Except Stop Arguments :=
  match arguments.settle with
  | .error stop => .error stop
  | .ok arguments =>
      match flag with
      | .verbose => .ok arguments.raiseVerbosity
      | .switch switch =>
          if arguments.isOn switch then .error (.refused (.repeated switch))
          else .ok (arguments.turnOn switch)
      | .help => .error .help
      | .version => .error .version

/-- Take in the letters after a single hyphen, each of them a flag. Bytes that are no letters are
refused together with all that follows them. -/
def addLetters (arguments : Arguments) : List Utf8.Piece → Except Stop Arguments
  | [] => .ok arguments
  | .char c :: rest =>
      match Flag.ofLetter? c with
      | none => .error (.refused (.unexpectedArgument ("-" ++ String.singleton c)))
      | some flag =>
          match arguments.addFlag flag with
          | .error stop => .error stop
          | .ok arguments => arguments.addLetters rest
  | .invalid bytes :: rest =>
      .error (.refused (.unexpectedArgument ("-" ++ Utf8.shown (.invalid bytes :: rest))))

/-- Take in what follows a double hyphen: the word of a flag. An equals sign ends the word and
gives the flag a value, which no flag takes. -/
def addWord (arguments : Arguments) (body : Bytes) : Except Stop Arguments :=
  let word := body.takeWhile (· ≠ 0x3D)
  match (Utf8.decode? word).bind Flag.ofWord?, body.dropWhile (· ≠ 0x3D) with
  | none, _ => .error (.refused (.unexpectedArgument ("--" ++ Utf8.lossy word)))
  | some flag, [] => arguments.addFlag flag
  | some flag, _ :: value => .error (.refused (.unexpectedValue flag value))

/-- Take in one argument before the double hyphen. -/
def add (arguments : Arguments) (argument : Bytes) : Except Stop Arguments :=
  match argument with
  | 0x2D :: 0x2D :: body => arguments.addWord body
  | 0x2D :: b :: letters => arguments.addLetters (Utf8.pieces (b :: letters))
  | path => .ok (arguments.addPath path)

/-- Take in a list of arguments. -/
def addAll (arguments : Arguments) : List Bytes → Except Stop Arguments
  | [] => .ok arguments
  | argument :: rest =>
      if argument = [0x2D, 0x2D] then .ok (rest.foldl addPath arguments)
      else
        match arguments.add argument with
        | .error stop => .error stop
        | .ok arguments => arguments.addAll rest

/-- Read the arguments of a command. -/
def read (list : List Bytes) : Except Stop Arguments :=
  match (addAll {} list).bind settle with
  | .error stop => .error stop
  | .ok arguments =>
      if arguments.paths = [] then .error (.refused .noPath) else .ok arguments

end Arguments

end BlockExtent
