import BlockExtent.Errno
import BlockExtent.Text.Quoted

/-!
# Failures of the system

A failure is an error number of the kernel, a bare kind, or a kind with a message of its own.
-/

namespace BlockExtent

/-- A failure reported by the system or by what reads from it. -/
inductive SystemError where
  /-- The kernel refused a request with this number. -/
  | os (errno : Errno)
  /-- Only the kind is known. -/
  | bare (kind : FailureKind)
  /-- The failure comes with its own message. -/
  | described (kind : FailureKind) (message : String)
  deriving DecidableEq, Repr

namespace SystemError

/-- The kernel's number of a failure, if the kernel reported it. -/
def errno? : SystemError → Option Errno
  | .os e => some e
  | _ => none

/-- The kind of a failure. -/
def kind : SystemError → FailureKind
  | .os e => e.kind
  | .bare kind => kind
  | .described kind _ => kind

/-- What a failure says to a reader. -/
def text : SystemError → String
  | .os e => e.text
  | .bare kind => kind.text
  | .described _ message => message

/-- A failure written out for diagnosis. -/
def diagnosis : SystemError → String
  | .os e =>
      "Os \x7b code: " ++ Numeral.integer e.number ++ ", kind: " ++ e.kind.name ++
        ", message: " ++ Text.quoted e.description ++ " \x7d"
  | .bare kind => "Kind(" ++ kind.name ++ ")"
  | .described kind message =>
      "Custom \x7b kind: " ++ kind.name ++ ", error: " ++ Text.quoted message ++ " \x7d"

/-- A path with a null byte names no file, and the kernel is not asked. -/
def nullInPath : SystemError :=
  .described .invalidInput "file name contained an unexpected NUL byte"

/-- A text that is read line by line holds bytes that encode no character. -/
def invalidText : SystemError :=
  .described .invalidData "stream did not contain valid UTF-8"

end SystemError

end BlockExtent
