import BlockExtent.SystemError

/-!
# Failures of an inspection

An inspection fails because the path does not open, because one of the two requests is refused, or
because a block device was required and the object is none. The first three keep their cause.
-/

namespace BlockExtent

/-- Why an inspection failed. -/
inductive InspectError where
  /-- The status of the descriptor is not available. -/
  | statusQuery (cause : SystemError)
  /-- The size request was refused. -/
  | controlRequest (cause : SystemError)
  /-- A block device was required. -/
  | notBlockDevice
  /-- The path could not be opened. -/
  | opening (path : Bytes) (cause : SystemError)
  deriving DecidableEq, Repr

namespace InspectError

/-- What a failure says to a reader; the cause speaks for itself. -/
def text : InspectError → String
  | .statusQuery _ => "status query failed"
  | .controlRequest _ => "block device size request failed"
  | .notBlockDevice => "not a block device"
  | .opening path _ => "failed to open " ++ Utf8.lossy path

/-- The failure of the system that an inspection ran into, if any. -/
def systemError? : InspectError → Option SystemError
  | .statusQuery cause => some cause
  | .controlRequest cause => some cause
  | .opening _ cause => some cause
  | .notBlockDevice => none

/-- The cause of a failure, as a chain of causes shows it. -/
def source? : InspectError → Option SystemError
  | .notBlockDevice => none
  | .statusQuery cause | .controlRequest cause | .opening _ cause => some cause

/-- An inspection failure passed on as a failure of the system: its cause, or an invalid input
where a block device was required. -/
def toSystemError : InspectError → SystemError
  | .statusQuery cause => cause
  | .controlRequest cause => cause
  | .opening _ cause => cause
  | .notBlockDevice => .described .invalidInput "not a block device"

/-- A failure written out for diagnosis. -/
def diagnosis : InspectError → String
  | .statusQuery cause => "StatusQuery(" ++ cause.diagnosis ++ ")"
  | .controlRequest cause => "ControlRequest(" ++ cause.diagnosis ++ ")"
  | .notBlockDevice => "NotBlockDevice"
  | .opening path cause =>
      "Open \x7b path: " ++ Text.quotedBytes path ++ ", source: " ++ cause.diagnosis ++ " \x7d"

end InspectError

end BlockExtent
