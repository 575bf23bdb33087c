/-!
# Log records

A record has a level, a target and a message. A threshold lets through the records that are at
least as grave as its level; the most permissive threshold is the trace level.
-/

namespace BlockExtent

/-- How grave a record is. -/
inductive Level where
  | error
  | warn
  | info
  | debug
  | trace
  deriving DecidableEq, Repr

namespace Level

/-- Levels count from the gravest one up. -/
def rank : Level → Nat
  | .error => 1
  | .warn => 2
  | .info => 3
  | .debug => 4
  | .trace => 5

/-- The name of a level in a log line. -/
def name : Level → String
  | .error => "ERROR"
  | .warn => "WARN"
  | .info => "INFO"
  | .debug => "DEBUG"
  | .trace => "TRACE"

end Level

/-- How much is logged: nothing, or everything down to a level. -/
inductive Threshold where
  | off
  | upTo (level : Level)
  deriving DecidableEq, Repr

namespace Threshold

/-- Whether records of a level are let through. -/
def admits : Threshold → Level → Bool
  | .off, _ => false
  | .upTo limit, level => level.rank ≤ limit.rank

end Threshold

/-- A message with its level and the part of the program that it comes from. -/
structure Record where
  level : Level
  target : String
  message : String
  deriving DecidableEq, Repr

namespace Record

/-- The line that shows a record; the clock stands at zero. Only records below the info level say
which thread and which part of the program they come from. -/
def line (record : Record) : String :=
  let origin := if record.level.rank < Level.debug.rank then "" else "(1) " ++ record.target ++ ": "
  "00:00:00 [" ++ record.level.name ++ "] " ++ origin ++ record.message

end Record

end BlockExtent
