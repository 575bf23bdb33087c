/-!
# Text without terminal controls

Characters that a terminal would act on, and the sequences that an escape character opens, are
left out of a text, so that a message shows the same on a terminal and in a file. White space that
only moves on by a place or a line is kept.

## Implementation notes

An escape sequence ends at the first character that can end it; a new escape character opens a new
one, and the two cancelling characters end any. White space inside a sequence is shown, and plain
text that follows it is shown too, although the sequence goes on after the next control.
-/

namespace BlockExtent.Terminal

/-- What a terminal is reading. -/
inductive Mode where
  | plain
  /-- What follows an escape character. -/
  | escape
  /-- The middle of a short sequence. -/
  | intermediate
  /-- A sequence with parameters, opened by a bracket. -/
  | parameters
  /-- The start of a string for the device, before its first character. -/
  | deviceStart
  /-- The parameters of a string for the device. -/
  | deviceParameters
  /-- What follows the parameters of a string for the device. -/
  | deviceIntermediate
  /-- A title, which a bell ends. -/
  | title
  /-- The body of a string, which only a string terminator ends. -/
  | string
  deriving DecidableEq, Repr

/-- The controls that are white space: tab, line feed, form feed and carriage return. -/
def isLayout (c : Char) : Bool :=
  c = '\t' || c = '\n' || c = '\x0c' || c = '\r'

/-- Whether plain text shows a character. -/
def isShown (c : Char) : Bool :=
  (' ' ≤ c && c ≠ '\x7f') || isLayout c

/-- Whether white space is shown in a mode. -/
def Mode.showsLayout : Mode → Bool
  | .plain | .escape | .intermediate | .parameters => true
  | .deviceStart | .deviceParameters | .deviceIntermediate | .title | .string => false

/-- Whether the byte that terminates strings is among the bytes of a character. -/
def endsString (c : Char) : Bool :=
  (String.utf8EncodeChar c).contains 0x9C

/-- The mode after a character that is not shown. Only the body of a string looks for the string
terminator; what stands before it, up to the first letter or mark that opens the body, does not. -/
def Mode.next (mode : Mode) (c : Char) : Mode :=
  if c = '\x1b' then .escape
  else if c = '\x18' ∨ c = '\x1a' then .plain
  else
    match mode with
    | .plain => .plain
    | .escape =>
        if ' ' ≤ c ∧ c ≤ '/' then .intermediate
        else if c = '[' then .parameters
        else if c = ']' then .title
        else if c = 'P' then .deviceStart
        else if c = 'X' ∨ c = '^' ∨ c = '_' then .string
        else if '0' ≤ c ∧ c ≤ '~' then .plain
        else .escape
    | .intermediate => if '0' ≤ c ∧ c ≤ '~' then .plain else .intermediate
    | .parameters => if '@' ≤ c ∧ c ≤ '~' then .plain else .parameters
    | .deviceStart =>
        if ' ' ≤ c ∧ c ≤ '/' then .deviceIntermediate
        else if '0' ≤ c ∧ c ≤ '?' then .deviceParameters
        else if '@' ≤ c ∧ c ≤ '~' then .string
        else .deviceStart
    | .deviceParameters =>
        if ' ' ≤ c ∧ c ≤ '/' then .deviceIntermediate
        else if '<' ≤ c ∧ c ≤ '~' then .string
        else .deviceParameters
    | .deviceIntermediate => if '0' ≤ c ∧ c ≤ '~' then .string else .deviceIntermediate
    | .title => if c = '\x07' then .plain else .title
    | .string => if endsString c then .plain else .string

/-- The characters shown of a text. While `passing` holds, plain text is shown in every mode. -/
def scan (mode : Mode) (passing : Bool) : List Char → List Char
  | [] => []
  | c :: rest =>
      if (passing || mode = .plain) && isShown c then
        c :: scan (if '\x7f' < c then .plain else mode) true rest
      else if mode.showsLayout && isLayout c then c :: scan mode true rest
      else scan (mode.next c) false rest

/-- A text as it shows without a terminal. -/
def visible (s : String) : String :=
  String.ofList (scan .plain false s.toList)

end BlockExtent.Terminal
