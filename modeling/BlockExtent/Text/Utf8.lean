/-!
# Byte strings read as UTF-8

A byte string is cut into *pieces*: encoded characters, and bytes that no continuation turns into
a character. Every reading of bytes as text is a view of the pieces: `Utf8.decode?` accepts
characters only, `Utf8.lossy` shows one replacement character for each faulty piece.

## Implementation notes

The scanner keeps the unfinished sequence beside the input and recurses on the bytes alone. A byte
that cannot continue the sequence ends it and is read again as a first byte, so a faulty piece is
as long as some character's encoding agrees with it.
-/

namespace BlockExtent

/-- A string of bytes, such as a path, an argument or the contents of a file. -/
abbrev Bytes := List UInt8

namespace Utf8

/-- The bytes that encode a text. -/
def encode (s : String) : Bytes :=
  s.toList.flatMap String.utf8EncodeChar

/-- A character in its encoded form, or bytes that cannot be completed to one. -/
inductive Piece where
  | char (c : Char)
  | invalid (bytes : Bytes)
  deriving DecidableEq, Repr

/-- An unfinished sequence: the bytes seen, the bits they carry, the bounds of the next byte and
the number of bytes after that one. -/
structure Pending where
  seen : Bytes
  value : Nat
  low : UInt8
  high : UInt8
  after : Nat

/-- A first byte is a piece of its own or opens a sequence. The narrower bounds after `0xE0`,
`0xED`, `0xF0` and `0xF4` leave out longer spellings, surrogates and values above `0x10FFFF`. -/
def start (b : UInt8) : Piece ⊕ Pending :=
  if b < 0x80 then .inl (.char (Char.ofNat b.toNat))
  else if b < 0xC2 then .inl (.invalid [b])
  else if b < 0xE0 then .inr ⟨[b], b.toNat - 0xC0, 0x80, 0xBF, 0⟩
  else if b = 0xE0 then .inr ⟨[b], 0, 0xA0, 0xBF, 1⟩
  else if b = 0xED then .inr ⟨[b], 0xD, 0x80, 0x9F, 1⟩
  else if b < 0xF0 then .inr ⟨[b], b.toNat - 0xE0, 0x80, 0xBF, 1⟩
  else if b = 0xF0 then .inr ⟨[b], 0, 0x90, 0xBF, 2⟩
  else if b < 0xF4 then .inr ⟨[b], b.toNat - 0xF0, 0x80, 0xBF, 2⟩
  else if b = 0xF4 then .inr ⟨[b], 4, 0x80, 0x8F, 2⟩
  else .inl (.invalid [b])

/-- The pieces of the input, given the sequence left unfinished before it. -/
def scan : Option Pending → Bytes → List Piece
  | none, [] => []
  | some p, [] => [.invalid p.seen]
  | none, b :: rest =>
      match start b with
      | .inl piece => piece :: scan none rest
      | .inr p => scan (some p) rest
  | some p, b :: rest =>
      if p.low ≤ b ∧ b ≤ p.high then
        let value := p.value * 64 + (b.toNat - 0x80)
        match p.after with
        | 0 => .char (Char.ofNat value) :: scan none rest
        | n + 1 => scan (some ⟨p.seen ++ [b], value, 0x80, 0xBF, n⟩) rest
      else
        .invalid p.seen ::
          match start b with
          | .inl piece => piece :: scan none rest
          | .inr q => scan (some q) rest

/-- The pieces of a byte string, in order. -/
def pieces (bytes : Bytes) : List Piece :=
  scan none bytes

/-- The character that stands for a piece in a text: a faulty one becomes U+FFFD. -/
def Piece.shown : Piece → Char
  | .char c => c
  | .invalid _ => '\uFFFD'

/-- The character of a piece, if it is one. -/
def Piece.char? : Piece → Option Char
  | .char c => some c
  | .invalid _ => none

/-- The text of a list of pieces, with one replacement character for each faulty piece. -/
def shown (ps : List Piece) : String :=
  String.ofList (ps.map Piece.shown)

/-- The text that stands for a byte string wherever it is printed. -/
def lossy (bytes : Bytes) : String :=
  shown (pieces bytes)

/-- The text that a byte string encodes, if every piece is a character. -/
def decode? (bytes : Bytes) : Option String :=
  ((pieces bytes).mapM Piece.char?).map String.ofList

end Utf8

end BlockExtent
