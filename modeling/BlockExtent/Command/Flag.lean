/-!
# Flags of the command

A flag is spelled with two hyphens and a word, some also with one hyphen and a letter.
-/

namespace BlockExtent

/-- The flags that turn something on and may be given once. -/
inductive Switch where
  | allowFallback
  | requireBlockDevice
  | raw
  | escalate
  deriving DecidableEq, Repr

/-- The flags of the command. -/
inductive Flag where
  /-- Say more; may be repeated. -/
  | verbose
  | switch (switch : Switch)
  | help
  | version
  deriving DecidableEq, Repr

namespace Flag

/-- The word that spells a flag. -/
def word : Flag → String
  | .verbose => "verbose"
  | .switch .allowFallback => "allow-fallback"
  | .switch .requireBlockDevice => "require-block-device"
  | .switch .raw => "raw"
  | .switch .escalate => "escalate"
  | .help => "help"
  | .version => "version"

/-- Every flag. -/
def all : List Flag :=
  [.verbose, .switch .allowFallback, .switch .requireBlockDevice, .switch .raw, .switch .escalate,
    .help, .version]

/-- The flag that a word spells. -/
def ofWord? (s : String) : Option Flag :=
  all.find? fun flag => flag.word == s

/-- The flag that a letter spells. -/
def ofLetter? : Char → Option Flag
  | 'v' => some .verbose
  | 'h' => some .help
  | 'V' => some .version
  | _ => none

/-- A flag as messages show it; dots mark the one that may be repeated. -/
def shown (flag : Flag) : String :=
  match flag with
  | .verbose => "--verbose..."
  | flag => "--" ++ flag.word

end Flag

end BlockExtent
