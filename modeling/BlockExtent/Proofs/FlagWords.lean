import BlockExtent.Command.Arguments

/-!
# Flags as they are written

A flag is written as a word after two hyphens, or as letters after one. Here stand the written
forms beside the reading of arguments: a list of them sets the flags that it names, as long as no
switch is named twice, and what follows the double hyphen is a list of paths.

## Implementation notes

The verbosity is counted up to a limit, so raising it by nothing leaves arguments as they are only
below that limit.
-/

namespace BlockExtent

/-- A flag as an argument of its own, help and version apart. -/
inductive Word where
  /-- A hyphen and, once more than `others`, the letter that asks to say more. -/
  | letters (others : Nat)
  | verbose
  | single (switch : Switch)
  deriving DecidableEq

namespace Word

/-- The bytes of a word. -/
def spelled : Word → Bytes
  | .letters others => 0x2D :: List.replicate (others + 1) 0x76
  | .verbose => Utf8.encode "--verbose"
  | .single switch => Utf8.encode (Flag.switch switch).shown

/-- How often a word asks to say more. -/
def loudness : Word → Nat
  | .letters others => others + 1
  | .verbose => 1
  | .single _ => 0

/-- The switch that a word names, if any. -/
def switch? : Word → Option Switch
  | .single switch => some switch
  | _ => none

end Word

namespace Arguments

/-- The argument that ends the flags. -/
def separator : Bytes := [0x2D, 0x2D]

/-- The arguments with the verbosity raised by some number. -/
def louderBy (arguments : Arguments) (n : Nat) : Arguments :=
  { arguments with verbosity := min verbosityLimit (arguments.verbosity + n) }

/-- The arguments with a word taken in. -/
def withWord (arguments : Arguments) : Word → Arguments
  | .letters others => arguments.louderBy (others + 1)
  | .verbose => arguments.louderBy 1
  | .single switch => arguments.turnOn switch

/-- The arguments with a list of words taken in. -/
def withWords (arguments : Arguments) (words : List Word) : Arguments :=
  words.foldl withWord arguments

variable {arguments : Arguments}

theorem louderBy_louderBy (arguments : Arguments) (m n : Nat) :
    (arguments.louderBy m).louderBy n = arguments.louderBy (m + n) := by
  have counted : min verbosityLimit (min verbosityLimit (arguments.verbosity + m) + n) =
      min verbosityLimit (arguments.verbosity + (m + n)) := by
    omega
  simp only [louderBy, counted]

theorem louderBy_zero (counted : arguments.verbosity ≤ verbosityLimit) :
    arguments.louderBy 0 = arguments := by
  simp [louderBy, Nat.min_eq_right counted]

theorem settle_of_settled (settled : [] ∉ arguments.paths) :
    arguments.settle = .ok arguments := by
  simp [settle, settled]

theorem addFlag_verbose (settled : [] ∉ arguments.paths) :
    arguments.addFlag .verbose = .ok (arguments.louderBy 1) := by
  rw [addFlag, settle_of_settled settled]
  rfl

theorem addFlag_switch {switch : Switch} (settled : [] ∉ arguments.paths)
    (off : arguments.isOn switch = false) :
    arguments.addFlag (.switch switch) = .ok (arguments.turnOn switch) := by
  simp [addFlag, settle_of_settled settled, off]

/-- The letters of a word are as many characters. -/
theorem pieces_letters (n : Nat) :
    Utf8.pieces (List.replicate n 0x76) = List.replicate n (.char 'v') := by
  induction n with
  | zero => rfl
  | succ n ih =>
      have letter : Utf8.start 0x76 = .inl (.char 'v') := rfl
      rw [Utf8.pieces] at ih ⊢
      simp only [List.replicate_succ, Utf8.scan, letter, ih]

theorem addLetters_replicate (n : Nat) (settled : [] ∉ arguments.paths) :
    arguments.addLetters (List.replicate (n + 1) (.char 'v')) =
      .ok (arguments.louderBy (n + 1)) := by
  induction n generalizing arguments with
  | zero => simp [addLetters, Flag.ofLetter?, addFlag_verbose settled]
  | succ n ih =>
      have louder : [] ∉ (arguments.louderBy 1).paths := settled
      rw [List.replicate_succ, addLetters]
      simp only [Flag.ofLetter?, addFlag_verbose settled]
      rw [ih louder, louderBy_louderBy, Nat.add_comm 1]

/-- A word is read as the flag that it is a form of. -/
theorem add_spelled (word : Word) (settled : [] ∉ arguments.paths)
    (off : ∀ switch, word.switch? = some switch → arguments.isOn switch = false) :
    arguments.add word.spelled = .ok (arguments.withWord word) := by
  cases word with
  | letters others =>
      have read : arguments.add (Word.letters others).spelled =
          arguments.addLetters (Utf8.pieces (List.replicate (others + 1) 0x76)) := rfl
      rw [read, pieces_letters, addLetters_replicate others settled]
      rfl
  | verbose =>
      have read : arguments.add Word.verbose.spelled = arguments.addFlag .verbose := rfl
      rw [read, addFlag_verbose settled]
      rfl
  | single switch =>
      have read : arguments.add (Word.single switch).spelled =
          arguments.addFlag (.switch switch) := by
        cases switch <;> rfl
      rw [read, addFlag_switch settled (off switch rfl)]
      rfl

/-- A switch that is on is refused. -/
theorem add_repeated {switch : Switch} (settled : [] ∉ arguments.paths)
    (on : arguments.isOn switch = true) :
    arguments.add (Word.single switch).spelled = .error (.refused (.repeated switch)) := by
  have read : arguments.add (Word.single switch).spelled =
      arguments.addFlag (.switch switch) := by
    cases switch <;> rfl
  simp [read, addFlag, settle_of_settled settled, on]

theorem spelled_ne_separator (word : Word) : word.spelled ≠ separator := by
  cases word with
  | letters others => simp [Word.spelled, separator, List.replicate_succ]
  | verbose => decide
  | single switch => cases switch <;> decide

@[simp] theorem withWord_paths (arguments : Arguments) (word : Word) :
    (arguments.withWord word).paths = arguments.paths := by
  cases word with
  | letters others => rfl
  | verbose => rfl
  | single switch => cases switch <;> rfl

@[simp] theorem withWords_paths (arguments : Arguments) (words : List Word) :
    (arguments.withWords words).paths = arguments.paths := by
  induction words generalizing arguments with
  | nil => rfl
  | cons word words ih =>
      rw [withWords, List.foldl_cons, ← withWords, ih, withWord_paths]

theorem isOn_withWord (arguments : Arguments) (word : Word) (switch : Switch) :
    (arguments.withWord word).isOn switch =
      (arguments.isOn switch || decide (word.switch? = some switch)) := by
  cases word with
  | letters others => cases switch <;> simp [withWord, louderBy, isOn, Word.switch?]
  | verbose => cases switch <;> simp [withWord, louderBy, isOn, Word.switch?]
  | single other => cases other <;> cases switch <;> simp [withWord, turnOn, isOn, Word.switch?]

theorem isOn_withWords (arguments : Arguments) (words : List Word) (switch : Switch) :
    (arguments.withWords words).isOn switch =
      (arguments.isOn switch || decide (switch ∈ words.filterMap Word.switch?)) := by
  induction words generalizing arguments with
  | nil => simp [withWords]
  | cons word words ih =>
      rw [withWords, List.foldl_cons, ← withWords, ih, isOn_withWord, Bool.or_assoc,
        ← Bool.decide_or]
      cases named : word.switch? with
      | none => simp [List.filterMap_cons_none named]
      | some other => simp [List.filterMap_cons_some named, eq_comm]

theorem addAll_separator (arguments : Arguments) (rest : List Bytes) :
    arguments.addAll (separator :: rest) = .ok (rest.foldl addPath arguments) := by
  rw [addAll, if_pos (show separator = [0x2D, 0x2D] from rfl)]

theorem addAll_before_separator (arguments : Arguments) {argument : Bytes}
    (before : argument ≠ separator) (rest : List Bytes) :
    arguments.addAll (argument :: rest) =
      match arguments.add argument with
      | .error stop => .error stop
      | .ok next => next.addAll rest := by
  have unended : ¬ argument = [0x2D, 0x2D] := before
  cases added : arguments.add argument <;> simp [addAll, unended, added]

theorem addAll_cons_eq_ok_iff {argument : Bytes} (before : argument ≠ separator)
    {rest : List Bytes} {asked : Arguments} :
    arguments.addAll (argument :: rest) = .ok asked ↔
      ∃ next, arguments.add argument = .ok next ∧ next.addAll rest = .ok asked := by
  rw [addAll_before_separator arguments before]
  cases arguments.add argument with
  | error stop => simp
  | ok next => simp

theorem foldl_addPath (arguments : Arguments) (paths : List Bytes) :
    paths.foldl addPath arguments = { arguments with paths := arguments.paths ++ paths } := by
  induction paths generalizing arguments with
  | nil => simp
  | cons path paths ih => simp [ih, addPath]

/-- The words name no switch twice, and none that is on. -/
def Unrepeated (arguments : Arguments) (words : List Word) : Prop :=
  (words.filterMap Word.switch?).Nodup ∧
    ∀ switch ∈ words.filterMap Word.switch?, arguments.isOn switch = false

/-- A switch that a word names is on for the words after it. -/
theorem unrepeated_cons {word : Word} {words : List Word} :
    arguments.Unrepeated (word :: words) ↔
      (∀ switch, word.switch? = some switch → arguments.isOn switch = false) ∧
        (arguments.withWord word).Unrepeated words := by
  cases named : word.switch? with
  | none => simp [Unrepeated, isOn_withWord, named]
  | some switch =>
      simp only [Unrepeated, isOn_withWord, named, List.filterMap_cons_some named,
        List.nodup_cons, List.mem_cons]
      grind

/-- A word is taken in if it repeats no switch. -/
theorem addAll_word_iff {word : Word} {rest : List Bytes} {asked : Arguments}
    (settled : [] ∉ arguments.paths) :
    arguments.addAll (word.spelled :: rest) = .ok asked ↔
      (∀ switch, word.switch? = some switch → arguments.isOn switch = false) ∧
        (arguments.withWord word).addAll rest = .ok asked := by
  rw [addAll_before_separator _ (spelled_ne_separator word)]
  -- A repeated switch ends the reading, so there is nothing to continue with on that side.
  by_cases off : ∀ switch, word.switch? = some switch → arguments.isOn switch = false
  · rw [add_spelled word settled off]
    exact (and_iff_right off).symm
  · have refused : ∃ switch, word = .single switch ∧ arguments.isOn switch = true := by
      simp only [Classical.not_forall, Bool.not_eq_false] at off
      obtain ⟨switch, named, on⟩ := off
      cases word with
      | letters others => cases named
      | verbose => cases named
      | single other =>
          cases named
          exact ⟨switch, rfl, on⟩
    obtain ⟨switch, rfl, on⟩ := refused
    simp [add_repeated settled on, off]

/-- Words are taken in one by one if no switch is repeated, and else they are refused. -/
theorem addAll_words_iff {words : List Word} {rest : List Bytes} {asked : Arguments}
    (settled : [] ∉ arguments.paths) :
    arguments.addAll (words.map Word.spelled ++ rest) = .ok asked ↔
      arguments.Unrepeated words ∧ (arguments.withWords words).addAll rest = .ok asked := by
  induction words generalizing arguments with
  | nil => simp [Unrepeated, withWords]
  | cons word words ih =>
      have settledRest : [] ∉ (arguments.withWord word).paths := by
        rwa [withWord_paths]
      rw [List.map_cons, List.cons_append, addAll_word_iff settled, ih settledRest,
        unrepeated_cons, and_assoc]
      rfl

/-- Words, the separator and paths, as they are given to the command. -/
def spelled (words : List Word) (paths : List Bytes) : List Bytes :=
  words.map Word.spelled ++ separator :: paths

/-- What a list of words and a list of paths ask for. -/
def ofWords (words : List Word) (paths : List Bytes) : Arguments :=
  { withWords {} words with paths }

/-- Reading takes in every argument, and then asks for paths of which none is empty. -/
theorem read_eq_ok_iff {list : List Bytes} {asked : Arguments} :
    read list = .ok asked ↔
      addAll {} list = .ok asked ∧ [] ∉ asked.paths ∧ asked.paths ≠ [] := by
  rw [read]
  cases addAll {} list with
  | error stop => simp [Except.bind]
  | ok arguments =>
      simp only [Except.bind, settle]
      by_cases unsettled : [] ∈ arguments.paths <;> grind

/-- Words, the separator and a list of paths are accepted where no switch is named twice, where
there is a path, and where none is empty; they are read as what they ask for. -/
theorem read_words_iff {words : List Word} {paths : List Bytes} {asked : Arguments} :
    read (spelled words paths) = .ok asked ↔
      (words.filterMap Word.switch?).Nodup ∧ [] ∉ paths ∧ paths ≠ [] ∧
        asked = ofWords words paths := by
  have settled : [] ∉ ({} : Arguments).paths := List.not_mem_nil
  have allOff : ∀ switch ∈ words.filterMap Word.switch?, ({} : Arguments).isOn switch = false := by
    intro switch _
    cases switch <;> rfl
  have pathsRead : (withWords {} words).addAll (separator :: paths) =
      .ok (ofWords words paths) := by
    rw [addAll_separator, foldl_addPath, withWords_paths]
    rfl
  rw [read_eq_ok_iff, spelled, addAll_words_iff settled, pathsRead]
  constructor
  · rintro ⟨⟨⟨once, -⟩, same⟩, named, some_path⟩
    cases same
    exact ⟨once, named, some_path, rfl⟩
  · rintro ⟨once, named, some_path, rfl⟩
    exact ⟨⟨⟨once, allOff⟩, rfl⟩, named, some_path⟩

/-- The arguments with other options for the inspections. -/
def withOptions (arguments : Arguments) (options : Options) : Arguments :=
  { arguments with
    allowFallback := options.allowFallback
    requireBlockDevice := options.requireBlockDevice }

/-- The words that ask for options. -/
def optionWords (options : Options) : List Word :=
  (if options.allowFallback then [.single .allowFallback] else []) ++
    if options.requireBlockDevice then [.single .requireBlockDevice] else []

theorem withWords_optionWords (bare : arguments.options = .standard) (options : Options) :
    arguments.withWords (optionWords options) = arguments.withOptions options := by
  obtain ⟨paths, verbosity, allow, require, raw, escalate⟩ := arguments
  cases bare
  obtain ⟨_ | _, _ | _⟩ := options <;> rfl

theorem optionWords_switches (options : Options) :
    ((optionWords options).filterMap Word.switch?).Nodup ∧
      ∀ switch ∈ (optionWords options).filterMap Word.switch?,
        switch = .allowFallback ∨ switch = .requireBlockDevice := by
  obtain ⟨_ | _, _ | _⟩ := options <;> decide

/-- Words that ask for options are accepted after words that do not. -/
theorem read_optionWords {words : List Word} {paths : List Bytes} {asked : Arguments}
    (accepted : read (spelled words paths) = .ok asked) (bare : asked.options = .standard)
    (options : Options) :
    read (spelled (words ++ optionWords options) paths) = .ok (asked.withOptions options) := by
  obtain ⟨once, named, some_path, rfl⟩ := read_words_iff.mp accepted
  have bareWords : (withWords {} words).options = .standard := bare
  have absent (switch : Switch) (off : (withWords {} words).isOn switch = false) :
      switch ∉ words.filterMap Word.switch? := by
    rw [isOn_withWords] at off
    simpa using (Bool.or_eq_false_iff.mp off).2
  have allow := absent .allowFallback (congrArg Options.allowFallback bareWords)
  have require := absent .requireBlockDevice (congrArg Options.requireBlockDevice bareWords)
  refine read_words_iff.mpr ⟨?_, named, some_path, ?_⟩
  · rw [List.filterMap_append, List.nodup_append]
    obtain ⟨onceMore, only⟩ := optionWords_switches options
    refine ⟨once, onceMore, ?_⟩
    rintro switch among other asks rfl
    obtain rfl | rfl := only switch asks
    · exact allow among
    · exact require among
  · have both : withWords {} (words ++ optionWords options) =
        (withWords {} words).withOptions options := by
      rw [withWords, List.foldl_append, ← withWords, ← withWords,
        withWords_optionWords bareWords]
    rw [ofWords, ofWords, both]
    rfl

end Arguments

end BlockExtent
