import BlockExtent.Proofs.FlagWords
import BlockExtent.Proofs.PlainMode
import BlockExtent.Proofs.RawMode
import Mathlib.Algebra.GroupWithZero.Nat

/-!
# Flags and paths in any order

Before the separator flags and paths may stand in any order, and after it every argument is a path.
Such a list is read as the list of its flags, the separator and all its paths, and the command
treats these paths one after the other, each as the flags ask. So the order of the flags among
themselves and among the paths has no effect, and no path is lost or taken for a flag.

## Implementation notes

A path before the separator is a name that does not start with a hyphen, or a hyphen alone. After
it nothing but the empty argument is excluded.
-/

namespace BlockExtent

/-- A path that can stand before the separator. -/
structure PlainPath where
  bytes : Bytes
  named : bytes ≠ []
  unflagged : bytes = [0x2D] ∨ bytes.head? ≠ some 0x2D
  deriving DecidableEq

/-- An argument before the separator. -/
inductive Given where
  | word (word : Word)
  | path (path : PlainPath)
  deriving DecidableEq

namespace Given

/-- The bytes of an argument. -/
def spelled : Given → Bytes
  | .word flag => flag.spelled
  | .path plain => plain.bytes

/-- The flag that an argument is. -/
def word? : Given → Option Word
  | .word flag => some flag
  | .path _ => none

/-- The path that an argument is. -/
def path? : Given → Option Bytes
  | .word _ => none
  | .path plain => some plain.bytes

end Given

theorem PlainPath.ne_separator (path : PlainPath) : path.bytes ≠ Arguments.separator := by
  intro same
  obtain alone | other := path.unflagged
  · rw [alone] at same
    cases same
  · rw [same] at other
    exact other rfl

theorem PlainPath.nil_not_mem (given : List Given) : [] ∉ given.filterMap Given.path? := by
  intro mem
  obtain ⟨argument, -, empty⟩ := List.mem_filterMap.mp mem
  cases argument with
  | word word => cases empty
  | path path => exact path.named (Option.some.inj empty)

namespace Arguments

variable {arguments asked : Arguments}

theorem add_plainPath (path : PlainPath) :
    arguments.add path.bytes = .ok (arguments.addPath path.bytes) := by
  obtain ⟨bytes, named, unflagged⟩ := path
  obtain rfl | other := unflagged
  · rfl
  · cases bytes with
    | nil => exact absurd rfl named
    | cons first rest =>
        have unhyphened : first ≠ 0x2D := fun same => other (congrArg some same)
        rw [add.eq_def]
        split
        · next same => exact absurd (List.cons.inj same).1 unhyphened
        · next same => exact absurd (List.cons.inj same).1 unhyphened
        · rfl

theorem withWord_addPath (arguments : Arguments) (word : Word) (path : Bytes) :
    (arguments.addPath path).withWord word = (arguments.withWord word).addPath path := by
  cases word with
  | letters others => rfl
  | verbose => rfl
  | single switch => cases switch <;> rfl

theorem withWords_addPath (arguments : Arguments) (words : List Word) (path : Bytes) :
    (arguments.addPath path).withWords words = (arguments.withWords words).addPath path := by
  induction words generalizing arguments with
  | nil => rfl
  | cons word words ih =>
      rw [withWords, List.foldl_cons, ← withWords, withWord_addPath, ih]
      rfl

theorem unrepeated_addPath {words : List Word} (path : Bytes) :
    (arguments.addPath path).Unrepeated words ↔ arguments.Unrepeated words := by
  have same (switch : Switch) : (arguments.addPath path).isOn switch = arguments.isOn switch := by
    cases switch <;> rfl
  simp only [Unrepeated, same]

/-- The arguments with flags and paths taken in, the flags first. -/
def withGiven (arguments : Arguments) (given : List Given) : Arguments :=
  (given.filterMap Given.path?).foldl addPath
    (arguments.withWords (given.filterMap Given.word?))

/-- Flags and paths are taken in as if the flags stood first, if no switch is repeated, and else
they are refused. -/
theorem addAll_given_iff {given : List Given} {rest : List Bytes}
    (settled : [] ∉ arguments.paths) :
    arguments.addAll (given.map Given.spelled ++ rest) = .ok asked ↔
      arguments.Unrepeated (given.filterMap Given.word?) ∧
        (arguments.withGiven given).addAll rest = .ok asked := by
  induction given generalizing arguments with
  | nil => simp [Unrepeated, withGiven, withWords]
  | cons argument given ih =>
      rw [List.map_cons, List.cons_append]
      cases argument with
      | word word =>
          have settledRest : [] ∉ (arguments.withWord word).paths := by
            rwa [withWord_paths]
          calc arguments.addAll (word.spelled :: (given.map Given.spelled ++ rest)) = .ok asked
            _ ↔ (∀ switch, word.switch? = some switch → arguments.isOn switch = false) ∧
                (arguments.withWord word).addAll (given.map Given.spelled ++ rest) = .ok asked :=
              addAll_word_iff settled
            _ ↔ ((∀ switch, word.switch? = some switch → arguments.isOn switch = false) ∧
                (arguments.withWord word).Unrepeated (given.filterMap Given.word?)) ∧
                ((arguments.withWord word).withGiven given).addAll rest = .ok asked := by
              rw [ih settledRest, and_assoc]
            _ ↔ arguments.Unrepeated (word :: given.filterMap Given.word?) ∧
                (arguments.withGiven (.word word :: given)).addAll rest = .ok asked := by
              rw [unrepeated_cons]
              rfl
      | path path =>
          have settledRest : [] ∉ (arguments.addPath path.bytes).paths := by
            intro mem
            obtain before | here := List.mem_append.mp mem
            · exact settled before
            · exact path.named (List.eq_of_mem_singleton here).symm
          have later : (arguments.addPath path.bytes).withGiven given =
              arguments.withGiven (.path path :: given) := by
            rw [withGiven, withWords_addPath]
            rfl
          calc arguments.addAll (path.bytes :: (given.map Given.spelled ++ rest)) = .ok asked
            _ ↔ (arguments.addPath path.bytes).addAll (given.map Given.spelled ++ rest) =
                .ok asked := by
              rw [addAll_before_separator _ path.ne_separator, add_plainPath]
            _ ↔ arguments.Unrepeated (given.filterMap Given.word?) ∧
                (arguments.withGiven (.path path :: given)).addAll rest = .ok asked := by
              rw [ih settledRest, unrepeated_addPath, later]

theorem withGiven_eq (arguments : Arguments) (given : List Given) :
    arguments.withGiven given =
      { arguments.withWords (given.filterMap Given.word?) with
        paths := arguments.paths ++ given.filterMap Given.path? } := by
  rw [withGiven, foldl_addPath, withWords_paths]

/-- The separator and the paths after it, if there is one. -/
def ending : Option (List Bytes) → List Bytes
  | none => []
  | some paths => separator :: paths

/-- Flags and paths as they are given to the command, with what ends them. -/
def mixed (given : List Given) (after : Option (List Bytes)) : List Bytes :=
  given.map Given.spelled ++ ending after

theorem addAll_ending (arguments : Arguments) (after : Option (List Bytes)) :
    arguments.addAll (ending after) =
      .ok { arguments with paths := arguments.paths ++ after.getD [] } := by
  cases after with
  | none => simp [ending, addAll]
  | some paths => rw [ending, addAll_separator, foldl_addPath, Option.getD_some]

/-- A list of flags and paths is accepted where no switch is named twice, where there is a path, and
where none is empty; it is read as its flags and its paths. -/
theorem read_mixed_iff {given : List Given} {after : Option (List Bytes)} :
    read (mixed given after) = .ok asked ↔
      ((given.filterMap Given.word?).filterMap Word.switch?).Nodup ∧ [] ∉ after.getD [] ∧
        given.filterMap Given.path? ++ after.getD [] ≠ [] ∧
        asked = ofWords (given.filterMap Given.word?)
          (given.filterMap Given.path? ++ after.getD []) := by
  have settled : [] ∉ ({} : Arguments).paths := List.not_mem_nil
  have allOff (switch : Switch) : ({} : Arguments).isOn switch = false := by
    cases switch <;> rfl
  have rest : (withGiven {} given).addAll (ending after) =
      .ok (ofWords (given.filterMap Given.word?)
        (given.filterMap Given.path? ++ after.getD [])) := by
    rw [withGiven_eq, addAll_ending]
    rfl
  rw [read_eq_ok_iff, mixed, addAll_given_iff settled, rest]
  have given_named := PlainPath.nil_not_mem given
  constructor
  · rintro ⟨⟨⟨once, -⟩, same⟩, named, some_path⟩
    cases same
    exact ⟨once, fun empty => named (List.mem_append_right _ empty), some_path, rfl⟩
  · rintro ⟨once, named, some_path, rfl⟩
    refine ⟨⟨⟨once, fun switch _ => allOff switch⟩, rfl⟩, ?_, some_path⟩
    intro empty
    obtain before | later := List.mem_append.mp empty
    · exact given_named before
    · exact named later

/-- The words are counted as often as they ask to say more. -/
theorem withWords_verbosity (words : List Word) (counted : arguments.verbosity ≤ verbosityLimit) :
    (arguments.withWords words).verbosity =
      min verbosityLimit (arguments.verbosity + (words.map Word.loudness).sum) := by
  induction words generalizing arguments with
  | nil => exact (Nat.min_eq_right counted).symm
  | cons word words ih =>
      have taken : (arguments.withWord word).verbosity =
          min verbosityLimit (arguments.verbosity + word.loudness) := by
        cases word with
        | letters others => rfl
        | verbose => rfl
        | single switch => cases switch <;> exact (Nat.min_eq_right counted).symm
      have within : (arguments.withWord word).verbosity ≤ verbosityLimit := by omega
      have later := ih within
      rw [withWords, List.foldl_cons, ← withWords, later, taken, List.map_cons, List.sum_cons]
      omega

/-- Arguments are told apart by their paths, their verbosity and their switches. -/
theorem eq_of_isOn {other : Arguments} (paths : arguments.paths = other.paths)
    (verbosity : arguments.verbosity = other.verbosity)
    (switches : ∀ switch, arguments.isOn switch = true ↔ other.isOn switch = true) :
    arguments = other := by
  have same (switch : Switch) : arguments.isOn switch = other.isOn switch :=
    Bool.eq_iff_iff.mpr (switches switch)
  obtain ⟨_, _, allow, require, raw, escalate⟩ := arguments
  obtain ⟨_, _, allow', require', raw', escalate'⟩ := other
  cases paths
  cases verbosity
  cases (same .allowFallback : allow = allow')
  cases (same .requireBlockDevice : require = require')
  cases (same .raw : raw = raw')
  cases (same .escalate : escalate = escalate')
  rfl

end Arguments

/-- A list of arguments that is accepted: flags and paths in any order, and paths alone after a
separator, if there is one. -/
structure Invocation where
  given : List Given
  after : Option (List Bytes)
  once : ((given.filterMap Given.word?).filterMap Word.switch?).Nodup
  named : [] ∉ after.getD []
  some_path : given.filterMap Given.path? ++ after.getD [] ≠ []

namespace Invocation

/-- The arguments as they are given to the command. -/
def list (invocation : Invocation) : List Bytes :=
  Arguments.mixed invocation.given invocation.after

/-- The paths before the separator and those after it. -/
def paths (invocation : Invocation) : List Bytes :=
  invocation.given.filterMap Given.path? ++ invocation.after.getD []

/-- How often more is asked to be said. -/
def loudness (invocation : Invocation) : Nat :=
  ((invocation.given.filterMap Given.word?).map Word.loudness).sum

/-- A switch stands among the arguments before the separator. -/
def Names (invocation : Invocation) (switch : Switch) : Prop :=
  .word (.single switch) ∈ invocation.given

theorem names_iff {invocation : Invocation} {switch : Switch} :
    invocation.Names switch ↔
      switch ∈ (invocation.given.filterMap Given.word?).filterMap Word.switch? := by
  simp only [Names, List.mem_filterMap]
  constructor
  · intro mem
    exact ⟨.single switch, ⟨_, mem, rfl⟩, rfl⟩
  · rintro ⟨word, ⟨argument, mem, isWord⟩, isSwitch⟩
    cases argument with
    | path path => cases isWord
    | word other =>
        cases isWord
        cases word with
        | letters others => cases isSwitch
        | verbose => cases isSwitch
        | single other =>
            cases isSwitch
            exact mem

/-- An invocation is accepted, and read as its paths, its loudness and its switches. -/
theorem read_list (invocation : Invocation) :
    ∃ asked, Arguments.read invocation.list = .ok asked ∧ asked.paths = invocation.paths ∧
      asked.verbosity = min 255 invocation.loudness ∧
      ∀ switch, asked.isOn switch = true ↔ invocation.Names switch := by
  obtain ⟨given, after, once, named, some_path⟩ := invocation
  refine ⟨_, Arguments.read_mixed_iff.mpr ⟨once, named, some_path, rfl⟩, rfl, ?_, ?_⟩
  · have silent : ({} : Arguments).verbosity ≤ Arguments.verbosityLimit := Nat.zero_le _
    have counted := Arguments.withWords_verbosity (given.filterMap Given.word?) silent
    rwa [Nat.zero_add] at counted
  · intro switch
    have on : (Arguments.ofWords (given.filterMap Given.word?)
        (given.filterMap Given.path? ++ after.getD [])).isOn switch =
          (Arguments.withWords {} (given.filterMap Given.word?)).isOn switch := by
      cases switch <;> rfl
    have off : ({} : Arguments).isOn switch = false := by
      cases switch <;> rfl
    rw [on, Arguments.isOn_withWords, off, Bool.false_or, decide_eq_true_iff, names_iff]

/-- Invocations with the same paths, the same loudness and the same switches are read alike. -/
theorem read_congr {invocation other : Invocation} (paths : other.paths = invocation.paths)
    (loudness : other.loudness = invocation.loudness)
    (switches : ∀ switch, other.Names switch ↔ invocation.Names switch) :
    Arguments.read other.list = Arguments.read invocation.list := by
  obtain ⟨asked, accepted, askedPaths, askedVerbosity, askedSwitches⟩ := invocation.read_list
  obtain ⟨same, acceptedToo, samePaths, sameVerbosity, sameSwitches⟩ := other.read_list
  have equal : same = asked := by
    apply Arguments.eq_of_isOn
    · rw [samePaths, paths, askedPaths]
    · rw [sameVerbosity, loudness, askedVerbosity]
    · intro switch
      rw [sameSwitches, switches, askedSwitches]
  rw [accepted, acceptedToo, equal]

/-- Flags and paths may be given in any order before the separator. The paths that the command takes
are those before it and then all that follow it, in order and as often as they are given; the
verbosity counts how often more is asked to be said, up to 255; and a switch is on where it stands
before the separator. With the rights that it asks for, the command reports on these paths and
nothing else: each is treated as if it were the only one, what they get stands in their order, and
the command fails where one of them does. A path gets the line of its inspection, or of its codes
where these are asked for; if it gets none it fails, and a line says so. So nothing but the paths,
the count and the switches has an effect on what the command prints and on its status. -/
theorem flags_stand_anywhere {facilities : Facilities}
    (reads : facilities.read = Arguments.read) (steady : Backing.Steady facilities.lookup)
    (escalates : Command.Escalates facilities.escalate) (invocation : Invocation) :
    (∃ asked, facilities.read invocation.list = .ok asked ∧
      asked.paths = invocation.given.filterMap Given.path? ++ invocation.after.getD [] ∧
      asked.verbosity = min 255 invocation.loudness ∧
      (∀ switch, asked.isOn switch = true ↔ .word (.single switch) ∈ invocation.given) ∧
      ∀ kernel, (invocation.Names .escalate → kernel.effectiveUser = 0) →
        let level := Command.threshold (min 255 invocation.loudness)
        let report := Command.run facilities kernel invocation.list
        let treatment := fun path => (Command.treat facilities asked path).run level kernel
        report.output = invocation.paths.flatMap (fun path => (treatment path).output) ∧
        (∃ granted : List Record, (¬ invocation.Names .escalate → granted = []) ∧
          report.complaints = granted.map facilities.line ++
            invocation.paths.flatMap fun path => (treatment path).complaints facilities.line) ∧
        (report.status = 1 ↔ ∃ path ∈ invocation.paths, (treatment path).value = true) ∧
        (report.status = 0 ↔ ∀ path ∈ invocation.paths, (treatment path).value = false) ∧
        ∀ path,
          ((treatment path).value = false ↔ (treatment path).output ≠ []) ∧
          ((treatment path).value = true → ∃ before e,
            (treatment path).complaints facilities.line = before ++ [Line.failure path e]) ∧
          (¬ invocation.Names .raw →
            (treatment path).output =
              match (((Handle.path path).inspectWith asked.options).run level kernel).value with
              | .ok extent => [Line.plain path extent.kind extent.length]
              | .error _ => []) ∧
          (invocation.Names .raw →
            (treatment path).output =
              match kernel.opened path with
              | .error _ => []
              | .ok opening =>
                  [Line.raw path (EntryPoint.classifyCode (Inspection.kindResult opening.status))
                    (EntryPoint.lengthCode (Inspection.lengthResult opening.sizeReply))])) ∧
    ∀ other : Invocation, other.paths = invocation.paths →
      other.loudness = invocation.loudness →
      (∀ switch, other.Names switch ↔ invocation.Names switch) →
      ∀ kernel, Command.run facilities kernel other.list =
        Command.run facilities kernel invocation.list := by
  obtain ⟨asked, accepted, paths, verbosity, switches⟩ := invocation.read_list
  rw [← reads] at accepted
  constructor
  · refine ⟨asked, accepted, paths, verbosity, switches, ?_⟩
    intro kernel rights level report treatment
    have restores := steady.toRestores
    have granted : Command.Granted facilities asked kernel :=
      escalates.grants fun on => rights ((switches .escalate).mp on)
    have whole : report = _ := Command.run_of_treatments accepted steady granted
    rw [verbosity, show asked.paths = invocation.paths from paths] at whole
    rw [whole]
    refine ⟨rfl, ⟨_, ?_, rfl⟩, ?_, ?_, ?_⟩
    · intro unnamed
      have unasked : asked.escalate = false :=
        Bool.eq_false_iff.mpr fun on => unnamed ((switches .escalate).mp on)
      rw [Command.privilegeRecords_of_unasked unasked]
      rfl
    · simp [treatment, level]
    · simp [treatment, level]
    · intro path
      refine ⟨Command.treat_succeeds_iff asked level kernel path restores,
        Command.treat_complaints_of_failed asked level kernel path restores, ?_, ?_⟩
      · intro unnamed
        have plain : asked.raw = false :=
          Bool.eq_false_iff.mpr fun on => unnamed ((switches .raw).mp on)
        exact Command.treat_output_of_plain level kernel path plain restores
      · intro named
        have raw : asked.raw = true := (switches .raw).mpr named
        exact Command.treat_output_of_raw raw restores level kernel path
  · intro other samePaths loudness sameSwitches kernel
    rw [Command.run, Command.run, reads, read_congr samePaths loudness sameSwitches]

/-- A hyphen alone and a byte that is no text are paths among the flags, and after the separator a
flag and another separator are paths. Three letters in one word ask for as much as one letter, the
long word and one letter. Both lists make the command report on all five paths, of which the hyphen
names a disk, and the flag a file; the other two name nothing. -/
theorem flags_stand_anywhere_among_odd_paths :
    let hyphen : Given := .path ⟨[0x2D], nofun, .inl rfl⟩
    let byte : Given := .path ⟨[0xFF], nofun, .inr nofun⟩
    let after := some [(Word.single .raw).spelled, Arguments.separator]
    let first : Invocation :=
      ⟨[hyphen, .word (.letters 2), byte, .word (.single .raw), hyphen], after,
        by decide, by decide, by decide⟩
    let second : Invocation :=
      ⟨[.word (.single .raw), .word (.letters 0), hyphen, byte, .word .verbose, hyphen,
        .word (.letters 0)], after, by decide, by decide, by decide⟩
    let disk : FileObject := { mode := 0o060660, sizeReply := .answered 0 (some 512) (by decide) }
    let kernel := Kernel.ofFiles [([0x2D], disk), (Utf8.encode "--raw", {})]
    Facilities.standard.read = Arguments.read ∧ Backing.Steady Facilities.standard.lookup ∧
      Command.Escalates Facilities.standard.escalate ∧
      first.list = [[0x2D], [0x2D, 0x76, 0x76, 0x76], [0xFF], Utf8.encode "--raw", [0x2D],
        [0x2D, 0x2D], Utf8.encode "--raw", [0x2D, 0x2D]] ∧
      second.paths = first.paths ∧ second.loudness = first.loudness ∧
      (∀ switch, second.Names switch ↔ first.Names switch) ∧
      (∃ asked, Facilities.standard.read first.list = .ok asked ∧
        asked.paths = [[0x2D], [0xFF], [0x2D], Utf8.encode "--raw", [0x2D, 0x2D]] ∧
        asked.verbosity = 3 ∧ asked.raw = true) ∧
      (∀ kernel, Command.run .standard kernel second.list =
        Command.run .standard kernel first.list) ∧
      (Command.run .standard kernel second.list).status = 1 ∧
      (Command.run .standard kernel second.list).output =
        ["-\t1\t512", "-\t1\t512", "--raw\t0\t-1"] ∧
      (Command.run .standard kernel second.list).complaints =
        ["00:00:00 [TRACE] (1) blkinspect::inspect: fd 3 is block device",
          "00:00:00 [TRACE] (1) blkinspect::inspect: fd 3 has 512 bytes",
          "\uFFFD: No such file or directory (os error 2)",
          "00:00:00 [TRACE] (1) blkinspect::inspect: fd 3 is block device",
          "00:00:00 [TRACE] (1) blkinspect::inspect: fd 3 has 512 bytes",
          "00:00:00 [TRACE] (1) blkinspect::inspect: fd 3 is not a block device",
          "00:00:00 [DEBUG] (1) blkinspect::inspect: BLKGETSIZE64 on fd 3 failed: " ++
            "Inappropriate ioctl for device (os error 25)",
          "--: No such file or directory (os error 2)"] := by
  intro hyphen byte after first second disk kernel
  have steady : Backing.Steady Facilities.standard.lookup := Backing.steady_lookup
  have escalates : Command.Escalates Facilities.standard.escalate := Command.escalates_escalate
  have switches (switch : Switch) : second.Names switch ↔ first.Names switch := by
    simp only [names_iff]
    cases switch <;> decide
  obtain ⟨⟨asked, accepted, paths, verbosity, on, reported⟩, same⟩ :=
    flags_stand_anywhere rfl steady escalates first
  obtain rfl : asked = { paths := first.paths, verbosity := 3, raw := true } :=
    Except.ok.inj (accepted.symm.trans (by decide))
  obtain ⟨printed, -, failed, -⟩ := reported kernel fun _ => by decide
  have alike := same second rfl rfl switches
  refine ⟨rfl, steady, escalates, rfl, rfl, rfl, switches, ⟨_, accepted, paths, verbosity, ?_⟩,
    alike, ?_, ?_, ?_⟩
  · exact (on .raw).mpr (by decide)
  · rw [alike kernel]
    exact failed.mpr ⟨[0xFF], by decide, by decide⟩
  · rw [alike kernel, printed]
    decide
  · rw [alike kernel]
    decide

end Invocation

end BlockExtent
