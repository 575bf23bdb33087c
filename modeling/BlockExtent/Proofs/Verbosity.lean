import BlockExtent.Proofs.FlagWords
import BlockExtent.Proofs.Treatment
import Mathlib.Data.List.Basic
import Mathlib.Data.List.Flatten

/-!
# Saying more

To ask the command to say more changes nothing but how much it says. Words that ask for it may be
put anywhere among the arguments, before the separator; the arguments are read as before, only
with a higher verbosity. On each path the outcome does not depend on the verbosity, and whatever is
said at one verbosity is said at every higher one.

## Implementation notes

From three on the verbosity makes no difference: every record is let through, and a verbose command
has no more remarks to make.
-/

namespace BlockExtent

namespace Arguments

/-- Arguments into which words are put that ask so often to say more, before any separator. -/
inductive Louder : List Bytes → Nat → List Bytes → Prop
  | same (list : List Bytes) : Louder list 0 list
  | keep {list louder : List Bytes} {n : Nat} (argument : Bytes) (before : argument ≠ separator)
      (rest : Louder list n louder) : Louder (argument :: list) n (argument :: louder)
  | raise {list louder : List Bytes} {n : Nat} (word : Word) (loud : word.switch? = none)
      (rest : Louder list n louder) : Louder list (n + word.loudness) (word.spelled :: louder)

/-- One way to ask so often is to repeat the shortest word in front. -/
theorem louder_replicate (list : List Bytes) (n : Nat) :
    Louder list n (List.replicate n (Word.letters 0).spelled ++ list) := by
  induction n with
  | zero => exact .same list
  | succ n ih => exact .raise (.letters 0) rfl ih

section Paths

variable {arguments next : Arguments}

theorem addFlag_paths {flag : Flag} (taken : arguments.addFlag flag = .ok next) :
    next.paths = arguments.paths := by
  by_cases unsettled : [] ∈ arguments.paths
  · simp [addFlag, settle, unsettled] at taken
  · simp only [addFlag, settle_of_settled unsettled] at taken
    cases flag with
    | verbose =>
        cases taken
        rfl
    | switch switch =>
        cases on : arguments.isOn switch with
        | true => simp [on] at taken
        | false =>
            have turned : arguments.turnOn switch = next := by simpa [on] using taken
            rw [← turned]
            cases switch <;> rfl
    | help => cases taken
    | version => cases taken

theorem addLetters_paths {letters : List Utf8.Piece}
    (taken : arguments.addLetters letters = .ok next) : next.paths = arguments.paths := by
  induction letters generalizing arguments with
  | nil =>
      cases taken
      rfl
  | cons piece rest ih =>
      cases piece with
      | invalid bytes => cases taken
      | char c =>
          rw [addLetters] at taken
          cases letter : Flag.ofLetter? c with
          | none => simp [letter] at taken
          | some flag =>
              cases added : arguments.addFlag flag with
              | error stop => simp [letter, added] at taken
              | ok middle =>
                  simp only [letter, added] at taken
                  rw [ih taken, addFlag_paths added]

theorem addWord_paths {body : Bytes} (taken : arguments.addWord body = .ok next) :
    next.paths = arguments.paths := by
  rw [addWord] at taken
  split at taken
  · cases taken
  · exact addFlag_paths taken
  · cases taken

/-- An argument that is taken in adds at most one path, after the others. -/
theorem add_paths {argument : Bytes} (taken : arguments.add argument = .ok next) :
    arguments.paths <+: next.paths := by
  rw [add.eq_def] at taken
  split at taken
  · exact addWord_paths taken ▸ List.prefix_rfl
  · exact addLetters_paths taken ▸ List.prefix_rfl
  · cases taken
    exact List.prefix_append _ _

theorem addAll_paths {list : List Bytes} (taken : arguments.addAll list = .ok next) :
    arguments.paths <+: next.paths := by
  induction list generalizing arguments with
  | nil =>
      cases taken
      exact List.prefix_rfl
  | cons argument rest ih =>
      by_cases ends : argument = separator
      · rw [ends, addAll_separator, foldl_addPath] at taken
        cases taken
        exact List.prefix_append _ _
      · obtain ⟨middle, added, others⟩ := (addAll_cons_eq_ok_iff ends).mp taken
        exact (add_paths added).trans (ih others)

end Paths

section Equivariance

variable (arguments : Arguments) (n : Nat)

theorem addFlag_louderBy (flag : Flag) :
    (arguments.louderBy n).addFlag flag = (arguments.addFlag flag).map (·.louderBy n) := by
  have paths : (arguments.louderBy n).paths = arguments.paths := rfl
  by_cases unsettled : [] ∈ arguments.paths
  · simp [addFlag, settle, paths, unsettled, Except.map]
  · simp only [addFlag, settle, paths, if_neg unsettled]
    cases flag with
    | verbose =>
        have once : arguments.raiseVerbosity = arguments.louderBy 1 := rfl
        have onceMore : (arguments.louderBy n).raiseVerbosity = (arguments.louderBy n).louderBy 1 :=
          rfl
        rw [once, onceMore, louderBy_louderBy, Except.map, louderBy_louderBy, Nat.add_comm]
    | switch switch =>
        have same : (arguments.louderBy n).isOn switch = arguments.isOn switch := by
          cases switch <;> rfl
        cases on : arguments.isOn switch with
        | true => simp [same, on, Except.map]
        | false =>
            simp only [same, on, Bool.false_eq_true, if_false, Except.map]
            cases switch <;> rfl
    | help => rfl
    | version => rfl

theorem addLetters_louderBy (letters : List Utf8.Piece) :
    (arguments.louderBy n).addLetters letters =
      (arguments.addLetters letters).map (·.louderBy n) := by
  induction letters generalizing arguments with
  | nil => rfl
  | cons piece rest ih =>
      cases piece with
      | invalid bytes => rfl
      | char c =>
          simp only [addLetters]
          cases Flag.ofLetter? c with
          | none => rfl
          | some flag =>
              simp only [addFlag_louderBy]
              cases arguments.addFlag flag with
              | error stop => rfl
              | ok next => exact ih next

theorem add_louderBy (argument : Bytes) :
    (arguments.louderBy n).add argument = (arguments.add argument).map (·.louderBy n) := by
  rw [add.eq_def, add.eq_def]
  split
  · rw [addWord, addWord]
    split
    · rfl
    · exact addFlag_louderBy arguments n _
    · rfl
  · exact addLetters_louderBy arguments n _
  · rfl

/-- Arguments are read alike at every verbosity. -/
theorem addAll_louderBy (list : List Bytes) :
    (arguments.louderBy n).addAll list = (arguments.addAll list).map (·.louderBy n) := by
  induction list generalizing arguments with
  | nil => rfl
  | cons argument rest ih =>
      by_cases ends : argument = separator
      · rw [ends, addAll_separator, addAll_separator, foldl_addPath, foldl_addPath]
        rfl
      · rw [addAll_before_separator _ ends, addAll_before_separator _ ends, add_louderBy]
        cases arguments.add argument with
        | error stop => rfl
        | ok next => exact ih next

end Equivariance

/-- Words that ask to say more raise the verbosity, wherever they are put. -/
theorem addAll_of_louder {list louder : List Bytes} {n : Nat} (given : Louder list n louder)
    {arguments asked : Arguments} (taken : arguments.addAll list = .ok asked)
    (settled : [] ∉ asked.paths) (quiet : asked.verbosity = 0) :
    arguments.addAll louder = .ok (asked.louderBy n) := by
  induction given generalizing arguments with
  | same list =>
      rw [taken, louderBy_zero (quiet ▸ Nat.zero_le verbosityLimit)]
  | keep argument before rest ih =>
      obtain ⟨next, added, others⟩ := (addAll_cons_eq_ok_iff before).mp taken
      exact (addAll_cons_eq_ok_iff before).mpr ⟨next, added, ih others⟩
  | @raise list louder n word loud rest ih =>
      -- A flag is refused over an empty path, and one read so far would be asked for in the end.
      have settledHere : [] ∉ arguments.paths :=
        fun empty => settled ((addAll_paths taken).mem empty)
      have read : arguments.add word.spelled = .ok (arguments.louderBy word.loudness) := by
        rw [add_spelled word settledHere (by simp [loud])]
        cases word with
        | letters others => rfl
        | verbose => rfl
        | single switch => cases loud
      rw [addAll_before_separator _ (spelled_ne_separator word), read]
      simp only [addAll_louderBy, ih taken, Except.map, louderBy_louderBy]

theorem read_of_louder {list louder : List Bytes} {n : Nat} (given : Louder list n louder)
    {asked : Arguments} (accepted : read list = .ok asked) (quiet : asked.verbosity = 0) :
    read louder = .ok (asked.louderBy n) := by
  obtain ⟨taken, settled, some_path⟩ := read_eq_ok_iff.mp accepted
  exact read_eq_ok_iff.mpr ⟨addAll_of_louder given taken settled quiet, settled, some_path⟩

end Arguments

namespace Command

theorem admits_threshold (verbosity : Nat) (level : Level) :
    (threshold verbosity).admits level = true ↔ level.rank ≤ verbosity + 2 := by
  match verbosity with
  | 0 => cases level <;> decide
  | 1 => cases level <;> decide
  | 2 => cases level <;> decide
  | n + 3 =>
      have deepest : level.rank ≤ 5 := by cases level <;> decide
      have trace : (threshold (n + 3)).admits level = decide (level.rank ≤ 5) := rfl
      rw [trace, decide_eq_true_iff]
      omega

/-- What is let through at a verbosity is let through at every higher one. -/
theorem logged_sublist {low high : Nat} (raised : low ≤ high) (records : List Record) :
    ((threshold low).logged records).Sublist ((threshold high).logged records) := by
  apply List.Sublist.map
  apply List.monotone_filter_right
  intro record admitted
  rw [admits_threshold] at admitted ⊢
  omega

section Report

variable (arguments : Arguments) (kernel : Kernel)

theorem remarksOf_sublist {low high : Nat} (raised : low ≤ high)
    (found : Except SystemError String) (opening : Opened) :
    (remarksOf { arguments with verbosity := low } found opening).Sublist
      (remarksOf { arguments with verbosity := high } found opening) := by
  by_cases quiet : arguments.raw ∨ low = 0
  · simp [remarksOf, if_pos quiet]
  · have spoken : ¬ (arguments.raw ∨ high = 0) := by
      rintro (raw | none)
      · exact quiet (.inl raw)
      · exact quiet (.inr (by omega))
    simp only [remarksOf, if_neg quiet, if_neg spoken]
    exact List.Sublist.refl _

variable {facilities : Facilities}

variable (steady : Backing.Steady facilities.lookup)

include steady

theorem found_withThreshold (low high : Threshold) (path : Bytes) :
    facilities.found low kernel path = facilities.found high kernel path :=
  steady.value_congr (.refl kernel) high low path

/-- What is written about a path is written at every higher verbosity too. -/
theorem treated_sublist {low high : Nat} (raised : low ≤ high) (path : Bytes) :
    (treated facilities { arguments with verbosity := low } (threshold low) kernel path).Sublist
      (treated facilities { arguments with verbosity := high } (threshold high) kernel
        path) := by
  apply List.Sublist.append _ (List.Sublist.refl _)
  rw [attempted, attempted]
  cases kernel.opened path with
  | error e => exact List.Sublist.refl _
  | ok opening =>
      apply List.Sublist.append
      · apply List.Sublist.append _ (List.Sublist.refl _)
        exact logged_sublist raised _
      · apply List.Sublist.map
        rw [found_withThreshold (kernel.whileOpen path) steady (threshold low) (threshold high)]
        exact remarksOf_sublist arguments raised _ opening

/-- Whatever goes to the error output goes there at every higher verbosity too. -/
theorem complaints_sublist {low high : Nat} (raised : low ≤ high) :
    (reportOf facilities { arguments with verbosity := low } kernel).complaints.Sublist
      (reportOf facilities { arguments with verbosity := high } kernel).complaints := by
  apply List.Sublist.append
  · exact (logged_sublist raised _).filterMap _
  · apply List.Sublist.flatMap_right
    intro path _
    exact (treated_sublist arguments kernel steady raised path).filterMap _

omit steady in
/-- The most that can be said is said from three on. -/
theorem complaints_of_three_le {verbosity : Nat} (most : 3 ≤ verbosity) :
    (reportOf facilities { arguments with verbosity } kernel).complaints =
      (reportOf facilities { arguments with verbosity := 3 } kernel).complaints := by
  obtain ⟨n, rfl⟩ := Nat.exists_eq_add_of_le' most
  have remarks : remarksOf { arguments with verbosity := n + 3 } =
      remarksOf { arguments with verbosity := 3 } := by
    funext found opening
    simp only [remarksOf, Nat.succ_ne_zero]
    rfl
  have onPath : complaintsOn facilities { arguments with verbosity := n + 3 } kernel =
      complaintsOn facilities { arguments with verbosity := 3 } kernel := by
    funext path
    simp only [complaintsOn, treated, attempted, remarks]
    rfl
  simp only [reportOf, onPath]
  rfl

end Report

/-- Let a list of arguments be accepted that does not ask to say more. Wherever words that do ask
are put among them, before the separator, the report depends only on how often they ask: its status
and its output are the same for every number, what goes to the error output goes there for every
higher number too, in the same order, and from three on nothing is added to it. -/
theorem run_louder {facilities : Facilities} (reads : facilities.read = Arguments.read)
    (steady : Backing.Steady facilities.lookup) (escalates : Escalates facilities.escalate)
    (kernel : Kernel) {list : List Bytes} {asked : Arguments}
    (accepted : facilities.read list = .ok asked) (quiet : asked.verbosity = 0)
    (rights : asked.escalate = true → kernel.effectiveUser = 0) :
    let report := fun n =>
      run facilities kernel (List.replicate n (Word.letters 0).spelled ++ list)
    (∀ n louder, Arguments.Louder list n louder → run facilities kernel louder = report n) ∧
    (∀ n, (report n).status = (run facilities kernel list).status ∧
      (report n).output = (run facilities kernel list).output) ∧
    (∀ n, (report n).complaints.Sublist (report (n + 1)).complaints) ∧
    (∀ n, 3 ≤ n → (report n).complaints = (report 3).complaints) := by
  intro report
  have reported {n : Nat} {louder : List Bytes} (given : Arguments.Louder list n louder) :
      run facilities kernel louder =
        reportOf facilities { asked with verbosity := min Arguments.verbosityLimit n } kernel := by
    have read := Arguments.read_of_louder given (reads ▸ accepted) quiet
    rw [← reads] at read
    rw [run_of_read read steady (escalates.grants rights), Arguments.louderBy, quiet, Nat.zero_add]
  have counted (n : Nat) : report n =
      reportOf facilities { asked with verbosity := min Arguments.verbosityLimit n } kernel :=
    reported (Arguments.louder_replicate list n)
  refine ⟨?_, ?_, ?_, ?_⟩
  · intro n louder given
    rw [reported given, counted]
  · intro n
    rw [counted, run_of_read accepted steady (escalates.grants rights)]
    exact ⟨rfl, rfl⟩
  · intro n
    rw [counted, counted]
    apply complaints_sublist asked kernel steady
    omega
  · intro n most
    rw [counted, counted]
    have mostCounted : 3 ≤ min Arguments.verbosityLimit n :=
      Nat.le_min.mpr ⟨by decide, most⟩
    exact complaints_of_three_le asked kernel mostCounted

/-- A hyphen and 256 letters, before the path of a block device that refuses the size request: more
is asked for than is counted, and the most is said. -/
theorem run_louder_past_limit :
    let kernel := Kernel.naming [0x64] { mode := 0o060660, size := 512, sizeReply := .refused ⟨25⟩ }
    let list := [(Word.single .allowFallback).spelled, [0x64]]
    let asked : Arguments := { paths := [[0x64]], allowFallback := true }
    let louder := (Word.letters 255).spelled :: list
    Facilities.standard.read = Arguments.read ∧ Backing.Steady Facilities.standard.lookup ∧
      Escalates Facilities.standard.escalate ∧
      Facilities.standard.read list = .ok asked ∧ asked.verbosity = 0 ∧
      (asked.escalate = true → kernel.effectiveUser = 0) ∧
      (run .standard kernel louder).output = ["d: block device, 512 bytes"] ∧
      (run .standard kernel louder).complaints =
        ["00:00:00 [DEBUG] (1) blkinspect::inspect: BLKGETSIZE64 on fd 3 failed: " ++
            "Inappropriate ioctl for device (os error 25)",
          "00:00:00 [WARN] fd 3: block device size request failed, using status size 512",
          "Length: 512 (0x200)", "(Size request failed, length taken from fstat)"] := by
  intro kernel list asked louder
  have steady : Backing.Steady Facilities.standard.lookup := Backing.steady_lookup
  have escalates : Escalates Facilities.standard.escalate := escalates_escalate
  have accepted : Facilities.standard.read list = .ok asked := by decide
  have rights : asked.escalate = true → kernel.effectiveUser = 0 := nofun
  have given : Arguments.Louder list 256 louder := .raise (.letters 255) rfl (.same list)
  obtain ⟨same, unchanged, -, most⟩ := run_louder rfl steady escalates kernel accepted rfl rights
  have counted := same 256 louder given
  refine ⟨rfl, steady, escalates, accepted, rfl, rights, ?_, ?_⟩
  · exact (congrArg Report.output counted).trans ((unchanged 256).2.trans (by decide))
  · exact (congrArg Report.complaints counted).trans ((most 256 (by decide)).trans (by decide))

end Command

end BlockExtent
