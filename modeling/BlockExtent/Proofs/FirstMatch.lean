import BlockExtent.Proofs.MountLines

/-!
# The first line that decides

A search through the mount table comes to the earliest line that is no text or qualifies, and its
outcome is what that line says: a failure, or the path of a source. If there is no such line, then
nothing is found. What stands behind the deciding line is of no account.
-/

namespace BlockExtent.MountTable

variable {isPresent : Bytes → Bool} {device : DeviceNumber}

/-- The outcome of a search through the content of a mount table. -/
inductive Searched (isPresent : Bytes → Bool) (device : DeviceNumber) (content : Bytes) :
    Except SystemError (Option String) → Prop
  /-- All lines before the first one that qualifies are texts. -/
  | found {before : List Bytes} {line : Bytes} {source : String}
      (reached : Text.Reaches 0x0A content before line)
      (passed : ∀ earlier ∈ before, Passed isPresent device earlier)
      (qualifies : Qualifies isPresent device line source) :
      Searched isPresent device content (.ok (some source))
  /-- No line before the first one that is no text qualifies. -/
  | broken {before : List Bytes} {line : Bytes} (reached : Text.Reaches 0x0A content before line)
      (passed : ∀ earlier ∈ before, Passed isPresent device earlier)
      (invalid : ¬ Utf8.Valid line) :
      Searched isPresent device content (.error .invalidText)
  | unmatched (passed : ∀ before line, Text.Reaches 0x0A content before line →
      Passed isPresent device line) :
      Searched isPresent device content (.ok none)

theorem Qualifies.search_cons {line : Bytes} {source : String}
    (qualifies : Qualifies isPresent device line source) (rest : List Bytes) :
    search isPresent device (line :: rest) = .ok (some source) := by
  obtain ⟨text, rfl⟩ : Utf8.Valid line := by
    cases qualifies
    exact ⟨_, rfl⟩
  rw [search, Utf8.decode?_eq_some_iff.mpr rfl]
  simp only [answer?_eq_some_iff.mpr qualifies]

theorem search_cons_of_invalid {line : Bytes} (invalid : ¬ Utf8.Valid line)
    (rest : List Bytes) : search isPresent device (line :: rest) = .error .invalidText := by
  rw [search, Utf8.decode?_eq_none_iff.mpr invalid]

theorem Passed.search_cons {line : Bytes} (passed : Passed isPresent device line)
    (rest : List Bytes) :
    search isPresent device (line :: rest) = search isPresent device rest := by
  obtain ⟨⟨text, rfl⟩, unqualified⟩ := passed
  have unanswered : answer? isPresent device text = none := by
    apply Option.eq_none_iff_forall_ne_some.mpr
    intro source answered
    exact unqualified source (answer?_eq_some_iff.mp answered)
  rw [search, Utf8.decode?_eq_some_iff.mpr rfl]
  simp only [unanswered]

/-- A line is passed over, or it qualifies, or it is no text. -/
theorem passed_or_decides (isPresent : Bytes → Bool) (device : DeviceNumber) (line : Bytes) :
    Passed isPresent device line ∨ (∃ source, Qualifies isPresent device line source) ∨
      ¬ Utf8.Valid line := by
  by_cases valid : Utf8.Valid line
  · by_cases qualified : ∃ source, Qualifies isPresent device line source
    · exact .inr (.inl qualified)
    · exact .inl ⟨valid, not_exists.mp qualified⟩
  · exact .inr (.inr valid)

/-- A search goes on behind a list of lines only if that list decides nothing. -/
theorem search_append (first second : List Bytes) :
    search isPresent device (first ++ second) =
      match search isPresent device first with
      | .ok none => search isPresent device second
      | decided => decided := by
  induction first with
  | nil => rfl
  | cons line rest ih =>
      obtain passed | ⟨source, qualifies⟩ | invalid := passed_or_decides isPresent device line
      · rw [List.cons_append, passed.search_cons, passed.search_cons, ih]
      · rw [List.cons_append, qualifies.search_cons, qualifies.search_cons]
      · rw [List.cons_append, search_cons_of_invalid invalid, search_cons_of_invalid invalid]

theorem search_eq_none_iff {list : List Bytes} :
    search isPresent device list = .ok none ↔ ∀ line ∈ list, Passed isPresent device line := by
  induction list with
  | nil => simp [search]
  | cons line rest ih =>
      rw [List.forall_mem_cons]
      obtain passed | ⟨source, qualifies⟩ | invalid := passed_or_decides isPresent device line
      · simp only [passed.search_cons, ih, passed, true_and]
      · have decides : ¬ Passed isPresent device line := fun passed => passed.2 source qualifies
        simp [qualifies.search_cons, decides]
      · have decides : ¬ Passed isPresent device line := fun passed => invalid passed.1
        simp [search_cons_of_invalid invalid, decides]

/-- What decides a table decides it however the table goes on. -/
theorem search_lines_append (front rest : Bytes)
    (decided : search isPresent device (lines front) ≠ .ok none) :
    search isPresent device (lines (front ++ 0x0A :: rest)) =
      search isPresent device (lines front) := by
  have apart : lines (front ++ 0x0A :: rest) = lines front ++ lines rest :=
    List.splitOn_append_cons_self front rest
  rw [apart, search_append]
  split
  · next none => exact absurd none decided
  · rfl

/-- The line that decides is the first one that is not passed over. -/
theorem exists_deciding {list : List Bytes}
    (decided : ¬ ∀ line ∈ list, Passed isPresent device line) :
    ∃ before line after, list = before ++ line :: after ∧
      (∀ earlier ∈ before, Passed isPresent device earlier) ∧
      ¬ Passed isPresent device line := by
  induction list with
  | nil => exact absurd nofun decided
  | cons first rest ih =>
      by_cases passed : Passed isPresent device first
      · obtain ⟨before, line, after, rfl, allPassed, decides⟩ := ih fun later =>
          decided (List.forall_mem_cons.mpr ⟨passed, later⟩)
        exact ⟨first :: before, line, after, rfl, List.forall_mem_cons.mpr ⟨passed, allPassed⟩,
          decides⟩
      · exact ⟨[], first, rest, rfl, nofun, passed⟩

variable {content : Bytes}

/-- A search over the lines that a table goes on with ends with the line that decides. -/
theorem search_of_reached {before : List Bytes} {line : Bytes}
    (reached : Text.Reaches 0x0A content before line)
    (passed : ∀ earlier ∈ before, Passed isPresent device earlier) :
    ∃ after, search isPresent device (lines content) =
      search isPresent device (line :: after) := by
  obtain ⟨after, cut⟩ := Text.reaches_iff.mp reached
  refine ⟨after, ?_⟩
  rw [lines, cut, search_append, search_eq_none_iff.mpr passed]

theorem Searched.search_eq {outcome : Except SystemError (Option String)}
    (searched : Searched isPresent device content outcome) :
    search isPresent device (lines content) = outcome := by
  cases searched with
  | found reached passed qualifies =>
      obtain ⟨after, same⟩ := search_of_reached reached passed
      rw [same, qualifies.search_cons]
  | broken reached passed invalid =>
      obtain ⟨after, same⟩ := search_of_reached reached passed
      rw [same, search_cons_of_invalid invalid]
  | unmatched passed =>
      apply search_eq_none_iff.mpr
      intro line among
      obtain ⟨before, after, cut⟩ := List.append_of_mem among
      exact passed before line (Text.reaches_iff.mpr ⟨after, cut⟩)

/-- Every search has an outcome. -/
theorem exists_searched (isPresent : Bytes → Bool) (device : DeviceNumber) (content : Bytes) :
    ∃ outcome, Searched isPresent device content outcome := by
  by_cases allPassed : ∀ line ∈ lines content, Passed isPresent device line
  · refine ⟨_, .unmatched fun before line reached => allPassed line ?_⟩
    obtain ⟨after, cut⟩ := Text.reaches_iff.mp reached
    rw [lines, cut]
    simp
  · obtain ⟨before, line, after, cut, passed, decides⟩ := exists_deciding allPassed
    have reached : Text.Reaches 0x0A content before line := Text.reaches_iff.mpr ⟨after, cut⟩
    obtain skipped | ⟨source, qualifies⟩ | invalid := passed_or_decides isPresent device line
    · exact absurd skipped decides
    · exact ⟨_, .found reached passed qualifies⟩
    · exact ⟨_, .broken reached passed invalid⟩

/-- A search through the lines of a table has the outcome of its first line that decides. -/
theorem search_eq_iff {outcome : Except SystemError (Option String)} :
    search isPresent device (lines content) = outcome ↔
      Searched isPresent device content outcome := by
  constructor
  · rintro rfl
    obtain ⟨outcome, searched⟩ := exists_searched isPresent device content
    rwa [searched.search_eq]
  · exact Searched.search_eq

end BlockExtent.MountTable
