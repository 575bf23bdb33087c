import BlockExtent.Text.Blank

/-!
# Parts and fields as they stand in a list

Parts are found by cutting a list, and fields by leaving out the empty parts of a text. Here stands
what is found without the cutting: which parts a list begins with, each ended by a separator, and
which fields stand in a text with blanks between them.
-/

namespace BlockExtent.Text

section Parts

variable {α : Type} {separates : α → Bool}

/-- No part holds a separator. -/
theorem not_separates_of_mem_splitOnP {list part : List α}
    (among : part ∈ list.splitOnP separates) : ∀ a ∈ part, separates a = false := by
  induction list generalizing part with
  | nil =>
      rw [List.splitOnP_nil, List.mem_singleton] at among
      simp [among]
  | cons a rest ih =>
      rw [List.splitOnP_cons_eq_if_modifyHead] at among
      by_cases separator : separates a = true
      · rw [if_pos separator, List.mem_cons] at among
        obtain rfl | later := among
        · simp
        · exact ih later
      · rw [if_neg separator] at among
        cases cut : rest.splitOnP separates with
        | nil => exact absurd cut (List.splitOnP_ne_nil separates rest)
        | cons first others =>
            rw [cut, List.modifyHead_cons, List.mem_cons] at among
            obtain rfl | later := among
            · have solid := ih (cut ▸ List.mem_cons_self)
              simpa [separator] using solid
            · exact ih (cut ▸ List.mem_cons_of_mem first later)

end Parts

section Reaches

variable {α : Type} [BEq α] [LawfulBEq α] {separator : α}

/-- A list goes on with a part after the parts before it, each of which ends with the separator.
What stands behind that part is of no account. -/
def Reaches (separator : α) (list : List α) (before : List (List α)) (part : List α) : Prop :=
  ∃ rest, list = before.flatMap (· ++ [separator]) ++ (part ++ rest) ∧
    (∀ a ∈ rest.head?, a = separator) ∧ separator ∉ part ∧ ∀ earlier ∈ before, separator ∉ earlier

theorem not_mem_of_mem_splitOn {list part : List α} (among : part ∈ list.splitOn separator) :
    separator ∉ part := by
  rw [List.splitOn_eq_splitOnP] at among
  intro separated
  have solid := not_separates_of_mem_splitOnP among separator separated
  rw [beq_self_eq_true] at solid
  cases solid

omit [BEq α] [LawfulBEq α] in
/-- A list of parts with the separator between them, seen from one of the parts. -/
theorem intercalate_append_cons (before : List (List α)) (part : List α) (after : List (List α)) :
    [separator].intercalate (before ++ part :: after) =
      before.flatMap (· ++ [separator]) ++ (part ++ after.flatMap (separator :: ·)) := by
  induction before with
  | nil =>
      induction after generalizing part with
      | nil => simp
      | cons next after ih =>
          have later := ih next
          simp only [List.nil_append, List.flatMap_nil] at later ⊢
          rw [List.intercalate_cons_cons, later]
          simp
  | cons first before ih =>
      rw [List.cons_append, List.intercalate_cons_of_ne_nil (by simp), ih]
      simp

/-- The parts that a list goes on with are those among which it is cut. -/
theorem reaches_iff {list : List α} {before : List (List α)} {part : List α} :
    Reaches separator list before part ↔
      ∃ after, list.splitOn separator = before ++ part :: after := by
  constructor
  · rintro ⟨rest, rfl, ends, whole, wholes⟩
    induction before with
    | nil =>
        cases rest with
        | nil => exact ⟨[], by simpa using List.splitOn_eq_singleton whole⟩
        | cons a more =>
            obtain rfl := ends a rfl
            exact ⟨more.splitOn a, List.splitOn_append_cons_self_of_not_mem whole more⟩
    | cons first before ih =>
        obtain ⟨wholeFirst, wholeLater⟩ := List.forall_mem_cons.mp wholes
        obtain ⟨after, cut⟩ := ih wholeLater
        refine ⟨after, ?_⟩
        rw [List.flatMap_cons, List.append_assoc, List.append_assoc, List.singleton_append,
          List.splitOn_append_cons_self_of_not_mem wholeFirst, cut, List.cons_append]
  · rintro ⟨after, cut⟩
    have whole : ∀ other ∈ before ++ part :: after, separator ∉ other := by
      rw [← cut]
      exact fun other => not_mem_of_mem_splitOn
    refine ⟨after.flatMap (separator :: ·), ?_, ?_, whole part (by simp), ?_⟩
    · rw [← intercalate_append_cons, ← cut, List.intercalate_splitOn]
    · cases after <;> simp
    · intro earlier among
      exact whole earlier (List.mem_append_left _ among)

end Reaches

/-- The fields of a text stand in it in this order, with blanks between them and nothing else. -/
inductive Separated : List Char → List (List Char) → Prop
  | nothing : Separated [] []
  | blank {c : Char} {rest : List Char} {fields : List (List Char)} (blank : isBlank c = true)
      (later : Separated rest fields) : Separated (c :: rest) fields
  | field {field rest : List Char} {fields : List (List Char)} (some_char : field ≠ [])
      (solid : ∀ c ∈ field, isBlank c = false) (ends : ∀ c ∈ rest.head?, isBlank c = true)
      (later : Separated rest fields) : Separated (field ++ rest) (field :: fields)

/-- Fields on both sides of a blank are found apart. -/
theorem fields_append_cons {c : Char} (blank : isBlank c = true) (before after : List Char) :
    fields (before ++ c :: after) = fields before ++ fields after := by
  rw [fields, List.splitOnP_append_cons before after blank, List.filter_append]
  rfl

theorem fields_of_solid {field : List Char} (some_char : field ≠ [])
    (solid : ∀ c ∈ field, isBlank c = false) : fields field = [field] := by
  rw [fields, List.splitOnP_eq_singleton solid]
  simpa using some_char

theorem Separated.fields_eq {text : List Char} {found : List (List Char)}
    (separated : Separated text found) : fields text = found := by
  induction separated with
  | nothing => rfl
  | blank blank later ih =>
      rw [← ih]
      exact fields_append_cons blank [] _
  | @field field rest others some_char solid ends later ih =>
      cases rest with
      | nil =>
          have none : others = [] := by rw [← ih]; rfl
          rw [List.append_nil, fields_of_solid some_char solid, none]
      | cons c rest =>
          have blank := ends c rfl
          rw [fields_append_cons blank, fields_of_solid some_char solid, ← ih]
          exact congrArg (field :: ·) (fields_append_cons blank [] rest).symm

/-- Whatever the text, some fields stand in it. -/
theorem exists_separated (text : List Char) : ∃ found, Separated text found := by
  induction text with
  | nil => exact ⟨[], .nothing⟩
  | cons c rest ih =>
      obtain ⟨found, separated⟩ := ih
      by_cases blank : isBlank c = true
      · exact ⟨found, .blank blank separated⟩
      · have solid : isBlank c = false := Bool.eq_false_iff.mpr blank
        have alone : ∀ a ∈ [c], isBlank a = false := by simpa using solid
        -- The character begins a field, or goes before the field that begins behind it.
        cases separated with
        | nothing => exact ⟨[[c]], .field (List.cons_ne_nil c []) alone nofun .nothing⟩
        | @blank b rest found blankNext later =>
            refine ⟨[c] :: found, ?_⟩
            exact .field (List.cons_ne_nil c []) alone (by simpa using blankNext)
              (.blank blankNext later)
        | @field field rest found some_char solidNext ends later =>
            refine ⟨(c :: field) :: found, ?_⟩
            exact .field (List.cons_ne_nil c field) (List.forall_mem_cons.mpr ⟨solid, solidNext⟩)
              ends later

/-- The fields of a text are those that stand in it. -/
theorem fields_eq_iff {text : List Char} {found : List (List Char)} :
    fields text = found ↔ Separated text found := by
  constructor
  · rintro rfl
    obtain ⟨found, separated⟩ := exists_separated text
    rwa [separated.fields_eq]
  · exact Separated.fields_eq

end BlockExtent.Text
