import BlockExtent.Proofs.Backing
import BlockExtent.Proofs.FirstMatch

/-!
# The device of a file, by cases

The device of a file is the one registered under its number; else it is what the mount table says,
where there is such a table; else there is none. Each of the ways in which the search ends stands
here with what holds of the kernel in it, and the search ends in the way that applies.

## Implementation notes

The search runs while the file is open. That leaves every path where it leads but takes a
descriptor, so what opening the mount table comes to is given apart from the kernel.
-/

namespace BlockExtent.Backing

/-- The last name of a path. Slashes and components of a single dot may follow it; a single dot and
two dots are no names. -/
def LastName (path name : Bytes) : Prop :=
  ∃ (front : Bytes) (trailing : List Bytes),
    path = front ++ (name ++ trailing.flatMap (0x2F :: ·)) ∧
    (front = [] ∨ ∃ directory, front = directory ++ [0x2F]) ∧
    (∀ part ∈ trailing, part = [] ∨ part = [0x2E]) ∧
    0x2F ∉ name ∧ name ≠ [] ∧ name ≠ [0x2E] ∧ name ≠ [0x2E, 0x2E]

/-- A path that has a last name is cut into parts of which only the trailing ones follow it. -/
theorem parts_of_lastName {front name : Bytes} {trailing : List Bytes}
    (front_ends : front = [] ∨ ∃ directory, front = directory ++ [0x2F])
    (trails : ∀ part ∈ trailing, part = [] ∨ part = [0x2E]) (whole : 0x2F ∉ name) :
    ∃ before, (front ++ (name ++ trailing.flatMap (0x2F :: ·))).splitOn 0x2F =
      before ++ name :: trailing := by
  have wholes : ∀ part ∈ name :: trailing, 0x2F ∉ part := by
    intro part among
    obtain rfl | later := List.mem_cons.mp among
    · exact whole
    · obtain rfl | rfl := trails part later <;> decide
  have behind : (name ++ trailing.flatMap (0x2F :: ·)).splitOn 0x2F = name :: trailing := by
    have joined := @Text.intercalate_append_cons UInt8 0x2F [] name trailing
    simp only [List.nil_append, List.flatMap_nil] at joined
    rw [← joined, List.splitOn_intercalate 0x2F wholes (List.cons_ne_nil name trailing)]
  obtain rfl | ⟨directory, rfl⟩ := front_ends
  · exact ⟨[], behind⟩
  · refine ⟨directory.splitOn 0x2F, ?_⟩
    rw [List.append_assoc, List.singleton_append, List.splitOn_append_cons_self, behind]

/-- The last element of a list that counts, as it stands in the list. -/
theorem getLast?_filter_eq_some_iff {α : Type} {counts : α → Bool} {list : List α} {a : α} :
    (list.filter counts).getLast? = some a ↔
      ∃ before after, list = before ++ a :: after ∧ counts a = true ∧
        ∀ later ∈ after, counts later = false := by
  rw [List.getLast?_filter, List.find?_eq_some_iff_append]
  constructor
  · rintro ⟨own, after, before, reversed, skipped⟩
    refine ⟨before.reverse, after.reverse, ?_, own, ?_⟩
    · simpa using congrArg List.reverse reversed
    · intro later among
      simpa using skipped later (List.mem_reverse.mp among)
  · rintro ⟨before, after, rfl, own, skipped⟩
    refine ⟨own, after.reverse, before.reverse, by simp, ?_⟩
    intro later among
    simpa using skipped later (List.mem_reverse.mp among)

theorem lastName?_eq_some_iff {path name : Bytes} :
    lastName? path = some name ↔ LastName path name := by
  rw [lastName?]
  constructor
  · intro found
    split at found
    · next last counted =>
        split at found
        · cases found
        · next notParent =>
            cases found
            obtain ⟨before, trailing, cut, counts, skipped⟩ :=
              getLast?_filter_eq_some_iff.mp counted
            have among : name ∈ path.splitOn 0x2F := by simp [cut]
            have whole : 0x2F ∉ name := Text.not_mem_of_mem_splitOn among
            obtain ⟨nonempty, undotted⟩ : name ≠ [] ∧ name ≠ [0x2E] := by simpa using counts
            refine ⟨before.flatMap (· ++ [0x2F]), trailing, ?_, ?_, ?_, whole, nonempty, undotted,
              notParent⟩
            · rw [← Text.intercalate_append_cons, ← cut, List.intercalate_splitOn]
            · obtain rfl | ⟨earlier, part, rfl⟩ := before.eq_nil_or_concat
              · exact .inl rfl
              · exact .inr ⟨earlier.flatMap (· ++ [0x2F]) ++ part, by simp⟩
            · intro part among
              simpa [or_iff_not_imp_left] using skipped part among
    · cases found
  · rintro ⟨front, trailing, rfl, ends, trails, whole, nonempty, undotted, notParent⟩
    obtain ⟨before, cut⟩ := parts_of_lastName ends trails whole
    have counted : ((before ++ name :: trailing).filter
        fun part => part ≠ [] ∧ part ≠ [0x2E]).getLast? = some name := by
      apply getLast?_filter_eq_some_iff.mpr
      refine ⟨before, trailing, rfl, by simp [nonempty, undotted], ?_⟩
      intro part among
      obtain rfl | rfl := trails part among <;> rfl
    rw [cut, counted]
    simp only [if_neg notParent]

/-- A device is registered under a number: the entry of the registry is a link, and the last name
of its target is a text that names an entry among the devices. -/
inductive Registered (kernel : Kernel) (device : DeviceNumber) : (found : String) → Prop
  | intro {entry : FileObject} {target : Bytes} {name : String}
      (entered : kernel.statusAt (registryPath device) = .ok entry)
      (linked : entry.link = some target) (last : LastName target (Utf8.encode name))
      (present : kernel.hasStatus (Utf8.encode ("/dev/" ++ name)) = true) :
      Registered kernel device ("/dev/" ++ name)

theorem registered?_eq_some_iff {kernel : Kernel} {device : DeviceNumber} {found : String} :
    registered? kernel device = some found ↔ Registered kernel device found := by
  constructor
  · intro answered
    simp only [registered?, Option.bind_eq_bind, Option.bind_eq_some_iff] at answered
    obtain ⟨entry, entered, target, linked, last, own, name, named, answered⟩ := answered
    obtain rfl := Utf8.decode?_eq_some_iff.mp named
    split at answered
    · next present =>
        cases answered
        cases status : kernel.statusAt (registryPath device) with
        | error e => simp [status, Except.toOption] at entered
        | ok object =>
            obtain rfl : object = entry := by simpa [status, Except.toOption] using entered
            exact .intro status linked (lastName?_eq_some_iff.mp own) present
    · cases answered
  · intro registered
    obtain ⟨entered, linked, last, present⟩ := registered
    simp [registered?, entered, Except.toOption, linked, lastName?_eq_some_iff.mpr last,
      Utf8.decode?_eq_some_iff.mpr rfl, present]

/-- What the mount table says of a device, where opening the table comes to a given answer. -/
inductive TableAnswers (kernel : Kernel) (opening : Except SystemError Int)
    (device : DeviceNumber) : Except SystemError (Option String) → Prop
  | absent {e : Errno} (missing : kernel.statusAt MountTable.path = .error e) :
      TableAnswers kernel opening device (.ok none)
  | unopened {table : FileObject} {e : SystemError}
      (there : kernel.statusAt MountTable.path = .ok table) (failed : opening = .error e) :
      TableAnswers kernel opening device (.error e)
  | searched {table : FileObject} {descriptor : Int} {outcome : Except SystemError (Option String)}
      (there : kernel.statusAt MountTable.path = .ok table) (opened : opening = .ok descriptor)
      (searched : MountTable.Searched kernel.hasStatus device table.content outcome) :
      TableAnswers kernel opening device outcome

/-- The device of the file at a path, or why it is not found. -/
inductive Resolution (kernel : Kernel) (opening : Except SystemError Int) (path : Bytes) :
    Except SystemError String → Prop
  | noStatus {e : Errno} (failed : kernel.statusAt path = .error e) :
      Resolution kernel opening path (.error (.os e))
  | registered {file : FileObject} {found : String} (status : kernel.statusAt path = .ok file)
      (registered : Registered kernel file.device found) :
      Resolution kernel opening path (.ok found)
  | mounted {file : FileObject} {found : String} (status : kernel.statusAt path = .ok file)
      (unregistered : ∀ other, ¬ Registered kernel file.device other)
      (answers : TableAnswers kernel opening file.device (.ok (some found))) :
      Resolution kernel opening path (.ok found)
  | broken {file : FileObject} {e : SystemError} (status : kernel.statusAt path = .ok file)
      (unregistered : ∀ other, ¬ Registered kernel file.device other)
      (answers : TableAnswers kernel opening file.device (.error e)) :
      Resolution kernel opening path (.error e)
  | unmatched {file : FileObject} (status : kernel.statusAt path = .ok file)
      (unregistered : ∀ other, ¬ Registered kernel file.device other)
      (answers : TableAnswers kernel opening file.device (.ok none)) :
      Resolution kernel opening path (.error (unresolved file.device))

theorem registered?_eq_none_iff {kernel : Kernel} {device : DeviceNumber} :
    registered? kernel device = none ↔ ∀ found, ¬ Registered kernel device found := by
  rw [Option.eq_none_iff_forall_ne_some]
  simp only [ne_eq, registered?_eq_some_iff]

section SameFiles

variable {kernel other : Kernel} (same : kernel.SameFiles other)

include same

/-- The mount table says the same wherever the same files are, once it has been opened. -/
theorem tableAnswer_of_sameFiles (device : DeviceNumber) :
    tableAnswer other device =
      match kernel.statusAt MountTable.path with
      | .error _ => .ok none
      | .ok table =>
          match other.opened MountTable.path with
          | .error e => .error e
          | .ok _ =>
              MountTable.search kernel.hasStatus device (MountTable.lines table.content) := by
  have noNull : 0 ∉ MountTable.path := by decide
  obtain ⟨e, here, there⟩ | ⟨table, table', here, there, settled⟩ :=
    same.statusAt_cases MountTable.path
  · have absent : other.hasStatus MountTable.path = false := by
      simp [Kernel.hasStatus, there, Except.isOk, Except.toBool]
    simp [tableAnswer, absent, here]
  · have present : other.hasStatus MountTable.path = true := by
      simp [Kernel.hasStatus, there, Except.isOk, Except.toBool, noNull]
    have content : table'.content = table.content := (congrArg FileObject.content settled :)
    simp only [tableAnswer, present, if_true, here, same.hasStatus]
    cases opens : other.opened MountTable.path with
    | error e => rfl
    | ok opening =>
        have shown : opening.content = table'.content := Kernel.opened_content opens there
        simp only [shown, content]

theorem tableAnswer_eq_iff {device : DeviceNumber}
    {outcome : Except SystemError (Option String)} :
    tableAnswer other device = outcome ↔
      TableAnswers kernel ((other.opened MountTable.path).map Opened.descriptor) device
        outcome := by
  rw [tableAnswer_of_sameFiles same]
  constructor
  · rintro rfl
    cases status : kernel.statusAt MountTable.path with
    | error e => exact .absent status
    | ok table =>
        cases opens : other.opened MountTable.path with
        | error e => exact .unopened status rfl
        | ok opening => exact .searched status rfl (MountTable.search_eq_iff.mp rfl)
  · intro answers
    cases answers with
    | absent missing => rw [missing]
    | unopened there failed =>
        cases opens : other.opened MountTable.path with
        | error e =>
            rw [opens] at failed
            cases failed
            simp only [there]
        | ok opening =>
            rw [opens] at failed
            cases failed
    | searched there opened searched =>
        cases opens : other.opened MountTable.path with
        | error e =>
            rw [opens] at opened
            cases opened
        | ok opening =>
            simp only [there]
            exact searched.search_eq

/-- The search for the device of a file ends in the one way that applies. -/
theorem answer_eq_iff {path : Bytes} {result : Except SystemError String} :
    answer other path = result ↔
      Resolution kernel ((other.opened MountTable.path).map Opened.descriptor) path result := by
  rw [answer_of_sameFiles same]
  constructor
  · rintro rfl
    cases status : kernel.statusAt path with
    | error e => exact .noStatus status
    | ok file =>
        simp only [numberAnswer, same.registered]
        cases registry : registered? kernel file.device with
        | some found => exact .registered status (registered?_eq_some_iff.mp registry)
        | none =>
            have unregistered := registered?_eq_none_iff.mp registry
            cases table : tableAnswer other file.device with
            | error e => exact .broken status unregistered ((tableAnswer_eq_iff same).mp table)
            | ok outcome =>
                have answers := (tableAnswer_eq_iff same).mp table
                cases outcome with
                | some found => exact .mounted status unregistered answers
                | none => exact .unmatched status unregistered answers
  · intro resolution
    cases resolution with
    | noStatus failed => rw [failed]
    | registered status registered =>
        simp only [status, numberAnswer, same.registered, registered?_eq_some_iff.mpr registered]
    | mounted status unregistered answers =>
        simp only [status, numberAnswer, same.registered,
          registered?_eq_none_iff.mpr unregistered, (tableAnswer_eq_iff same).mpr answers]
    | broken status unregistered answers =>
        simp only [status, numberAnswer, same.registered,
          registered?_eq_none_iff.mpr unregistered, (tableAnswer_eq_iff same).mpr answers]
    | unmatched status unregistered answers =>
        simp only [status, numberAnswer, same.registered,
          registered?_eq_none_iff.mpr unregistered, (tableAnswer_eq_iff same).mpr answers]

end SameFiles

end BlockExtent.Backing
