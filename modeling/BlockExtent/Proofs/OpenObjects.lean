import BlockExtent.Proofs.Erasure
import BlockExtent.Proofs.Inquiries
import Mathlib.Data.List.Forall2

/-!
# Answers follow the open object

What is answered about a descriptor depends on the object that it is open on, and neither on its
number nor on any path. Descriptors come to share an object by duplication, or by opening one path
twice, and they share it until one of them is closed, whatever happens to the path. A number that
is not open is answered by the number of bad descriptors, until it is given out again.

## Implementation notes

A step changes the table of descriptors in one of three ways, and every fact on runs is an
induction over these.
-/

namespace BlockExtent

/-- Dropping the entries of one key leaves those of the others. -/
theorem lookup_filter_of_ne {α β : Type} [DecidableEq α] [BEq α] [LawfulBEq α] {key other : α}
    (different : key ≠ other) (list : List (α × β)) :
    (list.filter fun entry => entry.1 ≠ other).lookup key = list.lookup key := by
  induction list with
  | nil => rfl
  | cons entry rest ih =>
      obtain ⟨first, value⟩ := entry
      by_cases dropped : first = other
      · have passed : (key == first) = false := beq_eq_false_iff_ne.mpr (dropped ▸ different)
        rw [List.filter_cons_of_neg (by simpa using dropped), ih, List.lookup_cons, passed]
      · rw [List.filter_cons_of_pos (by simpa using dropped), List.lookup_cons, List.lookup_cons,
          ih]

namespace Kernel

variable {kernel : Kernel} {n m : Int} {place : Nat} {path : Bytes}

/-- A descriptor is open on the object in a place. -/
def RefersTo (kernel : Kernel) (n : Int) (place : Nat) : Prop :=
  kernel.descriptors.lookup n = some place

/-- Two descriptors are open on one object. -/
def Share (kernel : Kernel) (n m : Int) : Prop :=
  ∃ place, kernel.RefersTo n place ∧ kernel.RefersTo m place

theorem isOpen_eq_false_iff : kernel.isOpen n = false ↔ kernel.descriptors.lookup n = none := by
  simp [isOpen]

theorem RefersTo.ne_of_closed (refers : kernel.RefersTo n place) (free : kernel.isOpen m = false) :
    n ≠ m := by
  rintro rfl
  rw [RefersTo, isOpen_eq_false_iff.mp free] at refers
  cases refers

/-- Descriptors that share an object are answered alike. -/
theorem Share.replies (share : kernel.Share n m) :
    kernel.status m = kernel.status n ∧ kernel.sizeReply m = kernel.sizeReply n := by
  obtain ⟨place, first, second⟩ := share
  have behind : kernel.behind? m = kernel.behind? n := by
    rw [behind?, behind?, first, second]
  exact ⟨by rw [status, status, behind], by rw [sizeReply, sizeReply, behind]⟩

theorem replies_of_closed (free : kernel.isOpen n = false) :
    kernel.status n = .error .badDescriptor ∧ kernel.sizeReply n = .refused .badDescriptor := by
  have behind : kernel.behind? n = none := by
    rw [behind?, isOpen_eq_false_iff.mp free]
    rfl
  exact ⟨by rw [status, behind], by rw [sizeReply, behind]⟩

/-- An attempt to open a path leaves table and paths alone, or puts a free descriptor of the object
at the path in front of the table. -/
theorem attemptOpen_table (kernel : Kernel) (path : Bytes) :
    (∃ e after, kernel.attemptOpen path = (.error e, after) ∧
      after.descriptors = kernel.descriptors ∧ after.paths = kernel.paths) ∨
    ∃ n place, kernel.place? path = some place ∧ kernel.isOpen n = false ∧
      kernel.attemptOpen path =
        (.ok n, { kernel with descriptors := (n, place) :: kernel.descriptors }) := by
  obtain unknown | ⟨place, object, names⟩ := named_cases kernel path
  · exact .inl ⟨_, _, attemptOpen_of_unknown unknown, rfl, rfl⟩
  · by_cases settled : object.interruptions = 0
    · rw [names.attemptOpen_of_settled settled]
      cases object.openFailure with
      | some e => exact .inl ⟨e, kernel, rfl, rfl, rfl⟩
      | none =>
          obtain full | ⟨n, free, given⟩ := allocate_cases kernel place
          · exact .inl ⟨_, _, full, rfl, rfl⟩
          · exact .inr ⟨n, place, names.1, free, given⟩
    · exact .inl ⟨_, _, names.attemptOpen_of_pending settled, rfl, rfl⟩

/-- A closed number is not in the table. -/
theorem isOpen_close (kernel : Kernel) (n : Int) : (kernel.close n).2.isOpen n = false := by
  by_cases opened : kernel.isOpen n
  · rw [close, if_pos opened, isOpen_eq_false_iff, List.lookup_eq_none_iff]
    intro entry listed
    have different : entry.1 ≠ n := by simpa using (List.mem_filter.mp listed).2
    simpa using different.symm
  · rw [close, if_neg opened]
    exact Bool.eq_false_iff.mpr opened

theorem link_descriptors (kernel : Kernel) (path : Bytes) (object : FileObject) :
    (kernel.link path object).descriptors = kernel.descriptors := by
  cases linked : kernel.place? path <;> simp [link, linked, replaceObject]

theorem unlink_descriptors (kernel : Kernel) (path : Bytes) :
    (kernel.unlink path).2.descriptors = kernel.descriptors := by
  cases linked : kernel.place? path <;> simp [unlink, linked]

theorem close_paths (kernel : Kernel) (n : Int) : (kernel.close n).2.paths = kernel.paths := by
  cases opened : kernel.isOpen n <;> simp [close, opened, release]

theorem allocate_paths (kernel : Kernel) (place : Nat) :
    (kernel.allocate place).2.paths = kernel.paths := by
  obtain full | ⟨n, -, given⟩ := allocate_cases kernel place
  · rw [full]
  · rw [given]

theorem duplicate_paths (kernel : Kernel) (n : Int) :
    (kernel.duplicate n).2.paths = kernel.paths := by
  cases found : kernel.descriptors.lookup n with
  | none => simp [duplicate, found]
  | some place => simp [duplicate, found, allocate_paths]

/-- Linking anything anywhere leaves a path that names an object with that object's place. -/
theorem place_link (named : kernel.place? path = some place) (other : Bytes)
    (object : FileObject) : (kernel.link other object).place? path = some place := by
  cases linked : kernel.place? other with
  | some there =>
      rw [link, linked]
      exact named
  | none =>
      have different : (path == other) = false := by
        apply beq_eq_false_iff_ne.mpr
        rintro rfl
        cases named.symm.trans linked
      rw [link, linked]
      simpa only [place?, List.lookup_cons, different] using named

theorem place_unlink (named : kernel.place? path = some place) {other : Bytes}
    (different : path ≠ other) : (kernel.unlink other).2.place? path = some place := by
  cases linked : kernel.place? other with
  | none =>
      rw [unlink, linked]
      exact named
  | some there =>
      rw [unlink, linked]
      exact (lookup_filter_of_ne different kernel.paths).trans named

end Kernel

/-- What a step can do to the table of descriptors: nothing, give out a free number and answer with
it, or drop a number that it closes. -/
inductive TableChange (before after : List (Int × Nat)) (step : Step) (answer : Answer) : Prop
  | kept (same : after = before)
  | given (n : Int) (place : Nat) (free : before.lookup n = none)
      (answered : answer = .descriptor n) (taken : after = (n, place) :: before)
  | closed (n : Int) (closes : step = .close n)
      (dropped : after = before.filter fun entry => entry.1 ≠ n)

namespace Session

variable (session : Session) {step : Step} {steps : List Step} {n m : Int} {place : Nat}
variable {path : Bytes}

theorem step_openFile (path : Bytes) :
    session.step (.openFile path) =
      session.changed (.ofDescriptor (session.kernel.attemptOpen path).1)
        (session.kernel.attemptOpen path).2 := rfl

theorem step_duplicate (n : Int) :
    session.step (.duplicate n) =
      session.changed (.ofDescriptor (session.kernel.duplicate n).1)
        (session.kernel.duplicate n).2 := rfl

theorem tableChange (step : Step) :
    TableChange session.kernel.descriptors (session.step step).2.kernel.descriptors step
      (session.step step).1.answer := by
  cases h : step.handle? with
  | some handle => exact .kept (step_sameButInterruptions session h).descriptors
  | none =>
      cases step with
      | openFile path =>
          rw [step_openFile]
          obtain ⟨e, after, failed, same, -⟩ | ⟨n, place, -, free, opened⟩ :=
            session.kernel.attemptOpen_table path
          · rw [failed]
            exact .kept same
          · rw [opened]
            exact .given n place (Kernel.isOpen_eq_false_iff.mp free) rfl rfl
      | duplicate n =>
          rw [step_duplicate, Kernel.duplicate]
          cases session.kernel.descriptors.lookup n with
          | none => exact .kept rfl
          | some place =>
              obtain full | ⟨m, free, given⟩ := session.kernel.allocate_cases place
              · simp only [full]
                exact .kept rfl
              · simp only [given]
                exact .given m place (Kernel.isOpen_eq_false_iff.mp free) rfl rfl
      | close n =>
          by_cases opened : session.kernel.isOpen n
          · exact .closed n rfl (by simp [Session.step, changed, Kernel.close, opened,
              Kernel.release])
          · exact .kept (by simp [Session.step, changed, Kernel.close, opened])
      | link path object => exact .kept (session.kernel.link_descriptors path object)
      | unlink path => exact .kept (session.kernel.unlink_descriptors path)
      | setThreshold threshold => exact .kept rfl
      | _ => cases h

/-- A descriptor refers to its object until it is closed. -/
theorem step_refersTo (refers : session.kernel.RefersTo n place) (unclosed : step ≠ .close n) :
    (session.step step).2.kernel.RefersTo n place := by
  unfold Kernel.RefersTo
  cases session.tableChange step with
  | kept same => rwa [same]
  | given m place' free _ taken =>
      have different : n ≠ m := refers.ne_of_closed (Kernel.isOpen_eq_false_iff.mpr free)
      rw [taken, List.lookup_cons, beq_eq_false_iff_ne.mpr different]
      exact refers
  | closed m closes dropped =>
      have different : n ≠ m := by
        rintro rfl
        exact unclosed closes
      rw [dropped, lookup_filter_of_ne different]
      exact refers

/-- A number stays closed until it is given out. -/
theorem step_closed (free : session.kernel.isOpen n = false)
    (withheld : (session.step step).1.answer ≠ .descriptor n) :
    (session.step step).2.kernel.isOpen n = false := by
  rw [Kernel.isOpen_eq_false_iff] at free ⊢
  cases session.tableChange step with
  | kept same => rwa [same]
  | given m place' _ answered taken =>
      have different : n ≠ m := by
        rintro rfl
        exact withheld answered
      rw [taken, List.lookup_cons, beq_eq_false_iff_ne.mpr different]
      exact free
  | closed m closes dropped =>
      rw [dropped, List.lookup_eq_none_iff]
      intro entry listed
      exact List.lookup_eq_none_iff.mp free entry (List.mem_of_mem_filter listed)

/-- A path names its object until it is unlinked. -/
theorem step_place (named : session.kernel.place? path = some place)
    (linked : step ≠ .unlink path) : (session.step step).2.kernel.place? path = some place := by
  have unchanged {after : Kernel} (same : after.paths = session.kernel.paths) :
      after.place? path = some place := by
    rwa [Kernel.place?, same]
  cases h : step.handle? with
  | some handle => exact unchanged (step_sameButInterruptions session h).paths
  | none =>
      cases step with
      | openFile other =>
          rw [step_openFile]
          obtain ⟨e, after, failed, -, same⟩ | ⟨n, place', -, -, opened⟩ :=
            session.kernel.attemptOpen_table other
          · rw [failed]
            exact unchanged same
          · rw [opened]
            exact unchanged rfl
      | duplicate n => exact unchanged (session.kernel.duplicate_paths n)
      | close n => exact unchanged (session.kernel.close_paths n)
      | link other object => exact Kernel.place_link named other object
      | unlink other =>
          apply Kernel.place_unlink named
          rintro rfl
          exact linked rfl
      | setThreshold threshold => exact named
      | _ => cases h

/-- Every step keeps what one step keeps, so a descriptor refers to its object as long as no step
closes it. -/
theorem after_refersTo (refers : session.kernel.RefersTo n place) (unclosed : .close n ∉ steps) :
    (session.after steps).kernel.RefersTo n place := by
  induction steps generalizing session with
  | nil => exact refers
  | cons step rest ih =>
      rw [List.mem_cons, not_or] at unclosed
      rw [after_cons]
      exact ih _ (session.step_refersTo refers (Ne.symm unclosed.1)) unclosed.2

theorem after_place (named : session.kernel.place? path = some place)
    (linked : .unlink path ∉ steps) :
    (session.after steps).kernel.place? path = some place := by
  induction steps generalizing session with
  | nil => exact named
  | cons step rest ih =>
      rw [List.mem_cons, not_or] at linked
      rw [after_cons]
      exact ih _ (session.step_place named (Ne.symm linked.1)) linked.2

theorem after_closed (free : session.kernel.isOpen n = false)
    (withheld : ∀ entry ∈ session.entries steps, entry.answer ≠ .descriptor n) :
    (session.after steps).kernel.isOpen n = false := by
  induction steps generalizing session with
  | nil => exact free
  | cons step rest ih =>
      rw [entries_cons, List.forall_mem_cons] at withheld
      rw [after_cons]
      exact ih _ (session.step_closed free withheld.1) withheld.2

theorem after_share (share : session.kernel.Share n m) (first : .close n ∉ steps)
    (second : .close m ∉ steps) : (session.after steps).kernel.Share n m := by
  obtain ⟨place, refers, refers'⟩ := share
  exact ⟨place, session.after_refersTo refers first, session.after_refersTo refers' second⟩

/-- The answer to an opening is a descriptor of the object that the path names. -/
theorem refersTo_of_openFile (answered : (session.step (.openFile path)).1.answer = .descriptor n) :
    ∃ place, session.kernel.place? path = some place ∧
      (session.step (.openFile path)).2.kernel.RefersTo n place := by
  rw [step_openFile] at answered ⊢
  obtain ⟨e, after, failed, -⟩ | ⟨m, place, named, -, opened⟩ :=
    session.kernel.attemptOpen_table path
  · rw [failed] at answered
    cases answered
  · rw [opened] at answered ⊢
    cases answered
    refine ⟨place, named, ?_⟩
    simp [Kernel.RefersTo, changed]

/-- The answer to a duplication shares the object of the descriptor duplicated. -/
theorem share_of_duplicate (answered : (session.step (.duplicate n)).1.answer = .descriptor m) :
    (session.step (.duplicate n)).2.kernel.Share n m := by
  cases found : session.kernel.descriptors.lookup n with
  | none =>
      simp only [step_duplicate, Kernel.duplicate, found] at answered
      cases answered
  | some place =>
      have unclosed : Step.duplicate n ≠ .close n := by simp
      have refers := session.step_refersTo found unclosed
      refine ⟨place, refers, ?_⟩
      obtain full | ⟨k, -, given⟩ := session.kernel.allocate_cases place
      · simp only [step_duplicate, Kernel.duplicate, found, full] at answered
        cases answered
      · simp only [step_duplicate, Kernel.duplicate, found, given] at answered ⊢
        cases answered
        simp [Kernel.RefersTo, changed]

/-- Two openings of one path share its object, if the path has not been unlinked nor the first
descriptor closed between them. -/
theorem share_of_openFile {between : List Step}
    (first : (session.step (.openFile path)).1.answer = .descriptor n)
    (unclosed : .close n ∉ between) (linked : .unlink path ∉ between)
    (second : (((session.step (.openFile path)).2.after between).step
      (.openFile path)).1.answer = .descriptor m) :
    (((session.step (.openFile path)).2.after between).step
      (.openFile path)).2.kernel.Share n m := by
  obtain ⟨place, named, refers⟩ := session.refersTo_of_openFile first
  have stillLinked : Step.openFile path ≠ .unlink path := by simp
  have namedNext := session.step_place named stillLinked
  obtain ⟨place', named', refers'⟩ := refersTo_of_openFile _ second
  obtain rfl : place = place' :=
    Option.some.inj ((after_place _ namedNext linked).symm.trans named')
  have stillOpen : Step.openFile path ≠ .close n := by simp
  exact ⟨place, step_refersTo _ (after_refersTo _ refers unclosed) stillOpen, refers'⟩

end Session

namespace Inquiry

/-- The answer about a number that is not open: the failure of the first request made, by the
number of bad descriptors. -/
def ofClosed : Inquiry → Answer
  | .lent .classify | .owned .classify | .kind =>
      .kind (.error (.statusQuery (.os .badDescriptor)))
  | .lent .deviceLength | .owned .deviceLength | .length =>
      .length (.error (.controlRequest (.os .badDescriptor)))
  | .lent .inspect | .owned .inspect | .lent (.inspectWith _) | .owned (.inspectWith _) =>
      .extent (.error (.statusQuery (.os .badDescriptor)))
  | .codes => .codes (-1) (-1)
  | .isBlockDevice _ | .blockDeviceLength _ => .returned ⟨-1, .badDescriptor⟩

theorem answer_of_bad (inquiry : Inquiry) :
    inquiry.answer (.error .badDescriptor) (.refused .badDescriptor) = inquiry.ofClosed := by
  cases inquiry with
  | lent operation | owned operation => cases operation <;> rfl
  | _ => rfl

end Inquiry

namespace Session

variable (session : Session) {n m : Int}

theorem about_of_share (share : session.kernel.Share n m) (inquiry : Inquiry) :
    Entry.AlikeButNumber n m (session.step (inquiry.about n)).1
      (session.step (inquiry.about m)).1 := by
  obtain ⟨status, size⟩ := share.replies
  rw [step_about, step_about, status, size]
  refine ⟨rfl, ?_, inquiry.calls_alike n m _⟩
  -- Records that differ in a number are of one level, so both are let through or neither.
  apply List.rel_filter _ (inquiry.records_alike n m _ _)
  rintro _ _ ⟨level, target, before, after⟩
  exact Iff.rfl

theorem about_of_closed (free : session.kernel.isOpen n = false) (inquiry : Inquiry) :
    (session.step (inquiry.about n)).1.answer = inquiry.ofClosed := by
  obtain ⟨status, size⟩ := Kernel.replies_of_closed free
  rw [step_about, status, size]
  exact inquiry.answer_of_bad

/-- In every session, what is asked about a descriptor is answered by the object that it is open
on. A duplicate shares the object of its descriptor, and so do two openings of one path that is not
unlinked between them. Two descriptors that share an object share it until one of them is closed,
whatever becomes of the paths, and every inquiry about them is answered alike, with records and
requests that differ in the number alone. A number that is not open meets the failure of bad
descriptors in every inquiry. So does a number that has been closed, for as long as it is not the
answer of a later opening or duplication; that the library may open a path under it makes no
difference. -/
theorem answers_follow_object (session : Session) :
    (∀ n m, (session.step (.duplicate n)).1.answer = .descriptor m →
      (session.step (.duplicate n)).2.kernel.Share n m) ∧
    (∀ path n m between,
      let first := session.step (.openFile path)
      let second := (first.2.after between).step (.openFile path)
      first.1.answer = .descriptor n → .close n ∉ between → .unlink path ∉ between →
      second.1.answer = .descriptor m → second.2.kernel.Share n m) ∧
    (∀ n m, session.kernel.Share n m → ∀ steps, .close n ∉ steps → .close m ∉ steps →
      let here := session.after steps
      here.kernel.Share n m ∧ ∀ inquiry : Inquiry,
        Entry.AlikeButNumber n m (here.step (inquiry.about n)).1
          (here.step (inquiry.about m)).1) ∧
    (∀ n, session.kernel.isOpen n = false → ∀ inquiry : Inquiry,
      (session.step (inquiry.about n)).1.answer = inquiry.ofClosed) ∧
    ∀ n steps,
      (∀ entry ∈ (session.step (.close n)).2.entries steps, entry.answer ≠ .descriptor n) →
      let here := (session.step (.close n)).2.after steps
      here.kernel.isOpen n = false ∧ ∀ inquiry : Inquiry,
        (here.step (inquiry.about n)).1.answer = inquiry.ofClosed := by
  refine ⟨?_, ?_, ?_, ?_, ?_⟩
  · intro n m answered
    exact session.share_of_duplicate answered
  · intro path n m between first second answered unclosed linked answered'
    exact session.share_of_openFile answered unclosed linked answered'
  · intro n m share steps unclosed unclosed' here
    have shareHere := session.after_share share unclosed unclosed'
    exact ⟨shareHere, here.about_of_share shareHere⟩
  · intro n free inquiry
    exact session.about_of_closed free inquiry
  · intro n steps withheld here
    have closed : (session.step (.close n)).2.kernel.isOpen n = false :=
      session.kernel.isOpen_close n
    have closedHere := after_closed _ closed withheld
    exact ⟨closedHere, here.about_of_closed closedHere⟩

/-- A block device is open under 3, duplicated under 4 and opened once more under 5 when its path is
unlinked and linked to a file. The descriptors still answer as the device. After 3 has been closed,
an inspection of the path opens the file under 3, and yet 3 is not open afterwards. -/
theorem answers_follow_unlinked_device :
    let path : Bytes := [0x61]
    let fresh := start (Kernel.naming path { mode := 0o060660 })
    let opened := (fresh.step (.openFile path)).2
    let reopened := ((opened.after [.duplicate 3]).step (.openFile path)).2
    let relinked := reopened.after [.unlink path, .link path {}]
    let closed := (relinked.step (.close 3)).2
    (opened.step (.duplicate 3)).2.kernel.Share 3 4 ∧
      (fresh.step (.isBlockDevice 6 ⟨0⟩)).1.answer = .returned ⟨-1, ⟨9⟩⟩ ∧
      Entry.AlikeButNumber 3 5 (relinked.step (.classify (.borrowed 3))).1
        (relinked.step (.classify (.borrowed 5))).1 ∧
      (closed.step (.inspect (.path path))).1.calls =
        [.opening path 0o2000000, .status 3, .closing 3] ∧
      ((closed.after [.inspect (.path path)]).step (.inspect (.file 3))).1.answer =
        .extent (.error (.statusQuery (.os ⟨9⟩))) := by
  intro path fresh opened reopened relinked closed
  obtain ⟨-, again, -, unopened, -⟩ := answers_follow_object fresh
  obtain ⟨duplicated, -⟩ := answers_follow_object opened
  obtain ⟨-, -, lasts, -⟩ := answers_follow_object reopened
  obtain ⟨-, -, -, -, stays⟩ := answers_follow_object relinked
  -- Names are unfolded before facts about them are used: matching a name with what it stands for
  -- would run the session.
  have share : reopened.kernel.Share 3 5 := by
    simp only [reopened, opened]
    exact again path 3 5 [.duplicate 3] rfl (by simp) (by simp) rfl
  have unclosed (n : Int) : Step.close n ∉ [.unlink path, .link path {}] := by
    simp
  have alike := (lasts 3 5 share _ (unclosed 3) (unclosed 5)).2 (.lent .classify)
  have withheld : ∀ entry ∈ closed.entries [.inspect (.path path)],
      entry.answer ≠ .descriptor 3 := by
    intro entry listed given
    rw [List.mem_singleton.mp listed] at given
    cases given
  refine ⟨duplicated 3 4 rfl, unopened 6 rfl (.isBlockDevice ⟨0⟩), alike, by decide, ?_⟩
  simp only [closed]
  exact (stays 3 _ withheld).2 (.owned .inspect)

end Session

end BlockExtent
