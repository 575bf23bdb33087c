import BlockExtent.Proofs.Reached

/-!
# The four settings of the options

The two options of an inspection act apart. To allow the fallback matters to a refused size request
alone and turns that failure into an answer; to require a block device matters to the answers about
anything else and turns these into a failure. So what is answered under some setting is answered
under every setting that allows as much and requires no more.

## Implementation notes

The answers under all settings are looked at together, as one of four grids. Which grid it is, the
replies decide before an option is consulted.
-/

namespace BlockExtent

namespace Inspection

/-- How the answers of one inspection go together under the four settings, whether the fallback is
allowed and whether a block device is required. -/
inductive OptionGrid (answer : Bool → Bool → Except InspectError Extent) : Prop
  | unasked {e : InspectError}
      (before : (∃ cause, e = .statusQuery cause) ∨ ∃ path cause, e = .opening path cause)
      (all : ∀ allow require, answer allow require = .error e)
  | other (n : UInt64) (free : ∀ allow, answer allow false = .ok (.measured .other n))
      (required : ∀ allow, answer allow true = .error .notBlockDevice)
  | measured (n : UInt64) (all : ∀ allow require, answer allow require = .ok (.measured .block n))
  | refused (cause : SystemError) (n : UInt64)
      (strict : ∀ require, answer false require = .error (.controlRequest cause))
      (lenient : ∀ require, answer true require = .ok (.fallback n))

theorem optionGrid_of_replies (statusReply : Except Errno FileStatus) (sizeReply : SizeReply) :
    OptionGrid fun allow require => extentResult ⟨allow, require⟩ statusReply sizeReply := by
  cases statusReply with
  | error e => exact .unasked (.inl ⟨cause e, rfl⟩) fun _ _ => rfl
  | ok status =>
      simp only [extentResult, statusResult]
      cases DeviceKind.ofMode status.mode with
      | other => exact .other status.length (fun _ => rfl) fun _ => rfl
      | block =>
          cases sizeReply with
          | answered code stored accepted => exact .measured (stored.getD 0) fun _ _ => rfl
          | refused e => exact .refused (cause e) status.length (fun _ => rfl) fun _ => rfl

namespace OptionGrid

variable {answer : Bool → Bool → Except InspectError Extent} (grid : OptionGrid answer)
variable {allow require : Bool} {extent : Extent}

include grid

/-- To allow the fallback changes no answer. -/
theorem allowed_of_ok (answered : answer false require = .ok extent) :
    answer true require = .ok extent ∧ extent.usedFallback = false := by
  cases grid with
  | unasked before all => simp [all] at answered
  | measured n all =>
      simp only [all, Except.ok.injEq] at answered ⊢
      subst answered
      exact ⟨rfl, rfl⟩
  | refused cause n strict lenient => simp [strict] at answered
  | other n free required =>
      cases require with
      | true => simp [required] at answered
      | false =>
          simp only [free, Except.ok.injEq] at answered ⊢
          subst answered
          exact ⟨rfl, rfl⟩

theorem allow_ne_iff :
    answer true require ≠ answer false require ↔
      ∃ e, answer false require = .error (.controlRequest e) := by
  cases grid with
  | unasked before all => obtain ⟨cause, rfl⟩ | ⟨path, cause, rfl⟩ := before <;> simp [all]
  | other n free required => cases require <;> simp [free, required]
  | measured n all => simp [all]
  | refused cause n strict lenient => simp [strict, lenient]

/-- What the fallback is for is a refused size request, and it leaves none. -/
theorem fallback_of_controlRequest {e : SystemError}
    (failed : answer false require = .error (.controlRequest e)) :
    ∃ extent, answer true require = .ok extent ∧ extent.usedFallback = true := by
  cases grid with
  | unasked before all =>
      obtain ⟨cause, rfl⟩ | ⟨path, cause, rfl⟩ := before <;> simp [all] at failed
  | other n free required => cases require <;> simp [free, required] at failed
  | measured n all => simp [all] at failed
  | refused cause n strict lenient => exact ⟨.fallback n, lenient require, rfl⟩

theorem allowed_ne_controlRequest (e : SystemError) :
    answer true require ≠ .error (.controlRequest e) := by
  cases grid with
  | unasked before all => obtain ⟨cause, rfl⟩ | ⟨path, cause, rfl⟩ := before <;> simp [all]
  | other n free required => cases require <;> simp [free, required]
  | measured n all => simp [all]
  | refused cause n strict lenient => simp [lenient]

/-- To drop the requirement changes no answer. -/
theorem free_of_ok (answered : answer allow true = .ok extent) :
    extent.kind = .block ∧ answer allow false = .ok extent := by
  cases grid with
  | unasked before all => simp [all] at answered
  | other n free required => simp [required] at answered
  | measured n all =>
      simp only [all, Except.ok.injEq] at answered ⊢
      subst answered
      exact ⟨rfl, rfl⟩
  | refused cause n strict lenient =>
      cases allow with
      | false => simp [strict] at answered
      | true =>
          simp only [lenient, Except.ok.injEq] at answered ⊢
          subst answered
          exact ⟨rfl, rfl⟩

theorem require_ne_iff :
    answer allow true ≠ answer allow false ↔ answer allow true = .error .notBlockDevice := by
  cases grid with
  | unasked before all => obtain ⟨cause, rfl⟩ | ⟨path, cause, rfl⟩ := before <;> simp [all]
  | other n free required => simp [free, required]
  | measured n all => simp [all]
  | refused cause n strict lenient => cases allow <;> simp [strict, lenient]

/-- What fails the requirement is something else, and is answered without it. -/
theorem other_of_notBlockDevice (failed : answer allow true = .error .notBlockDevice) :
    ∃ extent, answer allow false = .ok extent ∧ extent.kind = .other ∧
      extent.usedFallback = false := by
  cases grid with
  | unasked before all =>
      obtain ⟨cause, rfl⟩ | ⟨path, cause, rfl⟩ := before <;> simp [all] at failed
  | other n free required => exact ⟨.measured .other n, free allow, rfl, rfl⟩
  | measured n all => simp [all] at failed
  | refused cause n strict lenient => cases allow <;> simp [strict, lenient] at failed

theorem free_ne_notBlockDevice : answer allow false ≠ .error .notBlockDevice := by
  cases grid with
  | unasked before all => obtain ⟨cause, rfl⟩ | ⟨path, cause, rfl⟩ := before <;> simp [all]
  | other n free required => simp [free]
  | measured n all => simp [all]
  | refused cause n strict lenient => cases allow <;> simp [strict, lenient]

/-- An answer stays when more is allowed and less is required. -/
theorem ok_mono {allow' require' : Bool} (allows : allow ≤ allow') (requires : require' ≤ require)
    (answered : answer allow require = .ok extent) : answer allow' require' = .ok extent := by
  have allowed : answer allow' require = .ok extent := by
    cases allow <;> cases allow'
    · exact answered
    · exact (grid.allowed_of_ok answered).1
    · exact absurd allows (by decide)
    · exact answered
  cases require <;> cases require'
  · exact allowed
  · exact absurd requires (by decide)
  · exact (grid.free_of_ok allowed).2
  · exact allowed

/-- A failure that no option is asked about is the failure under every setting. -/
theorem unasked_iff (allow allow' require require' : Bool) :
    (∀ e, answer allow require = .error (.statusQuery e) ↔
      answer allow' require' = .error (.statusQuery e)) ∧
    ∀ path e, answer allow require = .error (.opening path e) ↔
      answer allow' require' = .error (.opening path e) := by
  cases grid with
  | unasked before all => simp [all]
  | other n free required => cases require <;> cases require' <;> simp [free, required]
  | measured n all => simp [all]
  | refused cause n strict lenient => cases allow <;> cases allow' <;> simp [strict, lenient]

end OptionGrid

end Inspection

namespace Handle

theorem inspectWith_value (threshold : Threshold) (kernel : Kernel) (handle : Handle)
    (options : Options) :
    ((handle.inspectWith options).run threshold kernel).value =
      (handle.reached kernel).bind fun opening =>
        Inspection.extentResult options opening.status opening.sizeReply :=
  ((Operation.inspectWith options).run_onHandle threshold kernel handle).1

theorem optionGrid (threshold : Threshold) (kernel : Kernel) (handle : Handle) :
    Inspection.OptionGrid fun allow require =>
      ((handle.inspectWith ⟨allow, require⟩).run threshold kernel).value := by
  simp only [inspectWith_value]
  cases leads : handle.reached kernel with
  | error e => exact .unasked (.inr (opening_of_reached leads)) fun _ _ => rfl
  | ok opening => exact Inspection.optionGrid_of_replies opening.status opening.sizeReply

/-- Every handle on every kernel is inspected under all four settings of the options as follows. An
answer without the fallback is the answer with it and shows no fallback; the two differ exactly
where the size request fails without it, and then there is an answer that shows the fallback. With
the fallback the size request never makes the inspection fail. An answer that requires a block
device is of one, and it is the answer without that; the two differ exactly where the requirement
is not met, and then there is an answer without it, about something else and without a fallback.
Without the requirement nothing fails for want of a block device. So an answer stays when more is
allowed and less required. A failure to open the path or to get its status is the same under all
settings, and an inspection without options is one that neither allows nor requires anything. -/
theorem inspectWith_relaxed (threshold : Threshold) (kernel : Kernel) (handle : Handle) :
    let answer := fun allow require =>
      ((handle.inspectWith ⟨allow, require⟩).run threshold kernel).value
    (∀ require,
      (∀ extent, answer false require = .ok extent →
        answer true require = .ok extent ∧ extent.usedFallback = false) ∧
      (answer true require ≠ answer false require ↔
        ∃ e, answer false require = .error (.controlRequest e)) ∧
      (∀ e, answer false require = .error (.controlRequest e) →
        ∃ extent, answer true require = .ok extent ∧ extent.usedFallback = true) ∧
      ∀ e, answer true require ≠ .error (.controlRequest e)) ∧
    (∀ allow,
      (∀ extent, answer allow true = .ok extent →
        extent.kind = .block ∧ answer allow false = .ok extent) ∧
      (answer allow true ≠ answer allow false ↔ answer allow true = .error .notBlockDevice) ∧
      (answer allow true = .error .notBlockDevice →
        ∃ extent, answer allow false = .ok extent ∧ extent.kind = .other ∧
          extent.usedFallback = false) ∧
      answer allow false ≠ .error .notBlockDevice) ∧
    (∀ allow allow' require require' extent, allow ≤ allow' → require' ≤ require →
      answer allow require = .ok extent → answer allow' require' = .ok extent) ∧
    (∀ allow allow' require require',
      (∀ e, answer allow require = .error (.statusQuery e) ↔
        answer allow' require' = .error (.statusQuery e)) ∧
      ∀ path e, answer allow require = .error (.opening path e) ↔
        answer allow' require' = .error (.opening path e)) ∧
    (handle.inspect.run threshold kernel).value = answer false false := by
  intro answer
  have grid : Inspection.OptionGrid answer := handle.optionGrid threshold kernel
  refine ⟨?_, ?_, ?_, grid.unasked_iff, rfl⟩
  · intro require
    exact ⟨fun _ => grid.allowed_of_ok, grid.allow_ne_iff, fun _ => grid.fallback_of_controlRequest,
      grid.allowed_ne_controlRequest⟩
  · intro allow
    exact ⟨fun _ => grid.free_of_ok, grid.require_ne_iff, grid.other_of_notBlockDevice,
      grid.free_ne_notBlockDevice⟩
  · intro allow allow' require require' extent allows requires
    exact grid.ok_mono allows requires

/-- On a disk that refuses the size request the fallback turns the failure into an answer. On a file
the requirement turns the answer into a failure, and the fallback makes no difference. -/
theorem inspectWith_relaxed_on_disk_and_file :
    let kernel := Kernel.ofFiles
      [([0x64], { mode := 0o060660, size := 77 }), ([0x66], { size := 9 })]
    let answer := fun name allow require =>
      (((Handle.path name).inspectWith ⟨allow, require⟩).run .off kernel).value
    answer [0x64] false true = .error (.controlRequest (.os .inappropriateControl)) ∧
      answer [0x64] true true = .ok (.fallback 77) ∧
      answer [0x64] true true ≠ answer [0x64] false true ∧
      answer [0x66] true false = .ok (.measured .other 9) ∧
      answer [0x66] true true = .error .notBlockDevice ∧
      answer [0x66] true true ≠ answer [0x66] true false ∧
      answer [0x66] true false = answer [0x66] false false := by
  intro kernel answer
  obtain ⟨allowing, -⟩ := inspectWith_relaxed .off kernel (.path [0x64])
  obtain ⟨allowingOnFile, requiring, -⟩ := inspectWith_relaxed .off kernel (.path [0x66])
  have refused : answer [0x64] false true =
      .error (.controlRequest (.os .inappropriateControl)) := rfl
  have required : answer [0x66] true true = .error .notBlockDevice := rfl
  have measured : answer [0x66] false false = .ok (.measured .other 9) := rfl
  have kept : answer [0x66] true false = .ok (.measured .other 9) :=
    ((allowingOnFile false).1 _ measured).1
  exact ⟨refused, rfl, (allowing true).2.1.mpr ⟨_, refused⟩, kept, required,
    (requiring true).2.1.mpr required, kept.trans measured.symm⟩

end Handle

end BlockExtent
