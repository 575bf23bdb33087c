import BlockExtent.Proofs.Frame
import BlockExtent.Proofs.Records

/-!
# What opening a path shows

Opening a path comes down to a look at the object there and at the table of descriptors: it fails,
or it gives the lowest free descriptor, through which the replies and the content of the object are
seen. `Kernel.opened` says so without a word on attempts and interruptions, and two kernels that
agree on the objects as far as descriptors show them answer alike.
-/

namespace BlockExtent

/-- What is learnt by opening a path: the descriptor, and what the object behind it answers. -/
structure Opened where
  descriptor : Int
  status : Except Errno FileStatus
  sizeReply : SizeReply
  content : Bytes

namespace FileObject

/-- The object as far as opening it and asking through a descriptor show it. -/
def shown (object : FileObject) : FileObject :=
  { object with interruptions := 0, device := ⟨0, 0⟩, pathStatusFailure := none, link := none }

theorem shown_settled (object : FileObject) : object.settled.shown = object.shown := rfl

end FileObject

namespace Kernel

variable {kernel other after : Kernel} {path : Bytes}

/-- The answer to opening a path, once no attempt is interrupted. -/
def opened (kernel : Kernel) (path : Bytes) : Except SystemError Opened :=
  if 0 ∈ path then .error .nullInPath
  else
    match kernel.named? path with
    | none => .error (.os .noSuchFile)
    | some object =>
        match object.openFailure with
        | some e => .error (.os e)
        | none =>
            match kernel.freeDescriptor? with
            | none => .error (.os .tooManyOpenFiles)
            | some n => .ok ⟨n, object.status, object.sizeReply, object.content⟩

/-- The kernel while a path is open. -/
def whileOpen (kernel : Kernel) (path : Bytes) : Kernel :=
  (kernel.lastAttempt path).2

/-- The kernel after a path has been opened and closed again, or has failed to open: only the
interruptions on the way have been waited for. -/
def waitedFor (kernel : Kernel) (path : Bytes) : Kernel :=
  if 0 ∈ path then kernel else kernel.settledAt path

section Congruence

theorem SameButInterruptions.symm (same : kernel.SameButInterruptions other) :
    other.SameButInterruptions kernel :=
  ⟨same.descriptors.symm, same.paths.symm, same.objects.symm, same.firstDescriptor.symm,
    same.descriptorLimit.symm, same.user.symm, same.effectiveUser.symm⟩

theorem SameButInterruptions.trans (first : kernel.SameButInterruptions other)
    (second : other.SameButInterruptions after) : kernel.SameButInterruptions after :=
  ⟨second.descriptors.trans first.descriptors, second.paths.trans first.paths,
    second.objects.trans first.objects, second.firstDescriptor.trans first.firstDescriptor,
    second.descriptorLimit.trans first.descriptorLimit, second.user.trans first.user,
    second.effectiveUser.trans first.effectiveUser⟩

theorem SameButInterruptions.isOpen (same : kernel.SameButInterruptions other) (n : Int) :
    other.isOpen n = kernel.isOpen n := by
  rw [Kernel.isOpen, Kernel.isOpen, same.descriptors]

theorem SameButInterruptions.place (same : kernel.SameButInterruptions other) (path : Bytes) :
    other.place? path = kernel.place? path := by
  rw [place?, place?, same.paths]

theorem SameButInterruptions.named_settled (same : kernel.SameButInterruptions other)
    (path : Bytes) :
    (other.named? path).map FileObject.settled = (kernel.named? path).map FileObject.settled := by
  rw [named?, named?, same.place]
  cases kernel.place? path with
  | none => rfl
  | some place =>
      have there := congrArg (·[place]?) same.objects
      simpa using there

theorem SameButInterruptions.withDescriptors (same : kernel.SameButInterruptions other)
    (descriptors : List (Int × Nat)) :
    { kernel with descriptors }.SameButInterruptions { other with descriptors } :=
  ⟨rfl, same.paths, same.objects, same.firstDescriptor, same.descriptorLimit, same.user,
    same.effectiveUser⟩

theorem SameButInterruptions.close (same : kernel.SameButInterruptions other) (n : Int) :
    (other.close n).1 = (kernel.close n).1 ∧
      (kernel.close n).2.SameButInterruptions (other.close n).2 := by
  rw [Kernel.close, Kernel.close, same.isOpen]
  cases kernel.isOpen n with
  | false => exact ⟨rfl, same⟩
  | true =>
      refine ⟨rfl, ?_⟩
      simp only [if_true, release, same.descriptors]
      exact same.withDescriptors _

/-- The next descriptor depends on the table and its bounds alone. -/
theorem freeDescriptor_congr (taken : ∀ n, other.isOpen n = kernel.isOpen n)
    (first : other.firstDescriptor = kernel.firstDescriptor)
    (limit : other.descriptorLimit = kernel.descriptorLimit) :
    other.freeDescriptor? = kernel.freeDescriptor? := by
  rw [freeDescriptor?, freeDescriptor?, funext taken, first, limit]

theorem SameButInterruptions.freeDescriptor (same : kernel.SameButInterruptions other) :
    other.freeDescriptor? = kernel.freeDescriptor? :=
  freeDescriptor_congr same.isOpen same.firstDescriptor same.descriptorLimit

/-- Opening a path looks at nothing but the object there, as descriptors show it, and at the next
descriptor. -/
theorem opened_congr
    (objects : (other.named? path).map FileObject.shown =
      (kernel.named? path).map FileObject.shown)
    (free : other.freeDescriptor? = kernel.freeDescriptor?) :
    other.opened path = kernel.opened path := by
  rw [opened, opened, free]
  cases here : kernel.named? path with
  | none =>
      have there : other.named? path = none := by simpa [here] using objects
      rw [there]
  | some object =>
      obtain ⟨object', there, same⟩ :
          ∃ object', other.named? path = some object' ∧ object'.shown = object.shown := by
        simpa [here] using objects
      have failure : object'.openFailure = object.openFailure :=
        (congrArg FileObject.openFailure same :)
      have status : object'.status = object.status := (congrArg FileObject.status same :)
      have reply : object'.sizeReply = object.sizeReply := (congrArg FileObject.sizeReply same :)
      have content : object'.content = object.content := (congrArg FileObject.content same :)
      simp only [there, failure, status, reply, content]

theorem SameButInterruptions.named_shown (same : kernel.SameButInterruptions other)
    (path : Bytes) :
    (other.named? path).map FileObject.shown = (kernel.named? path).map FileObject.shown := by
  have shown := congrArg (Option.map FileObject.shown) (same.named_settled path)
  simpa [Function.comp_def, FileObject.shown_settled] using shown

theorem SameButInterruptions.opened (same : kernel.SameButInterruptions other) (path : Bytes) :
    other.opened path = kernel.opened path :=
  opened_congr (same.named_shown path) same.freeDescriptor

end Congruence

/-- Opening a path without null bytes fails and gives out nothing, or gives out a descriptor that
was free for the object at the path. -/
theorem opened_cases (kernel : Kernel) (noNull : 0 ∉ path) :
    (∃ e, kernel.opened path = .error (.os e) ∧
      kernel.lastAttempt path = (.error e, kernel.settledAt path)) ∨
    ∃ n place object, kernel.Names path place object ∧ kernel.isOpen n = false ∧
      kernel.opened path = .ok ⟨n, object.status, object.sizeReply, object.content⟩ ∧
      kernel.lastAttempt path =
        (.ok n, { kernel.settledAt path with
          descriptors := (n, place) :: (kernel.settledAt path).descriptors }) := by
  obtain unknown | ⟨place, object, names⟩ := named_cases kernel path
  · left
    refine ⟨.noSuchFile, ?_, ?_⟩
    · simp [opened, noNull, unknown]
    · rw [lastAttempt_of_unknown unknown, settledAt_of_unknown unknown]
  · have free : (kernel.settledAt path).freeDescriptor? = kernel.freeDescriptor? :=
      (sameButInterruptions_settledAt kernel path).freeDescriptor
    rw [names.lastAttempt_eq]
    cases failure : object.openFailure with
    | some e => exact .inl ⟨e, by simp [opened, noNull, names.named_eq, failure], rfl⟩
    | none =>
        cases next : kernel.freeDescriptor? with
        | none =>
            left
            refine ⟨.tooManyOpenFiles, ?_, ?_⟩
            · simp [opened, noNull, names.named_eq, failure, next]
            · simp [allocate, free, next]
        | some n =>
            right
            refine ⟨n, place, object, names, firstFree_not_taken next, ?_, ?_⟩
            · simp [opened, noNull, names.named_eq, failure, next]
            · simp [allocate, free, next]

theorem opened_of_null (null : 0 ∈ path) : kernel.opened path = .error .nullInPath := by
  simp [opened, null]

theorem waitedFor_of_noNull (noNull : 0 ∉ path) :
    kernel.waitedFor path = kernel.settledAt path := by
  rw [waitedFor, if_neg noNull]

theorem sameButInterruptions_waitedFor (kernel : Kernel) (path : Bytes) :
    kernel.SameButInterruptions (kernel.waitedFor path) := by
  by_cases null : 0 ∈ path
  · rw [waitedFor, if_pos null]
    exact .refl kernel
  · rw [waitedFor, if_neg null]
    exact kernel.sameButInterruptions_settledAt path

section WhileOpen

variable {opening : Opened}

/-- While a path is open its descriptor leads to the object there, and closing it leaves nothing
behind. -/
structure Shows (kernel during : Kernel) (path : Bytes) (opening : Opened) : Prop where
  status : during.status opening.descriptor = opening.status
  sizeReply : during.sizeReply opening.descriptor = opening.sizeReply
  content :
    ((during.behind? opening.descriptor).map FileObject.content).getD [] = opening.content
  named : during.named? = (kernel.settledAt path).named?
  closed : (during.close opening.descriptor).2 = kernel.settledAt path

theorem shows_of_opened (h : kernel.opened path = .ok opening) :
    0 ∉ path ∧ (kernel.lastAttempt path).1 = .ok opening.descriptor ∧
      kernel.Shows (kernel.whileOpen path) path opening := by
  have noNull : 0 ∉ path := by
    intro null
    rw [opened_of_null null] at h
    cases h
  obtain ⟨e, failed, -⟩ | ⟨n, place, object, names, free, succeeded, last⟩ :=
    opened_cases kernel noNull
  · rw [failed] at h
    cases h
  · rw [succeeded] at h
    cases h
    have behind : (kernel.whileOpen path).behind? n = some object.settled := by
      have there := (names.replaceObject object.settled).2
      simp [whileOpen, last, behind?, names.settledAt_eq, there]
    refine ⟨noNull, congrArg Prod.fst last, ?_, ?_, ?_, ?_, ?_⟩
    · simp [Kernel.status, behind, FileObject.status, FileObject.settled]
    · simp [Kernel.sizeReply, behind, FileObject.settled]
    · simp [behind, FileObject.settled]
    · funext other
      simp [whileOpen, last, named?, place?]
    · simp only [whileOpen, last]
      exact close_allocated (isOpen_settledAt kernel path n ▸ free) place

/-- What is read from an opened path is the content of the object there. -/
theorem opened_content {object : FileObject} (opens : kernel.opened path = .ok opening)
    (there : kernel.statusAt path = .ok object) : opening.content = object.content := by
  obtain ⟨noNull, -, -⟩ := shows_of_opened opens
  obtain ⟨e, failed, -⟩ | ⟨n, place, object', names, -, succeeded, -⟩ :=
    opened_cases kernel noNull
  · rw [failed] at opens
    cases opens
  · rw [succeeded] at opens
    cases opens
    rw [statusAt, names.named_eq] at there
    cases failure : object'.pathStatusFailure with
    | some e => simp [failure] at there
    | none =>
        obtain rfl : object' = object := by simpa [failure] using there
        rfl

/-- Interruptions to come make no difference to the kernel in which a path is open, but for
themselves. -/
theorem SameButInterruptions.whileOpen (same : kernel.SameButInterruptions other)
    (h : kernel.opened path = .ok opening) :
    (kernel.whileOpen path).SameButInterruptions (other.whileOpen path) := by
  have noNull := (shows_of_opened h).1
  have settled := ((sameButInterruptions_settledAt kernel path).symm.trans same).trans
    (sameButInterruptions_settledAt other path)
  obtain ⟨e, failed, -⟩ | ⟨n, place, object, names, -, succeeded, last⟩ :=
    opened_cases kernel noNull
  · rw [failed] at h
    cases h
  · obtain ⟨e, failed', -⟩ | ⟨n', place', object', names', -, succeeded', last'⟩ :=
      opened_cases other noNull
    · rw [same.opened, succeeded] at failed'
      cases failed'
    · have number : n' = n := by
        rw [same.opened, succeeded] at succeeded'
        exact (congrArg Opened.descriptor (Except.ok.inj succeeded')).symm
      have samePlace : place' = place := by
        have there := names'.1
        rw [same.place, names.1] at there
        exact (Option.some.inj there).symm
      rw [Kernel.whileOpen, Kernel.whileOpen, last, last', number, samePlace]
      exact ⟨by rw [settled.descriptors], settled.paths, settled.objects, settled.firstDescriptor,
        settled.descriptorLimit, settled.user, settled.effectiveUser⟩

end WhileOpen

end Kernel

namespace Action

variable {kernel : Kernel} {path : Bytes}

/-- Opening a path writes nothing. -/
theorem openPath_written (threshold : Threshold) (kernel : Kernel) (path : Bytes) :
    ((openPath path).run threshold kernel).written = [] := by
  by_cases null : 0 ∈ path
  · simp [run_openPath_of_null threshold null]
  · simp [run_openPath threshold null]

theorem openPath_of_error (threshold : Threshold) {e : SystemError}
    (h : kernel.opened path = .error e) :
    ((openPath path).run threshold kernel).value = .error e ∧
      ((openPath path).run threshold kernel).kernel = kernel.waitedFor path := by
  by_cases null : 0 ∈ path
  · rw [Kernel.opened_of_null null] at h
    cases h
    simp [run_openPath_of_null threshold null, Kernel.waitedFor, null]
  · rw [run_openPath threshold null, Kernel.waitedFor, if_neg null]
    obtain ⟨e', failed, last⟩ | ⟨n, place, object, names, free, succeeded, last⟩ :=
      Kernel.opened_cases kernel null
    · rw [failed] at h
      cases h
      exact ⟨congrArg (Except.mapError SystemError.os ·.1) last, congrArg Prod.snd last⟩
    · rw [succeeded] at h
      cases h

theorem openPath_of_ok (threshold : Threshold) {opening : Opened}
    (h : kernel.opened path = .ok opening) :
    ((openPath path).run threshold kernel).value = .ok opening.descriptor ∧
      ((openPath path).run threshold kernel).kernel = kernel.whileOpen path := by
  obtain ⟨noNull, answer, -⟩ := Kernel.shows_of_opened h
  rw [run_openPath threshold noNull]
  exact ⟨congrArg (Except.mapError SystemError.os) answer, rfl⟩

theorem openPath_value (threshold : Threshold) (kernel : Kernel) (path : Bytes) :
    ((openPath path).run threshold kernel).value =
      (kernel.opened path).map Opened.descriptor := by
  cases opens : kernel.opened path with
  | error e => exact (openPath_of_error threshold opens).1
  | ok opening => exact (openPath_of_ok threshold opens).1

theorem openPath_error_iff (threshold : Threshold) {e : SystemError} :
    ((openPath path).run threshold kernel).value = .error e ↔ kernel.opened path = .error e := by
  rw [openPath_value]
  cases kernel.opened path <;> simp [Except.map]

theorem openPath_ok_iff (threshold : Threshold) {n : Int} :
    ((openPath path).run threshold kernel).value = .ok n ↔
      ∃ opening, kernel.opened path = .ok opening ∧ opening.descriptor = n := by
  rw [openPath_value]
  cases kernel.opened path <;> simp [Except.map]

end Action

end BlockExtent
