import BlockExtent.Backing.Lookup
import BlockExtent.Proofs.Opened

/-!
# The device of a file as a function of the kernel

The search for the device on which a file lies looks at status by path, at one link, and at the
content of the mount table. Here stands what it answers, without the steps that it takes. It writes
nothing, it closes what it opens, and interruptions make no difference to its answer.
-/

namespace BlockExtent

namespace Kernel

variable {kernel other : Kernel}

/-- The same objects under the same paths, but for the interruptions to come. -/
def SameFiles (kernel other : Kernel) : Prop :=
  ∀ path,
    (other.named? path).map FileObject.settled = (kernel.named? path).map FileObject.settled

theorem SameButInterruptions.sameFiles (same : kernel.SameButInterruptions other) :
    kernel.SameFiles other :=
  same.named_settled

/-- Opening a path leaves every path where it leads. -/
theorem Shows.sameFiles {path : Bytes} {opening : Opened}
    (shows : kernel.Shows other path opening) : kernel.SameFiles other := by
  intro name
  rw [shows.named]
  exact (sameButInterruptions_settledAt kernel path).named_settled name

/-- A status by path is that of the same object in both kernels, or the same failure. -/
theorem SameFiles.statusAt_cases (same : kernel.SameFiles other) (path : Bytes) :
    (∃ e, kernel.statusAt path = .error e ∧ other.statusAt path = .error e) ∨
    ∃ object object', kernel.statusAt path = .ok object ∧ other.statusAt path = .ok object' ∧
      object'.settled = object.settled := by
  have there := same path
  cases here : kernel.named? path with
  | none =>
      have missing : other.named? path = none := by simpa [here] using there
      exact .inl ⟨.noSuchFile, by simp [statusAt, here], by simp [statusAt, missing]⟩
  | some object =>
      obtain ⟨object', found, settled⟩ :
          ∃ object', other.named? path = some object' ∧ object'.settled = object.settled := by
        simpa [here] using there
      have failure : object'.pathStatusFailure = object.pathStatusFailure :=
        (congrArg FileObject.pathStatusFailure settled :)
      cases own : object.pathStatusFailure with
      | some e =>
          exact .inl ⟨e, by simp [statusAt, here, own], by simp [statusAt, found, failure, own]⟩
      | none =>
          exact .inr ⟨object, object', by simp [statusAt, here, own],
            by simp [statusAt, found, failure, own], settled⟩

theorem SameFiles.hasStatus (same : kernel.SameFiles other) :
    other.hasStatus = kernel.hasStatus := by
  funext path
  rw [Kernel.hasStatus, Kernel.hasStatus]
  obtain ⟨e, here, there⟩ | ⟨object, object', here, there, -⟩ := same.statusAt_cases path
  · rw [here, there]
  · rw [here, there]
    rfl

theorem SameFiles.registered (same : kernel.SameFiles other) (device : DeviceNumber) :
    Backing.registered? other device = Backing.registered? kernel device := by
  rw [Backing.registered?, Backing.registered?, same.hasStatus]
  obtain ⟨e, here, there⟩ | ⟨object, object', here, there, settled⟩ :=
    same.statusAt_cases (Backing.registryPath device)
  · rw [here, there]
  · have link : object'.link = object.link := (congrArg FileObject.link settled :)
    simp only [here, there, Except.toOption, Option.bind_eq_bind, Option.bind_some, link]

end Kernel

namespace Backing

/-- What the mount table says of a device, if there is such a table. -/
def tableAnswer (kernel : Kernel) (device : DeviceNumber) : Except SystemError (Option String) :=
  if kernel.hasStatus MountTable.path then
    match kernel.opened MountTable.path with
    | .error e => .error e
    | .ok table =>
        MountTable.search kernel.hasStatus device (MountTable.lines table.content)
  else .ok none

/-- The device of a given number: the registered one, else the one of the mount table. -/
def numberAnswer (kernel : Kernel) (device : DeviceNumber) : Except SystemError String :=
  match registered? kernel device with
  | some found => .ok found
  | none =>
      match tableAnswer kernel device with
      | .error e => .error e
      | .ok (some found) => .ok found
      | .ok none => .error (unresolved device)

/-- The device on which the object at a path lies. -/
def answer (kernel : Kernel) (path : Bytes) : Except SystemError String :=
  match kernel.statusAt path with
  | .error e => .error (.os e)
  | .ok object => numberAnswer kernel object.device

section Run

variable (threshold : Threshold) (kernel : Kernel) (device : DeviceNumber) (path : Bytes)

/-- Reading the mount table writes nothing and closes the table again. -/
theorem run_mounted :
    let run := (mounted device).run threshold kernel
    run.value = tableAnswer kernel device ∧ run.written = [] ∧
      (run.kernel = kernel ∨ run.kernel = kernel.waitedFor MountTable.path) := by
  simp only [mounted, tableAnswer, Action.value_bind, Action.written_bind, Action.kernel_bind,
    Action.run_look]
  by_cases present : kernel.hasStatus MountTable.path = true
  · simp only [present, if_true, Action.value_bind, Action.written_bind, Action.kernel_bind,
      Action.openPath_written]
    cases opens : kernel.opened MountTable.path with
    | error e =>
        obtain ⟨answered, left⟩ := Action.openPath_of_error threshold opens
        simp [answered, left]
    | ok table =>
        obtain ⟨answered, left⟩ := Action.openPath_of_ok threshold opens
        obtain ⟨noNull, -, shows⟩ := Kernel.shows_of_opened opens
        simp [answered, left, shows.content, shows.closed, shows.sameFiles.hasStatus,
          Kernel.waitedFor, noNull]
  · simp [present]

theorem run_ofNumber :
    let run := (ofNumber device).run threshold kernel
    run.value = numberAnswer kernel device ∧ run.written = [] ∧
      (run.kernel = kernel ∨ run.kernel = kernel.waitedFor MountTable.path) := by
  simp only [ofNumber, numberAnswer, Action.value_bind, Action.written_bind, Action.kernel_bind,
    Action.run_look]
  cases registered? kernel device with
  | some found => simp
  | none =>
      obtain ⟨answered, silent, left⟩ := run_mounted threshold kernel device
      simp only [Action.value_bind, Action.written_bind, Action.kernel_bind, answered, silent]
      rcases tableAnswer kernel device with e | found | found <;> simpa using left

/-- The search for the device of a file writes nothing, and all that it leaves behind is that the
interruptions at the mount table may have been waited for. -/
theorem run_lookup :
    let run := (lookup path).run threshold kernel
    run.value = answer kernel path ∧ run.written = [] ∧
      (run.kernel = kernel ∨ run.kernel = kernel.waitedFor MountTable.path) := by
  simp only [lookup, answer, Action.value_bind, Action.written_bind, Action.kernel_bind,
    Action.run_look]
  cases kernel.statusAt path with
  | error e => simp
  | ok object => simpa using run_ofNumber threshold kernel object.device

end Run

section Congruence

variable {kernel other : Kernel}

/-- Which device is searched for depends on the files alone. -/
theorem answer_of_sameFiles (same : kernel.SameFiles other) (path : Bytes) :
    answer other path =
      match kernel.statusAt path with
      | .error e => .error (.os e)
      | .ok file => numberAnswer other file.device := by
  rw [answer]
  obtain ⟨e, here, there⟩ | ⟨file, file', here, there, settled⟩ := same.statusAt_cases path
  · rw [here, there]
  · have device : file'.device = file.device := (congrArg FileObject.device settled :)
    simp only [here, there, device]

variable (same : kernel.SameButInterruptions other)

include same

theorem tableAnswer_congr (device : DeviceNumber) :
    tableAnswer other device = tableAnswer kernel device := by
  rw [tableAnswer, tableAnswer, same.sameFiles.hasStatus, same.opened]

theorem numberAnswer_congr (device : DeviceNumber) :
    numberAnswer other device = numberAnswer kernel device := by
  rw [numberAnswer, numberAnswer, same.sameFiles.registered, tableAnswer_congr same]

theorem answer_congr (path : Bytes) : answer other path = answer kernel path := by
  rw [answer_of_sameFiles same.sameFiles, answer]
  simp only [numberAnswer_congr same]

end Congruence

end Backing

end BlockExtent
