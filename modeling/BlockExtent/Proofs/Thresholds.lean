import BlockExtent.Proofs.Erasure
import BlockExtent.Proofs.InspectionAgreement

/-!
# Thresholds only leave out records

An action does the same under every log threshold, and of the events that it makes where
everything is logged a threshold leaves out the records that it does not admit, and nothing else.
That holds of every primitive and is kept by sequencing, so it holds of every action of the
library. A session under any thresholds is therefore the session in which everything is logged,
with the records of each step filtered by the threshold in force.

## Implementation notes

Thresholds are part of the steps of a session. Two sessions that differ only in thresholds are
both compared with the one in which every threshold admits everything.
-/

namespace BlockExtent

namespace Event

/-- Whether a threshold leaves an event in place: only records are ever left out. -/
def passes (threshold : Threshold) : Event → Bool
  | .record r => threshold.admits r.level
  | _ => true

end Event

namespace Traced

variable {α : Type}

/-- A run without the records that a threshold does not admit. -/
def under (run : Traced α) (threshold : Threshold) : Traced α :=
  { run with events := run.events.filter (Event.passes threshold) }

theorem under_calls (run : Traced α) (threshold : Threshold) :
    (run.under threshold).calls = run.calls := by
  rw [calls, calls, under, List.filterMap_filter]
  congr 1
  funext event
  cases event with
  | record r => exact ite_self none
  | call c => rfl
  | output line => rfl
  | complaint line => rfl

theorem under_records (run : Traced α) (threshold : Threshold) :
    (run.under threshold).records = run.records.filter fun r => threshold.admits r.level := by
  rw [records, records, under, List.filterMap_filter, List.filter_filterMap]
  congr 1
  funext event
  cases event with
  | record r =>
      cases admitted : threshold.admits r.level <;>
        simp [Event.passes, Event.record?, Option.filter, admitted]
  | call c => rfl
  | output line => rfl
  | complaint line => rfl

end Traced

namespace Threshold

/-- The threshold under which everything is logged. -/
def everything : Threshold := .upTo .trace

theorem admits_everything (level : Level) : everything.admits level = true := by
  cases level <;> rfl

end Threshold

namespace Action

variable {α β : Type}

/-- An action that heeds the threshold in nothing but in leaving out records. -/
def Oblivious (action : Action α) : Prop :=
  ∀ threshold kernel,
    action.run threshold kernel = (action.run .everything kernel).under threshold

namespace Oblivious

theorem pure (x : α) : (Pure.pure x : Action α).Oblivious := by
  intro threshold kernel
  rfl

theorem look (f : Kernel → α) : (Action.look f).Oblivious := by
  intro threshold kernel
  rfl

theorem status (n : Int) : (Action.status n).Oblivious := by
  intro threshold kernel
  rfl

theorem sizeRequest (n : Int) : (Action.sizeRequest n).Oblivious := by
  intro threshold kernel
  rfl

theorem attemptOpen (path : Bytes) : (Action.attemptOpen path).Oblivious := by
  intro threshold kernel
  rfl

theorem close (n : Int) : (Action.close n).Oblivious := by
  intro threshold kernel
  rfl

/-- Making a record is where the threshold is looked at. -/
theorem log (record : Record) : (Action.log record).Oblivious := by
  intro threshold kernel
  cases admitted : threshold.admits record.level <;>
    simp [Traced.under, Threshold.admits_everything, Event.passes, admitted]

/-- Leaving records out commutes with doing one action after another. -/
theorem bind {action : Action α} {next : α → Action β} (first : action.Oblivious)
    (second : ∀ x, (next x).Oblivious) : (action >>= next).Oblivious := by
  intro threshold kernel
  have later := second (action.run .everything kernel).value threshold
    (action.run .everything kernel).kernel
  rw [run_bind, first threshold kernel]
  simp only [Traced.under] at later ⊢
  rw [later, run_bind, List.filter_append]

theorem ite {condition : Prop} [Decidable condition] {yes no : Action α} (ofYes : yes.Oblivious)
    (ofNo : no.Oblivious) : (if condition then yes else no).Oblivious := by
  by_cases holds : condition
  · rwa [if_pos holds]
  · rwa [if_neg holds]

end Oblivious

theorem openRetrying_oblivious (path : Bytes) (retries : Nat) :
    (openRetrying path retries).Oblivious := by
  induction retries with
  | zero => exact .attemptOpen path
  | succ retries ih =>
      apply Oblivious.bind (.attemptOpen path)
      intro answer
      cases answer with
      | ok n => exact .pure _
      | error e => exact .ite ih (.pure _)

theorem openPath_oblivious (path : Bytes) : (openPath path).Oblivious := by
  apply Oblivious.ite (.pure _)
  apply Oblivious.bind (.look _)
  intro retries
  exact .bind (openRetrying_oblivious path retries) fun _ => .pure _

end Action

open BlockExtent.Action (Oblivious)

namespace Inspection

variable {α : Type} (n : Int)

theorem status_oblivious : (status n).Oblivious := by
  apply Oblivious.bind (.status n)
  intro reply
  cases reply with
  | ok found => exact .pure _
  | error e => exact .bind (.log _) fun _ => .pure _

theorem classify_oblivious : (classify n).Oblivious := by
  apply Oblivious.bind (status_oblivious n)
  intro found
  cases found with
  | error e => exact .pure _
  | ok status => exact .bind (.log _) fun _ => .pure _

theorem deviceLength_oblivious : (deviceLength n).Oblivious := by
  apply Oblivious.bind (.sizeRequest n)
  intro reply
  cases reply with
  | refused e => exact .bind (.log _) fun _ => .pure _
  | answered code stored accepted => exact .bind (.log _) fun _ => .pure _

theorem resolve_oblivious (options : Options) (kind : DeviceKind) (statusSize : UInt64) :
    (resolve n options kind statusSize).Oblivious := by
  cases kind with
  | other => exact .ite (.pure _) (.pure _)
  | block =>
      apply Oblivious.bind (deviceLength_oblivious n)
      intro length
      cases length with
      | ok length => exact .pure _
      | error e =>
          -- The warning follows the record of the refused request, which is made before it.
          exact .ite (.bind (.log _) fun _ => .pure _) (.pure _)

theorem inspect_oblivious (options : Options) : (inspect n options).Oblivious := by
  apply Oblivious.bind (status_oblivious n)
  intro found
  cases found with
  | error e => exact .pure _
  | ok status => exact resolve_oblivious n options _ _

theorem throughPath_oblivious (path : Bytes) {body : Int → Action (Except InspectError α)}
    (oblivious : ∀ n, (body n).Oblivious) : (throughPath path body).Oblivious := by
  apply Oblivious.bind (Action.openPath_oblivious path)
  intro answer
  cases answer with
  | error e => exact .pure _
  | ok n => exact .bind (oblivious n) fun _ => .bind (.close n) fun _ => .pure _

end Inspection

theorem Handle.withDescriptor_oblivious {α : Type} (handle : Handle)
    {body : Int → Action (Except InspectError α)} (oblivious : ∀ n, (body n).Oblivious) :
    (handle.withDescriptor body).Oblivious := by
  cases handle with
  | borrowed n => exact oblivious n
  | file n => exact oblivious n
  | path name => exact Inspection.throughPath_oblivious name oblivious
  | pathBuffer name => exact Inspection.throughPath_oblivious name oblivious

namespace EntryPoint

theorem isBlockDevice_oblivious (n : Int) (errno : Errno) : (isBlockDevice n errno).Oblivious := by
  apply Oblivious.bind (.status n)
  intro reply
  cases reply <;> exact .pure _

theorem blockDeviceLength_oblivious (n : Int) (errno : Errno) :
    (blockDeviceLength n errno).Oblivious := by
  apply Oblivious.bind (.sizeRequest n)
  intro reply
  cases reply with
  | refused e => exact .pure _
  | answered code stored accepted =>
      exact .ite (.pure _) (.pure _)

end EntryPoint

theorem Session.codes_oblivious (n : Int) : (Session.codes n).Oblivious :=
  .bind (Inspection.classify_oblivious n) fun _ =>
    .bind (Inspection.deviceLength_oblivious n) fun _ => .pure _

/-- An entry without the records that a threshold does not admit. -/
def Entry.under (entry : Entry) (threshold : Threshold) : Entry :=
  { entry with records := entry.records.filter fun r => threshold.admits r.level }

/-- The step, where it sets a threshold, setting the one under which everything is logged. -/
def Step.loud : Step → Step
  | .setThreshold _ => .setThreshold .everything
  | step => step

namespace Session

variable (session : Session)

/-- The session with everything logged. -/
def loud : Session :=
  { session with threshold := .everything }

/-- The thresholds in force at each of a list of steps. -/
def thresholds (session : Session) : List Step → List Threshold
  | [] => []
  | step :: rest => session.threshold :: (session.step step).2.thresholds rest

theorem perform_oblivious {α : Type} {action : Action α} (oblivious : action.Oblivious)
    (answer : α → Answer) :
    (session.perform action answer).1 =
        (session.loud.perform action answer).1.under session.threshold ∧
      (session.perform action answer).2.loud = (session.loud.perform action answer).2 := by
  have run := oblivious session.threshold session.kernel
  constructor
  · simp only [perform, Entry.under, loud, run, Traced.under_records, Traced.under_calls]
    rfl
  · simp only [perform, loud, run]
    rfl

/-- A step is the step with everything logged, without the records that are not admitted. -/
theorem step_oblivious (step : Step) :
    (session.step step).1 = (session.loud.step step.loud).1.under session.threshold ∧
      (session.step step).2.loud = (session.loud.step step.loud).2 := by
  cases step with
  | openFile path => exact ⟨rfl, rfl⟩
  | duplicate n => exact ⟨rfl, rfl⟩
  | close n => exact ⟨rfl, rfl⟩
  | link path object => exact ⟨rfl, rfl⟩
  | unlink path => exact ⟨rfl, rfl⟩
  | setThreshold threshold => exact ⟨rfl, rfl⟩
  | classify handle =>
      exact session.perform_oblivious
        (handle.withDescriptor_oblivious Inspection.classify_oblivious) _
  | classifyDescriptor n => exact session.perform_oblivious (Inspection.classify_oblivious n) _
  | deviceLength handle =>
      exact session.perform_oblivious
        (handle.withDescriptor_oblivious Inspection.deviceLength_oblivious) _
  | descriptorLength n => exact session.perform_oblivious (Inspection.deviceLength_oblivious n) _
  | inspect handle =>
      exact session.perform_oblivious
        (handle.withDescriptor_oblivious (Inspection.inspect_oblivious · .standard)) _
  | inspectWith handle options =>
      exact session.perform_oblivious
        (handle.withDescriptor_oblivious (Inspection.inspect_oblivious · options)) _
  | codes n => exact session.perform_oblivious (codes_oblivious n) _
  | isBlockDevice n errno =>
      exact session.perform_oblivious (EntryPoint.isBlockDevice_oblivious n errno) _
  | blockDeviceLength n errno =>
      exact session.perform_oblivious (EntryPoint.blockDeviceLength_oblivious n errno) _

/-- A whole session is the session with everything logged, without the records that the threshold
of the moment does not admit; its answers, its requests and the kernel at its end are the same. -/
theorem entries_oblivious (steps : List Step) :
    let loud := session.loud.entries (steps.map Step.loud)
    session.entries steps = List.zipWith Entry.under loud (session.thresholds steps) ∧
    (session.entries steps).map Entry.answer = loud.map Entry.answer ∧
    (session.entries steps).map Entry.calls = loud.map Entry.calls ∧
    (session.after steps).loud = session.loud.after (steps.map Step.loud) := by
  induction steps generalizing session with
  | nil => exact ⟨rfl, rfl, rfl, rfl⟩
  | cons step rest ih =>
      obtain ⟨entry, next⟩ := session.step_oblivious step
      obtain ⟨others, answers, calls, last⟩ := ih (session.step step).2
      rw [next] at others answers calls last
      simp only [entries_cons, List.map_cons, entry]
      refine ⟨?_, ?_, ?_, last⟩
      · rw [others]
        rfl
      · rw [answers]
        rfl
      · rw [calls]
        rfl

/-- In every session the log thresholds decide about records alone. What a step records under the
threshold in force is what it records where everything is logged, in the same order, without the
records that the threshold does not admit; its answer and its requests are the same. So sessions
that differ only in thresholds answer and ask alike, step by step, and leave the same kernel. The
entry points record nothing under any threshold. -/
theorem thresholds_leave_out_records (session : Session) (steps : List Step) :
    session.entries steps =
      List.zipWith Entry.under (session.loud.entries (steps.map Step.loud))
        (session.thresholds steps) ∧
    (∀ (other : Session) (others : List Step), other.kernel = session.kernel →
      others.map Step.loud = steps.map Step.loud →
      (other.entries others).map Entry.answer = (session.entries steps).map Entry.answer ∧
      (other.entries others).map Entry.calls = (session.entries steps).map Entry.calls ∧
      (other.after others).kernel = (session.after steps).kernel) ∧
    ∀ (here : Session) (n : Int) (errno : Errno),
      (here.step (.isBlockDevice n errno)).1.records = [] ∧
      (here.step (.blockDeviceLength n errno)).1.records = [] := by
  refine ⟨(session.entries_oblivious steps).1, ?_, ?_⟩
  · intro other others kernel alike
    have loud : other.loud = session.loud := by rw [Session.loud, Session.loud, kernel]
    obtain ⟨-, answers, calls, last⟩ := session.entries_oblivious steps
    obtain ⟨-, answers', calls', last'⟩ := other.entries_oblivious others
    rw [loud, alike] at answers' calls' last'
    refine ⟨answers'.trans answers.symm, calls'.trans calls.symm, ?_⟩
    exact (congrArg Session.kernel (last'.trans last.symm) :)
  · intro here n errno
    constructor
    · simp [step, perform, Traced.records, EntryPoint.isBlockDevice_events]
    · simp [step, perform, Traced.records, EntryPoint.blockDeviceLength_events]

/-- A block device refuses the size request, and its status size is taken. With warnings alone let
through, the record of the refusal is left out and the warning after it is not; with everything
off neither is made. The requests are the same. -/
theorem thresholds_leave_out_refusal :
    let device := Kernel.holding { mode := 0o060660, size := 7, sizeReply := .refused ⟨5⟩ }
    let inspection : Step := .inspectWith (.borrowed 3) ⟨true, false⟩
    let warned := (start device).entries [.setThreshold (.upTo .warn), inspection]
    let silent := (start device).entries [.setThreshold .off, inspection]
    warned.map Entry.calls = silent.map Entry.calls ∧
      warned.map Entry.records =
        [[], [Inspection.fellBack 3 (.controlRequest (.os ⟨5⟩)) 7]] ∧
      silent.map Entry.records = [[], []] := by
  intro device inspection warned silent
  obtain ⟨-, alike, -⟩ := thresholds_leave_out_records (start device)
    [.setThreshold .off, inspection]
  exact ⟨(alike (start device) [.setThreshold (.upTo .warn), inspection] rfl rfl).2.1, by decide,
    by decide⟩

end Session

end BlockExtent
