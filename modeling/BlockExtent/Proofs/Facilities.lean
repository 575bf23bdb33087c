import BlockExtent.Command.Facilities
import BlockExtent.Proofs.Backing

/-!
# What is assumed of the means that the command is given

The command leaves some of its work to others. What is proved of its runs holds whoever they are, as
long as they keep to what is said here: a search for the device of a file leaves no trace, to take
up rights that are there fails nowhere, and a line of the log begins with the time of day. The means
that the command runs with keep to it.

## Implementation notes

How arguments are read is assumed where a theorem is about the way in which they are spelled, and
then as the equation with `Arguments.read`. Every other theorem takes arguments that are accepted,
whoever has read them.
-/

namespace BlockExtent

namespace Backing

/-- A search for the device of a file that leaves no trace: it writes nothing, and but for
interruptions that have been waited for the kernel is afterwards as it was before. -/
structure Restores (search : Bytes → Action (Except SystemError String)) : Prop where
  silent (threshold : Threshold) (kernel : Kernel) (path : Bytes) :
    ((search path).run threshold kernel).written = []
  restored (threshold : Threshold) (kernel : Kernel) (path : Bytes) :
    kernel.SameButInterruptions ((search path).run threshold kernel).kernel

/-- A search that leaves no trace and finds the same however much is logged, and however often
attempts to open a path are going to be interrupted. -/
structure Steady (search : Bytes → Action (Except SystemError String)) : Prop
    extends Restores search where
  value_congr {kernel other : Kernel} (same : kernel.SameButInterruptions other)
    (threshold threshold' : Threshold) (path : Bytes) :
    ((search path).run threshold' other).value = ((search path).run threshold kernel).value

theorem steady_lookup : Steady lookup where
  silent threshold kernel path := (run_lookup threshold kernel path).2.1
  restored threshold kernel path := by
    obtain ⟨-, -, left | left⟩ := run_lookup threshold kernel path
    · rw [left]
      exact .refl kernel
    · rw [left]
      exact kernel.sameButInterruptions_waitedFor MountTable.path
  value_congr same threshold threshold' path := by
    rw [(run_lookup threshold' _ path).1, (run_lookup threshold _ path).1, answer_congr same]

end Backing

namespace Command

/-- A way to take up the rights of root that only logs where they are there, and fails where they
are not. Nothing is printed by it, and interruptions to come make no difference. -/
structure Escalates (escalate : Action (Except SystemError Unit)) : Prop where
  granted (threshold : Threshold) {kernel : Kernel} (rights : kernel.effectiveUser = 0) :
    escalate.run threshold kernel =
      ⟨.ok (), threshold.logged (escalate.run (.upTo .trace) kernel).records, kernel⟩
  denied (threshold : Threshold) {kernel : Kernel} (ordinary : kernel.effectiveUser ≠ 0) :
    (∃ e, (escalate.run threshold kernel).value = .error e) ∧
      (escalate.run threshold kernel).output = []
  congr {kernel other : Kernel} (same : kernel.SameButInterruptions other)
    (threshold : Threshold) :
    (escalate.run threshold other).value = (escalate.run threshold kernel).value ∧
      (escalate.run threshold other).written = (escalate.run threshold kernel).written

/-- Two records and an answer leave no more than what is let through of the records. -/
theorem run_log_log {α : Type} (threshold : Threshold) (kernel : Kernel) (first second : Record)
    (x : α) :
    (do
      Action.log first
      Action.log second
      return x : Action α).run threshold kernel =
      ⟨x, threshold.logged [first, second], kernel⟩ := by
  have both := threshold.logged_append [first] [second]
  simp only [Action.run_bind, Action.run_log_eq, Action.run_pure, List.append_nil, ← both]
  rfl

/-- What taking up rights comes to, and the two records that it makes, for each kind of user. -/
theorem run_escalate (threshold : Threshold) (kernel : Kernel) :
    escalate.run threshold kernel =
      match kernel.privilege with
      | .root =>
          ⟨.ok (), threshold.logged [privilegeRecord .trace "Running as Root",
            privilegeRecord .trace "already running as Root"], kernel⟩
      | .setUser =>
          ⟨.ok (), threshold.logged [privilegeRecord .trace "Running as Suid",
            privilegeRecord .trace "setuid(0)"], kernel⟩
      | .ordinary =>
          ⟨.error (.os .noSuchFile), threshold.logged [privilegeRecord .trace "Running as User",
            privilegeRecord .debug "Escalating privileges"], kernel⟩ := by
  rw [escalate, Action.run_bind, Action.run_look]
  cases kernel.privilege <;> simp only [run_log_log, List.nil_append]

theorem escalates_escalate : Escalates escalate where
  granted threshold kernel rights := by
    by_cases user : kernel.user = 0 <;>
      simp only [run_escalate, Kernel.privilege, rights, user, if_true, if_false] <;> rfl
  denied threshold kernel ordinary := by
    simp only [run_escalate, Kernel.privilege, if_neg ordinary]
    exact ⟨⟨_, rfl⟩, threshold.logged_output _⟩
  congr same threshold := by
    simp only [run_escalate, Kernel.privilege, same.user, same.effectiveUser]
    split <;> exact ⟨rfl, rfl⟩

end Command

namespace Record

/-- Lines of a log that begin with the time of day, and so with a digit. -/
def Timed (line : Record → String) : Prop :=
  ∀ record, ∃ c, (line record).toList.head? = some c ∧ c.isDigit = true

theorem timed_line : Timed line :=
  fun record => ⟨'0', by simp [line], rfl⟩

end Record

end BlockExtent
