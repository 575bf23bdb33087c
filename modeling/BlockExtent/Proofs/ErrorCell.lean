import BlockExtent.Proofs.EntryPointRefinement
import BlockExtent.Proofs.Inquiries

/-!
# The error cell of a caller

An entry point leaves the error cell of its caller as it is where it answers, and fills it where it
fails: with the number of the request, as the kernel gave it, or with the overflow number where a
length was answered that does not fit. So after any queries the cell holds the number of the last
one that failed.

## Implementation notes

The kernel may change between two queries of a caller, so each query is paired with the kernel of
its moment. What else fills the cell in between is not looked at.
-/

namespace BlockExtent.EntryPoint

/-- What a caller asks an entry point. -/
inductive Query where
  | kind (descriptor : Int)
  | size (descriptor : Int)

namespace Query

/-- Ask while the error cell holds a number. -/
def ask : Query → Errno → Action Return
  | .kind n, errno => isBlockDevice n errno
  | .size n, errno => blockDeviceLength n errno

/-- The number with which a query fails on a kernel, if it fails: that of the request, or the
overflow number for a length that does not fit. -/
def failure? (kernel : Kernel) : Query → Option Errno
  | .kind n =>
      match kernel.status n with
      | .ok _ => none
      | .error e => some e
  | .size n =>
      match kernel.sizeReply n with
      | .answered _ stored _ => if lengthLimit ≤ (stored.getD 0).toNat then some .overflow else none
      | .refused e => some e

section Failures

variable {kernel : Kernel} {n : Int} {e : Errno}

theorem failure_kind_iff : failure? kernel (.kind n) = some e ↔ kernel.status n = .error e := by
  rw [failure?]
  cases kernel.status n <;> simp

theorem failure_of_leaves {length : UInt64} (left : (kernel.sizeReply n).Leaves length) :
    failure? kernel (.size n) = if lengthLimit ≤ length.toNat then some .overflow else none := by
  obtain ⟨code, stored, accepted, reply, rfl⟩ := left
  rw [failure?, reply]

theorem failure_size_iff :
    failure? kernel (.size n) = some e ↔
      kernel.sizeReply n = .refused e ∨
        e = .overflow ∧ ∃ length, (kernel.sizeReply n).Leaves length ∧
          lengthLimit ≤ length.toNat := by
  rw [failure?]
  cases kernel.sizeReply n with
  | refused e' => simp [SizeReply.Leaves]
  | answered code stored accepted =>
      by_cases above : lengthLimit ≤ (stored.getD 0).toNat <;>
        simp [SizeReply.Leaves, accepted, above, eq_comm]

end Failures

section Ask

variable (threshold : Threshold) (kernel : Kernel) (errno : Errno) (query : Query)

/-- A query answers and leaves the cell as it is, or it fails and fills the cell. -/
theorem ask_cases :
    let left := ((query.ask errno).run threshold kernel).value
    (query.failure? kernel = none ∧ 0 ≤ left.code ∧ left.errno = errno) ∨
      ∃ e, query.failure? kernel = some e ∧ left.code = failed ∧ left.errno = e := by
  cases query with
  | kind n =>
      simp only [ask, (isBlockDevice_comesTo kernel n errno).value, failure?]
      cases kernel.status n with
      | error e => exact .inr ⟨e, rfl, rfl, rfl⟩
      | ok status =>
          refine .inl ⟨rfl, ?_, rfl⟩
          cases kind : DeviceKind.ofMode status.mode <;> simp [kindReturn, classifyCode, kind]
  | size n =>
      simp only [ask, (blockDeviceLength_comesTo kernel n errno).value, failure?]
      cases kernel.sizeReply n with
      | refused e => exact .inr ⟨e, rfl, rfl, rfl⟩
      | answered code stored accepted =>
          by_cases above : lengthLimit ≤ (stored.getD 0).toNat
          · exact .inr ⟨.overflow, by simp [lengthReturn, above]⟩
          · exact .inl (by simp [lengthReturn, above])

theorem ask_errno :
    ((query.ask errno).run threshold kernel).value.errno = (query.failure? kernel).getD errno := by
  obtain ⟨answers, -, left⟩ | ⟨e, fails, -, left⟩ := ask_cases threshold kernel errno query
  · rw [left, answers, Option.getD_none]
  · rw [left, fails, Option.getD_some]

/-- Every code is that of failure or not negative. -/
theorem code_cases :
    ((query.ask errno).run threshold kernel).value.code = failed ∨
      0 ≤ ((query.ask errno).run threshold kernel).value.code := by
  obtain ⟨-, nonneg, -⟩ | ⟨e, -, sentinel, -⟩ := ask_cases threshold kernel errno query
  · exact .inr nonneg
  · exact .inl sentinel

variable {threshold kernel errno}

theorem failure_of_code
    (sentinel : ((query.ask errno).run threshold kernel).value.code = failed) :
    query.failure? kernel = some ((query.ask errno).run threshold kernel).value.errno := by
  obtain ⟨-, nonneg, -⟩ | ⟨e, fails, -, left⟩ := ask_cases threshold kernel errno query
  · rw [sentinel] at nonneg
    exact absurd nonneg (by decide)
  · rw [fails, left]

theorem errno_of_code_nonneg
    (nonneg : 0 ≤ ((query.ask errno).run threshold kernel).value.code) :
    ((query.ask errno).run threshold kernel).value.errno = errno := by
  obtain ⟨-, -, left⟩ | ⟨e, -, sentinel, -⟩ := ask_cases threshold kernel errno query
  · exact left
  · rw [sentinel] at nonneg
    exact absurd nonneg (by decide)

end Ask

end Query

/-- The error cell after queries one after the other, each on the kernel of its moment. -/
def cellAfter (threshold : Threshold) (errno : Errno) (queries : List (Kernel × Query)) : Errno :=
  queries.foldl (fun cell q => ((q.2.ask cell).run threshold q.1).value.errno) errno

/-- The cell holds the last number that a query left there, or what it held at first. -/
theorem cellAfter_eq (threshold : Threshold) (errno : Errno) (queries : List (Kernel × Query)) :
    cellAfter threshold errno queries =
      (queries.filterMap fun q => q.2.failure? q.1).getLastD errno := by
  induction queries generalizing errno with
  | nil => rfl
  | cons q rest ih =>
      have next : cellAfter threshold errno (q :: rest) =
          cellAfter threshold ((q.2.failure? q.1).getD errno) rest := by
        rw [cellAfter, List.foldl_cons, Query.ask_errno]
        rfl
      rw [next, ih]
      cases failed : q.2.failure? q.1 with
      | none => simp only [List.filterMap_cons, failed, Option.getD_none]
      | some e => simp only [List.filterMap_cons, failed, Option.getD_some, List.getLastD_cons]

/-- On every kernel, for every number of a descriptor and whatever the error cell holds, a status
request that succeeds leaves the cell alone, and so does a size request that stores a length below
2⁶³. A longer length leaves the overflow number, and a request that fails leaves the number with
which it failed, be it recognised or not. So an entry point that returns -1 has left the number of
its own request or the overflow number, and one that returns anything else has left the cell as it
was. After queries one after the other the cell holds the number of the last one that failed, or
what it held before all of them. -/
theorem errno_of_last_failure (threshold : Threshold) (kernel : Kernel) (descriptor : Int)
    (errno : Errno) :
    let isBlock := ((isBlockDevice descriptor errno).run threshold kernel).value
    let size := ((blockDeviceLength descriptor errno).run threshold kernel).value
    ((∀ status, kernel.status descriptor = .ok status → isBlock.errno = errno) ∧
      (∀ e, kernel.status descriptor = .error e → isBlock.errno = e)) ∧
    ((∀ n, (kernel.sizeReply descriptor).Leaves n →
        size.errno = if n.toNat < 0x8000000000000000 then errno else ⟨75⟩) ∧
      (∀ e, kernel.sizeReply descriptor = .refused e → size.errno = e)) ∧
    ((isBlock.code = -1 → kernel.status descriptor = .error isBlock.errno) ∧
      (size.code = -1 →
        kernel.sizeReply descriptor = .refused size.errno ∨
          size.errno = ⟨75⟩ ∧ ∃ n, (kernel.sizeReply descriptor).Leaves n ∧
            0x8000000000000000 ≤ n.toNat)) ∧
    ((isBlock.code = -1 ∨ 0 ≤ isBlock.code) ∧ (0 ≤ isBlock.code → isBlock.errno = errno) ∧
      (size.code = -1 ∨ 0 ≤ size.code) ∧ (0 ≤ size.code → size.errno = errno)) ∧
    ∀ queries, cellAfter threshold errno queries =
      (queries.filterMap fun q => q.2.failure? q.1).getLastD errno := by
  intro isBlock size
  have kindCell : isBlock.errno = _ := Query.ask_errno threshold kernel errno (.kind descriptor)
  have sizeCell : size.errno = _ := Query.ask_errno threshold kernel errno (.size descriptor)
  refine ⟨⟨?_, ?_⟩, ⟨?_, ?_⟩, ⟨?_, ?_⟩, ⟨?_, ?_, ?_, ?_⟩, cellAfter_eq threshold errno⟩
  · intro status found
    simp [kindCell, Query.failure?, found]
  · intro e failed
    rw [kindCell, Query.failure_kind_iff.mpr failed, Option.getD_some]
  · intro n stored
    rw [sizeCell, Query.failure_of_leaves stored]
    by_cases fits : n.toNat < 0x8000000000000000
    · have below : ¬ lengthLimit ≤ n.toNat := Nat.not_le.mpr fits
      rw [if_neg below, if_pos fits, Option.getD_none]
    · have above : lengthLimit ≤ n.toNat := Nat.not_lt.mp fits
      rw [if_pos above, if_neg fits, Option.getD_some]
      rfl
  · intro e refused
    rw [sizeCell, Query.failure_size_iff.mpr (.inl refused), Option.getD_some]
  · intro sentinel
    exact Query.failure_kind_iff.mp (Query.failure_of_code (.kind descriptor) sentinel)
  · intro sentinel
    exact Query.failure_size_iff.mp (Query.failure_of_code (.size descriptor) sentinel)
  · exact Query.code_cases threshold kernel errno (.kind descriptor)
  · exact Query.errno_of_code_nonneg (.kind descriptor)
  · exact Query.code_cases threshold kernel errno (.size descriptor)
  · exact Query.errno_of_code_nonneg (.size descriptor)

/-- A driver refuses with a number that is not recognised. The kind is answered after that, and the
number is still there. -/
example :
    let device : FileObject := { mode := 0o060660, sizeReply := .refused ⟨524⟩ }
    let kernel : Kernel := { objects := [device], descriptors := [(3, 0)] }
    cellAfter .off ⟨7⟩ [(kernel, .kind 4), (kernel, .size 3), (kernel, .kind 3)] = ⟨524⟩ := by
  decide

end BlockExtent.EntryPoint
