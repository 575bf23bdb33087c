import BlockExtent.Proofs.Opening
import BlockExtent.Proofs.Replies
import BlockExtent.Session

/-!
# A step on a path simulates a step on its descriptor

A step that is given a path opens it, takes the same step on the descriptor that it got, and
closes that descriptor, whatever the step came to. A path that does not open fails with the number
that the kernel gave, and nothing is asked of any descriptor.
-/

namespace BlockExtent

namespace Call

/-- The bits of the flags of an opening that say what the descriptor may be used for; none of them
is set for reading only. -/
def accessMask : Nat := 0o3

/-- The flag of a descriptor that is not handed on to other programs. -/
def closeOnExec : Nat := 0o2000000

end Call

/-- A kernel that holds one object under one path. -/
def Kernel.naming (path : Bytes) (object : FileObject) : Kernel :=
  { objects := [object], paths := [(path, 0)] }

/-- What can be asked of a handle. -/
inductive Operation where
  | classify
  | deviceLength
  | inspect
  | inspectWith (options : Options)
  deriving DecidableEq

namespace Operation

/-- The step that asks something of a handle. -/
def on : Operation → Handle → Step
  | .classify, handle => .classify handle
  | .deviceLength, handle => .deviceLength handle
  | .inspect, handle => .inspect handle
  | .inspectWith options, handle => .inspectWith handle options

/-- What an operation finds out. -/
def Result : Operation → Type
  | .classify => DeviceKind
  | .deviceLength => UInt64
  | .inspect => Extent
  | .inspectWith _ => Extent

/-- The operation on a descriptor. -/
def body : (operation : Operation) → Int → Action (Except InspectError operation.Result)
  | .classify => Inspection.classify
  | .deviceLength => Inspection.deviceLength
  | .inspect => (Inspection.inspect · .standard)
  | .inspectWith options => (Inspection.inspect · options)

/-- The answer to a step, from what the operation came to. -/
def answer : (operation : Operation) → Except InspectError operation.Result → Answer
  | .classify => .kind
  | .deviceLength => .length
  | .inspect => .extent
  | .inspectWith _ => .extent

/-- The answer of an operation that failed. -/
def failed (operation : Operation) (e : InspectError) : Answer :=
  operation.answer (.error e)

theorem step_on (session : Session) (operation : Operation) (handle : Handle) :
    session.step (operation.on handle) =
      session.perform (handle.withDescriptor operation.body) operation.answer := by
  cases operation <;> rfl

/-- On a descriptor an operation makes no other requests than the two of an inspection. -/
theorem body_calls (operation : Operation) (n : Int) (threshold : Threshold) (kernel : Kernel)
    {call : Call} (made : call ∈ ((operation.body n).run threshold kernel).calls) :
    call = .status n ∨ call = .sizeRequest n Call.sizeRequestCode := by
  cases operation with
  | classify =>
      have only := Inspection.classify_calls threshold kernel n
      exact .inl (List.mem_singleton.mp (only ▸ made))
  | deviceLength =>
      have only := Inspection.deviceLength_calls threshold kernel n
      exact .inr (List.mem_singleton.mp (only ▸ made))
  | inspect => exact Inspection.mem_inspect_calls threshold kernel n made
  | inspectWith options => exact Inspection.mem_inspect_calls threshold kernel n made

end Operation

namespace Inspection

variable {α : Type} {kernel after : Kernel} {path : Bytes} {attempts : Nat}
variable (threshold : Threshold) (body : Int → Action (Except InspectError α))

theorem run_throughPath_of_null (null : 0 ∈ path) :
    (throughPath path body).run threshold kernel =
      ⟨.error (.opening path .nullInPath), [], kernel⟩ := by
  simp [throughPath, Action.run_openPath_of_null threshold null]

/-- An action through a path waits for the interruptions, makes the last attempt, and goes on where
that one got a descriptor. -/
theorem run_throughPath (noNull : 0 ∉ path) :
    (throughPath path body).run threshold kernel =
      let openings := List.replicate (kernel.interruptionsAt path + 1)
        (.call (.opening path Call.openFlags))
      match kernel.lastAttempt path with
      | (.error e, after) => ⟨.error (.opening path (.os e)), openings, after⟩
      | (.ok n, after) =>
          let inner := (body n).run threshold after
          ⟨inner.value, openings ++ (inner.events ++ [.call (.closing n)]),
            (inner.kernel.close n).2⟩ := by
  rcases last : kernel.lastAttempt path with ⟨answer, after⟩
  cases answer with
  | error e =>
      have passedOn : (Except.error e : Except Errno Int).mapError SystemError.os =
          .error (.os e) := rfl
      simp [throughPath, Action.run_openPath threshold noNull, last, passedOn]
  | ok n =>
      have passedOn : (Except.ok n : Except Errno Int).mapError SystemError.os = .ok n := rfl
      simp [throughPath, Action.run_openPath threshold noNull, last, passedOn]

theorem run_throughPath_of_error (noNull : 0 ∉ path) {e : Errno}
    (opens : kernel.Opens path attempts (.error e) after) :
    (throughPath path body).run threshold kernel =
      ⟨.error (.opening path (.os e)),
        List.replicate attempts (.call (.opening path Call.openFlags)),
        after⟩ := by
  obtain ⟨rfl, last⟩ := opens.eq_lastAttempt
  rw [run_throughPath threshold body noNull, last]

theorem run_throughPath_of_ok (noNull : 0 ∉ path) {n : Int}
    (opens : kernel.Opens path attempts (.ok n) after) :
    (throughPath path body).run threshold kernel =
      let inner := (body n).run threshold after
      ⟨inner.value,
        List.replicate attempts (.call (.opening path Call.openFlags)) ++
          (inner.events ++ [.call (.closing n)]),
        (inner.kernel.close n).2⟩ := by
  obtain ⟨rfl, last⟩ := opens.eq_lastAttempt
  rw [run_throughPath threshold body noNull, last]

end Inspection

namespace Session

variable {α : Type} {path : Bytes} {attempts : Nat} {after : Kernel}

section Perform

variable (session : Session) (body : Int → Action (Except InspectError α))
variable (wrap : Except InspectError α → Answer)

theorem perform_throughPath_of_null (null : 0 ∈ path) :
    session.perform (Inspection.throughPath path body) wrap =
      (⟨wrap (.error (.opening path .nullInPath)), [], []⟩, session) := by
  simp [perform, Inspection.run_throughPath_of_null session.threshold body null]

theorem perform_throughPath_of_error (noNull : 0 ∉ path) {e : Errno}
    (opens : session.kernel.Opens path attempts (.error e) after) :
    session.perform (Inspection.throughPath path body) wrap =
      (⟨wrap (.error (.opening path (.os e))), [],
          List.replicate attempts (.opening path Call.openFlags)⟩,
        { session with kernel := after }) := by
  simp [perform, Inspection.run_throughPath_of_error session.threshold body noNull opens,
    List.filterMap_replicate]

theorem perform_throughPath_of_ok (noNull : 0 ∉ path) {n : Int}
    (opens : session.kernel.Opens path attempts (.ok n) after) :
    session.perform (Inspection.throughPath path body) wrap =
      let inner := { session with kernel := after }.perform (body n) wrap
      (⟨inner.1.answer, inner.1.records,
          List.replicate attempts (.opening path Call.openFlags) ++ inner.1.calls ++ [.closing n]⟩,
        { inner.2 with kernel := (inner.2.kernel.close n).2 }) := by
  simp [perform, Inspection.run_throughPath_of_ok session.threshold body noNull opens,
    List.filterMap_replicate, Traced.calls, Traced.records]

end Perform

variable (session : Session) (operation : Operation) {handle : Handle}

theorem step_onPath_of_null (given : handle.OnPath path) (null : 0 ∈ path) :
    session.step (operation.on handle) =
      (⟨operation.failed (.opening path .nullInPath), [], []⟩, session) := by
  rw [Operation.step_on, given.withDescriptor_eq]
  exact perform_throughPath_of_null session _ _ null

theorem step_onPath_of_error (given : handle.OnPath path) (noNull : 0 ∉ path) {e : Errno}
    (opens : session.kernel.Opens path attempts (.error e) after) :
    session.step (operation.on handle) =
      (⟨operation.failed (.opening path (.os e)), [],
          List.replicate attempts (.opening path Call.openFlags)⟩,
        { session with kernel := after }) := by
  rw [Operation.step_on, given.withDescriptor_eq]
  exact perform_throughPath_of_error session _ _ noNull opens

theorem step_onPath_of_ok (given : handle.OnPath path) (noNull : 0 ∉ path) {n : Int}
    (opens : session.kernel.Opens path attempts (.ok n) after) :
    session.step (operation.on handle) =
      let inner := { session with kernel := after }.step (operation.on (.borrowed n))
      (⟨inner.1.answer, inner.1.records,
          List.replicate attempts (.opening path Call.openFlags) ++ inner.1.calls ++ [.closing n]⟩,
        { inner.2 with kernel := (inner.2.kernel.close n).2 }) := by
  rw [Operation.step_on, Operation.step_on, given.withDescriptor_eq]
  exact perform_throughPath_of_ok session _ _ noNull opens

/-- A step on a descriptor neither opens nor closes anything. -/
theorem step_onDescriptor_calls (n : Int) {call : Call}
    (made : call ∈ (session.step (operation.on (.borrowed n))).1.calls) :
    call = .status n ∨ call = .sizeRequest n Call.sizeRequestCode := by
  rw [Operation.step_on] at made
  exact operation.body_calls n session.threshold session.kernel made

/-- A step on a path opens the path attempt by attempt, takes the step on the descriptor that it
got and closes that descriptor once, also where the step fails. A path that does not open is named
in the failure with the number of the kernel; a path with a null byte never reaches the kernel. An
opening comes to an end; its flags say that it is for reading only, and that its descriptor is not
handed on. -/
theorem pathStep_eq_open_step_close (given : handle.OnPath path) :
    (0 ∈ path →
      session.step (operation.on handle) =
        (⟨operation.failed (.opening path .nullInPath), [], []⟩, session) ∧
      SystemError.nullInPath.kind = .invalidInput ∧ SystemError.nullInPath.errno? = none) ∧
    (0 ∉ path → ∀ attempts e after, session.kernel.Opens path attempts (.error e) after →
      session.step (operation.on handle) =
        (⟨operation.failed (.opening path (.os e)), [],
            List.replicate attempts (.opening path Call.openFlags)⟩,
          { session with kernel := after }) ∧
      (SystemError.os e).errno? = some e) ∧
    (0 ∉ path → ∀ attempts n after, session.kernel.Opens path attempts (.ok n) after →
      let inner := { session with kernel := after }.step (operation.on (.borrowed n))
      session.step (operation.on handle) =
        (⟨inner.1.answer, inner.1.records,
            List.replicate attempts (.opening path Call.openFlags) ++ inner.1.calls ++
              [.closing n]⟩,
          { inner.2 with kernel := (inner.2.kernel.close n).2 }) ∧
      ∀ call ∈ inner.1.calls, call = .status n ∨ call = .sizeRequest n Call.sizeRequestCode) ∧
    (∃ attempts answer after, session.kernel.Opens path attempts answer after) ∧
    Call.openFlags &&& Call.accessMask = 0 ∧
    Call.openFlags &&& Call.closeOnExec = Call.closeOnExec := by
  refine ⟨?_, ?_, ?_, ⟨_, _, _, session.kernel.opens_lastAttempt path⟩, by decide, by decide⟩
  · intro null
    exact ⟨step_onPath_of_null session operation given null, rfl, rfl⟩
  · intro noNull attempts e after opens
    exact ⟨step_onPath_of_error session operation given noNull opens, rfl⟩
  · intro noNull attempts n after opens inner
    refine ⟨step_onPath_of_ok session operation given noNull opens, ?_⟩
    intro call made
    exact step_onDescriptor_calls _ operation n made

/-- An inspection whose device refuses the size request, through a path that is no text and is
interrupted twice, still closes the descriptor that it got. -/
theorem pathStep_closes_after_failure :
    (Handle.path [0x2F, 0xFF]).OnPath [0x2F, 0xFF] ∧ 0 ∉ ([0x2F, 0xFF] : Bytes) ∧
    ((start (Kernel.naming [0x2F, 0xFF]
        { mode := 0o060660, sizeReply := .refused ⟨5⟩, interruptions := 2 })).step
          (Operation.inspect.on (.path [0x2F, 0xFF]))).1.calls =
      [.opening [0x2F, 0xFF] 0o2000000, .opening [0x2F, 0xFF] 0o2000000,
        .opening [0x2F, 0xFF] 0o2000000, .status 3, .sizeRequest 3 0x80081272, .closing 3] := by
  have given : (Handle.path [0x2F, 0xFF]).OnPath [0x2F, 0xFF] := .inl rfl
  have noNull : 0 ∉ ([0x2F, 0xFF] : Bytes) := by decide
  obtain ⟨-, -, opened, -⟩ := pathStep_eq_open_step_close (start (Kernel.naming [0x2F, 0xFF]
    { mode := 0o060660, sizeReply := .refused ⟨5⟩, interruptions := 2 })) .inspect given
  obtain ⟨entry, -⟩ := opened noNull 3 3 _ (Kernel.opens_lastAttempt _ _)
  refine ⟨given, noNull, ?_⟩
  rw [entry]
  rfl

end Session

end BlockExtent
