import BlockExtent.Kernel.State
import BlockExtent.Log
import BlockExtent.SystemError

/-!
# Actions on the kernel

An action asks the kernel, logs, and writes lines. It runs under a log threshold and on a kernel;
a run leaves its answer, the events in the order in which they happened, and the kernel.

## Implementation notes

The threshold decides where a record is made, so an action below the trace level makes fewer
events and not merely fewer lines. Requests by path that open nothing leave no event: only what
concerns descriptors is accounted for.
-/

namespace BlockExtent

/-- A request of the kernel that concerns a descriptor. -/
inductive Call where
  /-- An attempt to open a path, with the flags that say how. -/
  | opening (path : Bytes) (flags : Nat)
  | status (descriptor : Int)
  /-- A control request, which is told from others by its code. -/
  | sizeRequest (descriptor : Int) (code : Nat)
  | closing (descriptor : Int)
  deriving DecidableEq, Repr

namespace Call

/-- A path is opened for reading only, and its descriptor is not handed on to other programs. -/
def openFlags : Nat := 0o2000000

/-- The control request that asks a block device for its size in bytes. -/
def sizeRequestCode : Nat := 0x80081272

end Call

/-- What an action does that can be seen from outside. -/
inductive Event where
  | call (call : Call)
  | record (record : Record)
  /-- A line on the standard output. -/
  | output (line : String)
  /-- A line on the standard error output. -/
  | complaint (line : String)
  deriving DecidableEq, Repr

namespace Event

/-- The request that an event is, if any. -/
def call? : Event → Option Call
  | .call c => some c
  | _ => none

/-- The record that an event is, if any. -/
def record? : Event → Option Record
  | .record r => some r
  | _ => none

/-- The line of standard output that an event is, if any. -/
def output? : Event → Option String
  | .output line => some line
  | _ => none

/-- The line of the standard error output that an event shows as, if any: records and complaints
share that output. How a record is shown is up to the log. -/
def complaint? (line : Record → String) : Event → Option String
  | .record r => some (line r)
  | .complaint line => some line
  | _ => none

end Event

/-- The answer of an action, its events in order, and the kernel after it. -/
structure Traced (α : Type) where
  value : α
  events : List Event
  kernel : Kernel

namespace Traced

variable {α : Type}

/-- The requests of a run, in order. -/
def calls (run : Traced α) : List Call :=
  run.events.filterMap Event.call?

/-- The records of a run, in order. -/
def records (run : Traced α) : List Record :=
  run.events.filterMap Event.record?

end Traced

/-- A program that runs under a log threshold on a kernel. -/
structure Action (α : Type) where
  run : Threshold → Kernel → Traced α

namespace Action

variable {α β : Type}

instance : Monad Action where
  pure x := ⟨fun _ kernel => ⟨x, [], kernel⟩⟩
  bind action next := ⟨fun threshold kernel =>
    let first := action.run threshold kernel
    let second := (next first.value).run threshold first.kernel
    ⟨second.value, first.events ++ second.events, second.kernel⟩⟩

@[simp] theorem run_pure (x : α) (threshold : Threshold) (kernel : Kernel) :
    (pure x : Action α).run threshold kernel = ⟨x, [], kernel⟩ := rfl

@[simp] theorem run_bind (action : Action α) (next : α → Action β) (threshold : Threshold)
    (kernel : Kernel) :
    (action >>= next).run threshold kernel =
      let first := action.run threshold kernel
      let second := (next first.value).run threshold first.kernel
      ⟨second.value, first.events ++ second.events, second.kernel⟩ := rfl

/-- Do nothing but let an event be seen. -/
def tell (event : Event) : Action Unit :=
  ⟨fun _ kernel => ⟨(), [event], kernel⟩⟩

/-- Write a line to the standard output. -/
def output (line : String) : Action Unit :=
  tell (.output line)

/-- Write a line to the standard error output. -/
def complain (line : String) : Action Unit :=
  tell (.complaint line)

/-- Make a record if the threshold admits its level. -/
def log (record : Record) : Action Unit :=
  ⟨fun threshold kernel =>
    ⟨(), if threshold.admits record.level then [.record record] else [], kernel⟩⟩

/-- Read from the kernel without an event. -/
def look (f : Kernel → α) : Action α :=
  ⟨fun _ kernel => ⟨f kernel, [], kernel⟩⟩

/-- Ask for the status of a descriptor. -/
def status (descriptor : Int) : Action (Except Errno FileStatus) :=
  ⟨fun _ kernel => ⟨kernel.status descriptor, [.call (.status descriptor)], kernel⟩⟩

/-- Ask the object behind a descriptor for its size as a block device. -/
def sizeRequest (descriptor : Int) : Action SizeReply :=
  ⟨fun _ kernel =>
    ⟨kernel.sizeReply descriptor, [.call (.sizeRequest descriptor Call.sizeRequestCode)], kernel⟩⟩

/-- Try once to open a path. -/
def attemptOpen (path : Bytes) : Action (Except Errno Int) :=
  ⟨fun _ kernel =>
    ⟨(kernel.attemptOpen path).1, [.call (.opening path Call.openFlags)],
      (kernel.attemptOpen path).2⟩⟩

/-- Close a descriptor, whatever the kernel answers. -/
def close (descriptor : Int) : Action Unit :=
  ⟨fun _ kernel => ⟨(), [.call (.closing descriptor)], (kernel.close descriptor).2⟩⟩

/-- Try to open a path, and again after each interruption, at most `retries` times. -/
def openRetrying (path : Bytes) : (retries : Nat) → Action (Except Errno Int)
  | 0 => attemptOpen path
  | retries + 1 => do
      match ← attemptOpen path with
      | .ok descriptor => return .ok descriptor
      | .error e => if e = .interrupted then openRetrying path retries else return .error e

/-- Open a path for reading. A path with a null byte is refused without asking the kernel; an
interrupted attempt is repeated until none is left to be interrupted. -/
def openPath (path : Bytes) : Action (Except SystemError Int) :=
  if path.contains 0 then pure (.error .nullInPath)
  else do
    let retries ← look (·.interruptionsAt path)
    return (← openRetrying path retries).mapError .os

section Run

variable (threshold : Threshold) (kernel : Kernel)

@[simp] theorem run_output (line : String) :
    (output line).run threshold kernel = ⟨(), [.output line], kernel⟩ := rfl

@[simp] theorem run_complain (line : String) :
    (complain line).run threshold kernel = ⟨(), [.complaint line], kernel⟩ := rfl

@[simp] theorem run_log (record : Record) :
    (log record).run threshold kernel =
      ⟨(), if threshold.admits record.level then [.record record] else [], kernel⟩ := rfl

@[simp] theorem run_look (f : Kernel → α) :
    (look f).run threshold kernel = ⟨f kernel, [], kernel⟩ := rfl

@[simp] theorem run_status (descriptor : Int) :
    (status descriptor).run threshold kernel =
      ⟨kernel.status descriptor, [.call (.status descriptor)], kernel⟩ := rfl

@[simp] theorem run_sizeRequest (descriptor : Int) :
    (sizeRequest descriptor).run threshold kernel =
      ⟨kernel.sizeReply descriptor, [.call (.sizeRequest descriptor Call.sizeRequestCode)],
        kernel⟩ := rfl

@[simp] theorem run_attemptOpen (path : Bytes) :
    (attemptOpen path).run threshold kernel =
      ⟨(kernel.attemptOpen path).1, [.call (.opening path Call.openFlags)],
        (kernel.attemptOpen path).2⟩ := rfl

@[simp] theorem run_close (descriptor : Int) :
    (close descriptor).run threshold kernel =
      ⟨(), [.call (.closing descriptor)], (kernel.close descriptor).2⟩ := rfl

end Run

end Action

end BlockExtent
