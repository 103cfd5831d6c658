/-
**The threads of a bounded executor** (`BoundedLspExecutor` of `lsp/executor.py`).

Callers submit work and cancel its futures, one worker runs it, and one caller of `close` drains the
queue. The counters are changed under the executor's lock, the queue under its own.

- `System`: the queue, the counters, every future that was created, and the places of the threads.
- `step`: one critical section of a thread, or one operation on the queue or on a future. `submit`
  has two steps, for the worker may take an item before its submitter has counted it.
- `Move`: the same, one case for each step with what it has found.
-/

import SerenaLight.Foundation.Run
import SerenaLight.Lsp.Executor

namespace SerenaLight.Lsp.ExecutorThreads

open Foundation

variable {Value Failure : Type}

/-! ### The state -/

/-- `_WorkItem`; its future by number. -/
structure WorkItem where
  future : Nat
  cleanup : Bool
  deriving DecidableEq, Repr

inductive Entry where
  | work (item : WorkItem)
  | stop
  deriving DecidableEq, Repr

def Entry.item? : Entry → Option WorkItem
  | work item => some item
  | stop => none

/-- Where the worker is in `_run`. -/
inductive Worker where
  /-- before `self._queue.get()` -/
  | waits
  /-- before the section that counts the item off -/
  | taken (item : WorkItem)
  /-- before `set_running_or_notify_cancel` -/
  | counted (item : WorkItem)
  /-- before the section that sets `_active` -/
  | started (item : WorkItem)
  /-- before `item.call()` -/
  | active (item : WorkItem)
  /-- in `item.call()` -/
  | calls (item : WorkItem)
  /-- before the section that clears `_active` -/
  | ended (item : WorkItem)
  | exited
  deriving DecidableEq, Repr

/-- Where the first caller of `close(cancel_queued=True)` is. -/
inductive Closer where
  | outside
  /-- before `self._queue.get_nowait()` -/
  | drains
  /-- before the section that counts the item off -/
  | taken (item : WorkItem)
  /-- before `item.future.cancel()` -/
  | counted (item : WorkItem)
  /-- before `self._queue.put(_STOP)` -/
  | stops
  /-- in `self._thread.join()` -/
  | joins
  deriving DecidableEq, Repr

structure System (Value Failure : Type) where
  queue : List Entry
  ordinaryQueued : Int
  cleanupQueued : Int
  active : Bool
  stopping : Bool
  /-- every future that was created, in the order of submission -/
  futures : List (Future Value Failure)
  /-- the item that a submitter has put and not yet counted; it holds the executor's lock -/
  submitting : Option WorkItem
  worker : Worker
  closer : Closer
  /-- the calls that were begun, by their futures -/
  log : List Nat

/-- `_CLEANUP_RESERVE`. -/
def cleanupReserve : Nat := 2

/-- The bound of the items of a kind. -/
def limit (capacity : Nat) (cleanup : Bool) : Nat := if cleanup then cleanupReserve else capacity

/-- The bound of the queue. -/
def maxsize (capacity : Nat) : Nat := capacity + cleanupReserve

namespace System

variable (system : System Value Failure)

def initial : System Value Failure where
  queue := []
  ordinaryQueued := 0
  cleanupQueued := 0
  active := false
  stopping := false
  futures := []
  submitting := none
  worker := .waits
  closer := .outside
  log := []

/-- The counter of the items of a kind. -/
def queuedOf (cleanup : Bool) : Int :=
  if cleanup then system.cleanupQueued else system.ordinaryQueued

/-- A counter is changed. -/
def addQueued (cleanup : Bool) (amount : Int) : System Value Failure :=
  if cleanup then { system with cleanupQueued := system.cleanupQueued + amount }
  else { system with ordinaryQueued := system.ordinaryQueued + amount }

/-- `submit` or `submit_cleanup` would put an item: nobody holds the lock, the executor is not
stopping, and the counter is below its bound. -/
def admits (capacity : Nat) (cleanup : Bool) : Bool :=
  system.submitting.isNone && !system.stopping &&
    decide (system.queuedOf cleanup < limit capacity cleanup)

/-- The first part of `submit` and `submit_cleanup`: the new item is put. -/
def put (cleanup : Bool) : System Value Failure :=
  let item : WorkItem := ⟨system.futures.length, cleanup⟩
  { system with
    queue := system.queue ++ [.work item]
    futures := system.futures ++ [.pending]
    submitting := some item }

/-- A future is changed. -/
def setFuture (index : Nat) (change : Future Value Failure → Future Value Failure) :
    System Value Failure :=
  { system with futures := system.futures.modify index change }

end System

/-! ### Steps -/

inductive Label (Value Failure : Type) where
  | put (cleanup : Bool)
  | count
  | cancel (index : Nat)
  /-- the worker -/
  | get
  | countOff
  | setRunning
  | activate
  | call
  | finish (result : Except Failure Value)
  | deactivate
  /-- the first caller of `close` -/
  | close
  | drain
  | drainCount
  | drainCancel
  | putStop

/-- `set_result` and `set_exception`. -/
def outcome : Except Failure Value → Future Value Failure
  | .ok value => .returned value
  | .error failure => .raised failure

/-- One step. A thread that needs the lock waits until it is free; `submit` raises and changes
nothing where it admits no item. -/
def step (capacity : Nat) (system : System Value Failure) :
    Label Value Failure → Option (System Value Failure)
  | .put cleanup =>
    if system.admits capacity cleanup then
      if system.queue.length < maxsize capacity then some (system.put cleanup) else none
    else none
  | .count =>
    match system.submitting with
    | some item => some { system.addQueued item.cleanup 1 with submitting := none }
    | none => none
  | .cancel index =>
    -- the caller has the future once `submit` has returned
    if system.submitting.map WorkItem.future = some index then none
    else some (system.setFuture index fun future => future.cancel.1)
  | .get =>
    match system.worker, system.queue with
    | .waits, .work item :: rest => some { system with queue := rest, worker := .taken item }
    | .waits, .stop :: rest => some { system with queue := rest, worker := .exited }
    | _, _ => none
  | .countOff =>
    match system.worker, system.submitting with
    | .taken item, none =>
      some { system.addQueued item.cleanup (-1) with worker := .counted item }
    | _, _ => none
  | .setRunning =>
    match system.worker with
    | .counted item =>
      match system.futures[item.future]?.bind Future.setRunning with
      | some begun =>
        some { system.setFuture item.future fun _ => begun with worker := .started item }
      | none => some { system with worker := .waits }
    | _ => none
  | .activate =>
    match system.worker, system.submitting with
    | .started item, none => some { system with active := true, worker := .active item }
    | _, _ => none
  | .call =>
    match system.worker with
    | .active item =>
      some { system with worker := .calls item, log := system.log ++ [item.future] }
    | _ => none
  | .finish result =>
    match system.worker with
    | .calls item =>
      some { system.setFuture item.future fun _ => outcome result with worker := .ended item }
    | _ => none
  | .deactivate =>
    match system.worker, system.submitting with
    | .ended _, none => some { system with active := false, worker := .waits }
    | _, _ => none
  | .close =>
    if system.submitting.isNone && !system.stopping then
      some { system with stopping := true, closer := .drains }
    else none
  | .drain =>
    match system.closer, system.queue with
    | .drains, [] => some { system with closer := .stops }
    | .drains, .work item :: rest => some { system with queue := rest, closer := .taken item }
    | .drains, .stop :: rest => some { system with queue := rest }
    | _, _ => none
  | .drainCount =>
    match system.closer, system.submitting with
    | .taken item, none =>
      some { system.addQueued item.cleanup (-1) with closer := .counted item }
    | _, _ => none
  | .drainCancel =>
    match system.closer with
    | .counted item =>
      some { system.setFuture item.future fun future => future.cancel.1 with closer := .drains }
    | _ => none
  | .putStop =>
    match system.closer with
    | .stops =>
      if system.queue.length < maxsize capacity then
        some { system with queue := system.queue ++ [.stop], closer := .joins }
      else none
    | _ => none

/-- **One step with what it has found.** -/
inductive Move (capacity : Nat) (system : System Value Failure) :
    Label Value Failure → System Value Failure → Prop
  | put (cleanup : Bool) (admitted : system.admits capacity cleanup = true)
      (room : system.queue.length < maxsize capacity) :
      Move capacity system (.put cleanup) (system.put cleanup)
  | count {item : WorkItem} (inside : system.submitting = some item) :
      Move capacity system .count { system.addQueued item.cleanup 1 with submitting := none }
  | cancel (index : Nat) :
      Move capacity system (.cancel index) (system.setFuture index fun future => future.cancel.1)
  | get {item : WorkItem} {rest : List Entry} (here : system.worker = .waits)
      (found : system.queue = .work item :: rest) :
      Move capacity system .get { system with queue := rest, worker := .taken item }
  | exit {rest : List Entry} (here : system.worker = .waits)
      (found : system.queue = .stop :: rest) :
      Move capacity system .get { system with queue := rest, worker := .exited }
  | countOff {item : WorkItem} (here : system.worker = .taken item)
      (free : system.submitting = none) :
      Move capacity system .countOff
        { system.addQueued item.cleanup (-1) with worker := .counted item }
  | setRunning {item : WorkItem} {begun : Future Value Failure}
      (here : system.worker = .counted item)
      (pending : system.futures[item.future]?.bind Future.setRunning = some begun) :
      Move capacity system .setRunning
        { system.setFuture item.future fun _ => begun with worker := .started item }
  | skip {item : WorkItem} (here : system.worker = .counted item)
      (cancelled : system.futures[item.future]?.bind Future.setRunning = none) :
      Move capacity system .setRunning { system with worker := .waits }
  | activate {item : WorkItem} (here : system.worker = .started item)
      (free : system.submitting = none) :
      Move capacity system .activate { system with active := true, worker := .active item }
  | call {item : WorkItem} (here : system.worker = .active item) :
      Move capacity system .call
        { system with worker := .calls item, log := system.log ++ [item.future] }
  | finish {item : WorkItem} (result : Except Failure Value) (here : system.worker = .calls item) :
      Move capacity system (.finish result)
        { system.setFuture item.future fun _ => outcome result with worker := .ended item }
  | deactivate {item : WorkItem} (here : system.worker = .ended item)
      (free : system.submitting = none) :
      Move capacity system .deactivate { system with active := false, worker := .waits }
  | close (free : system.submitting = none) (open_ : system.stopping = false) :
      Move capacity system .close { system with stopping := true, closer := .drains }
  | drained (here : system.closer = .drains) (empty : system.queue = []) :
      Move capacity system .drain { system with closer := .stops }
  | drain {item : WorkItem} {rest : List Entry} (here : system.closer = .drains)
      (found : system.queue = .work item :: rest) :
      Move capacity system .drain { system with queue := rest, closer := .taken item }
  | drainStop {rest : List Entry} (here : system.closer = .drains)
      (found : system.queue = .stop :: rest) :
      Move capacity system .drain { system with queue := rest }
  | drainCount {item : WorkItem} (here : system.closer = .taken item)
      (free : system.submitting = none) :
      Move capacity system .drainCount
        { system.addQueued item.cleanup (-1) with closer := .counted item }
  | drainCancel {item : WorkItem} (here : system.closer = .counted item) :
      Move capacity system .drainCancel
        { system.setFuture item.future fun future => future.cancel.1 with closer := .drains }
  | putStop (here : system.closer = .stops) (room : system.queue.length < maxsize capacity) :
      Move capacity system .putStop
        { system with queue := system.queue ++ [.stop], closer := .joins }

theorem move_of_step {capacity : Nat} {before after : System Value Failure}
    {label : Label Value Failure} (taken : step capacity before label = some after) :
    Move capacity before label after := by
  cases label with
  | put cleanup =>
    simp only [step] at taken
    split at taken
    · split at taken
      · cases taken
        exact .put cleanup ‹_› ‹_›
      · cases taken
    · cases taken
  | cancel index =>
    obtain ⟨-, ⟨⟩⟩ := Option.ite_none_left_eq_some.mp taken
    exact .cancel index
  | setRunning =>
    simp only [step] at taken
    split at taken
    · split at taken
      · cases taken
        exact .setRunning ‹_› ‹_›
      · cases taken
        exact .skip ‹_› ‹_›
    · cases taken
  | close =>
    obtain ⟨free, taken⟩ := Option.ite_none_right_eq_some.mp taken
    rw [Bool.and_eq_true, Option.isNone_iff_eq_none, Bool.not_eq_true'] at free
    cases taken
    exact .close free.1 free.2
  | putStop =>
    simp only [step] at taken
    split at taken
    · split at taken
      · cases taken
        exact .putStop ‹_› ‹_›
      · cases taken
    · cases taken
  | count | call | finish result | drainCancel =>
    simp only [step] at taken
    split at taken
    · cases taken
      first
        | exact .count ‹_›
        | exact .call ‹_›
        | exact .finish result ‹_›
        | exact .drainCancel ‹_›
    · cases taken
  | get | drain =>
    simp only [step] at taken
    split at taken <;> cases taken <;> first
      | exact .get ‹_› ‹_›
      | exact .exit ‹_› ‹_›
      | exact .drained ‹_› ‹_›
      | exact .drain ‹_› ‹_›
      | exact .drainStop ‹_› ‹_›
  | countOff | activate | deactivate | drainCount =>
    simp only [step] at taken
    split at taken
    · cases taken
      first
        | exact .countOff ‹_› ‹_›
        | exact .activate ‹_› ‹_›
        | exact .deactivate ‹_› ‹_›
        | exact .drainCount ‹_› ‹_›
    · cases taken

end SerenaLight.Lsp.ExecutorThreads
