/-
**The workspace daemon service.**

`WorkspaceDaemonService` of `daemon/service.py`, as coroutines on one event loop: the stores behind
the binding lock (`Stores`), and behind the stop lock the pending runtimes, the batch that is being
stopped and the coroutines that wait (`StopState`).

* `Service.step` is one step: a coroutine starts or resumes and runs to its next suspension, a
  worker thread finishes, or a task is cancelled.
* `Service.Quiescent`: no coroutine and no worker thread is in progress.
-/

import SerenaLight.Daemon.Stores

namespace SerenaLight.Daemon

open Foundation Workspace

variable {Identity Time : Type}

/-! ### The stop lock -/

section Stops

variable (Identity Time)

/-- A `_stop_runtimes` call: its coroutine, its own targets and what to answer afterwards. -/
structure StopCall where
  task : Task
  targets : List RuntimeId
  finish : Finish Identity Time

/-- The batch that the holder of the stop lock gathers. -/
structure StopBatch where
  call : StopCall Identity Time
  pending : List RuntimeId
  results : List (RuntimeId × Bool)

/-- How one coroutine ended: its answer, the decision it reports on, the runtimes its critical
section detached, and the pending and the stopped runtimes when it returned. -/
structure Returned where
  task : Task
  answer : Answer Identity Time
  decision : Option (LeaseLifecycleDecision Identity RuntimeId Time)
  detached : List RuntimeId
  pending : List RuntimeId
  stopped : List RuntimeId

/-- `_pending_runtime_stops` and the stop lock. `stopped` records the stopper calls that returned
without raising, `returned` the coroutines that ended. -/
structure StopState where
  pending : List RuntimeId
  holder : Option (StopBatch Identity Time)
  waiters : List (StopCall Identity Time)
  stopped : List RuntimeId
  returned : List (Returned Identity Time)

end Stops

/-- The stopper of `runtime` raised. -/
def StopBatch.failed (batch : StopBatch Identity Time) (runtime : RuntimeId) : Bool :=
  decide ((runtime, false) ∈ batch.results)

namespace StopState

/-- Nothing to stop. -/
def init : StopState Identity Time :=
  { pending := [], holder := none, waiters := [], stopped := [], returned := [] }

/-- A coroutine returns without stopping anything. -/
def answer (task : Task) (answer : Answer Identity Time) (self : StopState Identity Time) :
    StopState Identity Time :=
  { self with
    returned :=
      ⟨task, answer, none, [], self.pending, self.stopped⟩ :: self.returned }

/-- A `_stop_runtimes` call returns `confirmed`, and its coroutine answers. -/
def conclude (call : StopCall Identity Time) (confirmed : Bool) (self : StopState Identity Time) :
    StopState Identity Time :=
  { self with
    returned := ⟨call.task, call.finish.answer confirmed, call.finish.decision, call.targets,
      self.pending, self.stopped⟩ :: self.returned }

/-- `self._pending_runtime_stops.setdefault(id(runtime), runtime)` for each target. -/
def addPending (pending : List RuntimeId) (targets : List RuntimeId) : List RuntimeId :=
  targets.foldl (fun pending target =>
    if target ∈ pending then pending else pending ++ [target]) pending

/-- Inside the stop lock: queue the targets, and gather the stopper calls unless there are none. -/
def begin (call : StopCall Identity Time) (self : StopState Identity Time) :
    StopState Identity Time :=
  let pending := addPending self.pending call.targets
  if pending = [] then conclude call true { self with pending }
  else { self with pending, holder := some { call, pending, results := [] } }

/-- `_stop_runtimes`: at once if the stop lock is free and nobody waits. -/
def stopRuntimes (call : StopCall Identity Time) (self : StopState Identity Time) :
    StopState Identity Time :=
  if self.holder.isNone && self.waiters.isEmpty then begin call self
  else { self with waiters := self.waiters ++ [call] }

/-- The released stop lock goes to its first waiter. -/
def grant (self : StopState Identity Time) : Option (StopState Identity Time) :=
  match self.holder, self.waiters with
  | none, call :: rest => some (begin call { self with waiters := rest })
  | _, _ => none

/-- A stopper thread of the batch returns, or raises. -/
def stopperReturned (runtime : RuntimeId) (ok : Bool) (self : StopState Identity Time) :
    Option (StopState Identity Time) :=
  match self.holder with
  | some batch =>
    if runtime ∈ batch.pending ∧ runtime ∉ batch.results.map Prod.fst then
      some { self with
        holder := some { batch with results := batch.results ++ [(runtime, ok)] }
        stopped := if ok then runtime :: self.stopped else self.stopped }
    else none
  | none => none

/-- All stopper threads are done: the coroutine keeps the failed runtimes pending and returns
whether its own targets are stopped. -/
def resume (self : StopState Identity Time) : Option (StopState Identity Time) :=
  match self.holder with
  | some batch =>
    if batch.pending.all fun runtime => runtime ∈ batch.results.map Prod.fst then
      some (conclude batch.call (batch.call.targets.all fun target => !batch.failed target)
        { self with
          holder := none
          pending := self.pending.filter fun runtime =>
            runtime ∉ batch.pending ∨ batch.failed runtime })
    else none
  | none => none

/-- The coroutine that gathers is cancelled: nothing leaves the pending set. -/
def cancelHolder (self : StopState Identity Time) : Option (StopState Identity Time) :=
  match self.holder with
  | some batch => some (answer batch.call.task .cancelled { self with holder := none })
  | none => none

/-- A coroutine that waits for the stop lock is cancelled. -/
def cancelWaiting (task : Task) (self : StopState Identity Time) :
    Option (StopState Identity Time) :=
  if task ∈ self.waiters.map StopCall.task then
    some (answer task .cancelled
      { self with waiters := self.waiters.filter fun call => call.task ≠ task })
  else none

end StopState

/-! ### The service -/

/-- A call of a coroutine; `none` is a lease id that is no UUID (`_lease_uuid`). -/
inductive Call where
  | acquireLease
  | heartbeat (leaseId : Option Uuid)
  | bindingFor (leaseId : Option Uuid)
  | activateWorkspace (leaseId : Option Uuid) (absolute : Bool)
  | releaseLease (leaseId : Option Uuid) (immediate : Bool)
  | releaseWorkspace (leaseId : Option Uuid) (immediate : Bool)
  | sweep
  deriving DecidableEq

/-- A step of the service. -/
inductive Label (Identity Time : Type) where
  | spawn (call : Call) (now : Time)
  | resolved (task : Task) (outcome : Except Fault (ResolvedWorkspace Identity)) (now : Time)
  | stores (label : StoresLabel Identity Time)
  | stopperReturned (runtime : RuntimeId) (ok : Bool)
  | resumeStop
  | grantStop
  | cancelResolving (task : Task)
  | cancelStop
  | cancelStopWaiting (task : Task)

/-- The step cancels a task. -/
def Label.cancels : Label Identity Time → Bool
  | .stores label => label.cancels
  | .cancelResolving _ => true
  | .cancelStop => true
  | .cancelStopWaiting _ => true
  | _ => false

/-- The service: its stores, its stops, the activations that resolve their path, and the last
reading of the clock. -/
structure Service (Identity Time : Type) where
  stores : Stores Identity Time
  stops : StopState Identity Time
  resolving : List (Task × Uuid)
  nextTask : Task
  clock : Option Time

namespace Service

variable [DecidableEq Identity] [LinearOrder Time] [Add Time] [Zero Time]

/-- A new service. -/
def init : Service Identity Time :=
  { stores := .init, stops := .init, resolving := [], nextTask := 0, clock := none }

/-- `daemon_idle`. -/
def daemonIdle (self : Service Identity Time) : Bool :=
  self.stores.lifecycle.daemonIdle && self.stops.pending.isEmpty

/-- A step on the stores, then what its coroutine does next. -/
def feed (self : Service Identity Time)
    (outcome : Option (Stores Identity Time × Effect Identity Time)) :
    Option (Service Identity Time) :=
  match outcome with
  | none => none
  | some (stores, .silent) => some { self with stores }
  | some (stores, .answers task answer) =>
    some { self with stores, stops := self.stops.answer task answer }
  | some (stores, .stops task targets finish) =>
    some { self with stores, stops := self.stops.stopRuntimes ⟨task, targets, finish⟩ }

/-- The clock readings of a step. -/
def Label.now : Label Identity Time → Option Time
  | .spawn _ now => some now
  | .resolved _ _ now => some now
  | .stores (.acquireLease _ now) => some now
  | .stores (.check _ _ _ now) => some now
  | .stores (.enter _ _ now) => some now
  | .stores (.grantBinding now) => some now
  | .stores (.resumeRefreshed _ now) => some now
  | .stores (.resumeCommitted now) => some now
  | _ => none

/-- A coroutine starts and runs to its first suspension. -/
def spawn (settings : LeaseSettings Time) (self : Service Identity Time) (call : Call)
    (now : Time) : Option (Service Identity Time) :=
  let task := self.nextTask
  let self := { self with nextTask := task + 1 }
  let expired := some { self with stops := self.stops.answer task .leaseExpired }
  match call with
  | .acquireLease => self.feed (self.stores.step settings (.acquireLease task now))
  | .heartbeat (some leaseId) =>
    self.feed (self.stores.step settings (.check task .heartbeat leaseId now))
  | .bindingFor (some leaseId) =>
    self.feed (self.stores.step settings (.check task .bindingFor leaseId now))
  | .activateWorkspace (some leaseId) absolute =>
    if absolute then some { self with resolving := self.resolving ++ [(task, leaseId)] }
    else some { self with stops := self.stops.answer task (.error .invalidPath) }
  | .releaseLease (some leaseId) immediate =>
    self.feed (self.stores.step settings (.enter task (.releaseLease leaseId immediate) now))
  | .releaseWorkspace (some leaseId) immediate =>
    self.feed (self.stores.step settings (.enter task (.releaseWorkspace leaseId immediate) now))
  | .sweep => self.feed (self.stores.step settings (.enter task .sweep now))
  | .heartbeat none => expired
  | .bindingFor none => expired
  | .activateWorkspace none _ => expired
  | .releaseLease none _ => expired
  | .releaseWorkspace none _ => expired

/-- The labels of `Stores` that the loop or a worker thread may take by itself. -/
def scheduled : StoresLabel Identity Time → Bool
  | .acquireLease .. => false
  | .check .. => false
  | .enter .. => false
  | _ => true

/-- One step, without the clock. -/
def advance (settings : LeaseSettings Time) (self : Service Identity Time) :
    Label Identity Time → Option (Service Identity Time)
  | .spawn call now => self.spawn settings call now
  | .resolved task outcome now =>
    match self.resolving.find? fun waiting => waiting.1 = task with
    | none => none
    | some (_, leaseId) =>
      let self := { self with
        resolving := self.resolving.filter fun waiting => waiting.1 ≠ task }
      match outcome with
      | .error fault =>
        some { self with stops := self.stops.answer task (.error (activationError fault)) }
      | .ok resolved =>
        self.feed (self.stores.step settings (.enter task (.activate leaseId resolved) now))
  | .stores label =>
    if scheduled label then self.feed (self.stores.step settings label) else none
  | .stopperReturned runtime ok =>
    (self.stops.stopperReturned runtime ok).map fun stops => { self with stops }
  | .resumeStop => self.stops.resume.map fun stops => { self with stops }
  | .grantStop => self.stops.grant.map fun stops => { self with stops }
  | .cancelResolving task =>
    if task ∈ self.resolving.map Prod.fst then
      some { self with
        resolving := self.resolving.filter fun waiting => waiting.1 ≠ task
        stops := self.stops.answer task .cancelled }
    else none
  | .cancelStop => self.stops.cancelHolder.map fun stops => { self with stops }
  | .cancelStopWaiting task => (self.stops.cancelWaiting task).map fun stops => { self with stops }

/-- **One step of the service**, on a clock that does not go back. -/
def step (settings : LeaseSettings Time) (self : Service Identity Time)
    (label : Label Identity Time) : Option (Service Identity Time) :=
  match Label.now label with
  | none => self.advance settings label
  | some now =>
    if self.clock.all fun last => decide (last ≤ now) then
      ({ self with clock := some now } : Service Identity Time).advance settings label
    else none

/-- No coroutine is in progress, and no worker thread. -/
def Quiescent (self : Service Identity Time) : Prop :=
  self.resolving.isEmpty ∧ self.stores.holder.isNone ∧ self.stores.waiters.isEmpty ∧
    self.stores.orphans.isEmpty ∧ self.stops.holder.isNone ∧ self.stops.waiters.isEmpty

instance (self : Service Identity Time) : Decidable self.Quiescent :=
  inferInstanceAs (Decidable (_ ∧ _))

end Service

end SerenaLight.Daemon
