/-
**The stores of the workspace daemon service.**

The part of `WorkspaceDaemonService` (`daemon/service.py`) that its binding lock guards, and what
bypasses the lock: the lifecycle, the registry, the activation that holds the lock across its
awaits, and the coroutines that wait for it.

A coroutine runs without interruption between two suspension points, so a step is one such piece,
or a worker thread's call on the registry. `asyncio.Lock` serves its waiters in order, and a lock
without holder and waiters is taken without suspension (`Stores.enter`). A step says what its
coroutine does next (`Effect`): it answers, or goes on to stop the runtimes it detached.

`get_runtime_status` and the semantic operations enter through the same lease check as
`binding_for`, and touch neither store after it.
-/

import SerenaLight.Daemon.Leases

namespace SerenaLight.Daemon

open Foundation Workspace

/-- A coroutine. -/
abbrev Task := Nat

/-- A runtime object, by its identity. -/
abbrev RuntimeId := Nat

/-! ### Activation errors -/

/-- The public error vocabulary. -/
inductive ErrorCode where
  | invalidPath | untrustedRoot | invalidInput | outOfWorkspace | scopeIncompatible | notReady
  | unsupported | symbolNotFound | ambiguousSymbol | staleHash | readOnlyRoot | leaseExpired
  | busy | timedOut | cooldown | uncertain
  deriving DecidableEq, Repr

/-- `WorkspaceErrorCode`. -/
inductive WorkspaceErrorCode where
  | invalidPath | untrustedRoot | outOfWorkspace | readOnlyRoot
  deriving DecidableEq, Repr

/-- `RuntimeErrorCode`. -/
inductive RuntimeErrorCode where
  | busy | scopeIncompatible | notReady | timedOut | unsupported | stopped
  deriving DecidableEq, Repr

/-- `AdapterErrorCode`. -/
inductive AdapterErrorCode where
  | notReady | scopeIncompatible | cooldown
  deriving DecidableEq, Repr

/-- What the resolver, the runtime factory or a refresh raises. -/
inductive Fault where
  | workspaceError (code : WorkspaceErrorCode)
  | workspaceRuntimeError (code : RuntimeErrorCode)
  | executorBusy
  | adapterError (code : AdapterErrorCode)
  | timeout
  | other
  deriving DecidableEq, Repr

/-- `_activation_error`; a runtime code outside the public vocabulary is `UNSUPPORTED`. -/
def activationError : Fault → ErrorCode
  | .workspaceError .invalidPath => .invalidPath
  | .workspaceError .untrustedRoot => .untrustedRoot
  | .workspaceError .outOfWorkspace => .outOfWorkspace
  | .workspaceError .readOnlyRoot => .readOnlyRoot
  | .workspaceRuntimeError .busy => .busy
  | .workspaceRuntimeError .scopeIncompatible => .scopeIncompatible
  | .workspaceRuntimeError .notReady => .notReady
  | .workspaceRuntimeError .timedOut => .timedOut
  | .workspaceRuntimeError .unsupported => .unsupported
  | .workspaceRuntimeError .stopped => .unsupported
  | .executorBusy => .busy
  | .adapterError .notReady => .notReady
  | .adapterError .scopeIncompatible => .scopeIncompatible
  | .adapterError .cooldown => .cooldown
  | .timeout => .timedOut
  | .other => .uncertain

/-- The fault behind an exception of the registry; its own errors are not typed. -/
def registryFault : RegistryRaise Fault → Fault
  | .factory fault => fault
  | .keyError => .other
  | .runtimeError _ => .other

section Types

variable (Identity Time : Type)

abbrev Binding := WorkspaceBinding Identity RuntimeId
abbrev Prepared := PreparedWorkspaceActivation Identity RuntimeId Uuid
abbrev Registry := WorkspaceRuntimeRegistry Identity RuntimeId Uuid
abbrev Lifecycle := LeaseLifecycle Identity RuntimeId Time
abbrev Decision := LeaseLifecycleDecision Identity RuntimeId Time
abbrev Release := ReleaseResult Identity RuntimeId Time

/-! ### Answers -/

/-- The payload of a release. -/
structure ReleaseData where
  leaseId : Uuid
  released : Bool
  immediate : Bool
  reason : Option LeaseEndReason
  activeHolders : Option Nat
  graceDeadline : Option Time
  runtimeStopped : Bool
  runtimeStopPending : Bool
  deriving DecidableEq

/-- How a coroutine ends. -/
inductive Answer where
  | lease (lease : DaemonLease Identity RuntimeId Time)
  | binding (binding : WorkspaceBinding Identity RuntimeId)
  | noWorkspace
  | leaseExpired
  | released (data : ReleaseData Time)
  | workspaceReleased (data : ReleaseData Time)
  | activated (leaseId : Uuid) (binding : WorkspaceBinding Identity RuntimeId)
  | error (code : ErrorCode)
  | swept (decisions : List (LeaseLifecycleDecision Identity RuntimeId Time))
  | raised
  | cancelled
  deriving DecidableEq

/-- What a coroutine answers once its stops are done. -/
inductive Finish where
  | leaseExpired
  | releaseLease (leaseId : Uuid) (immediate : Bool)
      (result : ReleaseResult Identity RuntimeId Time)
  | releaseWorkspace (leaseId : Uuid) (immediate : Bool)
      (result : ReleaseResult Identity RuntimeId Time)
  | activated (leaseId : Uuid) (binding : WorkspaceBinding Identity RuntimeId)
  | activationError (code : ErrorCode)
  | sweep (decisions : List (LeaseLifecycleDecision Identity RuntimeId Time))
  deriving DecidableEq

end Types

variable {Identity Time : Type}

/-- `_stop_fields`: whether a stop was decided, and confirmed or pending. -/
def stopFields (decision : Option (Decision Identity Time)) (stopped : Bool) : Bool × Bool :=
  let decided := (decision.bind LeaseLifecycleDecision.runtimeToStop).isSome
  (decided && stopped, decided && !stopped)

/-- `_release_data`, and `_release_workspace_data` but for its constant `bound` field. -/
def releaseData (leaseId : Uuid) (result : Release Identity Time) (immediate stopped : Bool) :
    ReleaseData Time :=
  { leaseId
    released := result.released
    immediate
    reason := result.decision.map LeaseLifecycleDecision.reason
    activeHolders := result.decision.map LeaseLifecycleDecision.activeHolders
    graceDeadline := result.decision.bind LeaseLifecycleDecision.graceDeadline
    runtimeStopped := (stopFields result.decision stopped).1
    runtimeStopPending := (stopFields result.decision stopped).2 }

/-- The answer after `_stop_runtimes` returned `stopped`. -/
def Finish.answer (stopped : Bool) : Finish Identity Time → Answer Identity Time
  | .leaseExpired => .leaseExpired
  | .releaseLease leaseId immediate result =>
    .released (releaseData leaseId result immediate stopped)
  | .releaseWorkspace leaseId immediate result =>
    .workspaceReleased (releaseData leaseId result immediate stopped)
  | .activated leaseId binding => .activated leaseId binding
  | .activationError code => .error code
  | .sweep decisions => .swept decisions

/-- The decision that the payload reports on. -/
def Finish.decision : Finish Identity Time → Option (Decision Identity Time)
  | .releaseLease _ _ result => result.decision
  | .releaseWorkspace _ _ result => result.decision
  | _ => none

/-! ### Decisions on the registry -/

section Decisions

variable [DecidableEq Identity]

/-- A method of the service's registry. -/
abbrev RegistryMethod (Identity : Type) :=
  WorkspaceRuntimeRegistry.Method Identity RuntimeId Uuid Fault

/-- The retirement that a decision asks for. -/
def LeaseLifecycleDecision.retirement (decision : Decision Identity Time) :
    Option (Identity × RuntimeId) :=
  match decision.identity, decision.runtimeToStop with
  | some identity, some runtime => some (identity, runtime)
  | _, _ => none

/-- The retirement that the discard of a candidate asks for. -/
def retirementOf (prepared : Prepared Identity) : Option (Identity × RuntimeId) :=
  if prepared.candidateRuntimeCreated then
    some (prepared.binding.identity, prepared.binding.runtime)
  else none

/-- `detached = self._registry.retire_idle(...)`, and the list of what was detached. -/
def retire : Option (Identity × RuntimeId) → RegistryMethod Identity (List RuntimeId)
  | none => return []
  | some (identity, runtime) => do
    let detached ← WorkspaceRuntimeRegistry.retireIdle identity runtime
    return detached.toList

/-- Release the lease of a binding, if there is one. -/
def releaseBinding : Option (Binding Identity) → RegistryMethod Identity Unit
  | none => return ()
  | some binding => do
    let _ ← WorkspaceRuntimeRegistry.releaseLease binding.lease.id

/-- `_apply_decision_locked`: release the decision's lease, then retire its runtime. -/
def applyDecisionLocked : Option (Decision Identity Time) →
    RegistryMethod Identity (List RuntimeId)
  | none => return []
  | some decision => do
    releaseBinding decision.bindingToRelease
    retire decision.retirement

/-- `_apply_decisions_locked`. -/
def applyDecisionsLocked : List (Decision Identity Time) →
    RegistryMethod Identity (List RuntimeId)
  | [] => return []
  | decision :: rest => do
    let first ← applyDecisionLocked (some decision)
    let others ← applyDecisionsLocked rest
    return first ++ others

/-- Undo a candidate: a committed one is the session's binding by now. -/
def undoCandidate (leaseId : Uuid) (prepared : Prepared Identity) (committed : Bool) :
    RegistryMethod Identity Unit := do
  if committed then
    let _ ← WorkspaceRuntimeRegistry.release leaseId
  else
    let _ ← WorkspaceRuntimeRegistry.abortActivation prepared

/-- `_discard_prepared_activation_locked`. -/
def discardPreparedActivationLocked (leaseId : Uuid) (prepared : Prepared Identity)
    (committed : Bool) : RegistryMethod Identity (List RuntimeId) := do
  undoCandidate leaseId prepared committed
  retire (retirementOf prepared)

end Decisions

/-! ### The stores behind the binding lock -/

section Stores

variable (Identity Time)

/-- What a coroutine does once it has the binding lock. -/
inductive Section where
  | cleanExpired (decision : Option (LeaseLifecycleDecision Identity RuntimeId Time))
  | releaseLease (leaseId : Uuid) (immediate : Bool)
  | releaseWorkspace (leaseId : Uuid) (immediate : Bool)
  | activate (leaseId : Uuid) (resolved : ResolvedWorkspace Identity)
  | sweep
  deriving DecidableEq

/-- Where an activation that holds the binding lock is suspended. -/
inductive Phase where
  /-- `prepare_activation` runs in a worker thread. -/
  | preparing (resolved : ResolvedWorkspace Identity)
  /-- The thread is done, the coroutine has not resumed. -/
  | prepared (outcome : Except Fault (PreparedWorkspaceActivation Identity RuntimeId Uuid))
  /-- The candidate runtime's `ensure_fresh` runs in a worker thread. -/
  | refreshing (prepared : PreparedWorkspaceActivation Identity RuntimeId Uuid)
  /-- `commit_activation` runs in a worker thread. -/
  | committing (prepared : PreparedWorkspaceActivation Identity RuntimeId Uuid)
  /-- The thread is done, the coroutine has not resumed. -/
  | committed (prepared : PreparedWorkspaceActivation Identity RuntimeId Uuid)
      (outcome : Except Fault (WorkspaceBinding Identity RuntimeId))

/-- An activation that holds the binding lock, and the two stores as it found them. -/
structure Activation where
  task : Task
  leaseId : Uuid
  phase : Phase Identity
  lifecycleAtEntry : Lifecycle Identity Time
  registryAtEntry : Registry Identity

/-- A worker thread whose coroutine was cancelled. -/
inductive Orphan where
  | prepare (leaseId : Uuid) (resolved : ResolvedWorkspace Identity)
  | commit (prepared : PreparedWorkspaceActivation Identity RuntimeId Uuid)

/-- An activation that ended in an error other than lease expiry: the stores at its entry into the
critical section, before its last step and at its exit, and who waited for the lock then. -/
structure Failure where
  leaseId : Uuid
  lifecycleAtEntry : Lifecycle Identity Time
  registryAtEntry : Registry Identity
  lifecycleBefore : Lifecycle Identity Time
  lifecycleAtExit : Lifecycle Identity Time
  registryAtExit : Registry Identity
  waitersAtExit : List (Task × Section Identity Time)

/-- The lifecycle, the registry and the binding lock. `settled` records the candidates that were
committed or discarded, `failures` the activations that failed. -/
structure Stores where
  lifecycle : Lifecycle Identity Time
  registry : Registry Identity
  holder : Option (Activation Identity Time)
  waiters : List (Task × Section Identity Time)
  orphans : List (Orphan Identity)
  nextRuntime : RuntimeId
  settled : List (PreparedWorkspaceActivation Identity RuntimeId Uuid)
  failures : List (Failure Identity Time)

/-- What a coroutine does after its step on the stores. -/
inductive Effect where
  | silent
  | answers (task : Task) (answer : Answer Identity Time)
  | stops (task : Task) (targets : List RuntimeId) (finish : Finish Identity Time)

end Stores

namespace Stores

variable [DecidableEq Identity] [LinearOrder Time] [Add Time] [Zero Time]

/-- A new service. -/
def init : Stores Identity Time :=
  { lifecycle := .init, registry := .init, holder := none, waiters := [], orphans := []
    nextRuntime := 0, settled := [], failures := [] }

/-- Leave the critical section with the registry as `applied` left it, then stop its targets. -/
def leaveWith (task : Task) (finish : Finish Identity Time) (self : Stores Identity Time)
    (applied : EStateM.Result (RegistryRaise Fault) (Registry Identity) (List RuntimeId)) :
    Stores Identity Time × Effect Identity Time :=
  match applied with
  | .ok targets registry => ({ self with registry }, .stops task targets finish)
  | .error _ registry => ({ self with registry }, .answers task .raised)

/-- Run a critical section up to its first suspension. -/
def runSection (settings : LeaseSettings Time) (task : Task) (now : Time)
    (self : Stores Identity Time) :
    Section Identity Time → Stores Identity Time × Effect Identity Time
  | .cleanExpired decision =>
    leaveWith task .leaseExpired self ((applyDecisionLocked decision).run self.registry)
  | .releaseLease leaseId immediate =>
    match (LeaseLifecycle.release settings leaseId immediate now).run self.lifecycle with
    | .ok result lifecycle =>
      leaveWith task (.releaseLease leaseId immediate result) { self with lifecycle }
        ((applyDecisionLocked result.decision).run self.registry)
    | .error _ lifecycle => ({ self with lifecycle }, .answers task .raised)
  | .releaseWorkspace leaseId immediate =>
    match (LeaseLifecycle.releaseWorkspace settings leaseId immediate now).run
      self.lifecycle with
    | .ok result lifecycle =>
      leaveWith task (.releaseWorkspace leaseId immediate result) { self with lifecycle }
        ((applyDecisionLocked result.decision).run self.registry)
    | .error (.leaseExpired _ decision) lifecycle =>
      leaveWith task .leaseExpired { self with lifecycle }
        ((applyDecisionLocked decision).run self.registry)
    | .error _ lifecycle => ({ self with lifecycle }, .answers task .raised)
  | .activate leaseId resolved =>
    match (LeaseLifecycle.requireActive settings leaseId now).run self.lifecycle with
    | .ok _ lifecycle =>
      ({ self with
          lifecycle
          holder := some {
            task, leaseId, phase := .preparing resolved
            lifecycleAtEntry := lifecycle, registryAtEntry := self.registry } }, .silent)
    | .error (.leaseExpired _ decision) lifecycle =>
      leaveWith task .leaseExpired { self with lifecycle }
        ((applyDecisionLocked decision).run self.registry)
    | .error _ lifecycle => ({ self with lifecycle }, .answers task .raised)
  | .sweep =>
    match (LeaseLifecycle.sweep settings now).run self.lifecycle with
    | .ok decisions lifecycle =>
      leaveWith task (.sweep decisions) { self with lifecycle }
        ((applyDecisionsLocked decisions).run self.registry)
    | .error _ lifecycle => ({ self with lifecycle }, .answers task .raised)

/-- The released lock goes to its first waiter. -/
def grant (settings : LeaseSettings Time) (now : Time) (self : Stores Identity Time) :
    Option (Stores Identity Time × Effect Identity Time) :=
  match self.holder, self.waiters with
  | none, (task, body) :: rest =>
    some (runSection settings task now { self with waiters := rest } body)
  | _, _ => none

/-- `async with self._binding_lock`: at once if the lock is free and nobody waits. -/
def enter (settings : LeaseSettings Time) (task : Task) (now : Time) (self : Stores Identity Time)
    (body : Section Identity Time) : Stores Identity Time × Effect Identity Time :=
  if self.holder.isNone && self.waiters.isEmpty then runSection settings task now self body
  else ({ self with waiters := self.waiters ++ [(task, body)] }, .silent)

/-! ### The suspensions of an activation -/

/-- The runtime factory: `fault` is what it raises, `runtime` the runtime it makes otherwise. -/
def runtimeFactory (fault : Option Fault) (runtime : RuntimeId) : Except Fault RuntimeId :=
  match fault with
  | none => .ok runtime
  | some fault => .error fault

/-- The worker thread of `prepare_activation`. -/
def threadPrepare (fault : Option Fault) (self : Stores Identity Time) :
    Option (Stores Identity Time) :=
  match self.holder with
  | some activation =>
    match activation.phase with
    | .preparing resolved =>
      match (WorkspaceRuntimeRegistry.prepareActivation
        (runtimeFactory fault self.nextRuntime) activation.leaseId resolved).run
        self.registry with
      | .ok prepared registry => some { self with
          registry
          nextRuntime := self.nextRuntime + 1
          holder := some { activation with phase := .prepared (.ok prepared) } }
      | .error raise registry => some { self with
          registry
          nextRuntime := self.nextRuntime + 1
          holder := some { activation with phase := .prepared (.error (registryFault raise)) } }
    | _ => none
  | none => none

/-- An activation leaves with an error other than lease expiry. -/
def fail (activation : Activation Identity Time) (before : Lifecycle Identity Time) (fault : Fault)
    (self : Stores Identity Time)
    (applied : EStateM.Result (RegistryRaise Fault) (Registry Identity) (List RuntimeId)) :
    Stores Identity Time × Effect Identity Time :=
  let left := leaveWith activation.task (.activationError (activationError fault))
    { self with holder := none } applied
  ({ left.1 with
      failures := {
        leaseId := activation.leaseId
        lifecycleAtEntry := activation.lifecycleAtEntry
        registryAtEntry := activation.registryAtEntry
        lifecycleBefore := before
        lifecycleAtExit := left.1.lifecycle
        registryAtExit := left.1.registry
        waitersAtExit := left.1.waiters } :: self.failures }, left.2)

/-- The coroutine resumes after `prepare_activation`: on to the refresh, or out with its error. -/
def resumePrepared (self : Stores Identity Time) :
    Option (Stores Identity Time × Effect Identity Time) :=
  match self.holder with
  | some activation =>
    match activation.phase with
    | .prepared (.ok prepared) =>
      some ({ self with holder := some { activation with phase := .refreshing prepared } },
        .silent)
    | .prepared (.error fault) =>
      some (fail activation self.lifecycle fault self (.ok [] self.registry))
    | _ => none
  | none => none

/-- Discard the candidate, and release what the lease's expiry decided. -/
def expireActivation (activation : Activation Identity Time) (prepared : Prepared Identity)
    (committed : Bool) (decision : Option (Decision Identity Time)) (self : Stores Identity Time) :
    Stores Identity Time × Effect Identity Time :=
  leaveWith activation.task .leaseExpired
    { self with holder := none, settled := prepared :: self.settled }
    ((do
      let discarded ← discardPreparedActivationLocked activation.leaseId prepared committed
      let released ← applyDecisionLocked decision
      return discarded ++ released).run self.registry)

/-- The coroutine resumes after the refresh, which raised `fault` or returned: the lease is checked
again before the candidate is committed. -/
def resumeRefreshed (settings : LeaseSettings Time) (fault : Option Fault) (now : Time)
    (self : Stores Identity Time) : Option (Stores Identity Time × Effect Identity Time) :=
  match self.holder with
  | some activation =>
    match activation.phase with
    | .refreshing prepared =>
      match fault with
      | some fault =>
        some (fail activation self.lifecycle fault
          { self with settled := prepared :: self.settled }
          ((discardPreparedActivationLocked activation.leaseId prepared false).run
            self.registry))
      | none =>
        match (LeaseLifecycle.requireActive settings activation.leaseId now).run
          self.lifecycle with
        | .ok _ lifecycle => some ({ self with
            lifecycle
            holder := some { activation with phase := .committing prepared } }, .silent)
        | .error (.leaseExpired _ decision) lifecycle =>
          some (expireActivation activation prepared false decision
            { self with lifecycle })
        | .error _ lifecycle =>
          some (fail activation self.lifecycle .other
            { self with lifecycle, settled := prepared :: self.settled }
            ((discardPreparedActivationLocked activation.leaseId prepared false).run
              self.registry))
    | _ => none
  | none => none

/-- The worker thread of `commit_activation`. -/
def threadCommit (self : Stores Identity Time) : Option (Stores Identity Time) :=
  match self.holder with
  | some activation =>
    match activation.phase with
    | .committing prepared =>
      match (WorkspaceRuntimeRegistry.commitActivation prepared : RegistryMethod Identity _).run
        self.registry with
      | .ok binding registry => some { self with
          registry
          settled := prepared :: self.settled
          holder := some { activation with phase := .committed prepared (.ok binding) } }
      | .error raise registry => some { self with
          registry
          holder := some { activation with
            phase := .committed prepared (.error (registryFault raise)) } }
    | _ => none
  | none => none

/-- The coroutine resumes after `commit_activation` and rebinds the lease. -/
def resumeCommitted (settings : LeaseSettings Time) (now : Time) (self : Stores Identity Time) :
    Option (Stores Identity Time × Effect Identity Time) :=
  match self.holder with
  | some activation =>
    match activation.phase with
    | .committed prepared (.ok binding) =>
      match (LeaseLifecycle.rebind settings activation.leaseId binding now).run
        self.lifecycle with
      | .ok _ lifecycle => some ({ self with lifecycle, holder := none },
          .stops activation.task [] (.activated activation.leaseId binding))
      | .error (.leaseExpired _ decision) lifecycle =>
        some (expireActivation activation prepared true decision { self with lifecycle })
      | .error _ lifecycle =>
        some (fail activation self.lifecycle .other
          { self with lifecycle, settled := prepared :: self.settled }
          ((discardPreparedActivationLocked activation.leaseId prepared true).run
            self.registry))
    | .committed prepared (.error fault) =>
      some (fail activation self.lifecycle fault
        { self with settled := prepared :: self.settled }
        ((discardPreparedActivationLocked activation.leaseId prepared false).run
          self.registry))
    | _ => none
  | none => none

/-! ### Cancellation -/

/-- The task of the activation is cancelled at its await: the lock is released, and a thread that
`started` and has not finished goes on alone. `CancelledError` is no `Exception`, so no branch of
the coroutine undoes anything. -/
def cancelActivation (started : Bool) (self : Stores Identity Time) :
    Option (Stores Identity Time × Effect Identity Time) :=
  match self.holder with
  | some activation =>
    let alone : List (Orphan Identity) := match activation.phase with
      | .preparing resolved => if started then [.prepare activation.leaseId resolved] else []
      | .committing prepared => if started then [.commit prepared] else []
      | _ => []
    some ({ self with holder := none, orphans := self.orphans ++ alone },
      .answers activation.task .cancelled)
  | none => none

/-- A coroutine that waits for the binding lock is cancelled. -/
def cancelWaiting (task : Task) (self : Stores Identity Time) :
    Option (Stores Identity Time × Effect Identity Time) :=
  if task ∈ self.waiters.map Prod.fst then
    some ({ self with waiters := self.waiters.filter fun waiter => waiter.1 ≠ task },
      .answers task .cancelled)
  else none

/-- A worker thread that was left alone runs. -/
def threadOrphan (index : Nat) (fault : Option Fault) (self : Stores Identity Time) :
    Option (Stores Identity Time) :=
  match self.orphans[index]? with
  | some (.prepare leaseId resolved) =>
    let registry := match (WorkspaceRuntimeRegistry.prepareActivation
      (runtimeFactory fault self.nextRuntime) leaseId resolved).run self.registry with
      | .ok _ registry => registry
      | .error _ registry => registry
    some { self with
      registry
      nextRuntime := self.nextRuntime + 1
      orphans := self.orphans.eraseIdx index }
  | some (.commit prepared) =>
    let registry := match (WorkspaceRuntimeRegistry.commitActivation prepared :
      RegistryMethod Identity _).run self.registry with
      | .ok _ registry => registry
      | .error _ registry => registry
    some { self with registry, orphans := self.orphans.eraseIdx index }
  | none => none

/-! ### Steps of the stores -/

/-- The calls that only check their lease. -/
inductive LeaseCheck where
  | heartbeat
  | bindingFor
  deriving DecidableEq

end Stores

/-- A step on the stores. -/
inductive StoresLabel (Identity Time : Type) where
  | acquireLease (task : Task) (now : Time)
  | check (task : Task) (call : Stores.LeaseCheck) (leaseId : Uuid) (now : Time)
  | enter (task : Task) (body : Section Identity Time) (now : Time)
  | grantBinding (now : Time)
  | threadPrepare (fault : Option Fault)
  | resumePrepared
  | resumeRefreshed (fault : Option Fault) (now : Time)
  | threadCommit
  | resumeCommitted (now : Time)
  | cancelActivation (started : Bool)
  | cancelWaiting (task : Task)
  | threadOrphan (index : Nat) (fault : Option Fault)

/-- The step cancels a task. -/
def StoresLabel.cancels : StoresLabel Identity Time → Bool
  | .cancelActivation _ => true
  | .cancelWaiting _ => true
  | _ => false

namespace Stores

variable [DecidableEq Identity] [LinearOrder Time] [Add Time] [Zero Time]

/-- `heartbeat` and `binding_for`: outside the lock, until the lease is found expired. -/
def check (settings : LeaseSettings Time) (task : Task) (call : LeaseCheck) (leaseId : Uuid)
    (now : Time) (self : Stores Identity Time) : Stores Identity Time × Effect Identity Time :=
  let outcome : EStateM.Result (LeaseRaise Identity RuntimeId Time) (Lifecycle Identity Time)
      (Answer Identity Time) := match call with
    | .heartbeat =>
      (Answer.lease <$> LeaseLifecycle.heartbeat settings leaseId now).run self.lifecycle
    | .bindingFor =>
      (Answer.binding <$> LeaseLifecycle.bindingFor settings leaseId now).run self.lifecycle
  match outcome with
  | .ok answer lifecycle => ({ self with lifecycle }, .answers task answer)
  | .error (.leaseExpired _ decision) lifecycle =>
    enter settings task now { self with lifecycle } (.cleanExpired decision)
  | .error (.valueError _) lifecycle => ({ self with lifecycle }, .answers task .noWorkspace)
  | .error .keyError lifecycle => ({ self with lifecycle }, .answers task .raised)

/-- One step on the stores. -/
def step (settings : LeaseSettings Time) (self : Stores Identity Time) :
    StoresLabel Identity Time → Option (Stores Identity Time × Effect Identity Time)
  | .acquireLease task now =>
    match (LeaseLifecycle.issue settings none now).run self.lifecycle with
    | .ok lease lifecycle => some ({ self with lifecycle }, .answers task (.lease lease))
    | .error _ lifecycle => some ({ self with lifecycle }, .answers task .raised)
  | .check task call leaseId now => some (check settings task call leaseId now self)
  | .enter task body now => some (enter settings task now self body)
  | .grantBinding now => grant settings now self
  | .threadPrepare fault => (threadPrepare fault self).map fun next => (next, .silent)
  | .resumePrepared => resumePrepared self
  | .resumeRefreshed fault now => resumeRefreshed settings fault now self
  | .threadCommit => (threadCommit self).map fun next => (next, .silent)
  | .resumeCommitted now => resumeCommitted settings now self
  | .cancelActivation started => cancelActivation started self
  | .cancelWaiting task => cancelWaiting task self
  | .threadOrphan index fault => (threadOrphan index fault self).map fun next => (next, .silent)

end Stores

end SerenaLight.Daemon
