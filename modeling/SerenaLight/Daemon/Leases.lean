/-
**The lease lifecycle.**

`LeaseLifecycle` of `daemon/leases.py`: daemon leases with a heartbeat expiry, and for every
workspace identity the set of leases that hold it and a grace deadline once that set is empty. The
lifecycle performs no effect; it returns, or raises, decisions for the daemon to apply.

* Every method reads the clock once, `now`; the lifecycle lock makes it atomic.
* A method that raises keeps what it changed before (`EStateM`), as `_end_locked` inside
  `_require_active_locked` does.
* Time is any linear order with an addition; `LeaseSettings` carries what `__init__` checks.
-/

import Mathlib
import SerenaLight.Workspace.Registry

namespace SerenaLight.Daemon

open Foundation Workspace

/-- The three intervals, as `LeaseLifecycle.__init__` accepts them. -/
structure LeaseSettings (Time : Type) [LinearOrder Time] [Zero Time] where
  heartbeatIntervalSeconds : Time
  expirySeconds : Time
  warmGraceSeconds : Time
  heartbeat_pos : 0 < heartbeatIntervalSeconds
  expiry_pos : 0 < expirySeconds
  grace_nonneg : 0 ≤ warmGraceSeconds
  heartbeat_le_expiry : heartbeatIntervalSeconds ≤ expirySeconds

/-- `HEARTBEAT_INTERVAL_SECONDS`, `LEASE_EXPIRY_SECONDS` and `WARM_GRACE_SECONDS`. -/
def LeaseSettings.default : LeaseSettings Nat :=
  ⟨15, 60, 10 * 60, by decide, by decide, by decide, by decide⟩

/-- The only daemon lifetime authority for one workspace binding. -/
structure DaemonLease (Identity Runtime Time : Type) where
  id : Uuid
  binding : Option (WorkspaceBinding Identity Runtime)
  issuedAt : Time
  lastHeartbeatAt : Time
  heartbeatIntervalSeconds : Time
  expirySeconds : Time
  deriving DecidableEq, Repr

namespace DaemonLease

variable {Identity Runtime Time : Type}

def identity (lease : DaemonLease Identity Runtime Time) : Option Identity :=
  lease.binding.map WorkspaceBinding.identity

def expiresAt [Add Time] (lease : DaemonLease Identity Runtime Time) : Time :=
  lease.lastHeartbeatAt + lease.expirySeconds

end DaemonLease

/-- `LeaseEndReason`. -/
inductive LeaseEndReason where
  | released
  | expired
  | graceExpired
  deriving DecidableEq, Repr

/-- An effect for the daemon, never an effect performed by the lifecycle. -/
structure LeaseLifecycleDecision (Identity Runtime Time : Type) where
  reason : LeaseEndReason
  identity : Option Identity
  activeHolders : Nat
  bindingToRelease : Option (WorkspaceBinding Identity Runtime) := none
  leaseId : Option Uuid := none
  runtimeToStop : Option Runtime := none
  graceDeadline : Option Time := none
  deriving DecidableEq, Repr

/-- Result of an idempotent release request. -/
structure ReleaseResult (Identity Runtime Time : Type) where
  released : Bool
  decision : Option (LeaseLifecycleDecision Identity Runtime Time) := none
  deriving DecidableEq, Repr

/-- `_WorkspaceState`. -/
structure WorkspaceState (Runtime Time : Type) where
  runtime : Runtime
  holders : Finset Uuid
  graceDeadline : Option Time := none
  deriving DecidableEq

/-- Where the second loop of `sweep` does not `continue`: no holder, and a deadline that passed. -/
def WorkspaceState.graceElapsed {Runtime Time : Type} [LinearOrder Time]
    (state : WorkspaceState Runtime Time) (now : Time) : Bool :=
  decide (state.holders = ∅) &&
    match state.graceDeadline with
    | some deadline => decide (deadline ≤ now)
    | none => false

/-- The exceptions of the lifecycle. `LeaseExpiredError` may carry the decision of the expiry. -/
inductive LeaseRaise (Identity Runtime Time : Type) where
  | leaseExpired (leaseId : Uuid)
      (decision : Option (LeaseLifecycleDecision Identity Runtime Time))
  | valueError (message : String)
  | keyError
  deriving DecidableEq, Repr

/-- The lifecycle's fields, and the next value of `uuid4`. -/
structure LeaseLifecycle (Identity Runtime Time : Type) where
  active : Dict Uuid (DaemonLease Identity Runtime Time)
  expired : Finset Uuid
  workspaces : Dict Identity (WorkspaceState Runtime Time)
  nextUuid : Uuid
  deriving DecidableEq

namespace LeaseLifecycle

variable {Identity Runtime Time : Type}
variable [DecidableEq Identity] [DecidableEq Runtime] [LinearOrder Time] [Add Time] [Zero Time]

/-- `__init__`. -/
def init : LeaseLifecycle Identity Runtime Time :=
  { active := .empty, expired := ∅, workspaces := .empty, nextUuid := 0 }

/-- A method of the lifecycle. -/
abbrev Method (Identity Runtime Time : Type) :=
  EStateM (LeaseRaise Identity Runtime Time) (LeaseLifecycle Identity Runtime Time)

/-- What one holder's leaving does to its workspace. -/
structure Detachment (Runtime Time : Type) where
  activeHolders : Nat
  runtimeToStop : Option Runtime := none
  graceDeadline : Option Time := none

/-- The part that `_end_locked` and `_remove_holder_locked` share: take the lease out of the
holders, and stop or arm the grace of a workspace that lost its last one. -/
def detachHolder (settings : LeaseSettings Time) (leaseId : Uuid) (identity : Identity) (now : Time)
    (immediate : Bool) : Method Identity Runtime Time (Detachment Runtime Time) := do
  let self ← get
  match self.workspaces.get identity with
  | none => throw .keyError
  | some state =>
    if leaseId ∉ state.holders then throw .keyError
    else
      let holders := state.holders.erase leaseId
      if holders.card = 0 then
        if immediate then
          set { self with workspaces := self.workspaces.erase identity }
          return { activeHolders := holders.card, runtimeToStop := some state.runtime }
        else
          let deadline := now + settings.warmGraceSeconds
          set { self with
            workspaces := self.workspaces.set identity
              { state with holders, graceDeadline := some deadline } }
          return { activeHolders := holders.card, graceDeadline := some deadline }
      else
        set { self with workspaces := self.workspaces.set identity { state with holders } }
        return { activeHolders := holders.card }

/-- `_end_locked`. -/
def endLocked (settings : LeaseSettings Time) (lease : DaemonLease Identity Runtime Time)
    (reason : LeaseEndReason) (now : Time) (immediate : Bool) :
    Method Identity Runtime Time (LeaseLifecycleDecision Identity Runtime Time) := do
  modify fun self => { self with active := self.active.erase lease.id }
  match lease.binding with
  | none => return { reason, identity := none, activeHolders := 0, leaseId := some lease.id }
  | some binding =>
    let detachment ← detachHolder settings lease.id binding.identity now immediate
    return {
      reason
      identity := some binding.identity
      activeHolders := detachment.activeHolders
      bindingToRelease := some binding
      leaseId := some lease.id
      runtimeToStop := detachment.runtimeToStop
      graceDeadline := detachment.graceDeadline }

/-- `_remove_holder_locked`. -/
def removeHolderLocked (settings : LeaseSettings Time) (leaseId : Uuid) (identity : Identity)
    (now : Time) (immediate : Bool) :
    Method Identity Runtime Time (LeaseLifecycleDecision Identity Runtime Time) := do
  let detachment ← detachHolder settings leaseId identity now immediate
  return {
    reason := .released
    identity := some identity
    activeHolders := detachment.activeHolders
    runtimeToStop := detachment.runtimeToStop
    graceDeadline := detachment.graceDeadline }

/-- `_add_holder_locked`. -/
def addHolderLocked (leaseId : Uuid) (binding : WorkspaceBinding Identity Runtime) :
    Method Identity Runtime Time Unit := do
  let self ← get
  let join (state : WorkspaceState Runtime Time) : Method Identity Runtime Time Unit :=
    set { self with
      workspaces := self.workspaces.set binding.identity
        { state with graceDeadline := none, holders := insert leaseId state.holders } }
  match self.workspaces.get binding.identity with
  | none => join { runtime := binding.runtime, holders := ∅ }
  | some state =>
    if state.runtime ≠ binding.runtime then
      throw (.valueError "one workspace identity cannot have two live runtime instances")
    else join state

/-- `_require_active_locked`: an overdue lease is ended here, and its decision is raised. -/
def requireActiveLocked (settings : LeaseSettings Time) (leaseId : Uuid) (now : Time) :
    Method Identity Runtime Time (DaemonLease Identity Runtime Time) := do
  match (← get).active.get leaseId with
  | some lease =>
    if now < lease.expiresAt then return lease
    else
      let decision ← endLocked settings lease .expired now false
      modify fun self => { self with expired := insert leaseId self.expired }
      throw (.leaseExpired leaseId (some decision))
  | none => throw (.leaseExpired leaseId none)

/-! ### The public methods -/

/-- The lease that `issue` makes, with a new identifier. -/
def newLease (self : LeaseLifecycle Identity Runtime Time) (settings : LeaseSettings Time)
    (binding : Option (WorkspaceBinding Identity Runtime)) (now : Time) :
    DaemonLease Identity Runtime Time :=
  { id := self.nextUuid
    binding
    issuedAt := now
    lastHeartbeatAt := now
    heartbeatIntervalSeconds := settings.heartbeatIntervalSeconds
    expirySeconds := settings.expirySeconds }

/-- `issue`. -/
def issue (settings : LeaseSettings Time) (binding : Option (WorkspaceBinding Identity Runtime))
    (now : Time) : Method Identity Runtime Time (DaemonLease Identity Runtime Time) := do
  let self ← get
  let lease := self.newLease settings binding now
  set { self with active := self.active.set lease.id lease, nextUuid := self.nextUuid + 1 }
  match binding with
  | some bound =>
    addHolderLocked lease.id bound
    return lease
  | none => return lease

/-- `rebind`: attach or move one live lease. -/
def rebind (settings : LeaseSettings Time) (leaseId : Uuid)
    (binding : WorkspaceBinding Identity Runtime) (now : Time) :
    Method Identity Runtime Time (DaemonLease Identity Runtime Time) := do
  let lease ← requireActiveLocked settings leaseId now
  match lease.binding with
  | none => addHolderLocked lease.id binding
  | some old =>
    if old.identity ≠ binding.identity then
      let _ ← removeHolderLocked settings lease.id old.identity now false
      addHolderLocked lease.id binding
    else if old.runtime ≠ binding.runtime then
      throw (.valueError "one workspace identity cannot change runtime while leased")
  let rebound := { lease with binding := some binding }
  modify fun self => { self with active := self.active.set leaseId rebound }
  return rebound

/-- `heartbeat`. -/
def heartbeat (settings : LeaseSettings Time) (leaseId : Uuid) (now : Time) :
    Method Identity Runtime Time (DaemonLease Identity Runtime Time) := do
  let lease ← requireActiveLocked settings leaseId now
  let renewed := { lease with lastHeartbeatAt := now }
  modify fun self => { self with active := self.active.set leaseId renewed }
  return renewed

/-- `require_active`. -/
def requireActive (settings : LeaseSettings Time) (leaseId : Uuid) (now : Time) :
    Method Identity Runtime Time (DaemonLease Identity Runtime Time) :=
  requireActiveLocked settings leaseId now

/-- `binding_for`. -/
def bindingFor (settings : LeaseSettings Time) (leaseId : Uuid) (now : Time) :
    Method Identity Runtime Time (WorkspaceBinding Identity Runtime) := do
  match (← requireActive settings leaseId now).binding with
  | none => throw (.valueError "lease has no active workspace binding")
  | some binding => return binding

/-- `release`: idempotent; an overdue lease is expired instead. -/
def release (settings : LeaseSettings Time) (leaseId : Uuid) (immediate : Bool) (now : Time) :
    Method Identity Runtime Time (ReleaseResult Identity Runtime Time) := do
  match (← get).active.get leaseId with
  | none => return { released := false }
  | some lease =>
    if lease.expiresAt ≤ now then
      let decision ← endLocked settings lease .expired now false
      modify fun self => { self with expired := insert leaseId self.expired }
      return { released := false, decision := some decision }
    else
      let decision ← endLocked settings lease .released now immediate
      return { released := true, decision := some decision }

/-- `release_workspace`: detach the binding, keep the lease. -/
def releaseWorkspace (settings : LeaseSettings Time) (leaseId : Uuid) (immediate : Bool)
    (now : Time) : Method Identity Runtime Time (ReleaseResult Identity Runtime Time) := do
  let lease ← requireActiveLocked settings leaseId now
  match lease.binding with
  | none => return { released := false }
  | some binding =>
    let decision ← removeHolderLocked settings lease.id binding.identity now immediate
    modify fun self => { self with active := self.active.set lease.id { lease with binding := none } }
    return {
      released := true
      decision := some {
        reason := .released
        identity := some binding.identity
        activeHolders := decision.activeHolders
        bindingToRelease := some binding
        leaseId := some lease.id
        runtimeToStop := decision.runtimeToStop
        graceDeadline := decision.graceDeadline } }

/-- The first loop of `sweep`, over a copy of the active leases: expire the overdue ones. -/
def sweepLeases (settings : LeaseSettings Time) (now : Time) :
    List (DaemonLease Identity Runtime Time) →
      Method Identity Runtime Time (List (LeaseLifecycleDecision Identity Runtime Time))
  | [] => return []
  | lease :: rest => do
    if lease.expiresAt ≤ now then
      let decision ← endLocked settings lease .expired now false
      modify fun self => { self with expired := insert lease.id self.expired }
      return decision :: (← sweepLeases settings now rest)
    else sweepLeases settings now rest

/-- The second loop of `sweep`, over a copy of the workspaces: drop those whose grace elapsed. -/
def sweepWorkspaces (now : Time) :
    List (Identity × WorkspaceState Runtime Time) →
      Method Identity Runtime Time (List (LeaseLifecycleDecision Identity Runtime Time))
  | [] => return []
  | (identity, state) :: rest => do
    if state.graceElapsed now then
      modify fun self => { self with workspaces := self.workspaces.erase identity }
      let decision : LeaseLifecycleDecision Identity Runtime Time := {
        reason := .graceExpired
        identity := some identity
        activeHolders := 0
        runtimeToStop := some state.runtime }
      return decision :: (← sweepWorkspaces now rest)
    else sweepWorkspaces now rest

/-- `sweep`. -/
def sweep (settings : LeaseSettings Time) (now : Time) :
    Method Identity Runtime Time (List (LeaseLifecycleDecision Identity Runtime Time)) := do
  let expiries ← sweepLeases settings now (← get).active.values
  let elapsed ← sweepWorkspaces now (← get).workspaces.items
  return expiries ++ elapsed

/-- `daemon_idle`. -/
def daemonIdle (self : LeaseLifecycle Identity Runtime Time) : Bool :=
  self.active.items.isEmpty && self.workspaces.items.isEmpty

end LeaseLifecycle

end SerenaLight.Daemon
