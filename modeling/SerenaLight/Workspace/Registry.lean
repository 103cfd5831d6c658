/-
**The workspace runtime registry.**

`WorkspaceRuntimeRegistry` of `workspace/registry.py`: one runtime for an identity with a reference
count, independently issued leases, and a binding for a session. Each method is a computation that
may raise, in which case the mutations made before the exception stay (`EStateM`). The registry
lock makes every method atomic, so a method is one function of the state.

* `uuid4` is a counter: all that the registry uses of an identifier is that it is new.
* `made` is what `runtime_factory(identity)` does if the method calls it.
-/

import Mathlib.Data.Int.Notation
import SerenaLight.Foundation.Dict

namespace SerenaLight.Workspace

open Foundation

/-- A value of `uuid4`. -/
abbrev Uuid := Nat

/-- Identity-layer output needed to bind one activated path. -/
structure ResolvedWorkspace (Identity : Type) where
  identity : Identity
  workingSubdirectory : String
  deriving DecidableEq, Repr

/-- A registry-issued lifetime authority for one shared runtime. -/
structure WorkspaceLease (Identity Runtime : Type) where
  id : Uuid
  identity : Identity
  runtime : Runtime
  deriving DecidableEq, Repr

/-- The workspace selected by a session-owned lease. -/
structure WorkspaceBinding (Identity Runtime : Type) where
  lease : WorkspaceLease Identity Runtime
  workingSubdirectory : String
  deriving DecidableEq, Repr

namespace WorkspaceBinding

variable {Identity Runtime : Type}

def identity (binding : WorkspaceBinding Identity Runtime) : Identity := binding.lease.identity

def runtime (binding : WorkspaceBinding Identity Runtime) : Runtime := binding.lease.runtime

end WorkspaceBinding

/-- A registry-owned candidate that is not yet visible as a binding. -/
structure PreparedWorkspaceActivation (Identity Runtime Session : Type) where
  session : Session
  expectedBinding : Option (WorkspaceBinding Identity Runtime)
  binding : WorkspaceBinding Identity Runtime
  candidateIsProvisional : Bool
  candidateRuntimeCreated : Bool
  deriving DecidableEq, Repr

/-- `_RuntimeEntry`. -/
structure RuntimeEntry (Runtime : Type) where
  runtime : Runtime
  referenceCount : Int := 0
  deriving DecidableEq, Repr

/-- The exceptions of the registry; `Fault` is what the runtime factory raises. -/
inductive RegistryRaise (Fault : Type) where
  | factory (fault : Fault)
  | keyError
  | runtimeError (message : String)
  deriving DecidableEq, Repr

/-- The registry's fields, and the next value of `uuid4`. -/
structure WorkspaceRuntimeRegistry (Identity Runtime Session : Type) where
  runtimes : Dict Identity (RuntimeEntry Runtime)
  leases : Dict Uuid (WorkspaceLease Identity Runtime)
  bindings : Dict Session (WorkspaceBinding Identity Runtime)
  nextUuid : Uuid
  deriving DecidableEq

namespace WorkspaceRuntimeRegistry

variable {Identity Runtime Session Fault : Type}
variable [DecidableEq Identity] [DecidableEq Runtime] [DecidableEq Session]

/-- `__init__`: no runtime, no lease, no binding. -/
def init : WorkspaceRuntimeRegistry Identity Runtime Session :=
  { runtimes := .empty, leases := .empty, bindings := .empty, nextUuid := 0 }

/-- A method of the registry: it may raise, and keeps what it changed before it raised. -/
abbrev Method (Identity Runtime Session Fault : Type) :=
  EStateM (RegistryRaise Fault) (WorkspaceRuntimeRegistry Identity Runtime Session)

/-- `_acquire_locked`. -/
def acquireLocked (made : Except Fault Runtime) (identity : Identity) :
    Method Identity Runtime Session Fault (WorkspaceLease Identity Runtime) := do
  let self ← get
  let entry : RuntimeEntry Runtime ← match self.runtimes.get identity with
    | some entry => pure entry
    | none => match made with
      | .ok runtime => pure { runtime }
      | .error fault => throw (.factory fault)
  let lease : WorkspaceLease Identity Runtime :=
    { id := self.nextUuid, identity, runtime := entry.runtime }
  set { self with
    runtimes := self.runtimes.set identity
      { entry with referenceCount := entry.referenceCount + 1 }
    leases := self.leases.set lease.id lease
    nextUuid := self.nextUuid + 1 }
  return lease

/-- `_release_locked`. The entry is decremented before the underflow check. -/
def releaseLocked (leaseId : Uuid) : Method Identity Runtime Session Fault Bool := do
  let self ← get
  match self.leases.get leaseId with
  | none => return false
  | some lease =>
    set { self with leases := self.leases.erase leaseId }
    match self.runtimes.get lease.identity with
    | none => throw .keyError
    | some entry =>
      set { self with
        leases := self.leases.erase leaseId
        runtimes := self.runtimes.set lease.identity
          { entry with referenceCount := entry.referenceCount - 1 } }
      if entry.referenceCount - 1 < 0 then
        throw (.runtimeError "workspace lease underflow")
      return true

/-- `_abort_prepared_locked`. -/
def abortPreparedLocked (prepared : PreparedWorkspaceActivation Identity Runtime Session) :
    Method Identity Runtime Session Fault Bool :=
  if prepared.candidateIsProvisional then releaseLocked prepared.binding.lease.id
  else return false

/-- `activate`: the acquisition precedes every mutation of the old binding. -/
def activate (made : Except Fault Runtime) (session : Session)
    (resolved : ResolvedWorkspace Identity) :
    Method Identity Runtime Session Fault (WorkspaceBinding Identity Runtime) := do
  let oldBinding := (← get).bindings.get session
  let rebind : Method Identity Runtime Session Fault (WorkspaceBinding Identity Runtime) := do
    let newLease ← acquireLocked made resolved.identity
    let newBinding : WorkspaceBinding Identity Runtime :=
      ⟨newLease, resolved.workingSubdirectory⟩
    modify fun self => { self with bindings := self.bindings.set session newBinding }
    match oldBinding with
    | some old =>
      let _ ← releaseLocked old.lease.id
      return newBinding
    | none => return newBinding
  match oldBinding with
  | some old =>
    if old.identity = resolved.identity then
      let binding : WorkspaceBinding Identity Runtime := ⟨old.lease, resolved.workingSubdirectory⟩
      modify fun self => { self with bindings := self.bindings.set session binding }
      return binding
    else rebind
  | none => rebind

/-- `prepare_activation`: a candidate, provisional when it is not on the session's own root. -/
def prepareActivation (made : Except Fault Runtime) (session : Session)
    (resolved : ResolvedWorkspace Identity) :
    Method Identity Runtime Session Fault
      (PreparedWorkspaceActivation Identity Runtime Session) := do
  let self ← get
  let expected := self.bindings.get session
  let acquire : Method Identity Runtime Session Fault
      (PreparedWorkspaceActivation Identity Runtime Session) := do
    let lease ← acquireLocked made resolved.identity
    return {
      session
      expectedBinding := expected
      binding := ⟨lease, resolved.workingSubdirectory⟩
      candidateIsProvisional := true
      candidateRuntimeCreated := !self.runtimes.contains resolved.identity }
  match expected with
  | some old =>
    if old.identity = resolved.identity then
      return {
        session
        expectedBinding := expected
        binding := ⟨old.lease, resolved.workingSubdirectory⟩
        candidateIsProvisional := false
        candidateRuntimeCreated := false }
    else acquire
  | none => acquire

/-- `commit_activation`: publish a prepared binding if its prior state is still current. -/
def commitActivation (prepared : PreparedWorkspaceActivation Identity Runtime Session) :
    Method Identity Runtime Session Fault (WorkspaceBinding Identity Runtime) := do
  let self ← get
  if self.bindings.get prepared.session ≠ prepared.expectedBinding then
    let _ ← abortPreparedLocked prepared
    throw (.runtimeError "workspace binding changed before activation commit")
  else if prepared.candidateIsProvisional ∧
      self.leases.get prepared.binding.lease.id ≠ some prepared.binding.lease then
    let _ ← abortPreparedLocked prepared
    throw (.runtimeError "prepared workspace lease is no longer active")
  else
    set { self with bindings := self.bindings.set prepared.session prepared.binding }
    match prepared.expectedBinding with
    | some old =>
      if prepared.candidateIsProvisional then
        let _ ← releaseLocked old.lease.id
        return prepared.binding
      else return prepared.binding
    | none => return prepared.binding

/-- `abort_activation`. -/
def abortActivation (prepared : PreparedWorkspaceActivation Identity Runtime Session) :
    Method Identity Runtime Session Fault Bool :=
  abortPreparedLocked prepared

/-- `release`: drop a session's binding and its lease. -/
def release (session : Session) : Method Identity Runtime Session Fault Bool := do
  let self ← get
  match self.bindings.get session with
  | none => return false
  | some binding =>
    set { self with bindings := self.bindings.erase session }
    releaseLocked binding.lease.id

/-- The loop of `release_lease` over the bindings: drop those that use the lease. -/
def detachBindings (leaseId : Uuid)
    (bindings : Dict Session (WorkspaceBinding Identity Runtime)) :
    Dict Session (WorkspaceBinding Identity Runtime) :=
  bindings.items.foldl
    (fun kept item => if item.2.lease.id = leaseId then kept.erase item.1 else kept) bindings

/-- `release_lease`: release an active lease once, with every binding that uses it. -/
def releaseLease (leaseId : Uuid) : Method Identity Runtime Session Fault Bool := do
  let self ← get
  match self.leases.get leaseId with
  | none => return false
  | some lease =>
    set { self with bindings := detachBindings leaseId self.bindings }
    releaseLocked lease.id

/-- `retire_idle`: detach the expected runtime only while it has no lease. -/
def retireIdle (identity : Identity) (expectedRuntime : Runtime) :
    Method Identity Runtime Session Fault (Option Runtime) := do
  let self ← get
  match self.runtimes.get identity with
  | none => return none
  | some entry =>
    if entry.runtime ≠ expectedRuntime ∨ entry.referenceCount ≠ 0 then return none
    else
      set { self with runtimes := self.runtimes.erase identity }
      return some entry.runtime

end WorkspaceRuntimeRegistry

end SerenaLight.Workspace
