/-
**What a step on the stores does.**

* `Stores.Base`: both stores are sound, an identity in both has one runtime, and the candidate of
  the activation that holds the lock is on a retained runtime. It holds under any cancellation.
* `Stores.Moves`: the steps as a relation, one constructor for each thing a step can do.
* `Stores.runSection_moves` and the other `_moves`: what each part of a step does is a move, from a
  state with the base invariant.
-/

import SerenaLight.Daemon.Decisions

set_option linter.unusedSectionVars false

namespace SerenaLight.Daemon

open Foundation Workspace WorkspaceRuntimeRegistry

variable {Identity Time : Type}
variable [DecidableEq Identity] [LinearOrder Time] [Add Time] [Zero Time]

/-! ### Lease checks -/

/-- `require_active`. -/
theorem requireActive_cases (settings : LeaseSettings Time) {lifecycle : Lifecycle Identity Time}
    (sound : lifecycle.Sound) (leaseId : Uuid) (now : Time) :
    (∃ lease, lifecycle.active.get leaseId = some lease ∧
      (LeaseLifecycle.requireActive settings leaseId now).run lifecycle = .ok lease lifecycle) ∨
    lifecycle.Refused leaseId now
      ((LeaseLifecycle.requireActive settings leaseId now).run lifecycle) := by
  refine (LeaseLifecycle.requireActiveLocked_cases settings sound leaseId now).imp_left ?_
  rintro ⟨lease, found, _, run⟩
  exact ⟨lease, found, run⟩

/-! ### The base invariant -/

/-- The candidate that an activation holds in this phase. -/
def Phase.candidate : Phase Identity → Option (Prepared Identity)
  | .preparing _ => none
  | .prepared (.ok held) => some held
  | .prepared (.error _) => none
  | .refreshing held => some held
  | .committing held => some held
  | .committed held _ => some held

/-- The candidate that an activation may still commit, or has to abort. -/
def Phase.uncommitted : Phase Identity → Option (Prepared Identity)
  | .committed _ (.ok _) => none
  | phase => phase.candidate

/-- The candidate of a thread that was left alone. -/
def Orphan.uncommitted : Orphan Identity → Option (Prepared Identity)
  | .prepare _ _ => none
  | .commit held => some held

/-- The candidates that are neither committed nor aborted: at most one of them is the lock
holder's. -/
def Stores.outstanding (stores : Stores Identity Time) : List (Prepared Identity) :=
  (stores.holder.bind fun activation => activation.phase.uncommitted).toList ++
    stores.orphans.filterMap Orphan.uncommitted

/-- **The leases of the registry**: those of the bindings are live and not shared, and those of the
provisional candidates are not bound. -/
structure Stores.Leased (stores : Stores Identity Time) : Prop where
  tidy : Tidy stores.registry
  known : ∀ prepared ∈ stores.outstanding, prepared.candidateIsProvisional = true →
    prepared.binding.lease.id < stores.registry.nextUuid
  unbound : ∀ prepared ∈ stores.outstanding, prepared.candidateIsProvisional = true →
    ∀ session binding, stores.registry.bindings.get session = some binding →
      binding.lease.id ≠ prepared.binding.lease.id
  reused : ∀ prepared ∈ stores.outstanding, prepared.candidateIsProvisional = false →
    prepared.candidateRuntimeCreated = false ∧
      ∃ old, prepared.expectedBinding = some old ∧ prepared.binding.lease = old.lease
  apart : stores.outstanding.Pairwise fun one other => one.candidateIsProvisional = true →
    other.candidateIsProvisional = true → one.binding.lease.id ≠ other.binding.lease.id

/-- The registry retains `runtime` for `identity`. -/
def Retains (registry : Registry Identity) (identity : Identity) (runtime : RuntimeId) : Prop :=
  ∃ entry, registry.runtimes.get identity = some entry ∧ entry.runtime = runtime

variable {identity : Identity} {committed : Bool}

theorem Retains.congr {registry other : Registry Identity} {runtime : RuntimeId}
    (retains : Retains registry identity runtime)
    (same : (other.runtimes.get identity).map RuntimeEntry.runtime =
      (registry.runtimes.get identity).map RuntimeEntry.runtime) :
    Retains other identity runtime := by
  obtain ⟨entry, found, equal⟩ := retains
  rw [found, Option.map_some, equal] at same
  exact Option.map_eq_some_iff.mp same

/-- What the lifecycle retains, the registry retains with the same runtime. -/
def Shared (lifecycle : Lifecycle Identity Time) (registry : Registry Identity) : Prop :=
  ∀ identity state, lifecycle.workspaces.get identity = some state →
    Retains registry identity state.runtime

/-- **The base invariant.** -/
structure Stores.Base (stores : Stores Identity Time) : Prop where
  lifecycle : stores.lifecycle.Sound
  registry : stores.registry.Sound
  leased : stores.Leased
  shared : Shared stores.lifecycle stores.registry
  candidate : ∀ {activation prepared}, stores.holder = some activation →
    activation.phase.candidate = some prepared →
    Retains stores.registry prepared.binding.identity prepared.binding.runtime
  unclaimed : ∀ {activation prepared}, stores.holder = some activation →
    activation.phase.candidate = some prepared → prepared.candidateRuntimeCreated = true →
    stores.lifecycle.workspaces.get prepared.binding.identity = none
  bound : ∀ {activation prepared binding}, stores.holder = some activation →
    activation.phase = .committed prepared (.ok binding) → binding = prepared.binding
  cleaning : ∀ {task decision}, (task, Section.cleanExpired (some decision)) ∈ stores.waiters →
    decision.runtimeToStop = none

theorem Stores.Leased.init : (Stores.init : Stores Identity Time).Leased where
  tidy := ⟨by simp [Stores.init, WorkspaceRuntimeRegistry.init],
    by simp [Stores.init, WorkspaceRuntimeRegistry.init]⟩
  known := by simp [Stores.outstanding, Stores.init]
  unbound := by simp [Stores.outstanding, Stores.init]
  reused := by simp [Stores.outstanding, Stores.init]
  apart := by simp [Stores.outstanding, Stores.init]

theorem Stores.Base.init : (Stores.init : Stores Identity Time).Base where
  lifecycle := .init
  registry := .init
  leased := .init
  shared := by simp [Shared, Stores.init, LeaseLifecycle.init]
  candidate := by simp [Stores.init]
  unclaimed := by simp [Stores.init]
  bound := by simp [Stores.init]
  cleaning := by simp [Stores.init]

/-! ### Moves -/

/-- The record of an activation that failed, with the lifecycle untouched by its last step. -/
def Activation.failure (activation : Activation Identity Time) (lifecycle : Lifecycle Identity Time)
    (registry : Registry Identity) (waiters : List (Task × Section Identity Time)) :
    Failure Identity Time :=
  { leaseId := activation.leaseId
    lifecycleAtEntry := activation.lifecycleAtEntry
    registryAtEntry := activation.registryAtEntry
    lifecycleBefore := lifecycle
    lifecycleAtExit := lifecycle
    registryAtExit := registry
    waitersAtExit := waiters }

/-- The activation is about to discard its candidate because of an error. -/
inductive Failing : Phase Identity → StoresLabel Identity Time → Prepared Identity → Prop
  | refresh {prepared : Prepared Identity} {fault : Fault} {now : Time} :
      Failing (.refreshing prepared) (.resumeRefreshed (some fault) now) prepared
  | commit {prepared : Prepared Identity} {fault : Fault} {now : Time} :
      Failing (.committed prepared (.error fault)) (.resumeCommitted now) prepared

/-- The activation is about to check its lease, with its candidate committed or not. -/
inductive Checking : Phase Identity → StoresLabel Identity Time → Prepared Identity → Bool → Prop
  | refresh {prepared : Prepared Identity} {now : Time} :
      Checking (.refreshing prepared) (.resumeRefreshed none now) prepared false
  | rebind {prepared : Prepared Identity} {now : Time} :
      Checking (.committed prepared (.ok prepared.binding)) (.resumeCommitted now) prepared true

variable {label : StoresLabel Identity Time} {phase : Phase Identity} {prepared : Prepared Identity}

theorem Failing.uncommitted (failing : Failing phase label prepared) :
    phase.uncommitted = some prepared := by
  cases failing <;> rfl

theorem Checking.candidate (checking : Checking phase label prepared committed) :
    phase.candidate = some prepared ∧
      (committed = false → phase.uncommitted = some prepared) := by
  cases checking <;> simp [Phase.candidate, Phase.uncommitted]

/-- Both are steps of the activation's own coroutine. -/
theorem Failing.own (failing : Failing phase label prepared) :
    label.cancels = false ∧ (∀ index fault, label ≠ .threadOrphan index fault) ∧
      ∀ now, label ≠ .grantBinding now := by
  cases failing <;> simp [StoresLabel.cancels]

theorem Checking.own (checking : Checking phase label prepared committed) :
    label.cancels = false ∧ (∀ index fault, label ≠ .threadOrphan index fault) ∧
      ∀ now, label ≠ .grantBinding now := by
  cases checking <;> simp [StoresLabel.cancels]

/-- The answer is no release. -/
def Answer.Plain (answer : Answer Identity Time) : Prop :=
  ∀ data, answer ≠ .released data ∧ answer ≠ .workspaceReleased data

/-- A release reports `decision`, its only one, about its own lease. -/
structure Reports (before after : Lifecycle Identity Time) (now : Time)
    (body : Section Identity Time) (decisions : List (Decision Identity Time)) (decision : Decision Identity Time) : Prop where
  only : decisions = [decision]
  origin : ∃ leaseId immediate lease,
    (body = .releaseLease leaseId immediate ∨ body = .releaseWorkspace leaseId immediate) ∧
    before.active.get leaseId = some lease ∧ decision.bindingToRelease = lease.binding ∧
    (decision.runtimeToStop ≠ none → immediate = true ∧ now < lease.expiresAt) ∧
    ∀ other, other ≠ leaseId → after.active.get other = before.active.get other

/-- The workspace that a section drops: one that `sweep` finds over, or one whose last holder is
released at once while its lease is live. -/
def Drops (settings : LeaseSettings Time) (lifecycle : Lifecycle Identity Time) (now : Time)
    (state : WorkspaceState RuntimeId Time) : Section Identity Time → Prop
  | .sweep => lifecycle.Sweepable settings now state
  | .releaseLease leaseId true => lifecycle.Releasable leaseId now state
  | .releaseWorkspace leaseId true => lifecycle.Releasable leaseId now state
  | _ => False

instance (settings : LeaseSettings Time) (lifecycle : Lifecycle Identity Time) (now : Time)
    (state : WorkspaceState RuntimeId Time) : Decidable (lifecycle.Sweepable settings now state) :=
  decidable_of_iff
    ((∀ id ∈ state.holders,
      ((lifecycle.active.get id).all fun lease => decide (lease.expiresAt ≤ now)) = true) ∧
      (state.holders = ∅ → state.graceElapsed now = true) ∧
      (state.holders ≠ ∅ → now + settings.warmGraceSeconds ≤ now))
    (by simp [LeaseLifecycle.Sweepable, Option.all_eq_true])

instance (lifecycle : Lifecycle Identity Time) (leaseId : Uuid) (now : Time)
    (state : WorkspaceState RuntimeId Time) : Decidable (lifecycle.Releasable leaseId now state) :=
  decidable_of_iff
    (state.holders = {leaseId} ∧
      ((lifecycle.active.get leaseId).all fun lease => decide (now < lease.expiresAt)) = true)
    (by simp [LeaseLifecycle.Releasable, Option.all_eq_true])

instance (settings : LeaseSettings Time) (lifecycle : Lifecycle Identity Time) (now : Time)
    (state : WorkspaceState RuntimeId Time) :
    ∀ body : Section Identity Time, Decidable (Drops settings lifecycle now state body)
  | .cleanExpired _ => inferInstanceAs (Decidable False)
  | .releaseLease leaseId true => inferInstanceAs (Decidable (lifecycle.Releasable leaseId now state))
  | .releaseLease _ false => inferInstanceAs (Decidable False)
  | .releaseWorkspace leaseId true =>
    inferInstanceAs (Decidable (lifecycle.Releasable leaseId now state))
  | .releaseWorkspace _ false => inferInstanceAs (Decidable False)
  | .activate _ _ => inferInstanceAs (Decidable False)
  | .sweep => inferInstanceAs (Decidable (lifecycle.Sweepable settings now state))

/-- `prepare_activation` takes a new lease on the root `identity`, for a session bound elsewhere. -/
structure Crosses (registry : Registry Identity) (fault : Option Fault) (nextRuntime : RuntimeId)
    (session : Uuid) (identity : Identity) (entry : RuntimeEntry RuntimeId) : Prop where
  elsewhere : ∀ old, registry.bindings.get session = some old → old.identity ≠ identity
  source : registry.runtimes.get identity = some entry ∨
    registry.runtimes.get identity = none ∧ fault = none ∧ entry.runtime = nextRuntime ∧
      entry.referenceCount = 0

/-- A new lease that the runtime factory was there for. -/
theorem Crosses.ofFactory {registry : Registry Identity} {fault : Option Fault}
    {nextRuntime : RuntimeId} {session : Uuid} {entry : RuntimeEntry RuntimeId}
    (elsewhere : ∀ old, registry.bindings.get session = some old → old.identity ≠ identity)
    (source : registry.runtimes.get identity = some entry ∨
      registry.runtimes.get identity = none ∧
        Stores.runtimeFactory fault nextRuntime = .ok entry.runtime ∧ entry.referenceCount = 0) :
    Crosses registry fault nextRuntime session identity entry := by
  refine ⟨elsewhere, source.imp_right ?_⟩
  rintro ⟨absent, made, zero⟩
  cases fault with
  | none =>
    cases made
    exact ⟨absent, rfl, rfl, zero⟩
  | some fault => cases made

/-- The candidate on a new lease. -/
def crossRoot (registry : Registry Identity) (session : Uuid)
    (resolved : ResolvedWorkspace Identity) (entry : RuntimeEntry RuntimeId) : Prepared Identity :=
  { session
    expectedBinding := registry.bindings.get session
    binding := ⟨registry.leaseFor resolved.identity entry.runtime, resolved.workingSubdirectory⟩
    candidateIsProvisional := true
    candidateRuntimeCreated := !registry.runtimes.contains resolved.identity }

/-- The candidate on the lease that the session has on this root already. -/
def sameRoot (session : Uuid) (resolved : ResolvedWorkspace Identity) (old : Binding Identity) :
    Prepared Identity :=
  { session
    expectedBinding := some old
    binding := ⟨old.lease, resolved.workingSubdirectory⟩
    candidateIsProvisional := false
    candidateRuntimeCreated := false }

/-- The worker thread that a cancelled activation leaves alone. -/
def Activation.alone (activation : Activation Identity Time) (started : Bool) :
    List (Orphan Identity) :=
  match activation.phase with
  | .preparing resolved => if started then [.prepare activation.leaseId resolved] else []
  | .committing prepared => if started then [.commit prepared] else []
  | _ => []

namespace Stores

/-- **The steps on the stores.** -/
inductive Moves (settings : LeaseSettings Time) (self : Stores Identity Time) :
    StoresLabel Identity Time → Stores Identity Time → Effect Identity Time → Prop
  | issued {task : Task} {now : Time} {lease : DaemonLease Identity RuntimeId Time}
      {lifecycle : Lifecycle Identity Time}
      (binds : LeaseLifecycle.Binds self.lifecycle self.lifecycle.nextUuid none lifecycle)
      (uuid : lifecycle.nextUuid = self.lifecycle.nextUuid + 1) :
      Moves settings self (.acquireLease task now) { self with lifecycle } (.answers task (.lease lease))
  | checked {task : Task} {call : LeaseCheck} {leaseId : Uuid} {now : Time}
      {answer : Answer Identity Time} {lifecycle : Lifecycle Identity Time}
      (evolves : LeaseLifecycle.Evolves self.lifecycle [] lifecycle) (plain : answer.Plain) :
      Moves settings self (.check task call leaseId now) { self with lifecycle } (.answers task answer)
  | lapsed {task : Task} {call : LeaseCheck} {leaseId : Uuid} {now : Time}
      {decision : Option (Decision Identity Time)} {lifecycle : Lifecycle Identity Time}
      (lapses : Lapses self.lifecycle leaseId decision lifecycle)
      (late : ∀ lease, self.lifecycle.active.get leaseId = some lease → lease.expiresAt ≤ now) :
      Moves settings self (.check task call leaseId now)
        { self with lifecycle, waiters := self.waiters ++ [(task, .cleanExpired decision)] } .silent
  | queued {task : Task} {body : Section Identity Time} {now : Time}
      (plain : ∀ decision, body ≠ .cleanExpired decision) :
      Moves settings self (.enter task body now)
        { self with waiters := self.waiters ++ [(task, body)] } .silent
  | cleaned {task : Task} {decision : Option (Decision Identity Time)}
      {rest : List (Task × Section Identity Time)} {now : Time} {targets : List RuntimeId}
      {registry : Registry Identity} (free : self.holder = none)
      (first : self.waiters = (task, .cleanExpired decision) :: rest)
      (applies : Applies self.registry decision.toList targets registry) :
      Moves settings self (.grantBinding now) { self with waiters := rest, registry }
        (.stops task targets .leaseExpired)
  | applied {task : Task} {body : Section Identity Time}
      {rest : List (Task × Section Identity Time)} {now : Time}
      {decisions : List (Decision Identity Time)} {lifecycle : Lifecycle Identity Time}
      {targets : List RuntimeId} {registry : Registry Identity} {finish : Finish Identity Time}
      (free : self.holder = none) (first : self.waiters = (task, body) :: rest)
      (plain : ∀ decision, body ≠ .cleanExpired decision)
      (evolves : LeaseLifecycle.Evolves self.lifecycle decisions lifecycle)
      (applies : Applies self.registry decisions targets registry)
      (drops : ∀ {identity state}, self.lifecycle.workspaces.get identity = some state →
        lifecycle.workspaces.get identity = none → Drops settings self.lifecycle now state body)
      (reports : ∀ decision, finish.decision = some decision →
        Reports self.lifecycle lifecycle now body decisions decision) :
      Moves settings self (.grantBinding now) { self with waiters := rest, lifecycle, registry }
        (.stops task targets finish)
  | entered {task : Task} {leaseId : Uuid} {resolved : ResolvedWorkspace Identity}
      {rest : List (Task × Section Identity Time)} {now : Time}
      {lease : DaemonLease Identity RuntimeId Time} (free : self.holder = none)
      (first : self.waiters = (task, .activate leaseId resolved) :: rest)
      (found : self.lifecycle.active.get leaseId = some lease) :
      Moves settings self (.grantBinding now)
        { self with
          waiters := rest
          holder := some {
            task, leaseId, phase := .preparing resolved
            lifecycleAtEntry := self.lifecycle, registryAtEntry := self.registry } } .silent
  | preparedSame {activation : Activation Identity Time} {resolved : ResolvedWorkspace Identity}
      {old : Binding Identity} {fault : Option Fault} (holds : self.holder = some activation)
      (phase : activation.phase = .preparing resolved)
      (there : self.registry.bindings.get activation.leaseId = some old)
      (same : old.identity = resolved.identity) :
      Moves settings self (.threadPrepare fault)
        { self with
          nextRuntime := self.nextRuntime + 1
          holder := some { activation with
            phase := .prepared (.ok (sameRoot activation.leaseId resolved old)) } } .silent
  | preparedCross {activation : Activation Identity Time} {resolved : ResolvedWorkspace Identity}
      {entry : RuntimeEntry RuntimeId} {fault : Option Fault}
      (holds : self.holder = some activation) (phase : activation.phase = .preparing resolved)
      (crosses : Crosses self.registry fault self.nextRuntime activation.leaseId
        resolved.identity entry) :
      Moves settings self (.threadPrepare fault)
        { self with
          registry := self.registry.withLease resolved.identity entry
          nextRuntime := self.nextRuntime + 1
          holder := some { activation with
            phase := .prepared (.ok (crossRoot self.registry activation.leaseId resolved entry)) } }
        .silent
  | preparedFault {activation : Activation Identity Time} {resolved : ResolvedWorkspace Identity}
      {fault : Option Fault} {raised : Fault} (holds : self.holder = some activation)
      (phase : activation.phase = .preparing resolved) :
      Moves settings self (.threadPrepare fault)
        { self with
          nextRuntime := self.nextRuntime + 1
          holder := some { activation with phase := .prepared (.error raised) } } .silent
  | resumed {activation : Activation Identity Time} {prepared : Prepared Identity}
      (holds : self.holder = some activation) (phase : activation.phase = .prepared (.ok prepared)) :
      Moves settings self .resumePrepared
        { self with holder := some { activation with phase := .refreshing prepared } } .silent
  | refused {activation : Activation Identity Time} {fault : Fault}
      (holds : self.holder = some activation) (phase : activation.phase = .prepared (.error fault)) :
      Moves settings self .resumePrepared
        { self with
          holder := none
          failures :=
            activation.failure self.lifecycle self.registry self.waiters :: self.failures }
        (.stops activation.task [] (.activationError (activationError fault)))
  | failed {label : StoresLabel Identity Time} {activation : Activation Identity Time}
      {prepared : Prepared Identity} {targets : List RuntimeId} {registry : Registry Identity}
      {fault : Fault} (holds : self.holder = some activation)
      (failing : Failing activation.phase label prepared)
      (retires : Retires (undone self.registry activation.leaseId prepared false)
        (retirementOf prepared) targets registry) :
      Moves settings self label
        { self with
          registry
          holder := none
          settled := prepared :: self.settled
          failures := activation.failure self.lifecycle registry self.waiters :: self.failures }
        (.stops activation.task targets (.activationError (activationError fault)))
  | expired {label : StoresLabel Identity Time} {activation : Activation Identity Time}
      {prepared : Prepared Identity} {committed : Bool} {discarded targets : List RuntimeId}
      {decision : Option (Decision Identity Time)} {lifecycle : Lifecycle Identity Time}
      {middle registry : Registry Identity} (holds : self.holder = some activation)
      (checking : Checking activation.phase label prepared committed)
      (lapses : Lapses self.lifecycle activation.leaseId decision lifecycle)
      (retires : Retires (undone self.registry activation.leaseId prepared committed)
        (retirementOf prepared) discarded middle)
      (applies : Applies middle decision.toList targets registry) :
      Moves settings self label
        { self with
          lifecycle
          registry
          holder := none
          settled := prepared :: self.settled }
        (.stops activation.task (discarded ++ targets) .leaseExpired)
  | committing {activation : Activation Identity Time} {prepared : Prepared Identity} {now : Time}
      {lease : DaemonLease Identity RuntimeId Time} (holds : self.holder = some activation)
      (phase : activation.phase = .refreshing prepared)
      (found : self.lifecycle.active.get activation.leaseId = some lease) :
      Moves settings self (.resumeRefreshed none now)
        { self with holder := some { activation with phase := .committing prepared } } .silent
  | committed {activation : Activation Identity Time} {prepared : Prepared Identity}
      (holds : self.holder = some activation) (phase : activation.phase = .committing prepared)
      (current : self.registry.Current prepared) :
      Moves settings self .threadCommit
        { self with
          registry := self.registry.committed prepared
          settled := prepared :: self.settled
          holder := some { activation with
            phase := .committed prepared (.ok prepared.binding) } } .silent
  | overtaken {activation : Activation Identity Time} {prepared : Prepared Identity} {fault : Fault}
      (holds : self.holder = some activation) (phase : activation.phase = .committing prepared)
      (stale : ¬self.registry.Current prepared) :
      Moves settings self .threadCommit
        { self with
          registry := self.registry.aborted prepared
          holder := some { activation with phase := .committed prepared (.error fault) } } .silent
  | rebound {activation : Activation Identity Time} {prepared : Prepared Identity} {now : Time}
      {lease : DaemonLease Identity RuntimeId Time} {lifecycle : Lifecycle Identity Time}
      (holds : self.holder = some activation)
      (phase : activation.phase = .committed prepared (.ok prepared.binding))
      (found : self.lifecycle.active.get activation.leaseId = some lease)
      (binds : LeaseLifecycle.Binds self.lifecycle activation.leaseId (some prepared.binding)
        lifecycle) (uuid : lifecycle.nextUuid = self.lifecycle.nextUuid) :
      Moves settings self (.resumeCommitted now) { self with lifecycle, holder := none }
        (.stops activation.task [] (.activated activation.leaseId prepared.binding))
  | cancelledActivation {activation : Activation Identity Time} {started : Bool}
      (holds : self.holder = some activation) :
      Moves settings self (.cancelActivation started)
        { self with holder := none, orphans := self.orphans ++ activation.alone started }
        (.answers activation.task .cancelled)
  | cancelledWaiting {task : Task} :
      Moves settings self (.cancelWaiting task)
        { self with waiters := self.waiters.filter fun waiter => waiter.1 ≠ task }
        (.answers task .cancelled)
  | orphanPrepared {index : Nat} {fault : Option Fault} {leaseId : Uuid}
      {resolved : ResolvedWorkspace Identity} {registry : Registry Identity}
      (orphan : self.orphans[index]? = some (.prepare leaseId resolved))
      (outcome : registry = self.registry ∨
        ∃ entry, Crosses self.registry fault self.nextRuntime leaseId resolved.identity entry ∧
          registry = self.registry.withLease resolved.identity entry) :
      Moves settings self (.threadOrphan index fault)
        { self with
          registry
          nextRuntime := self.nextRuntime + 1
          orphans := self.orphans.eraseIdx index } .silent
  | orphanCommitted {index : Nat} {fault : Option Fault} {prepared : Prepared Identity}
      {registry : Registry Identity} (orphan : self.orphans[index]? = some (.commit prepared))
      (outcome : self.registry.Current prepared ∧ registry = self.registry.committed prepared ∨
        ¬self.registry.Current prepared ∧ registry = self.registry.aborted prepared) :
      Moves settings self (.threadOrphan index fault)
        { self with registry, orphans := self.orphans.eraseIdx index } .silent

/-! ### Steps are moves -/

section Steps

variable {self : Stores Identity Time} {settings : LeaseSettings Time}

/-- Decisions that stop nothing drop nothing. -/
theorem kept_of_warm {before after : Lifecycle Identity Time}
    {decisions : List (Decision Identity Time)}
    (evolves : LeaseLifecycle.Evolves before decisions after)
    (warm : ∀ decision ∈ decisions, decision.runtimeToStop = none) {identity : Identity}
    {state : WorkspaceState RuntimeId Time} (entry : before.workspaces.get identity = some state) :
    after.workspaces.get identity ≠ none := by
  intro dropped
  obtain ⟨decision, member, _, stops⟩ := evolves.removed entry dropped
  rw [warm decision member] at stops
  cases stops

variable {now : Time} {after : Stores Identity Time} {fault : Option Fault}
  {effect : Effect Identity Time} {activation : Activation Identity Time}
  {prepared : Prepared Identity}

/-- A release drops a workspace only at its last holder's immediate release. -/
theorem dropped_by_last {before after : Lifecycle Identity Time}
    {decision : Decision Identity Time} {leaseId : Uuid} {immediate : Bool}
    {lease : DaemonLease Identity RuntimeId Time} (sound : before.Sound)
    (evolves : LeaseLifecycle.Evolves before [decision] after)
    (found : before.active.get leaseId = some lease) (place : decision.identity = lease.identity)
    (others : ∀ other, other ≠ leaseId → after.active.get other = before.active.get other)
    (firm : decision.runtimeToStop ≠ none → immediate = true ∧ now < lease.expiresAt)
    {identity : Identity} {state : WorkspaceState RuntimeId Time}
    (entry : before.workspaces.get identity = some state)
    (dropped : after.workspaces.get identity = none) :
    immediate = true ∧ before.Releasable leaseId now state := by
  obtain ⟨made, member, here, stops⟩ := evolves.removed entry dropped
  obtain rfl := List.mem_singleton.mp member
  obtain ⟨now, live⟩ := firm (by simp [stops])
  refine ⟨now, Finset.Subset.antisymm ?_ ?_, fun other there => ?_⟩
  · intro other holder
    obtain ⟨holding, held, elsewhere⟩ := (sound.holders entry other).mp holder
    obtain ⟨binding, bound, rfl⟩ := Option.map_eq_some_iff.mp elsewhere
    rw [Finset.mem_singleton]
    by_contra different
    obtain ⟨_, there, _⟩ :=
      evolves.sound.hosted ((others other different).trans held) bound
    rw [dropped] at there
    cases there
  · rw [Finset.singleton_subset_iff]
    exact (sound.holders entry leaseId).mpr ⟨lease, found, place.symm.trans here⟩
  · rw [found] at there
    cases there
    exact live

/-- A section that finds its own lease lapsed releases what the expiry decided. -/
theorem Moves.ofLapse (base : self.Base) {task : Task} {body : Section Identity Time}
    {rest : List (Task × Section Identity Time)} {leaseId : Uuid}
    {decision : Option (Decision Identity Time)} {lifecycle : Lifecycle Identity Time}
    (free : self.holder = none) (first : self.waiters = (task, body) :: rest)
    (plain : ∀ decision, body ≠ .cleanExpired decision)
    (lapses : Lapses self.lifecycle leaseId decision lifecycle) :
    Moves settings self (.grantBinding now)
      (leaveWith task .leaseExpired { self with waiters := rest, lifecycle }
        ((applyDecisionLocked decision).run self.registry)).1
      (leaveWith task .leaseExpired { self with waiters := rest, lifecycle }
        ((applyDecisionLocked decision).run self.registry)).2 := by
  obtain ⟨targets, registry, applies, run⟩ := applyDecisionLocked_applies base.registry decision
  simp only [leaveWith, run]
  have evolves := lapses.evolves base.lifecycle
  exact .applied free first plain evolves applies
    (fun entry dropped => absurd dropped (kept_of_warm evolves lapses.warm entry))
    (by simp [Finish.decision])

variable (settings) in
/-- A granted critical section. -/
theorem runSection_moves (base : self.Base) {task : Task} {body : Section Identity Time}
    {rest : List (Task × Section Identity Time)} (now : Time) (free : self.holder = none)
    (first : self.waiters = (task, body) :: rest) :
    Moves settings self (.grantBinding now)
      (runSection settings task now { self with waiters := rest } body).1
      (runSection settings task now { self with waiters := rest } body).2 := by
  cases body with
  | cleanExpired decision =>
    obtain ⟨targets, registry, applies, run⟩ :=
      applyDecisionLocked_applies base.registry decision
    simp only [runSection, leaveWith, run]
    exact .cleaned free first applies
  | releaseLease leaseId immediate =>
    rcases LeaseLifecycle.release_run settings base.lifecycle leaseId immediate now with
      ⟨absent, run⟩ | ⟨lease, decision, lifecycle, released, found, ended, firm, run⟩
    · simp only [runSection, run]
      exact .applied free first (by simp) (.refl base.lifecycle) (.nil _)
        (fun entry dropped => absurd (entry.symm.trans dropped) (by simp))
        (by simp [Finish.decision])
    · obtain ⟨targets, registry, applies, applied⟩ :=
        applyDecisionLocked_applies base.registry (some decision)
      simp only [runSection, run, leaveWith, applied]
      have others : ∀ other, other ≠ leaseId →
          lifecycle.active.get other = self.lifecycle.active.get other := by
        rw [← base.lifecycle.key found]
        exact ended.others
      refine .applied free first (by simp) ended.evolves applies ?_ ?_
      · intro identity state entry dropped
        obtain ⟨rfl, last⟩ := dropped_by_last base.lifecycle ended.evolves found ended.place
          others firm entry dropped
        exact last
      · rintro _ ⟨⟩
        exact ⟨rfl, leaseId, immediate, lease, .inl rfl, found, ended.binding, firm, others⟩
  | releaseWorkspace leaseId immediate =>
    rcases LeaseLifecycle.releaseWorkspace_cases settings base.lifecycle leaseId immediate now
      with ⟨lease, found, unbound, run⟩ |
        ⟨lease, binding, decision, lifecycle, found, bound, ended, firm, run⟩ |
        ⟨decision, lifecycle, lapses, _, run⟩
    · simp only [runSection, run]
      exact .applied free first (by simp) (.refl base.lifecycle) (.nil _)
        (fun entry dropped => absurd (entry.symm.trans dropped) (by simp))
        (by simp [Finish.decision])
    · obtain ⟨targets, registry, applies, applied⟩ :=
        applyDecisionLocked_applies base.registry (some decision)
      simp only [runSection, run, leaveWith, applied]
      have others : ∀ other, other ≠ leaseId →
          lifecycle.active.get other = self.lifecycle.active.get other := by
        rw [← base.lifecycle.key found]
        exact ended.others
      have place : decision.identity = lease.identity := by
        rw [(ended.evolves.bound (by simp) ended.binding).1, DaemonLease.identity, bound]
        rfl
      refine .applied free first (by simp) ended.evolves applies ?_ ?_
      · intro identity state entry dropped
        obtain ⟨rfl, last⟩ := dropped_by_last base.lifecycle ended.evolves found place others
          firm entry dropped
        exact last
      · rintro _ ⟨⟩
        exact ⟨rfl, leaseId, immediate, lease, .inr rfl, found,
          ended.binding.trans bound.symm, firm, others⟩
    · simp only [runSection, run]
      exact .ofLapse base free first (by simp) lapses
  | activate leaseId resolved =>
    rcases requireActive_cases settings base.lifecycle leaseId now with
      ⟨lease, found, run⟩ | ⟨decision, lifecycle, lapses, _, run⟩
    · simp only [runSection, run]
      exact .entered free first found
    · simp only [runSection, run]
      exact .ofLapse base free first (by simp) lapses
  | sweep =>
    obtain ⟨decisions, lifecycle, run, evolves, _, sweepable⟩ :=
      LeaseLifecycle.sweep_run settings base.lifecycle now
    obtain ⟨targets, registry, applies, applied⟩ :=
      applyDecisionsLocked_run decisions base.registry
    simp only [runSection, run, leaveWith, applied]
    exact .applied free first (by simp) evolves applies
      (fun entry dropped => sweepable _ _ entry dropped) (by simp [Finish.decision])

theorem threadPrepare_moves (taken : threadPrepare fault self = some after) :
    Moves settings self (.threadPrepare fault) after .silent := by
  unfold threadPrepare at taken
  split at taken
  · rename_i activation holds
    split at taken
    · rename_i resolved phase
      rcases prepareActivation_cases self.registry
        (runtimeFactory fault self.nextRuntime) activation.leaseId resolved with
          ⟨old, there, same, run⟩ | ⟨entry, elsewhere, source, run⟩ | ⟨raised, _, _, _, run⟩
      · simp only [run, Option.some.injEq] at taken
        subst taken
        exact .preparedSame holds phase there same
      · simp only [run, Option.some.injEq] at taken
        subst taken
        exact .preparedCross holds phase (.ofFactory elsewhere source)
      · simp only [run, Option.some.injEq] at taken
        subst taken
        exact .preparedFault holds phase
    · cases taken
  · cases taken

theorem resumePrepared_moves (taken : resumePrepared self = some (after, effect)) :
    Moves settings self .resumePrepared after effect := by
  unfold resumePrepared at taken
  split at taken
  · rename_i activation holds
    split at taken
    · rename_i prepared phase
      cases taken
      exact .resumed holds phase
    · rename_i fault phase
      cases taken
      exact .refused holds phase
    · cases taken
  · cases taken

section

variable (base : self.Base)

include base

variable {label : StoresLabel Identity Time}

/-- An activation that fails with its candidate uncommitted. -/
theorem Moves.ofFailure (fault : Fault) (holds : self.holder = some activation)
    (failing : Failing activation.phase label prepared) :
    Moves settings self label
      (fail activation self.lifecycle fault { self with settled := prepared :: self.settled }
        ((discardPreparedActivationLocked activation.leaseId prepared false).run self.registry)).1
      (fail activation self.lifecycle fault { self with settled := prepared :: self.settled }
        ((discardPreparedActivationLocked activation.leaseId prepared false).run
          self.registry)).2 := by
  obtain ⟨targets, registry, retires, run⟩ :=
    discardPreparedActivationLocked_run base.registry activation.leaseId prepared false
  simp only [fail, leaveWith, run]
  exact .failed holds failing retires

/-- An activation that finds its lease lapsed. -/
theorem Moves.ofExpiry {committed : Bool} {decision : Option (Decision Identity Time)}
    {lifecycle : Lifecycle Identity Time} (holds : self.holder = some activation)
    (checking : Checking activation.phase label prepared committed)
    (lapses : Lapses self.lifecycle activation.leaseId decision lifecycle)
    (left : some (expireActivation activation prepared committed decision
      { self with lifecycle }) = some (after, effect)) :
    Moves settings self label after effect := by
  obtain ⟨discarded, middle, retires, discards⟩ :=
    discardPreparedActivationLocked_run base.registry activation.leaseId prepared committed
  obtain ⟨targets, registry, applies, applied⟩ := applyDecisionLocked_applies
    (retires.sound (undone_sound base.registry activation.leaseId prepared committed)) decision
  simp only [expireActivation, leaveWith, EStateM.run_bind, discards, applied,
    EStateM.run_pure] at left
  cases left
  exact .expired holds checking lapses retires applies

theorem resumeRefreshed_moves
    (taken : resumeRefreshed settings fault now self = some (after, effect)) :
    Moves settings self (.resumeRefreshed fault now) after effect := by
  unfold resumeRefreshed at taken
  split at taken
  · rename_i activation holds
    split at taken
    · rename_i prepared phase
      cases fault with
      | some fault =>
        cases taken
        exact .ofFailure base fault holds (phase ▸ .refresh)
      | none =>
        rcases requireActive_cases settings base.lifecycle activation.leaseId now with
          ⟨lease, found, run⟩ | ⟨decision, lifecycle, lapses, _, run⟩
        · simp only [run] at taken
          cases taken
          exact .committing holds phase found
        · simp only [run] at taken
          exact .ofExpiry base holds (phase ▸ .refresh) lapses taken
    · cases taken
  · cases taken

theorem threadCommit_moves
    (taken : threadCommit self = some after) : Moves settings self .threadCommit after .silent := by
  unfold threadCommit at taken
  split at taken
  · rename_i activation holds
    split at taken
    · rename_i prepared phase
      rcases @commitActivation_run _ _ _ Fault _ _ _ self.registry
        base.registry prepared with ⟨current, run⟩ | ⟨stale, message, run⟩
      · simp only [run] at taken
        cases taken
        exact .committed holds phase current
      · simp only [run] at taken
        cases taken
        exact .overtaken holds phase stale
    · cases taken
  · cases taken

/-- The lifecycle's runtime of the candidate's root, if there is one, is the candidate's. -/
theorem Base.fits (holds : self.holder = some activation)
    (candidate : activation.phase.candidate = some prepared) :
    ¬self.lifecycle.Clashes prepared.binding := by
  rintro ⟨state, found, different⟩
  obtain ⟨entry, entryFound, stateRuntime⟩ := base.shared _ _ found
  obtain ⟨other, otherFound, candidateRuntime⟩ := base.candidate holds candidate
  rw [entryFound] at otherFound
  cases otherFound
  exact different (stateRuntime.symm.trans candidateRuntime)

theorem resumeCommitted_moves
    (taken : resumeCommitted settings now self = some (after, effect)) :
    Moves settings self (.resumeCommitted now) after effect := by
  unfold resumeCommitted at taken
  split at taken
  · rename_i activation holds
    split at taken
    · rename_i prepared binding phase
      obtain rfl := base.bound holds phase
      rcases LeaseLifecycle.rebind_cases settings base.lifecycle activation.leaseId
        prepared.binding now with ⟨lease, lifecycle, found, _, binds, uuid, run⟩ |
          ⟨_, _, _, _, _, clashes, _⟩ | ⟨decision, lifecycle, lapses, _, run⟩
      · simp only [run] at taken
        cases taken
        exact .rebound holds phase found binds uuid
      · exact absurd clashes (base.fits holds (by rw [phase]; rfl))
      · simp only [run] at taken
        exact .ofExpiry base holds (phase ▸ .rebind) lapses taken
    · rename_i prepared fault phase
      cases taken
      exact .ofFailure base fault holds (phase ▸ .commit)
    · cases taken
  · cases taken

theorem threadOrphan_moves {index : Nat} (taken : threadOrphan index fault self = some after) :
    Moves settings self (.threadOrphan index fault) after .silent := by
  unfold threadOrphan at taken
  split at taken
  · rename_i leaseId resolved orphan
    cases taken
    refine .orphanPrepared orphan ?_
    rcases prepareActivation_cases self.registry
      (runtimeFactory fault self.nextRuntime) leaseId resolved with
        ⟨old, _, _, run⟩ | ⟨entry, elsewhere, source, run⟩ | ⟨raised, _, _, _, run⟩
    · simp [run]
    · simp only [run]
      exact .inr ⟨entry, .ofFactory elsewhere source, rfl⟩
    · simp [run]
  · rename_i prepared orphan
    cases taken
    refine .orphanCommitted orphan ?_
    rcases @commitActivation_run _ _ _ Fault _ _ _ self.registry
      base.registry prepared with ⟨current, run⟩ | ⟨stale, message, run⟩
    · simp only [run]
      exact .inl ⟨current, trivial⟩
    · simp only [run]
      exact .inr ⟨stale, trivial⟩
  · cases taken

end

end Steps

end Stores

end SerenaLight.Daemon
