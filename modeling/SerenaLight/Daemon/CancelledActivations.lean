/-
**Activations that are cancelled.**

`asyncio.CancelledError` is no `Exception`, so an activation that is cancelled undoes nothing, and
the worker thread it waited for goes on alone. What is left depends on the await: a candidate on a
new lease stays in the registry for ever, and a commit may come after the lock was released.

* `Stores.harmless`: the cancellations, and the runs of abandoned threads, that leave nothing.
* `activations_agree`: in a run where all are harmless, whenever no coroutine is in progress every
  registry lease is some session's and both stores have the same binding for each lease.
* `cancelled_activation_leaks`: a cancellation during the refresh.
-/

import SerenaLight.Daemon.Links

set_option linter.unusedSectionVars false

namespace SerenaLight.Daemon

open Foundation Workspace

variable {Identity Time : Type}
variable [DecidableEq Identity] [LinearOrder Time] [Add Time] [Zero Time]

/-! ### Harmless cancellations -/

/-- The commit of the candidate changes nothing: it has the lease and the subdirectory that the
session has already. -/
def idleCommit (prepared : Prepared Identity) : Bool :=
  !prepared.candidateIsProvisional && decide (prepared.expectedBinding = some prepared.binding)

/-- The activation can be cancelled here without a trace: it holds no new lease, and a commit that
was made, or will be by the thread that `started`, changes nothing. -/
def Phase.harmless (started : Bool) : Phase Identity → Bool
  | .preparing _ => true
  | .prepared (.error _) => true
  | .prepared (.ok held) => !held.candidateIsProvisional
  | .refreshing held => !held.candidateIsProvisional
  | .committing held => !held.candidateIsProvisional && (!started || idleCommit held)
  | .committed held _ => idleCommit held

/-- The coroutine waits to release a registry lease. -/
def Section.owes : Section Identity Time → Bool
  | .cleanExpired (some decision) => decision.bindingToRelease.isSome
  | _ => false

/-- An abandoned `prepare_activation` takes no lease: the session is on this root, or there is no
runtime and none can be made. -/
def Orphan.harmless (fault : Option Fault) (registry : Registry Identity) : Orphan Identity → Bool
  | .prepare leaseId resolved =>
    ((registry.bindings.get leaseId).any fun old => decide (old.identity = resolved.identity)) ||
      (fault.isSome && (registry.runtimes.get resolved.identity).isNone)
  | .commit _ => true

/-- The step leaves nothing behind. -/
def Stores.harmless (stores : Stores Identity Time) : StoresLabel Identity Time → Bool
  | .cancelActivation started =>
    stores.holder.all fun activation => activation.phase.harmless started
  | .cancelWaiting task =>
    stores.waiters.all fun waiter => decide (waiter.1 ≠ task) || !waiter.2.owes
  | .threadOrphan index fault =>
    stores.orphans[index]?.all fun orphan => orphan.harmless fault stores.registry
  | _ => true

/-- The step of the service leaves nothing behind. -/
def Service.harmless (service : Service Identity Time) (label : Label Identity Time) : Bool :=
  (service.storesLabel label).all service.stores.harmless

variable {prepared : Prepared Identity}

theorem idleCommit_iff :
    idleCommit prepared = true ↔ prepared.candidateIsProvisional = false ∧
      prepared.expectedBinding = some prepared.binding := by
  simp [idleCommit]

variable {registry entry : Registry Identity} {leaseId : Uuid} {phase : Phase Identity}

/-- An idle commit, accepted or not. -/
theorem committed_idle (idle : idleCommit prepared = true)
    (current : registry.bindings.get prepared.session = prepared.expectedBinding) :
    registry.committed prepared = registry := by
  obtain ⟨reused, expected⟩ := idleCommit_iff.mp idle
  unfold WorkspaceRuntimeRegistry.committed
  rw [expected] at current
  simp only [expected, reused, Bool.false_eq_true, if_false, Dict.set_of_get _ current]

theorem aborted_idle (reused : prepared.candidateIsProvisional = false) :
    registry.aborted prepared = registry := by
  simp only [WorkspaceRuntimeRegistry.aborted, reused, Bool.false_eq_true, if_false]

/-- A candidate that is not on a new lease leaves no trace before its commit. -/
theorem Tracks.reused (tracks : Tracks entry leaseId phase registry)
    (tentative : phase.tentative = some prepared)
    (reused : prepared.candidateIsProvisional = false) : registry = entry := by
  cases tracks with
  | preparing | faulted | same _ _ _ => rfl
  | cross _ held =>
    obtain rfl := Option.mem_unique tentative held
    cases reused
  | committed _ => cases tentative

variable {started : Bool}

/-- **A harmless phase has the registry that the activation found.** -/
theorem Tracks.harmless (tracks : Tracks entry leaseId phase registry)
    (harmless : phase.harmless started = true) : registry = entry := by
  cases phase with
  | preparing _ => exact tracks.of_preparing
  | prepared outcome =>
    cases outcome with
    | error _ => exact tracks.of_faulted
    | ok held => exact tracks.reused rfl (by simpa [Phase.harmless] using harmless)
  | refreshing held => exact tracks.reused rfl (by simpa [Phase.harmless] using harmless)
  | committing held =>
    rw [Phase.harmless, Bool.and_eq_true] at harmless
    exact tracks.reused rfl (by simpa using harmless.1)
  | committed held outcome =>
    cases tracks with
    | same _ _ tentative | cross _ tentative => cases tentative
    | committed before =>
      have same := before.reused rfl (idleCommit_iff.mp harmless).1
      have current := before.current rfl
      rw [committed_idle harmless current.1]
      exact same

/-! ### The invariant -/

namespace Stores

/-- The registry is tracked, the stores are linked, and abandoned commits are idle. -/
structure Clean (stores : Stores Identity Time) : Prop where
  tracked : stores.Tracked
  joined : stores.Joined
  commits : ∀ prepared, Orphan.commit prepared ∈ stores.orphans → idleCommit prepared = true

variable {settings : LeaseSettings Time} {self after : Stores Identity Time}
  {label : StoresLabel Identity Time}
  {effect : Effect Identity Time}

theorem Clean.init : (Stores.init : Stores Identity Time).Clean :=
  ⟨.init, Linked.init, by simp [Stores.init]⟩

/-- A harmless run of an abandoned thread does not change the registry. -/
theorem Clean.steady (clean : self.Clean) (moves : Moves settings self label after effect)
    (harmless : self.harmless label = true) : Steady self label after := by
  rintro index fault rfl
  cases moves with
  | failed _ failing _ => exact absurd rfl (failing.own.2.1 index fault)
  | expired _ checking _ _ _ => exact absurd rfl (checking.own.2.1 index fault)
  | @orphanPrepared _ _ leaseId resolved registry orphan outcome =>
    rcases outcome with same | ⟨entry, crosses, _⟩
    · exact same
    · simp only [Stores.harmless, orphan, Option.all_some, Orphan.harmless, Bool.or_eq_true,
        Bool.and_eq_true, Option.isNone_iff_eq_none, Option.any_eq_true, decide_eq_true_eq]
        at harmless
      rcases harmless with ⟨old, there, root⟩ | ⟨raises, absent⟩
      · exact absurd root (crosses.elsewhere old there)
      · rcases crosses.source with found | ⟨_, noFault, _⟩
        · rw [absent] at found
          cases found
        · rw [noFault] at raises
          cases raises
  | @orphanCommitted _ _ prepared registry orphan outcome =>
    have idle := clean.commits prepared (List.mem_of_getElem? orphan)
    rcases outcome with ⟨current, same⟩ | ⟨_, same⟩
    · exact same.trans (committed_idle idle current.1)
    · exact same.trans (aborted_idle (idleCommit_iff.mp idle).1)

/-- A harmless cancellation spares the link. -/
theorem Clean.spares (clean : self.Clean) (moves : Moves settings self label after effect)
    (harmless : self.harmless label = true) : self.Spares label := by
  constructor
  · rintro started rfl
    cases moves with
    | failed _ failing _ => cases failing.own.1
    | expired _ checking _ _ _ => cases checking.own.1
    | @cancelledActivation activation _ holds =>
      simp only [Stores.harmless, holds, Option.all_some] at harmless
      rw [(clean.tracked.tracks holds).harmless harmless, ledger_of_holder holds]
      exact ⟨fun _ => rfl, fun _ => rfl, fun _ => rfl⟩
  · rintro task decision rfl member
    have each := List.all_eq_true.mp harmless _ member
    simpa [Section.owes] using each

/-- An abandoned commit is that of a thread that had started. -/
theorem alone_commit {activation : Activation Identity Time} {prepared : Prepared Identity}
    (member : Orphan.commit prepared ∈ activation.alone started) :
    started = true ∧ activation.phase = .committing prepared := by
  unfold Activation.alone at member
  split at member
  · cases started <;> simp at member
  · rename_i held phase
    cases started with
    | false => simp at member
    | true =>
      cases List.mem_singleton.mp member
      exact ⟨rfl, phase⟩
  · cases member

/-- **Harmless moves keep the stores clean.** -/
theorem Moves.clean (moves : Moves settings self label after effect) (base : self.Base)
    (harmless : self.harmless label = true) (clean : self.Clean) : after.Clean := by
  have steady := clean.steady moves harmless
  refine ⟨moves.tracked base steady clean.tracked,
    moves.linked base clean.tracked steady (clean.spares moves harmless) clean.joined, ?_⟩
  cases moves with
  | @cancelledActivation activation started holds =>
    intro prepared member
    rcases List.mem_append.mp member with earlier | here
    · exact clean.commits prepared earlier
    · obtain ⟨rfl, phase⟩ := alone_commit here
      simp only [Stores.harmless, holds, Option.all_some, phase, Phase.harmless,
        Bool.and_eq_true, Bool.not_true, Bool.false_or] at harmless
      exact harmless.2
  | orphanPrepared _ _ | orphanCommitted _ _ =>
    exact fun prepared member => clean.commits prepared (List.mem_of_mem_eraseIdx member)
  | _ => exact clean.commits

end Stores

/-! ### Runs of the service -/

/-- **The two stores agree after activations.** In a run whose cancellations and abandoned threads
are all harmless, whenever no coroutine and no worker thread is in progress, every live registry
lease is the lease of some session's binding, and the registry has for each lease the binding that
the lifecycle has. -/
theorem activations_agree (settings : LeaseSettings Time) {state : Service Identity Time}
    (reached : Reaches (Service.step settings) (fun service label => service.harmless label = true)
      Service.init state) (quiescent : state.Quiescent) :
    (∀ id lease, state.stores.registry.leases.get id = some lease → ∃ session binding,
      state.stores.registry.bindings.get session = some binding ∧ binding.lease.id = id) ∧
    ∀ leaseId, state.stores.registry.bindings.get leaseId =
      (state.stores.lifecycle.active.get leaseId).bind DaemonLease.binding := by
  obtain ⟨_, clean⟩ := Service.invariant settings (fun stores _ => stores.Clean)
    (fun stores _ label => stores.harmless label = true)
    (fun service label driven permitted drives => by
      simpa [Service.harmless, drives] using permitted)
    .init (fun base clean harmless moves => moves.clean base harmless clean)
    (fun _ _ _ _ _ => rfl) (fun _ _ clean _ => clean) reached
  obtain ⟨_, free, idle, _⟩ := quiescent
  have linked := clean.joined
  rw [Stores.Joined, Stores.ledger_of_free (Option.isNone_iff_eq_none.mp free),
    List.isEmpty_iff.mp idle] at linked
  refine ⟨fun id lease found => linked.bound found, fun leaseId => ?_⟩
  cases active : state.stores.lifecycle.active.get leaseId with
  | some lease => exact (linked.active active).symm
  | none =>
    cases there : state.stores.registry.bindings.get leaseId with
    | none => rfl
    | some binding =>
      obtain ⟨_, _, member, _⟩ := linked.owed active there
      cases member

/-- A lease is bound to the root `7`, and asks for it again; the second activation is cancelled
during its refresh. -/
theorem activations_agree_same_root : ∃ state : Service Nat Nat,
    state.Quiescent ∧ state.stores.registry.bindings.get 0 ≠ none ∧
      state.stores.registry.bindings.get 0 =
        (state.stores.lifecycle.active.get 0).bind DaemonLease.binding := by
  obtain ⟨state, reached, quiescent, bound⟩ := Reaches.of_run (Service.step LeaseSettings.default)
    (fun state label => Service.harmless state label = true) Service.init
    ([.spawn .acquireLease 0] ++ Service.activationRun 0 1 7 0 ++
      [.spawn (.activateWorkspace (some 0) true) 1, .resolved 2 (.ok ⟨7, ""⟩) 1,
        .stores (.threadPrepare none), .stores .resumePrepared, .stores (.cancelActivation false)])
    (fun state => state.Quiescent ∧ state.stores.registry.bindings.get 0 ≠ none)
    (by decide +kernel)
  exact ⟨state, quiescent, bound, (activations_agree LeaseSettings.default reached quiescent).2 0⟩

/-- **A cancelled activation leaves its lease behind**: the refresh of a first activation
is cancelled, and the registry keeps a lease that no session has. -/
theorem cancelled_activation_leaks : ∃ state : Service Nat Nat,
    Reaches (Service.step LeaseSettings.default) (fun _ _ => True) Service.init state ∧
      state.Quiescent ∧ state.stores.registry.leases.get 0 ≠ none ∧
      state.stores.registry.bindings.items = [] :=
  Reaches.of_run _ _ _ [.spawn .acquireLease 0, .spawn (.activateWorkspace (some 0) true) 0,
    .resolved 1 (.ok ⟨7, ""⟩) 0, .stores (.threadPrepare none), .stores .resumePrepared,
    .stores (.cancelActivation false)] _ (by decide +kernel)

end SerenaLight.Daemon
