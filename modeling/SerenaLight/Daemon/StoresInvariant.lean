/-
**The base invariant of the stores.**

Every move keeps `Stores.Base`, cancellations included, so a service that starts from nothing has it
in every state it reaches.

* `Stores.Moves.leased`: the leases of the bindings stay live and apart from each other and from
  those of the candidates that are not committed yet.
* `Stores.Moves.base`: the base invariant is kept; in particular the binding that `resume` commits never
  clashes with the lifecycle's runtime of its root.
-/

import SerenaLight.Daemon.StoresSteps

set_option linter.unusedSectionVars false

namespace SerenaLight.Daemon

open Foundation Workspace WorkspaceRuntimeRegistry

variable {Identity Time : Type}
variable [DecidableEq Identity] [LinearOrder Time] [Add Time] [Zero Time]

/-! ### Tidy registries -/

namespace Tidy

variable {registry : Registry Identity}

variable {prepared : Prepared Identity}

theorem aborted (tidy : Tidy registry)
    (unbound : prepared.candidateIsProvisional = true → ∀ session binding,
      registry.bindings.get session = some binding →
        binding.lease.id ≠ prepared.binding.lease.id) :
    Tidy (registry.aborted prepared) := by
  refine tidy.shrink ?_ ?_
  · rw [aborted_bindings]
    exact id
  · intro session binding found
    rw [aborted_bindings] at found
    rw [aborted_leases]
    split
    · rename_i provisional
      exact Dict.get_erase_of_ne _ (unbound provisional session binding found)
    · rfl

theorem withoutSession (tidy : Tidy registry) (session : Uuid) :
    Tidy (registry.withoutSession session) := by
  cases there : registry.bindings.get session with
  | none =>
    rw [withoutSession_of_absent there]
    exact tidy
  | some old =>
    have kept : ∀ {other binding},
        (registry.withoutSession session).bindings.get other = some binding →
        other ≠ session ∧ registry.bindings.get other = some binding := by
      intro other binding found
      rw [withoutSession_bindings] at found
      exact Dict.found_erase found
    refine tidy.shrink (fun found => (kept found).2) ?_
    intro other binding found
    rw [withoutSession_leases there]
    refine Dict.get_erase_of_ne _ fun same => (kept found).1 ?_
    exact tidy.distinct (kept found).2 there same

theorem withLease (tidy : Tidy registry) (sound : registry.Sound) (identity : Identity)
    (entry : RuntimeEntry RuntimeId) : Tidy (registry.withLease identity entry) := by
  refine tidy.shrink id ?_
  intro session binding found
  rw [withLease_leases]
  exact Dict.get_set_of_ne _ _ (Nat.ne_of_lt (sound.fresh (tidy.live found)))

/-- An accepted commit: the candidate's lease is live, and it is not another session's. -/
theorem committed (tidy : Tidy registry) (current : registry.Current prepared)
    (unbound : prepared.candidateIsProvisional = true → ∀ session binding,
      registry.bindings.get session = some binding →
        binding.lease.id ≠ prepared.binding.lease.id)
    (reused : prepared.candidateIsProvisional = false →
      ∃ old, prepared.expectedBinding = some old ∧ prepared.binding.lease = old.lease) :
    Tidy (registry.committed prepared) := by
  obtain ⟨expected, candidate⟩ := current
  -- the candidate's lease, and the leases of the other sessions
  have own : (registry.committed prepared).leases.get prepared.binding.lease.id =
      some prepared.binding.lease := by
    rw [committed_leases]
    cases there : prepared.expectedBinding with
    | none =>
      cases provisional : prepared.candidateIsProvisional with
      | true => exact candidate provisional
      | false =>
        obtain ⟨old, found, _⟩ := reused provisional
        rw [there] at found
        cases found
    | some old =>
      rw [there] at expected
      cases provisional : prepared.candidateIsProvisional with
      | true =>
        simp only [if_true]
        rw [Dict.get_erase_of_ne _ (unbound provisional _ old expected).symm]
        exact candidate provisional
      | false =>
        obtain ⟨same, found, lease⟩ := reused provisional
        rw [there] at found
        cases found
        simp only [Bool.false_eq_true, if_false, lease]
        exact tidy.live expected
  have others : ∀ {session binding}, session ≠ prepared.session →
      registry.bindings.get session = some binding →
      (registry.committed prepared).leases.get binding.lease.id = some binding.lease := by
    intro session binding different found
    rw [committed_leases]
    cases there : prepared.expectedBinding with
    | none => exact tidy.live found
    | some old =>
      rw [there] at expected
      dsimp only
      split
      · rw [Dict.get_erase_of_ne _ fun same => different (tidy.distinct found expected same)]
        exact tidy.live found
      · exact tidy.live found
  -- no other session uses the candidate's lease
  have apart : ∀ {session binding}, session ≠ prepared.session →
      registry.bindings.get session = some binding →
      binding.lease.id ≠ prepared.binding.lease.id := by
    intro session binding different found
    cases provisional : prepared.candidateIsProvisional with
    | true => exact unbound provisional session binding found
    | false =>
      obtain ⟨old, there, lease⟩ := reused provisional
      rw [there] at expected
      rw [lease]
      exact fun same => different (tidy.distinct found expected same)
  refine ⟨?_, ?_⟩
  · intro session binding found
    rw [committed_bindings, Dict.get_set] at found
    split at found
    · cases found
      exact own
    · rename_i different
      exact others different found
  · intro first second one other oneFound otherFound same
    rw [committed_bindings, Dict.get_set] at oneFound otherFound
    split at oneFound <;> split at otherFound
    · rename_i left right
      exact left.trans right.symm
    · rename_i different
      cases oneFound
      exact absurd same.symm (apart different otherFound)
    · rename_i different _
      cases otherFound
      exact absurd same (apart different oneFound)
    · exact tidy.distinct oneFound otherFound same

end Tidy

/-! ### Shared identities -/

variable {runtime : RuntimeId}

variable {before after : Registry Identity} {targets : List RuntimeId} {identity : Identity}

/-- Decisions keep a runtime whose retirement none of them asks for. -/
theorem Retains.applies {decisions : List (Decision Identity Time)}
    (retains : Retains before identity runtime) (applies : Applies before decisions targets after)
    (other : ∀ decision ∈ decisions, ∀ runtime, decision.identity = some identity →
      decision.runtimeToStop ≠ some runtime) : Retains after identity runtime := by
  obtain ⟨entry, found, same⟩ := retains
  obtain ⟨kept, keptFound, keptRuntime⟩ := applies.runtime_kept found
    fun decision member asked request =>
      other decision member asked (retirement_eq_some.mp request).1 (retirement_eq_some.mp request).2
  exact ⟨kept, keptFound, keptRuntime.trans same⟩

/-- A retirement keeps the runtimes of the other roots. -/
theorem Retains.retires {request : Option (Identity × RuntimeId)}
    (retains : Retains before identity runtime) (retires : Retires before request targets after)
    (other : ∀ runtime, request ≠ some (identity, runtime)) : Retains after identity runtime := by
  unfold Retains
  rw [retires.runtime_of_ne other]
  exact retains

theorem Retains.withLease {registry : Registry Identity} {place : Identity}
    (retains : Retains registry identity runtime) {entry : RuntimeEntry RuntimeId}
    {fault : Option Fault} {session : Uuid} {nextRuntime : RuntimeId}
    (crosses : Crosses registry fault nextRuntime session place entry) :
    Retains (registry.withLease place entry) identity runtime := by
  obtain ⟨old, found, same⟩ := retains
  unfold Retains
  rw [withLease_runtimes]
  by_cases here : identity = place
  · rw [here] at found ⊢
    rw [Dict.get_set_self]
    rcases crosses.source with source | ⟨absent, _⟩
    · rw [found] at source
      cases source
      exact ⟨_, rfl, same⟩
    · rw [found] at absent
      cases absent
  · rw [Dict.get_set_of_ne _ _ here]
    exact ⟨old, found, same⟩

namespace Shared

variable {lifecycle next : Lifecycle Identity Time} {registry other : Registry Identity}
  {decisions : List (Decision Identity Time)} {targets : List RuntimeId}

section

variable (shared : Shared lifecycle registry)

include shared

/-- The lifecycle retains less, the registry more. -/
theorem mono
    (fewer : ∀ {identity state}, next.workspaces.get identity = some state →
      ∃ old, lifecycle.workspaces.get identity = some old ∧ old.runtime = state.runtime)
    (more : ∀ {identity runtime}, Retains registry identity runtime →
      Retains other identity runtime) : Shared next other := by
  intro identity state found
  obtain ⟨old, oldFound, same⟩ := fewer found
  rw [← same]
  exact more (shared _ _ oldFound)

/-- Decisions that stop nothing. -/
theorem warm
    (warm : ∀ decision ∈ decisions, decision.runtimeToStop = none)
    (applies : Applies registry decisions targets other) : Shared lifecycle other := by
  intro identity state found
  refine (shared _ _ found).applies applies fun decision member runtime _ stops => ?_
  rw [warm decision member] at stops
  cases stops

/-- The decisions of the lifecycle retire what it has dropped. -/
theorem evolves
    (evolves : LeaseLifecycle.Evolves lifecycle decisions next)
    (applies : Applies registry decisions targets other) : Shared next other := by
  intro identity state found
  obtain ⟨old, oldFound, same⟩ := evolves.kept found
  rw [← same]
  refine (shared _ _ oldFound).applies applies fun decision member runtime names stops => ?_
  obtain ⟨place, _, placeNamed, _, _, dropped⟩ := evolves.stops member stops
  rw [names] at placeNamed
  cases placeNamed
  rw [found] at dropped
  cases dropped

/-- A runtime that the lifecycle does not know is retired. -/
theorem retires {request : Option (Identity × RuntimeId)}
    (retires : Retires registry request targets other)
    (unknown : ∀ identity runtime, request = some (identity, runtime) →
      lifecycle.workspaces.get identity = none) : Shared lifecycle other := by
  intro identity state found
  refine (shared _ _ found).retires retires fun runtime request => ?_
  rw [unknown identity runtime request] at found
  cases found

/-- The undoing of a candidate detaches nothing. -/
theorem undo (leaseId : Uuid) (prepared : Prepared Identity)
    (committed : Bool) : Shared lifecycle (undone registry leaseId prepared committed) :=
  shared.mono (fun found => ⟨_, found, rfl⟩) fun retains =>
    retains.congr (undone_runtime registry leaseId prepared committed _)

end

end Shared

/-! ### Candidates that are not committed -/

namespace Stores

variable {settings : LeaseSettings Time} {self after : Stores Identity Time}
  {label : StoresLabel Identity Time}
  {effect : Effect Identity Time} {activation : Activation Identity Time}
  {prepared : Prepared Identity}

theorem outstanding_of_holder (holds : self.holder = some activation) :
    self.outstanding = activation.phase.uncommitted.toList ++
      self.orphans.filterMap Orphan.uncommitted := by
  simp [outstanding, holds]

theorem outstanding_of_free (free : self.holder = none) :
    self.outstanding = self.orphans.filterMap Orphan.uncommitted := by
  simp [outstanding, free]

theorem mem_outstanding (holds : self.holder = some activation)
    (uncommitted : activation.phase.uncommitted = some prepared) :
    prepared ∈ self.outstanding := by
  simp [outstanding_of_holder holds, uncommitted]

namespace Leased

/-- Fewer bindings and fewer candidates. -/
theorem shrink (leased : self.Leased) (tidy : Tidy after.registry)
    (bindings : ∀ {session binding}, after.registry.bindings.get session = some binding →
      self.registry.bindings.get session = some binding)
    (uuid : self.registry.nextUuid ≤ after.registry.nextUuid)
    (fewer : after.outstanding.Subperm self.outstanding) : after.Leased where
  tidy := tidy
  known := fun held member provisional =>
    Nat.lt_of_lt_of_le (leased.known held (fewer.subset member) provisional) uuid
  unbound := fun held member provisional session binding found =>
    leased.unbound held (fewer.subset member) provisional session binding (bindings found)
  reused := fun held member => leased.reused held (fewer.subset member)
  apart := by
    obtain ⟨listed, perm, sublist⟩ := fewer
    refine (perm.pairwise_iff ?_).mp (leased.apart.sublist sublist)
    exact fun distinct one other => (distinct other one).symm

/-- Nothing changed for the registry's leases. -/
theorem congr (leased : self.Leased) (registry : after.registry = self.registry)
    (fewer : after.outstanding.Subperm self.outstanding) : after.Leased := by
  refine leased.shrink ?_ ?_ ?_ fewer
  · rw [registry]
    exact leased.tidy
  · rw [registry]
    exact id
  · rw [registry]

/-- One more candidate. -/
theorem prepare (leased : self.Leased) (tidy : Tidy after.registry)
    (bindings : after.registry.bindings = self.registry.bindings)
    (uuid : self.registry.nextUuid ≤ after.registry.nextUuid)
    (more : after.outstanding = prepared :: self.outstanding)
    (fresh : prepared.candidateIsProvisional = true →
      self.registry.nextUuid ≤ prepared.binding.lease.id ∧
        prepared.binding.lease.id < after.registry.nextUuid)
    (sound : self.registry.Sound)
    (reused : prepared.candidateIsProvisional = false →
      prepared.candidateRuntimeCreated = false ∧
        ∃ old, prepared.expectedBinding = some old ∧ prepared.binding.lease = old.lease) :
    after.Leased where
  tidy := tidy
  known := by
    intro held member provisional
    rw [more] at member
    rcases List.mem_cons.mp member with rfl | earlier
    · exact (fresh provisional).2
    · exact Nat.lt_of_lt_of_le (leased.known held earlier provisional) uuid
  unbound := by
    intro held member provisional session binding found
    rw [bindings] at found
    rw [more] at member
    rcases List.mem_cons.mp member with rfl | earlier
    · refine Nat.ne_of_lt (Nat.lt_of_lt_of_le ?_ (fresh provisional).1)
      exact sound.fresh (leased.tidy.live found)
    · exact leased.unbound held earlier provisional session binding found
  reused := by
    intro held member
    rw [more] at member
    rcases List.mem_cons.mp member with rfl | earlier
    · exact reused
    · exact leased.reused held earlier
  apart := by
    rw [more]
    refine List.pairwise_cons.mpr ⟨?_, leased.apart⟩
    intro held member provisional other
    exact (Nat.ne_of_lt (Nat.lt_of_lt_of_le (leased.known held member other)
      (fresh provisional).1)).symm

/-- A candidate is aborted, whether it is forgotten or not. -/
theorem abort (leased : self.Leased) (member : prepared ∈ self.outstanding) :
    Tidy (self.registry.aborted prepared) :=
  leased.tidy.aborted (leased.unbound prepared member)

/-- A candidate is committed, and forgotten. -/
theorem commit (leased : self.Leased) (current : self.registry.Current prepared)
    (registry : after.registry = self.registry.committed prepared)
    (split : self.outstanding.Perm (prepared :: after.outstanding)) : after.Leased := by
  have member : prepared ∈ self.outstanding := split.mem_iff.mpr (List.mem_cons_self ..)
  have older : ∀ held ∈ after.outstanding, held ∈ self.outstanding := fun held inAfter =>
    split.mem_iff.mpr (List.mem_cons_of_mem _ inAfter)
  have apart := (split.pairwise_iff fun distinct one other =>
    (distinct other one).symm).mp leased.apart
  rw [List.pairwise_cons] at apart
  have tidy := leased.tidy.committed current (leased.unbound prepared member)
    fun provisional => (leased.reused prepared member provisional).2
  constructor
  case tidy =>
    rw [registry]
    exact tidy
  case known =>
    intro held inAfter provisional
    rw [registry, committed_nextUuid]
    exact leased.known held (older held inAfter) provisional
  case unbound =>
    intro held inAfter provisional session binding found
    rw [registry, committed_bindings, Dict.get_set] at found
    split at found
    · cases found
      cases kind : prepared.candidateIsProvisional with
      | true => exact apart.1 held inAfter kind provisional
      | false =>
        obtain ⟨_, old, expected, lease⟩ := leased.reused prepared member kind
        rw [lease]
        exact leased.unbound held (older held inAfter) provisional prepared.session old
          (current.1.trans expected)
    · exact leased.unbound held (older held inAfter) provisional session binding found
  case reused => exact fun held inAfter => leased.reused held (older held inAfter)
  case apart => exact apart.2

end Leased

variable {committed : Bool}

/-- A discarded candidate leaves a tidy registry. -/
theorem Leased.undo (leased : self.Leased)
    (member : committed = false → prepared ∈ self.outstanding) (leaseId : Uuid) :
    Tidy (undone self.registry leaseId prepared committed) := by
  unfold undone
  split
  · exact leased.tidy.withoutSession leaseId
  · rename_i notCommitted
    exact leased.abort (member (by simpa using notCommitted))

/-- A registry after a discard and the decisions that follow it. -/
theorem Leased.discard (leased : self.Leased) {leaseId : Uuid}
    {request : Option (Identity × RuntimeId)} {discarded targets : List RuntimeId}
    {decisions : List (Decision Identity Time)} {middle : Registry Identity}
    (member : committed = false → prepared ∈ self.outstanding)
    (retires : Retires (undone self.registry leaseId prepared committed) request discarded middle)
    (applies : Applies middle decisions targets after.registry)
    (fewer : after.outstanding.Subperm self.outstanding) : after.Leased := by
  refine leased.shrink (applies.tidy (retires.tidy (leased.undo member leaseId))) ?_ ?_ fewer
  · intro session binding found
    have middleFound := applies.binding_of_after found
    rw [retires.bindings] at middleFound
    exact undone_binding middleFound
  · rw [applies.nextUuid, retires.nextUuid, undone_nextUuid]

/-- The orphans that stay keep their candidates apart. -/
theorem outstanding_eraseIdx (index : Nat) :
    ({ self with orphans := self.orphans.eraseIdx index } :
      Stores Identity Time).outstanding.Sublist self.outstanding :=
  (List.Sublist.refl _).append ((List.eraseIdx_sublist ..).filterMap _)

/-- A candidate that moves to an orphan is still one. -/
theorem alone_uncommitted (activation : Activation Identity Time) (started : Bool) :
    ((activation.alone started).filterMap Orphan.uncommitted).Sublist
      activation.phase.uncommitted.toList := by
  unfold Activation.alone
  split
  · cases started <;> exact List.nil_sublist _
  · rename_i phase
    rw [phase]
    cases started <;> simp [Orphan.uncommitted, Phase.uncommitted, Phase.candidate]
  · simp

/-- The candidate of an orphan, and the others. -/
theorem outstanding_orphan {index : Nat}
    (orphan : self.orphans[index]? = some (.commit prepared)) :
    self.outstanding.Perm (prepared ::
      ({ self with orphans := self.orphans.eraseIdx index } :
        Stores Identity Time).outstanding) := by
  obtain ⟨bound, found⟩ := List.getElem?_eq_some_iff.mp orphan
  have split := (List.getElem_cons_eraseIdx_perm bound).filterMap (@Orphan.uncommitted Identity)
  rw [found, List.filterMap_cons_some (by rfl)] at split
  exact (split.symm.append_left _).trans List.perm_middle

/-- **The leases of the registry stay in order.** -/
theorem Moves.leased (moves : Moves settings self label after effect) (sound : self.registry.Sound)
    (leased : self.Leased) : after.Leased := by
  cases moves with
  | issued _ _ | checked _ _ | lapsed _ | queued _ | cancelledWaiting => exact leased.congr rfl (.refl _)
  | cleaned free _ applies | applied free _ _ _ applies _ _ =>
    exact leased.shrink (applies.tidy leased.tidy) applies.binding_of_after applies.nextUuid.ge
      (.refl _)
  | entered free _ _ =>
    refine leased.congr rfl ?_
    rw [outstanding_of_free free]
    exact .refl _
  | @preparedSame activation resolved old fault holds phase there same =>
    refine @Leased.prepare _ _ _ _ _ _ self _ (sameRoot activation.leaseId resolved old) leased
      leased.tidy rfl le_rfl ?_ (by simp [sameRoot]) sound fun _ => ⟨rfl, old, rfl, rfl⟩
    rw [outstanding_of_holder holds, phase]
    rfl
  | @preparedCross activation resolved entry fault holds phase crosses =>
    refine @Leased.prepare _ _ _ _ _ _ self _
      (crossRoot self.registry activation.leaseId resolved entry) leased
      (leased.tidy.withLease sound resolved.identity entry) rfl (Nat.le_succ _) ?_
      (fun _ => ⟨le_rfl, Nat.lt_succ_self _⟩) sound (by simp [crossRoot])
    rw [outstanding_of_holder holds, phase]
    rfl
  | preparedFault holds phase | resumed holds phase | refused holds phase
  | committing holds phase _ =>
    refine leased.congr rfl ?_
    rw [outstanding_of_holder holds, phase]
    exact .refl _
  | failed holds failing retires =>
    refine leased.discard (fun _ => mem_outstanding holds failing.uncommitted) retires (.nil _) ?_
    rw [outstanding_of_holder holds]
    exact (List.sublist_append_right _ _).subperm
  | expired holds checking _ retires applies =>
    refine leased.discard (fun notYet => mem_outstanding holds (checking.candidate.2 notYet))
      retires applies ?_
    rw [outstanding_of_holder holds]
    exact (List.sublist_append_right _ _).subperm
  | committed holds phase current =>
    refine leased.commit current rfl ?_
    rw [outstanding_of_holder holds, phase]
    exact .refl _
  | overtaken holds phase _ =>
    refine leased.shrink (leased.abort (mem_outstanding holds (by rw [phase]; rfl))) ?_ ?_ ?_
    · rw [aborted_bindings]
      exact id
    · rw [aborted_nextUuid]
    · rw [outstanding_of_holder holds, phase]
      exact .refl _
  | rebound holds phase _ _ _ =>
    refine leased.congr rfl ?_
    rw [outstanding_of_holder holds]
    exact (List.sublist_append_right _ _).subperm
  | @cancelledActivation activation started holds =>
    refine leased.congr rfl ?_
    rw [outstanding_of_holder holds, outstanding_of_free rfl, List.filterMap_append]
    exact List.perm_append_comm.subperm.trans
      ((alone_uncommitted activation started).append_right _).subperm
  | orphanPrepared orphan outcome =>
    rcases outcome with rfl | ⟨entry, _, rfl⟩
    · exact leased.congr rfl (outstanding_eraseIdx _).subperm
    · exact leased.shrink (leased.tidy.withLease sound _ entry) id (Nat.le_succ _)
        (outstanding_eraseIdx _).subperm
  | orphanCommitted orphan outcome =>
    have split := outstanding_orphan orphan
    rcases outcome with ⟨current, rfl⟩ | ⟨_, rfl⟩
    · exact leased.commit current rfl split
    · refine leased.shrink (leased.abort (split.mem_iff.mpr (List.mem_cons_self ..))) ?_ ?_
        (outstanding_eraseIdx _).subperm
      · rw [aborted_bindings]
        exact id
      · rw [aborted_nextUuid]

/-! ### The base invariant is kept -/

namespace Base

/-- The lock is free after the move. -/
theorem vacate (base : self.Base) (free : after.holder = none)
    (lifecycle : after.lifecycle.Sound) (registry : after.registry.Sound) (leased : after.Leased)
    (shared : Shared after.lifecycle after.registry)
    (waiters : ∀ waiter ∈ after.waiters, waiter ∈ self.waiters) : after.Base where
  lifecycle := lifecycle
  registry := registry
  leased := leased
  shared := shared
  candidate := by simp [free]
  unclaimed := by simp [free]
  bound := by simp [free]
  cleaning := fun member => base.cleaning (waiters _ member)

/-- The activation moves on, with the stores as they are or the registry with more to retain. -/
theorem advance (base : self.Base) (holds : after.holder = some activation)
    (lifecycle : after.lifecycle = self.lifecycle) (registry : after.registry.Sound)
    (leased : after.Leased)
    (more : ∀ {identity runtime}, Retains self.registry identity runtime →
      Retains after.registry identity runtime)
    (waiters : ∀ waiter ∈ after.waiters, waiter ∈ self.waiters)
    (candidate : ∀ prepared, activation.phase.candidate = some prepared →
      Retains after.registry prepared.binding.identity prepared.binding.runtime ∧
        (prepared.candidateRuntimeCreated = true →
          self.lifecycle.workspaces.get prepared.binding.identity = none))
    (bound : ∀ prepared binding, activation.phase = .committed prepared (.ok binding) →
      binding = prepared.binding) : after.Base where
  lifecycle := lifecycle ▸ base.lifecycle
  registry := registry
  leased := leased
  shared := by
    rw [lifecycle]
    exact base.shared.mono (fun found => ⟨_, found, rfl⟩) more
  candidate := by
    intro other prepared found
    rw [holds] at found
    cases found
    exact fun held => (candidate prepared held).1
  unclaimed := by
    intro other prepared found
    rw [holds] at found
    cases found
    rw [lifecycle]
    exact fun held => (candidate prepared held).2
  bound := by
    intro other prepared binding found
    rw [holds] at found
    cases found
    exact bound prepared binding
  cleaning := fun member => base.cleaning (waiters _ member)

/-- The activation stays where it is. -/
theorem pass (base : self.Base) (holder : after.holder = self.holder)
    (lifecycle : after.lifecycle.Sound) (registry : after.registry.Sound) (leased : after.Leased)
    (fewer : ∀ {identity state}, after.lifecycle.workspaces.get identity = some state →
      ∃ old, self.lifecycle.workspaces.get identity = some old ∧ old.runtime = state.runtime)
    (more : ∀ {identity runtime}, Retains self.registry identity runtime →
      Retains after.registry identity runtime)
    (cleaning : ∀ {task decision}, (task, Section.cleanExpired (some decision)) ∈ after.waiters →
      decision.runtimeToStop = none) : after.Base where
  lifecycle := lifecycle
  registry := registry
  leased := leased
  shared := base.shared.mono fewer more
  candidate := fun held candidate => more (base.candidate (holder ▸ held) candidate)
  unclaimed := by
    intro activation prepared held candidate created
    cases found : after.lifecycle.workspaces.get prepared.binding.identity with
    | none => rfl
    | some state =>
      obtain ⟨old, oldFound, _⟩ := fewer found
      rw [base.unclaimed (holder ▸ held) candidate created] at oldFound
      cases oldFound
  bound := fun held phase => base.bound (holder ▸ held) phase
  cleaning := cleaning

end Base

/-- A discard asks at most for the retirement of a runtime that the lifecycle does not know. -/
theorem Base.unknown (base : self.Base) (holds : self.holder = some activation)
    (candidate : activation.phase.candidate = some prepared) {identity : Identity}
    {runtime : RuntimeId} (request : retirementOf prepared = some (identity, runtime)) :
    self.lifecycle.workspaces.get identity = none := by
  unfold retirementOf at request
  obtain ⟨created, ⟨⟩⟩ := Option.ite_none_right_eq_some.mp request
  exact base.unclaimed holds candidate created

theorem uncommitted_candidate {phase : Phase Identity}
    (uncommitted : phase.uncommitted = some prepared) : phase.candidate = some prepared := by
  unfold Phase.uncommitted at uncommitted
  split at uncommitted
  · cases uncommitted
  · exact uncommitted

/-- The candidate of a new lease is on a runtime that the registry retains now. -/
theorem crossRoot_retains {registry : Registry Identity} {session : Uuid}
    {resolved : ResolvedWorkspace Identity} {entry : RuntimeEntry RuntimeId} :
    Retains (registry.withLease resolved.identity entry)
      (crossRoot registry session resolved entry).binding.identity
      (crossRoot registry session resolved entry).binding.runtime :=
  ⟨_, Dict.get_set_self _ _ _, rfl⟩

/-- A coroutine is queued whose decision, if it has one, stops nothing. -/
theorem Base.cleaning_append (base : self.Base) {task : Task} {body : Section Identity Time}
    (warm : ∀ decision, body = .cleanExpired (some decision) → decision.runtimeToStop = none)
    {other : Task} {decision : Decision Identity Time}
    (member : (other, Section.cleanExpired (some decision)) ∈ self.waiters ++ [(task, body)]) :
    decision.runtimeToStop = none := by
  rcases List.mem_append.mp member with earlier | here
  · exact base.cleaning earlier
  · exact warm decision (Prod.mk.inj (List.mem_singleton.mp here)).2.symm

/-- The candidate of the activation that holds the lock. -/
theorem Base.held (base : self.Base) (holds : self.holder = some activation)
    (candidate : activation.phase.candidate = some prepared) :
    Retains self.registry prepared.binding.identity prepared.binding.runtime ∧
      (prepared.candidateRuntimeCreated = true →
        self.lifecycle.workspaces.get prepared.binding.identity = none) :=
  ⟨base.candidate holds candidate, base.unclaimed holds candidate⟩

/-- The lifecycle does not know the root of a runtime that a new lease has created. -/
theorem Base.unclaimed_crossRoot (base : self.Base) {session : Uuid}
    {resolved : ResolvedWorkspace Identity} {entry : RuntimeEntry RuntimeId}
    (created : (crossRoot self.registry session resolved entry).candidateRuntimeCreated = true) :
    self.lifecycle.workspaces.get resolved.identity = none := by
  cases found : self.lifecycle.workspaces.get resolved.identity with
  | none => rfl
  | some state =>
    obtain ⟨other, otherFound, _⟩ := base.shared _ _ found
    simp [crossRoot, Dict.contains, otherFound] at created

/-- The discard of a candidate takes no runtime from the lifecycle. -/
theorem Base.shared_discard (base : self.Base) (holds : self.holder = some activation)
    (candidate : activation.phase.candidate = some prepared) {committed : Bool}
    {targets : List RuntimeId} {registry : Registry Identity}
    (retires : Retires (undone self.registry activation.leaseId prepared committed)
      (retirementOf prepared) targets registry) : Shared self.lifecycle registry :=
  (base.shared.undo _ _ _).retires retires fun _ _ request => base.unknown holds candidate request

/-- The binding that `resume` commits is on the runtime that the registry retains. -/
theorem Base.shared_rebound (base : self.Base) (holds : self.holder = some activation)
    (candidate : activation.phase.candidate = some prepared) {lifecycle : Lifecycle Identity Time}
    (binds : LeaseLifecycle.Binds self.lifecycle activation.leaseId (some prepared.binding)
      lifecycle) : Shared lifecycle self.registry := by
  intro identity state found
  rcases binds.origin found with ⟨old, oldFound, same⟩ | ⟨bound, isBound, rfl, same⟩
  · exact same ▸ base.shared _ _ oldFound
  · cases isBound
    exact same ▸ base.candidate holds candidate

/-- The moves of the coroutine that holds the lock, up to the answer of its commit. -/
theorem Base.step_candidate (base : self.Base) (holds : self.holder = some activation)
    (candidate : activation.phase.candidate = some prepared) {phase : Phase Identity}
    (same : phase.candidate = some prepared) (next : after.holder = some { activation with phase })
    (lifecycle : after.lifecycle = self.lifecycle) (registry : after.registry.Sound)
    (leased : after.Leased) (waiters : after.waiters = self.waiters)
    (more : ∀ {identity runtime}, Retains self.registry identity runtime →
      Retains after.registry identity runtime)
    (bound : ∀ other binding, phase = .committed other (.ok binding) → binding = other.binding) :
    after.Base := by
  refine base.advance next lifecycle registry leased more ?_ ?_ bound
  · rw [waiters]
    exact fun _ => id
  · intro other found
    cases same.symm.trans found
    exact ⟨more (base.held holds candidate).1, (base.held holds candidate).2⟩

/-- **Every move keeps the base invariant.** -/
theorem Moves.base (moves : Moves settings self label after effect) (base : self.Base) : after.Base := by
  have leased := moves.leased base.registry base.leased
  cases moves with
  | issued binds _ =>
    refine base.pass rfl binds.sound base.registry leased ?_ id base.cleaning
    intro identity state found
    rcases binds.origin found with old | ⟨_, absurdity, _⟩
    · exact old
    · cases absurdity
  | checked evolves _ =>
    exact base.pass rfl evolves.sound base.registry leased evolves.kept id base.cleaning
  | lapsed lapses =>
    have evolves := lapses.evolves base.lifecycle
    refine base.pass rfl evolves.sound base.registry leased evolves.kept id
      (base.cleaning_append fun decision same => ?_)
    cases same
    exact lapses.warm decision (by simp)
  | queued plain =>
    exact base.pass rfl base.lifecycle base.registry leased (fun found => ⟨_, found, rfl⟩) id
      (base.cleaning_append fun _ same => absurd same (plain _))
  | cleaned free first applies =>
    refine base.vacate free base.lifecycle (applies.sound base.registry) leased
      (base.shared.warm ?_ applies) ?_
    · intro decision member
      rw [Option.mem_toList] at member
      cases member
      exact base.cleaning (first ▸ List.mem_cons_self ..)
    · rw [first]
      exact fun waiter member => List.mem_cons_of_mem _ member
  | applied free first _ evolves applies _ _ =>
    refine base.vacate free evolves.sound (applies.sound base.registry) leased
      (base.shared.evolves evolves applies) ?_
    rw [first]
    exact fun waiter member => List.mem_cons_of_mem _ member
  | entered free first _ =>
    refine base.advance rfl rfl base.registry leased id ?_ (by simp [Phase.candidate]) (by simp)
    rw [first]
    exact fun waiter member => List.mem_cons_of_mem _ member
  | @preparedSame activation resolved old fault holds phase there same =>
    refine base.advance rfl rfl base.registry leased id (fun _ => id) ?_ (by simp)
    rintro _ ⟨⟩
    have hosted := base.registry.hosted (base.leased.tidy.live there)
    exact ⟨hosted, by simp [sameRoot]⟩
  | @preparedCross activation resolved entry fault holds phase crosses =>
    refine base.advance rfl rfl ?_ leased (fun retains => retains.withLease crosses)
      (fun _ => id) ?_ (by simp)
    · exact base.registry.withLease (crosses.source.imp_right fun source =>
        ⟨source.1, source.2.2.2⟩)
    · rintro _ ⟨⟩
      exact ⟨crossRoot_retains, base.unclaimed_crossRoot⟩
  | preparedFault holds phase =>
    exact base.advance rfl rfl base.registry leased id (fun _ => id) (by simp [Phase.candidate])
      (by simp)
  | resumed holds phase =>
    exact base.step_candidate holds (congrArg Phase.candidate phase) rfl rfl rfl base.registry leased
      rfl id (by simp)
  | refused holds phase =>
    exact base.vacate rfl base.lifecycle base.registry leased base.shared fun _ => id
  | @failed label activation prepared targets registry fault holds failing retires =>
    refine base.vacate rfl base.lifecycle (retires.sound (undone_sound base.registry _ _ _))
      leased ?_ fun _ => id
    exact base.shared_discard holds (uncommitted_candidate failing.uncommitted) retires
  | @expired label activation prepared committed discarded targets decision lifecycle middle
      registry holds checking lapses retires applies =>
      have evolves := lapses.evolves base.lifecycle
      refine base.vacate rfl evolves.sound
        (applies.sound (retires.sound (undone_sound base.registry _ _ _))) leased ?_ fun _ => id
      have discarded := base.shared_discard holds checking.candidate.1 retires
      exact (discarded.mono evolves.kept id).warm lapses.warm applies
  | committing holds phase _ =>
    exact base.step_candidate holds (congrArg Phase.candidate phase) rfl rfl rfl base.registry leased
      rfl id (by simp)
  | @committed activation prepared holds phase current =>
    refine base.step_candidate holds (congrArg Phase.candidate phase) rfl rfl rfl
      (base.registry.committed prepared) leased rfl
      (fun retains => retains.congr (committed_runtime _ _)) ?_
    rintro _ _ ⟨⟩
    rfl
  | @overtaken activation prepared fault holds phase stale =>
    exact base.step_candidate holds (congrArg Phase.candidate phase) rfl rfl rfl
      (base.registry.aborted prepared) leased rfl
      (fun retains => retains.congr (aborted_runtime _ _)) (by simp)
  | rebound holds phase _ binds _ =>
    exact base.vacate rfl binds.sound base.registry leased
      (base.shared_rebound holds (congrArg Phase.candidate phase) binds) fun _ => id
  | cancelledActivation holds =>
    exact base.vacate rfl base.lifecycle base.registry leased base.shared fun _ => id
  | cancelledWaiting =>
    refine base.pass rfl base.lifecycle base.registry leased (fun found => ⟨_, found, rfl⟩) id ?_
    exact fun member => base.cleaning (List.mem_of_mem_filter member)
  | orphanPrepared orphan outcome =>
    rcases outcome with rfl | ⟨entry, crosses, rfl⟩
    · exact base.pass rfl base.lifecycle base.registry leased (fun found => ⟨_, found, rfl⟩) id
        base.cleaning
    · refine base.pass rfl base.lifecycle ?_ leased (fun found => ⟨_, found, rfl⟩)
        (fun retains => retains.withLease crosses) base.cleaning
      exact base.registry.withLease (crosses.source.imp_right fun source =>
        ⟨source.1, source.2.2.2⟩)
  | orphanCommitted orphan outcome =>
    rcases outcome with ⟨_, rfl⟩ | ⟨_, rfl⟩
    · exact base.pass rfl base.lifecycle (base.registry.committed _) leased
        (fun found => ⟨_, found, rfl⟩)
        (fun retains => retains.congr (committed_runtime _ _))
        base.cleaning
    · exact base.pass rfl base.lifecycle (base.registry.aborted _) leased
        (fun found => ⟨_, found, rfl⟩)
        (fun retains => retains.congr (aborted_runtime _ _))
        base.cleaning

end Stores

end SerenaLight.Daemon
