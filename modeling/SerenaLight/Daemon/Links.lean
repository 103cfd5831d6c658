/-
**The bindings of the lifecycle and of the registry.**

The lifecycle ends a lease outside the lock; the registry hears of it later, from a cleanup that
waits for the lock. `Linked` says how far the two may be apart: an active lease has the binding that
the registry has for it, and a binding that the registry has for a lease that is gone is owed to a
cleanup in the queue.

Under a held lock the registry that counts is the one the activation found (`Stores.ledger`).

* `Linked.evolves`, `Linked.applies`, `Linked.lapsed`, `Linked.rebind`, …: what keeps the link.
* `Stores.Moves.linked`: every move that forgets no cleanup and leaves no candidate behind keeps it.
-/

import SerenaLight.Daemon.Activations

set_option linter.unusedSectionVars false

namespace SerenaLight.Daemon

open Foundation Workspace WorkspaceRuntimeRegistry

variable {Identity Time : Type}
variable [DecidableEq Identity] [LinearOrder Time] [Add Time] [Zero Time]

/-- A cleanup of `binding` may wait: its lease is gone for good, and no other lease is bound with
the same registry lease. -/
def Awaits (lifecycle : Lifecycle Identity Time) (ledger : Registry Identity)
    (decision : Decision Identity Time) (binding : Binding Identity) : Prop :=
  ∃ id, decision.leaseId = some id ∧ lifecycle.active.get id = none ∧
    id < lifecycle.nextUuid ∧ binding.lease.id < ledger.nextUuid ∧
    ∀ session other, ledger.bindings.get session = some other →
      other.lease.id = binding.lease.id → session = id

/-- **The link between the two stores.** -/
structure Linked (lifecycle : Lifecycle Identity Time)
    (waiters : List (Task × Section Identity Time)) (ledger : Registry Identity) : Prop where
  active : ∀ {id lease}, lifecycle.active.get id = some lease →
    lease.binding = ledger.bindings.get id
  owed : ∀ {id binding}, lifecycle.active.get id = none →
    ledger.bindings.get id = some binding → ∃ task decision,
      (task, Section.cleanExpired (some decision)) ∈ waiters ∧ decision.leaseId = some id ∧
        decision.bindingToRelease = some binding
  bound : ∀ {id lease}, ledger.leases.get id = some lease → ∃ session binding,
    ledger.bindings.get session = some binding ∧ binding.lease.id = id
  known : ∀ {session binding}, ledger.bindings.get session = some binding →
    session < lifecycle.nextUuid
  awaits : ∀ {task decision binding},
    (task, Section.cleanExpired (some decision)) ∈ waiters →
    decision.bindingToRelease = some binding → Awaits lifecycle ledger decision binding

namespace Linked

variable {lifecycle next : Lifecycle Identity Time}
  {waiters others : List (Task × Section Identity Time)} {ledger after : Registry Identity}
  {decisions : List (Decision Identity Time)} {targets : List RuntimeId}

theorem init : Linked (LeaseLifecycle.init : Lifecycle Identity Time) []
    (WorkspaceRuntimeRegistry.init : Registry Identity) where
  active := by simp [LeaseLifecycle.init]
  owed := by simp [WorkspaceRuntimeRegistry.init]
  bound := by simp [WorkspaceRuntimeRegistry.init]
  known := by simp [WorkspaceRuntimeRegistry.init]
  awaits := by simp

/-- The link is about leases and bindings only. -/
theorem alike (linked : Linked lifecycle waiters ledger) (alike : Alike after ledger)
    (uuid : ledger.nextUuid ≤ after.nextUuid) : Linked lifecycle waiters after where
  active := fun found => (linked.active found).trans (alike.bindings _).symm
  owed := fun gone found => linked.owed gone ((alike.bindings _).symm.trans found)
  bound := by
    intro id lease found
    rw [alike.leases] at found
    obtain ⟨session, binding, there, same⟩ := linked.bound found
    exact ⟨session, binding, (alike.bindings _).trans there, same⟩
  known := fun found => linked.known ((alike.bindings _).symm.trans found)
  awaits := by
    intro task decision binding member released
    obtain ⟨id, names, gone, issued, older, only⟩ := linked.awaits member released
    refine ⟨id, names, gone, issued, Nat.lt_of_lt_of_le older uuid, ?_⟩
    intro session other found
    rw [alike.bindings] at found
    exact only session other found

/-- The queue may change as long as it keeps the cleanups. -/
theorem requeue (linked : Linked lifecycle waiters ledger)
    (same : ∀ task decision binding, decision.bindingToRelease = some binding →
      ((task, Section.cleanExpired (some decision)) ∈ others ↔
        (task, Section.cleanExpired (some decision)) ∈ waiters)) :
    Linked lifecycle others ledger where
  active := linked.active
  owed := by
    intro id binding gone found
    obtain ⟨task, decision, member, names, released⟩ := linked.owed gone found
    exact ⟨task, decision, (same task decision binding released).mpr member, names, released⟩
  bound := linked.bound
  known := linked.known
  awaits := fun member released => linked.awaits ((same _ _ _ released).mp member) released

/-- A new lease has no binding. -/
theorem issued (linked : Linked lifecycle waiters ledger)
    (binds : LeaseLifecycle.Binds lifecycle lifecycle.nextUuid none next)
    (uuid : next.nextUuid = lifecycle.nextUuid + 1) : Linked next waiters ledger where
  active := by
    intro id lease found
    by_cases fresh : id = lifecycle.nextUuid
    · obtain ⟨made, here, unbound⟩ := binds.here
      rw [fresh, here] at found
      cases found
      rw [unbound, fresh]
      cases there : ledger.bindings.get lifecycle.nextUuid with
      | none => rfl
      | some binding => exact absurd (linked.known there) (lt_irrefl _)
    · rw [binds.others id fresh] at found
      exact linked.active found
  owed := by
    intro id binding gone found
    have older := Nat.ne_of_lt (linked.known found)
    rw [binds.others id older] at gone
    exact linked.owed gone found
  bound := linked.bound
  known := by
    intro session binding found
    rw [uuid]
    exact Nat.lt_succ_of_lt (linked.known found)
  awaits := by
    intro task decision binding member released
    obtain ⟨id, names, gone, issued, older, only⟩ := linked.awaits member released
    refine ⟨id, names, (binds.others id (Nat.ne_of_lt issued)).trans gone, ?_, older, only⟩
    rw [uuid]
    exact Nat.lt_succ_of_lt issued

variable {decision : Option (Decision Identity Time)} {leaseId : Uuid}

section

variable (linked : Linked lifecycle waiters ledger)

include linked

/-- A lease that is found expired outside the lock leaves its cleanup in the queue. -/
theorem lapsed (sound : lifecycle.Sound)
    (tidy : Tidy ledger) (fresh : ledger.Sound) (task : Task)
    (lapses : Lapses lifecycle leaseId decision next) :
    Linked next (waiters ++ [(task, .cleanExpired decision)]) ledger := by
  cases lapses with
  | gone _ =>
    refine linked.requeue fun other made binding _ => ?_
    simp
  | @overdue lease made _ found ended warm =>
    have key := sound.key found
    have uuid := ended.evolves.uuid
    have stays : ∀ {id}, lifecycle.active.get id = none → next.active.get id = none := by
      intro id gone
      by_cases same : id = lease.id
      · rw [same]
        exact ended.gone
      · rw [ended.others id same]
        exact gone
    refine ⟨?_, ?_, linked.bound, fun there => uuid ▸ linked.known there, ?_⟩
    · intro id rest there
      have different : id ≠ lease.id := by
        rintro rfl
        rw [ended.gone] at there
        cases there
      rw [ended.others id different] at there
      exact linked.active there
    · intro id binding gone there
      by_cases same : id = lease.id
      · refine ⟨task, made, by simp, same ▸ ended.names, ?_⟩
        rw [ended.binding, linked.active found, ← key, ← same]
        exact there
      · rw [ended.others id same] at gone
        obtain ⟨other, decision, member, facts⟩ := linked.owed gone there
        exact ⟨other, decision, List.mem_append_left _ member, facts⟩
    · intro other decision binding member released
      rcases List.mem_append.mp member with earlier | here
      · obtain ⟨id, names, gone, issued, older, only⟩ := linked.awaits earlier released
        exact ⟨id, names, stays gone, uuid ▸ issued, older, only⟩
      · cases List.mem_singleton.mp here
        have there : ledger.bindings.get lease.id = some binding := by
          rw [key, ← linked.active found, ← ended.binding]
          exact released
        refine ⟨lease.id, ended.names, ended.gone, uuid ▸ linked.known there,
          fresh.fresh (tidy.live there), ?_⟩
        exact fun session used usedFound same => tidy.distinct usedFound there same

/-- Decisions are applied whose leases are gone already: those bindings go, and a cleanup may leave
the queue if it is among the decisions. -/
theorem applies (tidy : Tidy ledger)
    (applies : Applies ledger decisions targets after)
    (gone : ∀ session binding, ledger.bindings.get session = some binding →
      Releases decisions binding.lease.id → lifecycle.active.get session = none)
    (fewer : ∀ waiter ∈ others, waiter ∈ waiters)
    (served : ∀ {task decision}, (task, Section.cleanExpired (some decision)) ∈ waiters →
      (task, Section.cleanExpired (some decision)) ∈ others ∨ decision ∈ decisions) :
    Linked lifecycle others after where
  active := by
    intro id lease found
    rw [linked.active found]
    cases there : ledger.bindings.get id with
    | none =>
      cases later : after.bindings.get id with
      | none => rfl
      | some binding =>
        rw [applies.binding_of_after later] at there
        cases there
    | some binding =>
      refine (applies.binding_kept there fun released => ?_).symm
      rw [gone id binding there released] at found
      cases found
  owed := by
    intro id binding inactive there
    obtain ⟨task, decision, member, names, released⟩ :=
      linked.owed inactive (applies.binding_of_after there)
    rcases served member with kept | applied
    · exact ⟨task, decision, kept, names, released⟩
    · -- the binding is still there, so its lease was not released
      have live := (applies.tidy tidy).live there
      exact absurd ⟨decision, applied, binding, released, rfl⟩ (applies.lease_of_after live).2
  bound := by
    intro id lease found
    obtain ⟨before, kept⟩ := applies.lease_of_after found
    obtain ⟨session, binding, there, same⟩ := linked.bound before
    exact ⟨session, binding, applies.binding_kept there (same ▸ kept), same⟩
  known := fun there => linked.known (applies.binding_of_after there)
  awaits := by
    intro task decision binding member released
    obtain ⟨id, names, inactive, issued, older, only⟩ :=
      linked.awaits (fewer _ member) released
    refine ⟨id, names, inactive, issued, applies.nextUuid ▸ older, ?_⟩
    exact fun session other there => only session other (applies.binding_of_after there)

/-- A decision of the lifecycle releases what the registry has for its lease, and nobody else's. -/
theorem releases_own (tidy : Tidy ledger)
    (evolves : LeaseLifecycle.Evolves lifecycle decisions next) {session : Uuid}
    {binding : Binding Identity} (there : ledger.bindings.get session = some binding)
    (released : Releases decisions binding.lease.id) :
    ∃ decision ∈ decisions, decision.leaseId = some session ∧
      ∀ rest, next.active.get session = some rest → rest.binding = none := by
  obtain ⟨decision, member, other, releasedEq, same⟩ := released
  obtain ⟨_, id, names⟩ := evolves.bound member releasedEq
  obtain ⟨lease, found, handed, unbound⟩ := evolves.named member names
  have theirs : ledger.bindings.get id = some other := by
    rw [← linked.active found, ← handed]
    exact releasedEq
  obtain rfl := tidy.distinct theirs there same
  exact ⟨decision, member, names, unbound⟩

/-- **The decisions of a critical section** are applied in it. -/
theorem evolves (tidy : Tidy ledger)
    (evolves : LeaseLifecycle.Evolves lifecycle decisions next)
    (applies : Applies ledger decisions targets after) : Linked next waiters after := by
  have afterTidy := applies.tidy tidy
  -- a binding that is still there was not released
  have unreleased : ∀ {session binding}, after.bindings.get session = some binding →
      ∀ decision ∈ decisions, decision.bindingToRelease ≠ some binding :=
    fun there decision member released =>
      (applies.lease_of_after (afterTidy.live there)).2 ⟨decision, member, _, released, rfl⟩
  have stays : ∀ {id}, lifecycle.active.get id = none → next.active.get id = none := by
    intro id gone
    cases there : next.active.get id with
    | none => rfl
    | some rest =>
      obtain ⟨lease, found, _⟩ := evolves.survivor there
      rw [gone] at found
      cases found
  constructor
  case active =>
    intro id rest here
    obtain ⟨lease, found, same⟩ := evolves.survivor here
    have before := linked.active found
    cases there : ledger.bindings.get id with
    | none =>
      have restUnbound : rest.binding = none := by
        rcases same with same | ⟨unbound, _⟩
        · rw [same, before, there]
        · exact unbound
      rw [restUnbound]
      cases later : after.bindings.get id with
      | none => rfl
      | some binding =>
        rw [applies.binding_of_after later] at there
        cases there
    | some binding =>
      by_cases released : Releases decisions binding.lease.id
      · obtain ⟨decision, member, _, unbound⟩ := linked.releases_own tidy evolves there released
        rw [unbound rest here]
        cases later : after.bindings.get id with
        | none => rfl
        | some kept =>
          have same := applies.binding_of_after later
          rw [there] at same
          cases same
          exact absurd released (applies.lease_of_after (afterTidy.live later)).2
      · rw [applies.binding_kept there released]
        rcases same with same | ⟨_, decision, member, _, handed⟩
        · rw [same, before, there]
        · refine absurd ⟨decision, member, binding, ?_, rfl⟩ released
          rw [handed, before, there]
  case owed =>
    intro id binding gone there
    have before := applies.binding_of_after there
    cases found : lifecycle.active.get id with
    | none => exact linked.owed found before
    | some lease =>
      obtain ⟨decision, only, handed⟩ := evolves.leaving found gone
      have member : decision ∈ decisions.filter fun decision => decision.leaseId = some id := by
        rw [only]
        exact List.mem_singleton_self decision
      refine absurd ?_ (unreleased there decision (List.mem_of_mem_filter member))
      rw [handed, linked.active found]
      exact before
  case bound =>
    intro id lease found
    obtain ⟨before, kept⟩ := applies.lease_of_after found
    obtain ⟨session, binding, there, same⟩ := linked.bound before
    exact ⟨session, binding, applies.binding_kept there (same ▸ kept), same⟩
  case known => exact fun there => evolves.uuid ▸ linked.known (applies.binding_of_after there)
  case awaits =>
    intro task decision binding member released
    obtain ⟨id, names, gone, issued, older, only⟩ := linked.awaits member released
    refine ⟨id, names, stays gone, evolves.uuid ▸ issued, applies.nextUuid ▸ older, ?_⟩
    exact fun session other there => only session other (applies.binding_of_after there)

/-- The session of a lease that is gone is withdrawn from the registry. -/
theorem withdraw
    (others : ∀ other, other ≠ leaseId → next.active.get other = lifecycle.active.get other)
    (gone : next.active.get leaseId = none) (uuid : next.nextUuid = lifecycle.nextUuid) :
    Linked next waiters (ledger.withoutSession leaseId) := by
  have kept : ∀ {session binding},
      (ledger.withoutSession leaseId).bindings.get session = some binding →
      session ≠ leaseId ∧ ledger.bindings.get session = some binding := by
    intro session binding there
    rw [withoutSession_bindings] at there
    exact Dict.found_erase there
  have other : ∀ {session}, session ≠ leaseId →
      (ledger.withoutSession leaseId).bindings.get session = ledger.bindings.get session := by
    intro session different
    rw [withoutSession_bindings, Dict.get_erase_of_ne _ different]
  constructor
  case active =>
    intro id lease found
    have different : id ≠ leaseId := by
      rintro rfl
      rw [gone] at found
      cases found
    rw [others id different] at found
    rw [other different]
    exact linked.active found
  case owed =>
    intro id binding inactive there
    obtain ⟨different, before⟩ := kept there
    rw [others id different] at inactive
    exact linked.owed inactive before
  case bound =>
    intro id lease found
    have before := Tracks.withoutSession_lease found
    obtain ⟨session, binding, there, same⟩ := linked.bound before
    refine ⟨session, binding, ?_, same⟩
    rw [other, there]
    rintro rfl
    rw [withoutSession_leases there, same, Dict.get_erase_self] at found
    cases found
  case known => exact fun there => uuid ▸ linked.known (kept there).2
  case awaits =>
    intro task decision binding member released
    obtain ⟨id, names, inactive, issued, older, only⟩ := linked.awaits member released
    refine ⟨id, names, ?_, uuid ▸ issued, ?_, fun session used there =>
      only session used (kept there).2⟩
    · by_cases same : id = leaseId
      · rw [same]
        exact gone
      · rw [others id same]
        exact inactive
    · rw [withoutSession_nextUuid]
      exact older

/-- The lease is bound in both stores. -/
theorem rebind (sound : lifecycle.Sound) {prepared : Prepared Identity} {lease : DaemonLease Identity RuntimeId Time}
    (found : lifecycle.active.get leaseId = some lease)
    (binds : LeaseLifecycle.Binds lifecycle leaseId (some prepared.binding) next)
    (uuid : next.nextUuid = lifecycle.nextUuid)
    (commits : Tracks.Commits ledger leaseId prepared after) : Linked next waiters after := by
  have own : after.bindings.get leaseId = some prepared.binding := by
    rw [commits.bindings]
    exact Dict.get_set_self _ _ _
  have other : ∀ {session}, session ≠ leaseId →
      after.bindings.get session = ledger.bindings.get session := by
    intro session different
    rw [commits.bindings, Dict.get_set_of_ne _ _ different]
  constructor
  case active =>
    intro id rest here
    by_cases same : id = leaseId
    · obtain ⟨made, there, bound⟩ := binds.here
      rw [same, there] at here
      cases here
      rw [same, own, bound]
    · rw [binds.others id same] at here
      rw [other same]
      exact linked.active here
  case owed =>
    intro id binding gone there
    have different : id ≠ leaseId := by
      rintro rfl
      obtain ⟨made, here, _⟩ := binds.here
      rw [here] at gone
      cases gone
    rw [binds.others id different] at gone
    rw [other different] at there
    exact linked.owed gone there
  case bound =>
    intro id held heldFound
    rcases commits.leases heldFound with here | ⟨before, notOld⟩
    · exact ⟨leaseId, prepared.binding, own, here.symm⟩
    · obtain ⟨session, binding, there, same⟩ := linked.bound before
      refine ⟨session, binding, ?_, same⟩
      rw [other, there]
      rintro rfl
      exact notOld binding there same.symm
  case known =>
    intro session binding there
    rw [uuid]
    by_cases same : session = leaseId
    · rw [same]
      exact sound.fresh found
    · rw [other same] at there
      exact linked.known there
  case awaits =>
    intro task decision binding member released
    obtain ⟨id, names, gone, issued, older, only⟩ := linked.awaits member released
    have different : id ≠ leaseId := by
      rintro rfl
      rw [found] at gone
      cases gone
    refine ⟨id, names, (binds.others id different).trans gone, uuid ▸ issued,
      Nat.lt_of_lt_of_le older commits.uuid, ?_⟩
    intro session used there same
    by_cases here : session = leaseId
    · rw [here, own] at there
      cases there
      rcases commits.own with fresh | ⟨old, oldFound, lease⟩
      · rw [same] at fresh
        exact absurd fresh (Nat.ne_of_lt older)
      · rw [here]
        exact only leaseId old oldFound (by rw [← lease, same])
    · rw [other here] at there
      exact only session used there same

end

variable {rest : List (Task × Section Identity Time)}

variable {task : Task}

/-- A section that is no cleanup leaves the queue. -/
theorem pop {body : Section Identity Time} (linked : Linked lifecycle ((task, body) :: rest) ledger)
    (plain : ∀ decision, body ≠ .cleanExpired decision) : Linked lifecycle rest ledger := by
  refine linked.requeue fun other decision binding _ => ?_
  constructor
  · exact List.mem_cons_of_mem _
  · intro member
    rcases List.mem_cons.mp member with head | tail
    · cases head
      exact absurd rfl (plain _)
    · exact tail

/-- A cleanup is served. -/
theorem clean (linked : Linked lifecycle ((task, .cleanExpired decision) :: rest) ledger)
    (tidy : Tidy ledger) (applies : Applies ledger decision.toList targets after) :
    Linked lifecycle rest after := by
  refine linked.applies tidy applies ?_ (fun _ => List.mem_cons_of_mem _) ?_
  · rintro session binding there ⟨made, member, released, releasedEq, same⟩
    rw [Option.mem_toList] at member
    cases member
    obtain ⟨id, _, gone, _, _, only⟩ := linked.awaits (List.mem_cons_self ..) releasedEq
    rw [only session binding there same.symm]
    exact gone
  · intro other made member
    rcases List.mem_cons.mp member with head | tail
    · cases head
      exact .inr (by simp)
    · exact .inl tail

/-- The activation's lease has lapsed after its commit. -/
theorem lapse {entry middle : Registry Identity}
    (linked : Linked lifecycle waiters entry) (sound : lifecycle.Sound) (tidy : Tidy entry)
    (middleTidy : Tidy middle) (lapses : Lapses lifecycle leaseId decision next)
    (alike : Alike middle (entry.withoutSession leaseId))
    (uuid : entry.nextUuid ≤ middle.nextUuid)
    (applies : Applies middle decision.toList targets after) : Linked next waiters after := by
  have absent : ∀ {session binding}, middle.bindings.get session = some binding →
      session ≠ leaseId ∧ entry.bindings.get session = some binding := by
    intro session binding there
    rw [alike.bindings, withoutSession_bindings] at there
    exact Dict.found_erase there
  have withdrawn : Linked next waiters middle := by
    refine Linked.alike (linked.withdraw ?_ ?_ (lapses.evolves sound).uuid) alike (by
      rw [withoutSession_nextUuid]
      exact uuid)
    · cases lapses with
      | overdue found ended _ => exact sound.key found ▸ ended.others
      | gone _ => exact fun _ _ => rfl
    · cases lapses with
      | overdue found ended _ => exact sound.key found ▸ ended.gone
      | gone gone => exact gone
  refine withdrawn.applies middleTidy applies ?_ (fun _ => id) Or.inl
  rintro session binding there ⟨made, member, released, releasedEq, same⟩
  rw [Option.mem_toList] at member
  cases member
  -- the decision releases the lease that the session had at entry, and nobody else has it
  cases lapses with
  | overdue found ended _ =>
    have had : entry.bindings.get leaseId = some released := by
      rw [← linked.active found, ← ended.binding]
      exact releasedEq
    exact absurd (tidy.distinct (absent there).2 had same.symm) (absent there).1

end Linked

/-! ### The stores -/

namespace Stores

/-- The registry that the lifecycle is linked to: under a held lock, the one at the entry. -/
def ledger (stores : Stores Identity Time) : Registry Identity :=
  match stores.holder with
  | some activation => activation.registryAtEntry
  | none => stores.registry

variable {settings : LeaseSettings Time} {self after : Stores Identity Time}
  {label : StoresLabel Identity Time}
  {effect : Effect Identity Time} {activation : Activation Identity Time}
  {prepared : Prepared Identity}

theorem ledger_of_free (free : self.holder = none) : self.ledger = self.registry := by
  simp [ledger, free]

theorem ledger_of_holder (holds : self.holder = some activation) :
    self.ledger = activation.registryAtEntry := by
  simp [ledger, holds]

/-- The lifecycle and the ledger are linked. -/
def Joined (stores : Stores Identity Time) : Prop :=
  Linked stores.lifecycle stores.waiters stores.ledger

/-- The cancellations that the link survives: an activation that left no trace of its candidate, and
a coroutine that owes no cleanup. -/
structure Spares (stores : Stores Identity Time) (label : StoresLabel Identity Time) : Prop where
  activation : ∀ started, label = .cancelActivation started → Alike stores.registry stores.ledger
  waiting : ∀ task decision, label = .cancelWaiting task →
    (task, Section.cleanExpired (some decision)) ∈ stores.waiters →
    decision.bindingToRelease = none

theorem ledger_sound (base : self.Base) (tracked : self.Tracked) : self.ledger.Sound := by
  cases holds : self.holder with
  | none => exact ledger_of_free holds ▸ base.registry
  | some activation => exact ledger_of_holder holds ▸ tracked.sound holds

theorem ledger_tidy (base : self.Base) (tracked : self.Tracked) : Tidy self.ledger := by
  cases holds : self.holder with
  | none => exact ledger_of_free holds ▸ base.leased.tidy
  | some activation => exact ledger_of_holder holds ▸ tracked.tidy holds

/-- The activation goes on: the ledger stays. -/
theorem Joined.follow (linked : self.Joined) (holds : self.holder = some activation)
    {phase : Phase Identity} (holder : after.holder = some { activation with phase })
    (lifecycle : after.lifecycle = self.lifecycle) (waiters : after.waiters = self.waiters) :
    after.Joined := by
  have same : after.ledger = self.ledger := by
    rw [ledger_of_holder holds, ledger_of_holder holder]
  unfold Joined
  rw [same, lifecycle, waiters]
  exact linked

/-- Nothing that matters to the link changes. -/
theorem Joined.abide (linked : self.Joined) (registry : after.registry = self.registry)
    (holder : after.holder = self.holder) (lifecycle : after.lifecycle = self.lifecycle)
    (waiters : after.waiters = self.waiters) : after.Joined := by
  unfold Joined ledger
  rw [registry, holder, lifecycle, waiters]
  exact linked

/-- The activation ends, with a registry that the lifecycle is linked to. -/
theorem Joined.vacate (free : after.holder = none)
    (linked : Linked after.lifecycle after.waiters after.registry) : after.Joined := by
  unfold Joined
  rw [ledger_of_free free]
  exact linked

/-- **Every move that forgets no cleanup and leaves no candidate behind keeps the link.** -/
theorem Moves.linked (moves : Moves settings self label after effect) (base : self.Base)
    (tracked : self.Tracked) (steady : Steady self label after) (spares : self.Spares label)
    (linked : self.Joined) : after.Joined := by
  have tidy := ledger_tidy base tracked
  have sound := ledger_sound base tracked
  cases moves with
  | issued binds uuid => exact Linked.issued linked binds uuid
  | checked evolves _ => exact Linked.evolves linked tidy evolves (.nil _)
  | lapsed lapses => exact Linked.lapsed linked base.lifecycle tidy sound _ lapses
  | queued plain =>
    refine Linked.requeue linked fun task decision binding _ => ?_
    constructor
    · intro member
      rcases List.mem_append.mp member with earlier | here
      · exact earlier
      · cases List.mem_singleton.mp here
        exact absurd rfl (plain _)
    · exact List.mem_append_left _
  | cleaned free first applies =>
    refine .vacate free ?_
    rw [Joined, first, ledger_of_free free] at linked
    exact linked.clean base.leased.tidy applies
  | applied free first plain evolves applies _ _ =>
    refine .vacate free ?_
    rw [Joined, first, ledger_of_free free] at linked
    exact (linked.evolves base.leased.tidy evolves applies).pop plain
  | entered free first found =>
    rw [Joined, first, ledger_of_free free] at linked
    exact linked.pop (by simp)
  | preparedSame holds _ _ _ | preparedCross holds _ _ | preparedFault holds _ | resumed holds _ => exact linked.follow holds rfl rfl rfl
  | refused holds phase =>
    refine .vacate rfl ?_
    have tracks := tracked.tracks holds
    rw [phase] at tracks
    rw [Joined, ledger_of_holder holds] at linked
    exact tracks.of_faulted ▸ linked
  | failed holds failing retires =>
    refine .vacate rfl ?_
    have tracks := tracked.tracks holds
    have restored := tracks.restores (tracked.sound holds) (tracks.failing failing) retires
    rw [Joined, ledger_of_holder holds] at linked
    exact linked.alike restored.alike restored.uuid
  | @expired _ activation prepared committed discarded targets decision lifecycle middle registry
      holds checking lapses retires applies =>
      refine .vacate rfl ?_
      have tracks := tracked.tracks holds
      have middleTidy := retires.tidy (base.leased.undo
        (fun notYet => mem_outstanding holds (checking.candidate.2 notYet)) activation.leaseId)
      rw [Joined, ledger_of_holder holds] at linked
      rcases checking.moment with ⟨rfl, tentative⟩ | ⟨rfl, phase⟩
      · have restored := tracks.restores (tracked.sound holds) tentative retires
        exact (linked.alike restored.alike restored.uuid).evolves middleTidy
          (lapses.evolves base.lifecycle) applies
      · have uuid := tracks.uuid
        rw [phase] at tracks
        refine linked.lapse base.lifecycle (tracked.tidy holds) middleTidy lapses
          (tracks.withdraws (tracked.sound holds) retires) ?_ applies
        rw [retires.nextUuid, undone_nextUuid]
        exact uuid
  | committing holds _ _ => exact linked.follow holds rfl rfl rfl
  | committed holds _ _ => exact linked.follow holds rfl rfl rfl
  | overtaken holds _ _ => exact linked.follow holds rfl rfl rfl
  | rebound holds phase found binds uuid =>
    refine .vacate rfl ?_
    have tracks := tracked.tracks holds
    rw [phase] at tracks
    rw [Joined, ledger_of_holder holds] at linked
    exact linked.rebind base.lifecycle found binds uuid tracks.commits
  | cancelledActivation holds =>
    refine .vacate rfl ?_
    have alike := spares.activation _ rfl
    rw [ledger_of_holder holds] at alike
    rw [Joined, ledger_of_holder holds] at linked
    exact linked.alike alike (tracked.tracks holds).uuid
  | @cancelledWaiting task =>
    refine Linked.requeue linked fun other decision binding released => ?_
    constructor
    · exact List.mem_of_mem_filter
    · intro member
      refine List.mem_filter.mpr ⟨member, ?_⟩
      rw [decide_eq_true_eq]
      rintro rfl
      rw [spares.waiting _ decision rfl member] at released
      cases released
  | orphanPrepared _ _ => exact linked.abide (steady _ _ rfl) rfl rfl rfl
  | orphanCommitted _ _ => exact linked.abide (steady _ _ rfl) rfl rfl rfl

/-- No thread was left alone, the registry is tracked, and the stores are linked. -/
structure Regular (stores : Stores Identity Time) : Prop where
  undisturbed : stores.Undisturbed
  joined : stores.Joined

theorem Regular.init : (Stores.init : Stores Identity Time).Regular := ⟨.init, Linked.init⟩

/-- **Without cancellation the stores stay linked.** -/
theorem Moves.regular (moves : Moves settings self label after effect) (base : self.Base)
    (quiet : label.cancels = false) (regular : self.Regular) : after.Regular := by
  have spares : self.Spares label := by
    constructor
    · rintro started rfl
      cases quiet
    · rintro task decision rfl
      cases quiet
  exact ⟨moves.undisturbed base quiet regular.undisturbed,
    moves.linked base regular.undisturbed.tracked (regular.undisturbed.steady moves) spares
      regular.joined⟩

end Stores

end SerenaLight.Daemon
