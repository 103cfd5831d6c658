/-
**The methods of the lease lifecycle from a sound state.**

One specification for each method: which of its cases applies, what it answers, and that the change
is an evolution (`Evolves`) or a new binding (`Binds`). No case answers `KeyError`; `ValueError` is
the two cases of `rebind` and `issue` whose binding brings another runtime for a known identity.

* `endLocked_run`, `requireActiveLocked_cases`: one lease ends.
* `heartbeat_cases`, `release_run`, `releaseWorkspace_cases`, `sweep_run`.
* `rebind_cases`, `issue_cases`.
-/

import SerenaLight.Daemon.LeaseInvariant

set_option linter.unusedSectionVars false

namespace SerenaLight.Daemon

open Foundation Workspace
open EStateM (run_bind run_get run_modify run_pure run_set)

variable {Identity Runtime Time : Type}
variable [DecidableEq Identity] [DecidableEq Runtime] [LinearOrder Time] [Add Time] [Zero Time]
variable (settings : LeaseSettings Time)

namespace LeaseLifecycle

variable {self : LeaseLifecycle Identity Runtime Time}

/-- `lease` ended, and `decision` says so. -/
structure Ended (before : LeaseLifecycle Identity Runtime Time)
    (lease : DaemonLease Identity Runtime Time)
    (decision : LeaseLifecycleDecision Identity Runtime Time)
    (after : LeaseLifecycle Identity Runtime Time) : Prop where
  evolves : Evolves before [decision] after
  gone : after.active.get lease.id = none
  others : ∀ other, other ≠ lease.id → after.active.get other = before.active.get other
  names : decision.leaseId = some lease.id
  binding : decision.bindingToRelease = lease.binding
  place : decision.identity = lease.identity

variable {lease : DaemonLease Identity Runtime Time} {id : Uuid}

theorem Ended.expire {before after : LeaseLifecycle Identity Runtime Time}
    {decision : LeaseLifecycleDecision Identity Runtime Time}
    (ended : Ended before lease decision after) (expired : Finset Uuid) :
    Ended before lease decision { after with expired } :=
  { ended with evolves := ended.evolves.expire expired }

/-- `_end_locked` at an active lease. -/
theorem endLocked_run (sound : self.Sound)
    (found : self.active.get lease.id = some lease) (reason : LeaseEndReason) (now : Time)
    (immediate : Bool) :
    ∃ decision after,
      (endLocked settings lease reason now immediate).run self = .ok decision after ∧
      Ended self lease decision after ∧ decision.reason = reason ∧
      (immediate = false → decision.runtimeToStop = none) ∧
      ∀ identity, after.workspaces.get identity =
        if lease.identity = some identity then
          (self.workspaces.get identity).bind fun state =>
            state.afterLeave settings lease.id now immediate
        else self.workspaces.get identity := by
  cases bound : lease.binding with
  | none =>
    have place : lease.identity = none := by rw [DaemonLease.identity, bound, Option.map_none]
    refine ⟨{ reason, identity := none, activeHolders := 0, leaseId := some lease.id },
      { self with active := self.active.erase lease.id }, ?_, ?_, rfl, fun _ => rfl,
      fun _ => by rw [place, if_neg (by simp)]⟩
    · simp [endLocked, bound, run_modify]
    · exact {
        evolves := .endUnbound sound found bound rfl rfl rfl rfl
        gone := Dict.get_erase_self _ _
        others := fun other different => Dict.get_erase_of_ne _ different
        names := rfl
        binding := bound.symm
        place := place.symm }
  | some binding =>
    have place : lease.identity = some binding.identity := by
      rw [DaemonLease.identity, bound, Option.map_some]
    obtain ⟨state, entry, _, holder⟩ := sound.holder found bound
    have detach := detachHolder_run settings
      { self with active := self.active.erase lease.id } lease.id binding.identity now immediate
      entry holder
    refine ⟨{
        reason
        identity := some binding.identity
        activeHolders := (state.detachment settings lease.id now immediate).activeHolders
        bindingToRelease := some binding
        leaseId := some lease.id
        runtimeToStop := (state.detachment settings lease.id now immediate).runtimeToStop
        graceDeadline := (state.detachment settings lease.id now immediate).graceDeadline },
      { self with
        active := self.active.erase lease.id
        workspaces := self.workspaces.update binding.identity
          (state.afterLeave settings lease.id now immediate) }, ?_, ?_, rfl, ?_, ?_⟩
    · simp [endLocked, bound, run_bind, run_modify, detach]
    · exact {
        evolves := .leave sound settings now immediate found bound entry none (by simp) rfl rfl
          rfl rfl
        gone := Dict.get_erase_self _ _
        others := fun other different => Dict.get_erase_of_ne _ different
        names := rfl
        binding := bound.symm
        place := place.symm }
    · rintro rfl
      cases handed : (state.detachment settings lease.id now false).runtimeToStop with
      | none => rfl
      | some runtime => cases (WorkspaceState.detachment_runtime handed).2.1
    · intro identity
      split
      · rename_i same
        obtain rfl := Option.mem_unique place same
        rw [entry, Option.bind_some, Dict.get_update_self]
      · rename_i elsewhere
        exact Dict.get_update_of_ne _ _ fun same => elsewhere (same ▸ place)

end LeaseLifecycle

/-- The check of a lease finds it overdue and ends it, or finds it gone. -/
inductive Lapses (before : LeaseLifecycle Identity Runtime Time) (leaseId : Uuid) :
    Option (LeaseLifecycleDecision Identity Runtime Time) →
      LeaseLifecycle Identity Runtime Time → Prop
  | overdue {lease : DaemonLease Identity Runtime Time}
      {decision : LeaseLifecycleDecision Identity Runtime Time}
      {after : LeaseLifecycle Identity Runtime Time} (found : before.active.get leaseId = some lease)
      (ended : LeaseLifecycle.Ended before lease decision after)
      (warm : decision.runtimeToStop = none) :
      Lapses before leaseId (some decision) after
  | gone (absent : before.active.get leaseId = none) : Lapses before leaseId none before

namespace Lapses

variable {before after : LeaseLifecycle Identity Runtime Time} {leaseId : Uuid}
  {decision : Option (LeaseLifecycleDecision Identity Runtime Time)}

theorem evolves (lapses : Lapses before leaseId decision after) (sound : before.Sound) :
    LeaseLifecycle.Evolves before decision.toList after := by
  cases lapses with
  | overdue _ ended _ => exact ended.evolves
  | gone _ => exact .refl sound

/-- A lapse stops nothing. -/
theorem warm (lapses : Lapses before leaseId decision after) :
    ∀ made ∈ decision.toList, made.runtimeToStop = none := by
  cases lapses with
  | overdue _ _ warm => simpa using warm
  | gone _ => simp

end Lapses

namespace LeaseLifecycle

variable {self : LeaseLifecycle Identity Runtime Time} {lease : DaemonLease Identity Runtime Time}
  {id : Uuid}

/-- **A call is refused**: its lease was not live, and lapses. -/
def Refused (self : LeaseLifecycle Identity Runtime Time) (leaseId : Uuid) (now : Time)
    {Value : Type} (result : EStateM.Result (LeaseRaise Identity Runtime Time)
      (LeaseLifecycle Identity Runtime Time) Value) : Prop :=
  ∃ decision after, Lapses self leaseId decision after ∧
    (∀ lease, self.active.get leaseId = some lease → lease.expiresAt ≤ now) ∧
    result = .error (.leaseExpired leaseId decision) after

/-- **`_require_active_locked`**: the lease is live; or overdue, and ended here with its decision
raised; or not active, and nothing happens. -/
theorem requireActiveLocked_cases (sound : self.Sound)
    (leaseId : Uuid) (now : Time) :
    (∃ lease, self.active.get leaseId = some lease ∧ now < lease.expiresAt ∧
      (requireActiveLocked settings leaseId now).run self = .ok lease self) ∨
    self.Refused leaseId now ((requireActiveLocked settings leaseId now).run self) := by
  cases found : self.active.get leaseId with
  | none =>
    refine .inr ⟨none, self, .gone found, fun _ there => (nomatch found.symm.trans there), ?_⟩
    simp only [requireActiveLocked, run_bind, run_get, found]
    rfl
  | some lease =>
    by_cases live : now < lease.expiresAt
    · refine .inl ⟨lease, rfl, live, ?_⟩
      simp [requireActiveLocked, run_bind, run_get, found, live, run_pure]
    · have key := sound.key found
      obtain ⟨decision, after, run, ended, _, quiet, _⟩ :=
        endLocked_run settings sound (key.symm ▸ found) .expired now false
      refine .inr ⟨some decision, _, .overdue found (ended.expire (insert leaseId after.expired))
        (quiet rfl), fun _ there => ?_, ?_⟩
      · obtain rfl := Option.mem_unique found there
        exact not_lt.mp live
      simp only [requireActiveLocked, run_bind, run_get, found, live, if_false, run, run_modify]
      rfl

/-- **`heartbeat`** renews a live lease, and is `_require_active_locked` otherwise. -/
theorem heartbeat_cases (sound : self.Sound) (leaseId : Uuid)
    (now : Time) :
    (∃ lease after, self.active.get leaseId = some lease ∧ Evolves self [] after ∧
      (heartbeat settings leaseId now).run self =
        .ok { lease with lastHeartbeatAt := now } after) ∨
    self.Refused leaseId now ((heartbeat settings leaseId now).run self) := by
  rcases requireActiveLocked_cases settings sound leaseId now with
    ⟨lease, found, _, run⟩ | ⟨decision, after, lapses, late, run⟩
  · refine .inl ⟨lease, { self with
      active := self.active.set leaseId { lease with lastHeartbeatAt := now } }, found, ?_, ?_⟩
    · have key : lease.id = leaseId := sound.key found
      have placed : (some { lease with lastHeartbeatAt := now }).bind DaemonLease.place =
          (self.active.get leaseId).bind DaemonLease.place := by rw [found]; rfl
      have kept := sound.rewrite (le_refl _) _ (by simp [key, sound.fresh found]) placed
      refine .quiet kept rfl rfl fun id => ?_
      rw [Dict.get_set]
      split
      · rename_i same
        rw [same, found]
        rfl
      · rfl
    · simp [heartbeat, run_bind, run, run_modify]
  · refine .inr ⟨decision, after, lapses, late, ?_⟩
    simp [heartbeat, run_bind, run]

/-- **`release`**: nothing at an inactive lease; otherwise the lease ends, and an overdue one stops
nothing. -/
theorem release_run (sound : self.Sound) (leaseId : Uuid)
    (immediate : Bool) (now : Time) :
    (self.active.get leaseId = none ∧
      (release settings leaseId immediate now).run self = .ok { released := false } self) ∨
    (∃ lease decision after released, self.active.get leaseId = some lease ∧
      Ended self lease decision after ∧
      (decision.runtimeToStop ≠ none → immediate = true ∧ now < lease.expiresAt) ∧
      (release settings leaseId immediate now).run self =
        .ok { released, decision := some decision } after) := by
  cases found : self.active.get leaseId with
  | none =>
    refine .inl ⟨rfl, ?_⟩
    simp [release, run_bind, run_get, found, run_pure]
  | some lease =>
    have key := sound.key found
    refine .inr ?_
    by_cases overdue : lease.expiresAt ≤ now
    · obtain ⟨decision, after, run, ended, _, quiet, _⟩ :=
        endLocked_run settings sound (key.symm ▸ found) .expired now false
      refine ⟨lease, decision, _, false, rfl, ended.expire (insert leaseId after.expired),
        fun stops => absurd (quiet rfl) stops, ?_⟩
      simp [release, run_bind, run_get, found, overdue, run]
    · obtain ⟨decision, after, run, ended, _, quiet, _⟩ :=
        endLocked_run settings sound (key.symm ▸ found) .released now immediate
      refine ⟨lease, decision, after, true, rfl, ended, fun stops =>
        ⟨Bool.eq_true_of_not_eq_false fun gentle => stops (quiet gentle), not_le.mp overdue⟩, ?_⟩
      simp [release, run_bind, run_get, found, overdue, run]

/-- `lease` lost its binding and stays active, and `decision` says so. -/
structure Unbound (before : LeaseLifecycle Identity Runtime Time)
    (lease : DaemonLease Identity Runtime Time) (binding : WorkspaceBinding Identity Runtime)
    (decision : LeaseLifecycleDecision Identity Runtime Time)
    (after : LeaseLifecycle Identity Runtime Time) : Prop where
  evolves : Evolves before [decision] after
  stays : after.active.get lease.id = some { lease with binding := none }
  others : ∀ other, other ≠ lease.id → after.active.get other = before.active.get other
  names : decision.leaseId = some lease.id
  binding : decision.bindingToRelease = some binding

/-- **`release_workspace`**: a live lease gives up its binding, if it has one. -/
theorem releaseWorkspace_cases (sound : self.Sound)
    (leaseId : Uuid) (immediate : Bool) (now : Time) :
    (∃ lease, self.active.get leaseId = some lease ∧ lease.binding = none ∧
      (releaseWorkspace settings leaseId immediate now).run self =
        .ok { released := false } self) ∨
    (∃ lease binding decision after, self.active.get leaseId = some lease ∧
      lease.binding = some binding ∧ Unbound self lease binding decision after ∧
      (decision.runtimeToStop ≠ none → immediate = true ∧ now < lease.expiresAt) ∧
      (releaseWorkspace settings leaseId immediate now).run self =
        .ok { released := true, decision := some decision } after) ∨
    self.Refused leaseId now ((releaseWorkspace settings leaseId immediate now).run self) := by
  rcases requireActiveLocked_cases settings sound leaseId now with
    ⟨lease, found, live, run⟩ | ⟨decision, after, lapses, late, run⟩
  · cases bound : lease.binding with
    | none =>
      refine .inl ⟨lease, found, bound, ?_⟩
      simp [releaseWorkspace, run_bind, run, bound, run_pure]
    | some binding =>
      have key := sound.key found
      obtain ⟨state, entry, _, holder⟩ := sound.holder (key.symm ▸ found) bound
      have detach := detachHolder_run settings self lease.id binding.identity now immediate
        entry holder
      refine .inr (.inl ⟨lease, binding, {
          reason := .released
          identity := some binding.identity
          activeHolders := (state.detachment settings lease.id now immediate).activeHolders
          bindingToRelease := some binding
          leaseId := some lease.id
          runtimeToStop := (state.detachment settings lease.id now immediate).runtimeToStop
          graceDeadline := (state.detachment settings lease.id now immediate).graceDeadline },
        { self with
          active := self.active.set lease.id { lease with binding := none }
          workspaces := self.workspaces.update binding.identity
            (state.afterLeave settings lease.id now immediate) }, found, bound, ?_, ?_, ?_⟩)
      · exact {
          evolves := .leave sound settings now immediate (key.symm ▸ found) bound entry
            (some { lease with binding := none }) (by simp) rfl rfl rfl rfl
          stays := Dict.get_set_self _ _ _
          others := fun other different => Dict.get_set_of_ne _ _ different
          names := rfl
          binding := rfl }
      · intro stops
        obtain ⟨runtime, handed⟩ := Option.ne_none_iff_exists'.mp stops
        exact ⟨(WorkspaceState.detachment_runtime handed).2.1, live⟩
      · simp [releaseWorkspace, removeHolderLocked, run_bind, run, bound, detach, run_modify]
  · refine .inr (.inr ⟨decision, after, lapses, late, ?_⟩)
    simp [releaseWorkspace, run_bind, run]

/-! ### The two loops of `sweep` -/

/-- What `sweep` drops: a workspace without holders whose grace has elapsed, or one whose holders are
all overdue, if there is no grace to wait for. -/
def Sweepable (settings : LeaseSettings Time) (self : LeaseLifecycle Identity Runtime Time)
    (now : Time) (state : WorkspaceState Runtime Time) : Prop :=
  (∀ id ∈ state.holders, ∀ lease, self.active.get id = some lease → lease.expiresAt ≤ now) ∧
    (state.holders = ∅ → state.graceElapsed now = true) ∧
    (state.holders ≠ ∅ → now + settings.warmGraceSeconds ≤ now)

/-- What an immediate release of `leaseId` drops: a workspace that it holds alone, while it is live. -/
def Releasable (self : LeaseLifecycle Identity Runtime Time) (leaseId : Uuid) (now : Time)
    (state : WorkspaceState Runtime Time) : Prop :=
  state.holders = {leaseId} ∧
    ∀ lease, self.active.get leaseId = some lease → now < lease.expiresAt

/-- The first loop, over leases that are all still active. -/
theorem sweepLeases_run (now : Time)
    (leases : List (DaemonLease Identity Runtime Time)) :
    ∀ (self : LeaseLifecycle Identity Runtime Time), self.Sound →
      (leases.map DaemonLease.id).Nodup →
      (∀ lease ∈ leases, self.active.get lease.id = some lease) →
      ∃ decisions after, (sweepLeases settings now leases).run self = .ok decisions after ∧
        Evolves self decisions after ∧
        (∀ decision ∈ decisions, ∀ id, decision.leaseId = some id →
          after.active.get id = none) ∧
        (∀ id lease, self.active.get id = some lease → after.active.get id = none →
          lease.expiresAt ≤ now) ∧
        (∀ identity state, self.workspaces.get identity = some state → state.holders = ∅ →
          after.workspaces.get identity = some state) ∧
        ∀ identity state, self.workspaces.get identity = some state → state.holders ≠ ∅ →
          ∃ kept, after.workspaces.get identity = some kept ∧
            (kept.holders = ∅ →
              kept.graceDeadline = some (now + settings.warmGraceSeconds)) := by
  induction leases with
  | nil =>
    intro self sound _ _
    refine ⟨[], self, rfl, .refl sound, by simp, ?_, fun _ _ entry _ => entry,
      fun _ state entry held => ⟨state, entry, fun empty => absurd empty held⟩⟩
    intro id lease found gone
    rw [found] at gone
    cases gone
  | cons lease rest ih =>
    intro self sound nodup active
    obtain ⟨notLater, restNodup⟩ := List.nodup_cons.mp nodup
    by_cases overdue : lease.expiresAt ≤ now
    · obtain ⟨decision, ended, run, facts, _, _, frame⟩ :=
        endLocked_run settings sound (active lease (by simp)) .expired now false
      have ended' := facts.expire (insert lease.id ended.expired)
      have restActive : ∀ other ∈ rest, ended.active.get other.id = some other := by
        intro other member
        rw [facts.others other.id fun same => notLater (same ▸ List.mem_map_of_mem member)]
        exact active other (List.mem_cons_of_mem _ member)
      obtain ⟨decisions, after, restRun, restEvolves, restGone, restOverdue, restIdle, restHeld⟩ :=
        ih { ended with expired := insert lease.id ended.expired } ended'.evolves.sound
          restNodup restActive
      have gone : ∀ other ∈ [decision], ∀ id, other.leaseId = some id →
          ended.active.get id = none := by
        intro other member id names
        obtain rfl := List.mem_singleton.mp member
        obtain rfl : lease.id = id := Option.mem_unique facts.names names
        exact facts.gone
      refine ⟨decision :: decisions, after, ?_, ended'.evolves.trans restEvolves gone, ?_, ?_,
        ?_, ?_⟩
      · simp [sweepLeases, overdue, run_bind, run, restRun]
      · intro other member id names
        rcases List.mem_cons.mp member with rfl | later
        · -- the lease is gone after the first step, and the rest revives nothing
          exact restEvolves.absent (gone other (by simp) id names)
        · exact restGone other later id names
      · intro id other found left
        by_cases same : id = lease.id
        · rw [same, active lease (by simp)] at found
          cases found
          exact overdue
        · exact restOverdue id other ((facts.others id same).trans found) left
      · -- a workspace without holders is no lease's, so ending one does not touch it
        intro identity state entry empty
        refine restIdle identity state ((frame identity).trans ?_) empty
        rw [if_neg fun here => ?_, entry]
        have holder := (sound.holders entry lease.id).mpr ⟨lease, active lease (by simp), here⟩
        rw [empty] at holder
        exact absurd holder (Finset.notMem_empty _)
      · intro identity state entry held
        have there := frame identity
        rw [entry, Option.bind_some] at there
        split at there
        · obtain ⟨kept, keeps, deadline⟩ :=
            state.afterLeave_gently settings lease.id now
          by_cases last : kept.holders = ∅
          · exact ⟨kept, restIdle identity kept (there.trans keeps) last, deadline⟩
          · exact restHeld identity kept (there.trans keeps) last
        · exact restHeld identity state there held
    · obtain ⟨decisions, after, restRun, facts⟩ := ih self sound restNodup
        fun other member => active other (List.mem_cons_of_mem _ member)
      exact ⟨decisions, after, by simp [sweepLeases, overdue, restRun], facts⟩

/-- The second loop, over workspaces that are all still there. -/
theorem sweepWorkspaces_run (now : Time)
    (items : List (Identity × WorkspaceState Runtime Time)) :
    ∀ (self : LeaseLifecycle Identity Runtime Time), self.Sound →
      (items.map Prod.fst).Nodup →
      (∀ item ∈ items, self.workspaces.get item.1 = some item.2) →
      ∃ decisions after, (sweepWorkspaces now items).run self = .ok decisions after ∧
        Evolves self decisions after ∧ (∀ decision ∈ decisions, decision.leaseId = none) ∧
        ∀ identity state, self.workspaces.get identity = some state →
          after.workspaces.get identity = none → state.graceElapsed now = true := by
  induction items with
  | nil =>
    intro self sound _ _
    refine ⟨[], self, rfl, .refl sound, by simp, ?_⟩
    intro identity state entry gone
    rw [entry] at gone
    cases gone
  | cons item rest ih =>
    intro self sound nodup present
    obtain ⟨identity, state⟩ := item
    obtain ⟨notLater, restNodup⟩ := List.nodup_cons.mp nodup
    have entry : self.workspaces.get identity = some state := present (identity, state) (by simp)
    by_cases elapsed : state.graceElapsed now
    · have empty : state.holders = ∅ := by
        simp only [WorkspaceState.graceElapsed, Bool.and_eq_true, decide_eq_true_eq] at elapsed
        exact elapsed.1
      have dropped : Evolves self [{
          reason := .graceExpired
          identity := some identity
          activeHolders := 0
          runtimeToStop := some state.runtime }]
          { self with workspaces := self.workspaces.erase identity } :=
        .drop sound entry empty rfl rfl rfl rfl
      obtain ⟨decisions, after, restRun, restEvolves, unnamed, restElapsed⟩ :=
        ih { self with workspaces := self.workspaces.erase identity } dropped.sound restNodup
          (by
            intro other member
            have different : other.1 ≠ identity := by
              rintro rfl
              exact notLater (List.mem_map.mpr ⟨other, member, rfl⟩)
            show (self.workspaces.erase identity).get other.1 = _
            rw [Dict.get_erase_of_ne _ different]
            exact present other (List.mem_cons_of_mem _ member))
      refine ⟨_, after, ?_, dropped.trans restEvolves (by simp), ?_, ?_⟩
      · simp [sweepWorkspaces, elapsed, run_bind, run_modify, restRun]
      · simpa using unnamed
      · intro place other found gone
        by_cases same : place = identity
        · rw [same, entry] at found
          cases found
          exact elapsed
        · exact restElapsed place other ((Dict.get_erase_of_ne _ same).trans found) gone
    · obtain ⟨decisions, after, restRun, facts⟩ := ih self sound restNodup
        fun other member => present other (List.mem_cons_of_mem _ member)
      refine ⟨decisions, after, ?_, facts⟩
      simp [sweepWorkspaces, elapsed, Bool.false_eq_true, restRun]

/-- **`sweep`** ends leases and drops workspaces, every lease it names has left, and what it dropped
was sweepable. -/
theorem sweep_run (sound : self.Sound) (now : Time) :
    ∃ decisions after, (sweep settings now).run self = .ok decisions after ∧
      Evolves self decisions after ∧
      (∀ decision ∈ decisions, ∀ id, decision.leaseId = some id → after.active.get id = none) ∧
      ∀ identity state, self.workspaces.get identity = some state →
        after.workspaces.get identity = none → Sweepable settings self now state := by
  have activeOf : ∀ lease ∈ self.active.values, self.active.get lease.id = some lease := by
    intro lease member
    obtain ⟨id, found⟩ := Dict.mem_values.mp member
    rw [sound.key found]
    exact found
  have nodup : (self.active.values.map DaemonLease.id).Nodup := by
    have same : self.active.values.map DaemonLease.id = self.active.keys := by
      rw [Dict.values, Dict.keys, List.map_map]
      exact List.map_congr_left fun item member => sound.key (Dict.mem_items.mp member)
    rw [same]
    exact self.active.keys_nodup
  obtain ⟨expiries, middle, firstRun, first, firstGone, overdue, idle, held⟩ :=
    sweepLeases_run settings now self.active.values self sound nodup activeOf
  obtain ⟨elapsed, after, secondRun, second, unnamed, graceOver⟩ :=
    sweepWorkspaces_run now middle.workspaces.items middle first.sound middle.workspaces.nodup
      fun item member => Dict.mem_items.mp member
  have evolves := first.trans second firstGone
  have gone : ∀ decision ∈ expiries ++ elapsed, ∀ id, decision.leaseId = some id →
      after.active.get id = none := by
    intro decision member id names
    rcases List.mem_append.mp member with early | late
    · exact second.absent (firstGone decision early id names)
    · rw [unnamed decision late] at names
      cases names
  refine ⟨expiries ++ elapsed, after, ?_, evolves, gone, ?_⟩
  · simp [sweep, run_bind, run_get, firstRun, secondRun]
  · intro identity state entry dropped
    refine ⟨?_, fun empty => graceOver identity state (idle identity state entry empty) dropped,
      fun holding => ?_⟩
    swap
    · obtain ⟨kept, keeps, deadline⟩ := held identity state entry holding
      have elapsed := graceOver identity kept keeps dropped
      simp only [WorkspaceState.graceElapsed, Bool.and_eq_true, decide_eq_true_eq] at elapsed
      rw [deadline elapsed.1] at elapsed
      exact of_decide_eq_true elapsed.2
    intro id holder lease found
    obtain ⟨holding, holdingFound, here⟩ := (sound.holders entry id).mp holder
    rw [found] at holdingFound
    cases holdingFound
    obtain ⟨binding, bound, rfl⟩ := Option.map_eq_some_iff.mp here
    obtain ⟨decision, member, names, _⟩ := evolves.holder_named found bound dropped
    rcases List.mem_append.mp member with early | late
    · exact overdue id lease found (firstGone decision early id names)
    · rw [unnamed decision late] at names
      cases names

/-! ### The methods that bind -/

/-- The lease `id` now has `binding`; nothing else lost a binding, an entry or a runtime. -/
structure Binds (before : LeaseLifecycle Identity Runtime Time) (id : Uuid)
    (binding : Option (WorkspaceBinding Identity Runtime))
    (after : LeaseLifecycle Identity Runtime Time) : Prop where
  sound : after.Sound
  here : ∃ lease, after.active.get id = some lease ∧ lease.binding = binding
  others : ∀ other, other ≠ id → after.active.get other = before.active.get other
  kept : ∀ {identity state}, before.workspaces.get identity = some state →
    ∃ next, after.workspaces.get identity = some next ∧ next.runtime = state.runtime
  origin : ∀ {identity next}, after.workspaces.get identity = some next →
    (∃ state, before.workspaces.get identity = some state ∧ state.runtime = next.runtime) ∨
    (∃ bound, binding = some bound ∧ bound.identity = identity ∧ next.runtime = bound.runtime)

/-- A binding whose runtime is not the one the lifecycle has for its identity. -/
def Clashes (self : LeaseLifecycle Identity Runtime Time)
    (binding : WorkspaceBinding Identity Runtime) : Prop :=
  ∃ state, self.workspaces.get binding.identity = some state ∧ state.runtime ≠ binding.runtime

/-- The workspace state that `_add_holder_locked` adds a holder to. -/
def joined (self : LeaseLifecycle Identity Runtime Time)
    (binding : WorkspaceBinding Identity Runtime) : WorkspaceState Runtime Time :=
  (self.workspaces.get binding.identity).getD { runtime := binding.runtime, holders := ∅ }

theorem joined_source (binding : WorkspaceBinding Identity Runtime) :
    self.workspaces.get binding.identity = some (self.joined binding) ∨
      self.workspaces.get binding.identity = none ∧ (self.joined binding).holders = ∅ := by
  unfold joined
  cases self.workspaces.get binding.identity with
  | none => exact .inr ⟨rfl, rfl⟩
  | some state => exact .inl rfl

variable {binding : WorkspaceBinding Identity Runtime} {state : WorkspaceState Runtime Time}

theorem joined_runtime (fits : ¬self.Clashes binding) :
    (self.joined binding).runtime = binding.runtime := by
  unfold joined
  cases entry : self.workspaces.get binding.identity with
  | none => rfl
  | some state =>
    by_contra differs
    exact fits ⟨state, entry, differs⟩

/-- `_add_holder_locked`. -/
theorem addHolderLocked_run (self : LeaseLifecycle Identity Runtime Time) (leaseId : Uuid)
    (binding : WorkspaceBinding Identity Runtime) :
    (self.Clashes binding ∧ (addHolderLocked leaseId binding).run self =
      .error (.valueError "one workspace identity cannot have two live runtime instances") self) ∨
    (¬self.Clashes binding ∧ (addHolderLocked leaseId binding).run self =
      .ok () { self with
        workspaces := self.workspaces.set binding.identity
          { self.joined binding with
            graceDeadline := none
            holders := insert leaseId (self.joined binding).holders } }) := by
  cases entry : self.workspaces.get binding.identity with
  | none =>
    refine .inr ⟨?_, ?_⟩
    · rintro ⟨state, stateEntry, _⟩
      rw [entry] at stateEntry
      cases stateEntry
    · simp [addHolderLocked, joined, run_bind, run_get, entry, Option.getD_none]
  | some state =>
    by_cases same : state.runtime = binding.runtime
    · refine .inr ⟨?_, ?_⟩
      · rintro ⟨other, otherEntry, differs⟩
        rw [entry] at otherEntry
        cases otherEntry
        exact differs same
      · simp [addHolderLocked, joined, run_bind, run_get, entry, Option.getD_some, same]
    · refine .inl ⟨⟨state, entry, same⟩, ?_⟩
      simp only [addHolderLocked, run_bind, run_get, entry, ne_eq, same, not_false_eq_true, if_true]
      rfl

/-- An unbound or new lease joins a workspace. -/
theorem Binds.join (sound : self.Sound) (lease : DaemonLease Identity Runtime Time)
    (fits : ¬self.Clashes binding)
    (unbound : ∀ old, self.active.get id = some old → old.binding = none) (key : lease.id = id)
    (bound : lease.binding = some binding) (fresh : id < self.nextUuid) :
    Binds self id (some binding)
      { self with
        active := self.active.set id lease
        workspaces := self.workspaces.set binding.identity
          { self.joined binding with
            graceDeadline := none
            holders := insert id (self.joined binding).holders } } where
  sound := sound.join unbound (joined_source binding) (joined_runtime fits) key bound fresh
  here := ⟨lease, Dict.get_set_self _ _ _, bound⟩
  others := fun _ different => Dict.get_set_of_ne _ _ different
  kept := by
    intro identity state entry
    rw [Dict.get_set]
    split
    · rename_i same
      subst same
      refine ⟨_, rfl, ?_⟩
      simp [joined, entry]
    · exact ⟨state, entry, rfl⟩
  origin := by
    intro identity next there
    obtain ⟨same, rfl⟩ | ⟨_, old⟩ := Dict.found_set there
    · exact .inr ⟨binding, rfl, same.symm, joined_runtime fits⟩
    · exact .inl ⟨next, old, rfl⟩

/-- A same-root rebinding, or none. -/
theorem Binds.replace (sound : self.Sound) (next : DaemonLease Identity Runtime Time)
    (found : self.active.get id = some lease) (key : next.id = id)
    (same : next.place = lease.place) :
    Binds self id next.binding { self with active := self.active.set id next } where
  sound := sound.rewrite (le_refl _) (some next) (by simp [key, sound.fresh found])
    (by simp [found, same])
  here := ⟨next, Dict.get_set_self _ _ _, rfl⟩
  others := fun _ different => Dict.get_set_of_ne _ _ different
  kept := fun entry => ⟨_, entry, rfl⟩
  origin := fun entry => Or.inl ⟨_, entry, rfl⟩

/-- A normal leaving keeps every entry and its runtime. -/
theorem update_afterLeave_kept (self : LeaseLifecycle Identity Runtime Time) {place : Identity}
    (entry : self.workspaces.get place = some state) (leaseId : Uuid) (now : Time)
    (identity : Identity) :
    ((self.workspaces.update place (state.afterLeave settings leaseId now false)).get identity).map
        WorkspaceState.runtime =
      (self.workspaces.get identity).map WorkspaceState.runtime := by
  rw [Dict.get_update]
  split
  · rename_i same
    rw [same, entry]
    unfold WorkspaceState.afterLeave
    split <;> rfl
  · rfl

section

variable (sound : self.Sound)
include sound

/-- A lease moves from one root to another. -/
theorem Binds.move (now : Time) {old : WorkspaceBinding Identity Runtime}
    (found : self.active.get id = some lease) (bound : lease.binding = some old)
    (entry : self.workspaces.get old.identity = some state)
    {middle : LeaseLifecycle Identity Runtime Time}
    (middleEq : middle = { self with workspaces := self.workspaces.update old.identity (state.afterLeave settings id now false) })
    (fits : ¬middle.Clashes binding) :
    Binds self id (some binding)
      { middle with
        active := middle.active.set id { lease with binding := some binding }
        workspaces := middle.workspaces.set binding.identity
          { middle.joined binding with
            graceDeadline := none
            holders := insert id (middle.joined binding).holders } } := by
  subst middleEq
  have key : lease.id = id := sound.key found
  -- the same state reached by unbinding the lease first
  have left := sound.leave settings now false found bound entry
    (some { lease with binding := none }) (by simp [key])
  have joins := Binds.join left { lease with binding := some binding } fits
    (by simp [Dict.update]) key rfl (sound.fresh found)
  simp only [Dict.update, Dict.set_set] at joins
  have runtimes := update_afterLeave_kept settings self entry id now
  exact {
    sound := joins.sound
    here := joins.here
    others := fun other different => Dict.get_set_of_ne _ _ different
    kept := by
      intro identity known knownEntry
      have same := runtimes identity
      rw [knownEntry, Option.map_some] at same
      obtain ⟨middleState, middleEntry, middleRuntime⟩ := Option.map_eq_some_iff.mp same
      obtain ⟨next, nextEntry, nextRuntime⟩ := joins.kept middleEntry
      exact ⟨next, nextEntry, nextRuntime.trans middleRuntime⟩
    origin := by
      intro identity next nextEntry
      rcases joins.origin nextEntry with ⟨middleState, middleEntry, middleRuntime⟩ | fresh
      · have same := runtimes identity
        rw [show (self.workspaces.update old.identity
          (state.afterLeave settings id now false)).get identity = some middleState from
            middleEntry, Option.map_some] at same
        obtain ⟨known, knownEntry, knownRuntime⟩ := Option.map_eq_some_iff.mp same.symm
        exact .inl ⟨known, knownEntry, knownRuntime.trans middleRuntime⟩
      · exact .inr fresh }

/-- **`rebind`**: a live lease gets the binding unless the binding's runtime clashes. -/
theorem rebind_cases (leaseId : Uuid) (binding : WorkspaceBinding Identity Runtime) (now : Time) :
    (∃ lease after, self.active.get leaseId = some lease ∧ now < lease.expiresAt ∧
      Binds self leaseId (some binding) after ∧ after.nextUuid = self.nextUuid ∧
      (rebind settings leaseId binding now).run self =
        .ok { lease with binding := some binding } after) ∨
    (∃ lease message after, self.active.get leaseId = some lease ∧ now < lease.expiresAt ∧
      self.Clashes binding ∧
      (rebind settings leaseId binding now).run self = .error (.valueError message) after) ∨
    self.Refused leaseId now ((rebind settings leaseId binding now).run self) := by
  rcases requireActiveLocked_cases settings sound leaseId now with
    ⟨lease, found, live, run⟩ | ⟨decision, after, lapses, late, run⟩
  · have key : lease.id = leaseId := sound.key found
    subst key
    cases bound : lease.binding with
    | none =>
      rcases addHolderLocked_run self lease.id binding with ⟨clash, add⟩ | ⟨fits, add⟩
      · refine .inr (.inl ⟨lease,
          "one workspace identity cannot have two live runtime instances", self, found, live,
          clash, ?_⟩)
        simp [rebind, run_bind, run, bound, add]
      · refine .inl ⟨lease, _, found, live, .join sound
          { lease with binding := some binding } fits ?_ rfl rfl (sound.fresh found), rfl, ?_⟩
        · intro old oldFound
          rw [found] at oldFound
          cases oldFound
          exact bound
        · simp [rebind, run_bind, run, bound, add]
    | some old =>
      obtain ⟨state, entry, runtime, holder⟩ := sound.holder found bound
      by_cases moves : old.identity = binding.identity
      · by_cases same : old.runtime = binding.runtime
        · refine .inl ⟨lease, _, found, live,
            .replace sound { lease with binding := some binding } found rfl ?_, rfl, ?_⟩
          · simp [DaemonLease.place, bound, moves, same]
          · simp [rebind, run_bind, run, bound, moves, same, ne_eq]
        · refine .inr (.inl ⟨lease,
            "one workspace identity cannot change runtime while leased", self, found, live, ⟨state, moves ▸ entry, runtime ▸ same⟩, ?_⟩)
          simp only [rebind, run_bind, run, bound, moves, same, ne_eq,
            not_true_eq_false, if_false, not_false_eq_true, if_true]
          rfl
      · have detach := detachHolder_run settings self lease.id old.identity now false entry holder
        generalize middleEq : ({ self with
          workspaces := self.workspaces.update old.identity
            (state.afterLeave settings lease.id now false) } :
              LeaseLifecycle Identity Runtime Time) = middle at detach
        rcases addHolderLocked_run middle lease.id binding with ⟨clash, add⟩ | ⟨fits, add⟩
        · refine .inr (.inl ⟨lease,
            "one workspace identity cannot have two live runtime instances", middle, found, live,
            ?_, ?_⟩)
          · obtain ⟨other, otherEntry, differs⟩ := clash
            refine ⟨other, ?_, differs⟩
            rw [← middleEq] at otherEntry
            exact (Dict.get_update_of_ne _ _ fun same => moves same.symm) ▸ otherEntry
          · simp [rebind, removeHolderLocked, run_bind, run, bound, moves, ne_eq, detach, add]
        · refine .inl ⟨lease, _, found, live,
            .move settings sound now found bound entry middleEq.symm fits, ?_, ?_⟩
          · rw [← middleEq]
          · simp [rebind, removeHolderLocked, run_bind, run, bound, moves, ne_eq, detach, add]
  · refine .inr (.inr ⟨decision, after, lapses, late, ?_⟩)
    simp [rebind, run_bind, run]

theorem Sound.unused : self.active.get self.nextUuid = none := by
  cases found : self.active.get self.nextUuid with
  | none => rfl
  | some lease => exact absurd (sound.fresh found) (lt_irrefl _)

/-- A new lease without a binding. -/
theorem Binds.fresh (lease : DaemonLease Identity Runtime Time) (key : lease.id = self.nextUuid)
    (unbound : lease.binding = none) :
    Binds self self.nextUuid none
      { self with
        active := self.active.set self.nextUuid lease
        nextUuid := self.nextUuid + 1 } where
  sound := sound.rewrite (Nat.le_succ _) (some lease) (by simp [key])
    (by simp [sound.unused, DaemonLease.place, unbound])
  here := ⟨lease, Dict.get_set_self _ _ _, unbound⟩
  others := fun _ different => Dict.get_set_of_ne _ _ different
  kept := fun entry => ⟨_, entry, rfl⟩
  origin := fun entry => Or.inl ⟨_, entry, rfl⟩

/-- **`issue`**: a new lease, unless the binding's runtime clashes. -/
theorem issue_cases (binding : Option (WorkspaceBinding Identity Runtime)) (now : Time) :
    (∃ after, Binds self self.nextUuid binding after ∧ after.nextUuid = self.nextUuid + 1 ∧
      (issue settings binding now).run self = .ok (self.newLease settings binding now) after) ∨
    (∃ bound message after, binding = some bound ∧ self.Clashes bound ∧
      (issue settings binding now).run self = .error (.valueError message) after) := by
  cases binding with
  | none =>
    refine .inl ⟨_, .fresh sound (self.newLease settings none now) rfl rfl, rfl, ?_⟩
    simp only [issue, run_bind, run_get, run_set, run_pure]
    rfl
  | some bound =>
    let entered : LeaseLifecycle Identity Runtime Time := { self with
      active := self.active.set self.nextUuid (self.newLease settings (some bound) now)
      nextUuid := self.nextUuid + 1 }
    have run : (issue settings (some bound) now).run self =
        (do addHolderLocked self.nextUuid bound return self.newLease settings (some bound) now :
          Method Identity Runtime Time _).run entered := by
      simp only [issue, run_bind, run_get, run_set]
      rfl
    rw [run, run_bind]
    rcases addHolderLocked_run entered self.nextUuid bound with ⟨clash, add⟩ | ⟨fits, add⟩
    · exact .inr ⟨bound, "one workspace identity cannot have two live runtime instances",
        entered, rfl, clash, by rw [add]⟩
    · have grown : ({ self with nextUuid := self.nextUuid + 1 } :
          LeaseLifecycle Identity Runtime Time).Sound := sound.congr rfl rfl (Nat.le_succ _)
      have joins := Binds.join grown (self.newLease settings (some bound) now) fits
        (by simp [newLease, sound.unused]) rfl rfl (Nat.lt_succ_self _)
      exact .inl ⟨_, { joins with }, rfl, by rw [add]; rfl⟩

end

end LeaseLifecycle

end SerenaLight.Daemon
