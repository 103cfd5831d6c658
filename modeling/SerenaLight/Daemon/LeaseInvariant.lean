/-
**The invariant of the lease lifecycle.**

`LeaseLifecycle.Sound` ties the two maps of the lifecycle together: the holders of a workspace
entry are the active leases bound to its identity, a bound lease has an entry with its runtime, and
a grace deadline is set exactly when an entry has no holder.

* `Sound.leave`, `Sound.join`, `Sound.rewrite`, `Sound.drop`: the four ways the maps change.
* `Evolves before decisions after`: what a method that binds nothing does, with the decisions it
  returned or raised; it composes (`Evolves.trans`), so a loop of the source is an induction.
-/

import SerenaLight.Daemon.Leases

set_option linter.unusedSectionVars false

namespace SerenaLight.Daemon

open Foundation Workspace

variable {Identity Runtime Time : Type}
variable [DecidableEq Identity] [DecidableEq Runtime] [LinearOrder Time] [Add Time] [Zero Time]

namespace DaemonLease

/-- The workspace that a lease is bound to, with its runtime. -/
def place (lease : DaemonLease Identity Runtime Time) : Option (Identity × Runtime) :=
  lease.binding.map fun binding => (binding.identity, binding.runtime)

theorem place_fst (lease : DaemonLease Identity Runtime Time) :
    lease.place.map Prod.fst = lease.identity := by
  rw [place, Option.map_map]
  rfl

end DaemonLease

namespace LeaseLifecycle

/-- The two maps of the lifecycle agree. -/
structure Sound (lifecycle : LeaseLifecycle Identity Runtime Time) : Prop where
  key : ∀ {id lease}, lifecycle.active.get id = some lease → lease.id = id
  fresh : ∀ {id lease}, lifecycle.active.get id = some lease → id < lifecycle.nextUuid
  holders : ∀ {identity state}, lifecycle.workspaces.get identity = some state →
    ∀ id, id ∈ state.holders ↔
      ∃ lease, lifecycle.active.get id = some lease ∧ lease.identity = some identity
  hosted : ∀ {id lease binding}, lifecycle.active.get id = some lease → lease.binding = some binding →
    ∃ state, lifecycle.workspaces.get binding.identity = some state ∧ state.runtime = binding.runtime
  grace : ∀ {identity state}, lifecycle.workspaces.get identity = some state →
    (state.graceDeadline.isSome ↔ state.holders = ∅)

theorem Sound.init : (init : LeaseLifecycle Identity Runtime Time).Sound where
  key := by simp [LeaseLifecycle.init]
  fresh := by simp [LeaseLifecycle.init]
  holders := by simp [LeaseLifecycle.init]
  hosted := by simp [LeaseLifecycle.init]
  grace := by simp [LeaseLifecycle.init]

/-- The set of expired identifiers and the counter's growth are no part of the agreement. -/
theorem Sound.congr {self other : LeaseLifecycle Identity Runtime Time} (sound : self.Sound)
    (active : other.active = self.active) (workspaces : other.workspaces = self.workspaces)
    (uuid : self.nextUuid ≤ other.nextUuid) : other.Sound where
  key := by rw [active]; exact sound.key
  fresh := by
    rw [active]
    exact fun found => Nat.lt_of_lt_of_le (sound.fresh found) uuid
  holders := by rw [active, workspaces]; exact sound.holders
  hosted := by rw [active, workspaces]; exact sound.hosted
  grace := by rw [workspaces]; exact sound.grace

end LeaseLifecycle

/-! ### A holder leaves -/

namespace WorkspaceState

/-- The workspace state after `leaseId` left, if it is kept. -/
def afterLeave (settings : LeaseSettings Time) (state : WorkspaceState Runtime Time)
    (leaseId : Uuid) (now : Time) (immediate : Bool) : Option (WorkspaceState Runtime Time) :=
  if state.holders.erase leaseId = ∅ then
    if immediate then none
    else some { state with
      holders := state.holders.erase leaseId
      graceDeadline := some (now + settings.warmGraceSeconds) }
  else some { state with holders := state.holders.erase leaseId }

/-- What `detachHolder` answers when `leaseId` leaves. -/
def detachment (settings : LeaseSettings Time) (state : WorkspaceState Runtime Time)
    (leaseId : Uuid) (now : Time) (immediate : Bool) :
    LeaseLifecycle.Detachment Runtime Time :=
  if state.holders.erase leaseId = ∅ then
    if immediate then { activeHolders := 0, runtimeToStop := some state.runtime }
    else { activeHolders := 0, graceDeadline := some (now + settings.warmGraceSeconds) }
  else { activeHolders := (state.holders.erase leaseId).card }

variable {settings : LeaseSettings Time} {state : WorkspaceState Runtime Time} {leaseId : Uuid}
  {now : Time} {immediate : Bool}

/-- A kept state has its runtime, the other holders, and a deadline in the right case. -/
theorem afterLeave_some {kept : WorkspaceState Runtime Time}
    (eq : state.afterLeave settings leaseId now immediate = some kept) :
    kept.runtime = state.runtime ∧ kept.holders = state.holders.erase leaseId ∧
      (kept.holders = ∅ → kept.graceDeadline.isSome) ∧
      (kept.holders ≠ ∅ → kept.graceDeadline = state.graceDeadline) := by
  unfold afterLeave at eq
  split at eq
  · rename_i last
    split at eq
    · cases eq
    · cases eq
      exact ⟨rfl, rfl, fun _ => rfl, fun others => absurd last others⟩
  · rename_i others
    cases eq
    exact ⟨rfl, rfl, fun none => absurd none others, fun _ => rfl⟩

/-- The entry is dropped exactly when its runtime is handed out. -/
theorem afterLeave_none_iff :
    state.afterLeave settings leaseId now immediate = none ↔
      (state.detachment settings leaseId now immediate).runtimeToStop = some state.runtime := by
  unfold afterLeave detachment
  split
  · split <;> simp
  · simp

/-- A holder that leaves gently leaves other holders behind, or the grace period. -/
theorem afterLeave_gently (settings : LeaseSettings Time) (state : WorkspaceState Runtime Time)
    (leaseId : Uuid) (now : Time) :
    ∃ kept, state.afterLeave settings leaseId now false = some kept ∧
      (kept.holders = ∅ → kept.graceDeadline = some (now + settings.warmGraceSeconds)) := by
  unfold afterLeave
  split
  · exact ⟨_, rfl, fun _ => rfl⟩
  · rename_i others
    exact ⟨_, rfl, fun last => absurd last others⟩

theorem detachment_runtime {runtime : Runtime}
    (stops : (state.detachment settings leaseId now immediate).runtimeToStop = some runtime) :
    runtime = state.runtime ∧ immediate = true ∧ state.holders.erase leaseId = ∅ := by
  unfold detachment at stops
  split at stops
  · rename_i last
    split at stops
    · rename_i now
      exact ⟨(Option.some.inj stops).symm, now, last⟩
    · cases stops
  · cases stops

end WorkspaceState

namespace LeaseLifecycle

variable {state : WorkspaceState Runtime Time} {binding : WorkspaceBinding Identity Runtime}
  {id : Uuid} {lease : DaemonLease Identity Runtime Time}
  {before after : LeaseLifecycle Identity Runtime Time}
  {decision : LeaseLifecycleDecision Identity Runtime Time}

/-- `detachHolder` at a holder. -/
theorem detachHolder_run (settings : LeaseSettings Time)
    (self : LeaseLifecycle Identity Runtime Time) (leaseId : Uuid) (identity : Identity)
    (now : Time) (immediate : Bool)
    (entry : self.workspaces.get identity = some state) (holder : leaseId ∈ state.holders) :
    (detachHolder settings leaseId identity now immediate).run self =
      .ok (state.detachment settings leaseId now immediate)
        { self with
          workspaces := self.workspaces.update identity
            (state.afterLeave settings leaseId now immediate) } := by
  simp only [detachHolder, EStateM.run_bind, EStateM.run_get, entry, holder, not_true_eq_false,
    if_false, Finset.card_eq_zero, WorkspaceState.afterLeave, WorkspaceState.detachment]
  by_cases last : state.holders.erase leaseId = ∅
  · cases immediate <;> simp only [last, if_true, if_false, Bool.false_eq_true] <;> rfl
  · simp only [last, if_false]
    rfl

variable {self : LeaseLifecycle Identity Runtime Time}

section

variable (sound : self.Sound)
include sound

/-- A bound lease is one of the holders of its workspace. -/
theorem Sound.holder (found : self.active.get id = some lease)
    (bound : lease.binding = some binding) :
    ∃ state, self.workspaces.get binding.identity = some state ∧
      state.runtime = binding.runtime ∧ id ∈ state.holders := by
  obtain ⟨state, entry, runtime⟩ := sound.hosted found bound
  refine ⟨state, entry, runtime, (sound.holders entry id).mpr ⟨lease, found, ?_⟩⟩
  simp [DaemonLease.identity, bound]

/-- **Leaving.** The lease's binding goes away, with the lease or without it. -/
theorem Sound.leave (settings : LeaseSettings Time) (now : Time) (immediate : Bool)
    (found : self.active.get id = some lease) (bound : lease.binding = some binding)
    (entry : self.workspaces.get binding.identity = some state)
    (next : Option (DaemonLease Identity Runtime Time))
    (unbound : ∀ rest ∈ next, rest.id = id ∧ rest.binding = none) :
    ({ self with
        active := self.active.update id next
        workspaces := self.workspaces.update binding.identity
          (state.afterLeave settings id now immediate) } :
      LeaseLifecycle Identity Runtime Time).Sound where
  key := by
    intro other kept there
    obtain ⟨rfl, eq⟩ | ⟨_, old⟩ := Dict.found_update there
    · exact (unbound kept eq).1
    · exact sound.key old
  fresh := by
    intro other kept there
    obtain ⟨rfl, _⟩ | ⟨_, old⟩ := Dict.found_update there
    · exact sound.fresh found
    · exact sound.fresh old
  holders := by
    intro identity kept
    rw [Dict.get_update]
    intro eq other
    have lost : ∀ rest, (self.active.update id next).get id = some rest →
        rest.identity ≠ some identity := by
      intro rest eq
      rw [Dict.get_update_self] at eq
      simp [DaemonLease.identity, (unbound rest eq).2]
    by_cases same : other = id
    · subst same
      have left : other ∉ kept.holders := by
        split at eq
        · rw [(WorkspaceState.afterLeave_some eq).2.1]
          exact Finset.notMem_erase other _
        · rename_i different
          rw [sound.holders eq]
          rintro ⟨held, heldFound, heldIdentity⟩
          rw [found] at heldFound
          cases heldFound
          rw [DaemonLease.identity, bound, Option.map_some] at heldIdentity
          exact different (Option.some.inj heldIdentity).symm
      refine iff_of_false left ?_
      rintro ⟨rest, restFound, restIdentity⟩
      exact lost rest restFound restIdentity
    · rw [Dict.get_update_of_ne _ _ same]
      split at eq
      · rename_i identitySame
        subst identitySame
        rw [(WorkspaceState.afterLeave_some eq).2.1, Finset.mem_erase, sound.holders entry]
        simp [same]
      · exact sound.holders eq other
  hosted := by
    intro other rest held there heldEq
    obtain ⟨_, eq⟩ | ⟨different, eq⟩ := Dict.found_update there
    · rw [(unbound rest eq).2] at heldEq
      cases heldEq
    · obtain ⟨host, hostEntry, hostRuntime, hostHolder⟩ := sound.holder eq heldEq
      rw [Dict.get_update]
      split
      · rename_i identitySame
        rw [identitySame, entry] at hostEntry
        cases hostEntry
        -- the other holder keeps the entry alive
        have others : state.holders.erase id ≠ ∅ :=
          Finset.ne_empty_of_mem (Finset.mem_erase.mpr ⟨different, hostHolder⟩)
        refine ⟨{ state with holders := state.holders.erase id }, ?_, hostRuntime⟩
        rw [WorkspaceState.afterLeave, if_neg others]
      · exact ⟨host, hostEntry, hostRuntime⟩
  grace := by
    intro identity kept there
    obtain ⟨_, eq⟩ | ⟨_, old⟩ := Dict.found_update there
    · obtain ⟨_, keptHolders, empty, nonempty⟩ := WorkspaceState.afterLeave_some eq
      by_cases last : kept.holders = ∅
      · exact iff_of_true (empty last) last
      · rw [nonempty last, sound.grace entry]
        refine iff_of_false (fun none => last ?_) last
        rw [keptHolders, none, Finset.erase_empty]
    · exact sound.grace old

/-- **Joining.** A lease without a binding, or a new one, becomes a holder. -/
theorem Sound.join (unbound : ∀ old, self.active.get id = some old → old.binding = none)
    (source : self.workspaces.get binding.identity = some state ∨ self.workspaces.get binding.identity = none ∧ state.holders = ∅)
    (runtime : state.runtime = binding.runtime) (key : lease.id = id)
    (bound : lease.binding = some binding) (fresh : id < self.nextUuid) :
    ({ self with
        active := self.active.set id lease
        workspaces := self.workspaces.set binding.identity
          { state with graceDeadline := none, holders := insert id state.holders } } :
      LeaseLifecycle Identity Runtime Time).Sound where
  key := by
    intro other held there
    obtain ⟨rfl, rfl⟩ | ⟨_, old⟩ := Dict.found_set there
    · exact key
    · exact sound.key old
  fresh := by
    intro other held there
    obtain ⟨rfl, _⟩ | ⟨_, old⟩ := Dict.found_set there
    · exact fresh
    · exact sound.fresh old
  holders := by
    intro identity kept
    rw [Dict.get_set]
    intro eq other
    by_cases same : other = id
    · subst same
      rw [Dict.get_set_self]
      split at eq
      · rename_i identitySame
        cases eq
        simp [DaemonLease.identity, bound, identitySame]
      · rename_i different
        rw [sound.holders eq]
        refine iff_of_false ?_ ?_
        · rintro ⟨old, oldFound, oldIdentity⟩
          simp [DaemonLease.identity, unbound old oldFound] at oldIdentity
        · rintro ⟨_, ⟨⟩, identityEq⟩
          rw [DaemonLease.identity, bound, Option.map_some] at identityEq
          exact different (Option.some.inj identityEq).symm
    · rw [Dict.get_set_of_ne _ _ same]
      split at eq
      · rename_i identitySame
        subst identitySame
        cases eq
        rw [Finset.mem_insert]
        rcases source with entry | ⟨absent, empty⟩
        · rw [sound.holders entry]
          simp [same]
        · rw [empty]
          refine iff_of_false (by simp [same]) ?_
          rintro ⟨old, oldFound, oldIdentity⟩
          obtain ⟨oldBinding, oldBound, oldEq⟩ := Option.map_eq_some_iff.mp oldIdentity
          obtain ⟨host, hostEntry, _⟩ := sound.hosted oldFound oldBound
          rw [oldEq, absent] at hostEntry
          cases hostEntry
      · exact sound.holders eq other
  hosted := by
    intro other held heldBinding there heldBound
    obtain ⟨_, rfl⟩ | ⟨_, eq⟩ := Dict.found_set there
    · rw [bound] at heldBound
      cases heldBound
      exact ⟨_, Dict.get_set_self _ _ _, runtime⟩
    · obtain ⟨host, hostEntry, hostRuntime⟩ := sound.hosted eq heldBound
      rw [Dict.get_set]
      split
      · rename_i identitySame
        refine ⟨_, rfl, ?_⟩
        rw [identitySame] at hostEntry
        rcases source with entry | ⟨absent, _⟩
        · rw [entry] at hostEntry
          cases hostEntry
          exact hostRuntime
        · rw [absent] at hostEntry
          cases hostEntry
      · exact ⟨host, hostEntry, hostRuntime⟩
  grace := by
    intro identity kept there
    obtain ⟨_, rfl⟩ | ⟨_, old⟩ := Dict.found_set there
    · exact iff_of_false (by simp) (Finset.insert_ne_empty _ _)
    · exact sound.grace old

/-- **Rewriting.** A lease begins, ends or is rewritten, and keeps the workspace it has, if any. -/
theorem Sound.rewrite {uuid : Uuid} (grown : self.nextUuid ≤ uuid)
    (next : Option (DaemonLease Identity Runtime Time))
    (keyed : ∀ lease ∈ next, lease.id = id ∧ id < uuid)
    (same : next.bind DaemonLease.place = (self.active.get id).bind DaemonLease.place) :
    ({ self with active := self.active.update id next, nextUuid := uuid } :
      LeaseLifecycle Identity Runtime Time).Sound where
  key := by
    intro other held there
    obtain ⟨rfl, eq⟩ | ⟨_, old⟩ := Dict.found_update there
    · exact (keyed held eq).1
    · exact sound.key old
  fresh := by
    intro other held there
    obtain ⟨rfl, eq⟩ | ⟨_, old⟩ := Dict.found_update there
    · exact (keyed held eq).2
    · exact Nat.lt_of_lt_of_le (sound.fresh old) grown
  holders := by
    intro identity state entry other
    rw [sound.holders entry, ← Option.bind_eq_some_iff, ← Option.bind_eq_some_iff, Dict.get_update]
    split
    · rename_i idSame
      have identities := congrArg (Option.map Prod.fst) same
      simp only [Option.map_bind, Function.comp_def, DaemonLease.place_fst] at identities
      rw [idSame, identities]
    · exact Iff.rfl
  hosted := by
    intro other held binding there bound
    obtain ⟨_, rfl⟩ | ⟨_, old⟩ := Dict.found_update there
    · rw [Option.bind_some, DaemonLease.place, bound, Option.map_some] at same
      obtain ⟨old, found, placed⟩ := Option.bind_eq_some_iff.mp same.symm
      obtain ⟨oldBinding, oldBound, oldEq⟩ := Option.map_eq_some_iff.mp placed
      obtain ⟨state, entry, runtime⟩ := sound.hosted found oldBound
      rw [Prod.mk.injEq] at oldEq
      exact ⟨state, oldEq.1 ▸ entry, runtime.trans oldEq.2⟩
    · exact sound.hosted old bound
  grace := sound.grace

/-- **Dropping.** A workspace without holders is forgotten. -/
theorem Sound.drop {identity : Identity} (entry : self.workspaces.get identity = some state)
    (empty : state.holders = ∅) :
    ({ self with workspaces := self.workspaces.erase identity } :
      LeaseLifecycle Identity Runtime Time).Sound where
  key := sound.key
  fresh := sound.fresh
  holders := fun there => sound.holders (Dict.found_erase there).2
  hosted := by
    intro id lease binding found bound
    obtain ⟨host, hostEntry, hostRuntime, hostHolder⟩ := sound.holder found bound
    have different : binding.identity ≠ identity := by
      intro same
      rw [same, entry] at hostEntry
      cases hostEntry
      rw [empty] at hostHolder
      exact absurd hostHolder (Finset.notMem_empty id)
    exact ⟨host, by rw [Dict.get_erase_of_ne _ different, hostEntry], hostRuntime⟩
  grace := fun there => sound.grace (Dict.found_erase there).2

end

/-! ### What a method that binds nothing does -/

/-- A method that binds nothing went from `before` to `after` and answered `decisions`. -/
structure Evolves (before : LeaseLifecycle Identity Runtime Time)
    (decisions : List (LeaseLifecycleDecision Identity Runtime Time))
    (after : LeaseLifecycle Identity Runtime Time) : Prop where
  sound : after.Sound
  uuid : after.nextUuid = before.nextUuid
  survivor : ∀ {id rest}, after.active.get id = some rest →
    ∃ lease, before.active.get id = some lease ∧
      (rest.binding = lease.binding ∨
        rest.binding = none ∧ ∃ decision ∈ decisions, decision.leaseId = some id ∧
          decision.bindingToRelease = lease.binding)
  leaving : ∀ {id lease}, before.active.get id = some lease → after.active.get id = none →
    ∃ decision, decisions.filter (fun decision => decision.leaseId = some id) = [decision] ∧
      decision.bindingToRelease = lease.binding
  named : ∀ {decision id}, decision ∈ decisions → decision.leaseId = some id →
    ∃ lease, before.active.get id = some lease ∧ decision.bindingToRelease = lease.binding ∧
      ∀ rest, after.active.get id = some rest → rest.binding = none
  bound : ∀ {decision binding}, decision ∈ decisions →
    decision.bindingToRelease = some binding →
    decision.identity = some binding.identity ∧ ∃ id, decision.leaseId = some id
  about : ∀ {decision identity}, decision ∈ decisions → decision.identity = some identity →
    ∃ state, before.workspaces.get identity = some state
  kept : ∀ {identity state}, after.workspaces.get identity = some state →
    ∃ old, before.workspaces.get identity = some old ∧ old.runtime = state.runtime
  removed : ∀ {identity state}, before.workspaces.get identity = some state →
    after.workspaces.get identity = none →
    ∃ decision ∈ decisions, decision.identity = some identity ∧
      decision.runtimeToStop = some state.runtime
  stops : ∀ {decision runtime}, decision ∈ decisions → decision.runtimeToStop = some runtime →
    ∃ identity state, decision.identity = some identity ∧
      before.workspaces.get identity = some state ∧ state.runtime = runtime ∧
      after.workspaces.get identity = none
  order : decisions.Pairwise fun first second =>
    first.runtimeToStop ≠ none → second.identity ≠ first.identity

/-- A change of the active leases that keeps every binding answers nothing. -/
theorem Evolves.quiet (sound : after.Sound)
    (uuid : after.nextUuid = before.nextUuid) (workspaces : after.workspaces = before.workspaces)
    (bindings : ∀ id, (after.active.get id).map DaemonLease.binding =
      (before.active.get id).map DaemonLease.binding) :
    Evolves before [] after where
  sound := sound
  uuid := uuid
  survivor := by
    intro id rest found
    have same := bindings id
    rw [found, Option.map_some] at same
    obtain ⟨lease, leaseFound, leaseBinding⟩ := Option.map_eq_some_iff.mp same.symm
    exact ⟨lease, leaseFound, .inl leaseBinding.symm⟩
  leaving := by
    intro id lease found gone
    have same := bindings id
    rw [found, gone] at same
    cases same
  named := by simp
  bound := by simp
  about := by simp
  kept := by
    intro identity state entry
    exact ⟨state, workspaces ▸ entry, rfl⟩
  removed := by
    intro identity state entry gone
    rw [workspaces, entry] at gone
    cases gone
  stops := by simp
  order := List.Pairwise.nil

theorem Evolves.refl (sound : self.Sound) : Evolves self [] self :=
  .quiet sound rfl rfl fun _ => rfl

variable {decisions : List (LeaseLifecycleDecision Identity Runtime Time)}

section

variable (evolves : Evolves before decisions after)
include evolves

/-- The set of expired identifiers is no part of the relation. -/
theorem Evolves.expire (expired : Finset Uuid) :
    Evolves before decisions { after with expired } :=
  { evolves with
    sound := evolves.sound.congr rfl rfl (le_refl _) }

/-- A lease that was bound to a workspace that is gone was named by a decision. -/
theorem Evolves.holder_named (found : before.active.get id = some lease)
    (bound : lease.binding = some binding)
    (dropped : after.workspaces.get binding.identity = none) :
    ∃ decision ∈ decisions, decision.leaseId = some id ∧
      decision.bindingToRelease = some binding := by
  cases stays : after.active.get id with
  | none =>
    obtain ⟨decision, only, released⟩ := evolves.leaving found stays
    have member : decision ∈ decisions.filter fun decision => decision.leaseId = some id := by
      rw [only]
      exact List.mem_singleton_self decision
    obtain ⟨listed, names⟩ := List.mem_filter.mp member
    exact ⟨decision, listed, by simpa using names, released.trans bound⟩
  | some rest =>
    obtain ⟨old, oldFound, same | ⟨_, decision, listed, names, released⟩⟩ :=
      evolves.survivor stays
    · rw [found] at oldFound
      cases oldFound
      obtain ⟨state, entry, _⟩ := evolves.sound.hosted stays (same.trans bound)
      rw [dropped] at entry
      cases entry
    · rw [found] at oldFound
      cases oldFound
      exact ⟨decision, listed, names, released.trans bound⟩

/-- What is away stays away. -/
theorem Evolves.absent (gone : before.active.get id = none) :
    after.active.get id = none := by
  cases found : after.active.get id with
  | none => rfl
  | some rest =>
    obtain ⟨lease, there, _⟩ := evolves.survivor found
    rw [gone] at there
    cases there

/-- A lease that no decision of an ended one names keeps its binding. -/
theorem Evolves.unnamed
    (ended : ∀ decision ∈ decisions, ∀ id, decision.leaseId = some id → after.active.get id = none)
    (found : after.active.get id = some lease) :
    ∃ origin, before.active.get id = some origin ∧ lease.binding = origin.binding := by
  obtain ⟨origin, there, same | ⟨_, decision, member, names, _⟩⟩ := evolves.survivor found
  · exact ⟨origin, there, same⟩
  · rw [ended decision member id names] at found
    cases found

end

/-- **Composition**, when every lease the first part named has left in it. -/
theorem Evolves.trans {before middle after : LeaseLifecycle Identity Runtime Time}
    {first second : List (LeaseLifecycleDecision Identity Runtime Time)}
    (left : Evolves before first middle) (right : Evolves middle second after)
    (ended : ∀ decision ∈ first, ∀ id, decision.leaseId = some id →
      middle.active.get id = none) :
    Evolves before (first ++ second) after where
  sound := right.sound
  uuid := right.uuid.trans left.uuid
  survivor := by
    intro id rest found
    obtain ⟨lease, leaseFound, leaseBinding⟩ := right.survivor found
    obtain ⟨origin, originFound, unchanged⟩ := left.unnamed ended leaseFound
    refine ⟨origin, originFound, ?_⟩
    rcases leaseBinding with same | ⟨none, decision, member, names, binding⟩
    · exact .inl (same.trans unchanged)
    · exact .inr ⟨none, decision, List.mem_append_right _ member, names, binding.trans unchanged⟩
  leaving := by
    intro id lease found gone
    rw [List.filter_append]
    cases middleFound : middle.active.get id with
    | none =>
      obtain ⟨decision, only, binding⟩ := left.leaving found middleFound
      refine ⟨decision, ?_, binding⟩
      have quiet : second.filter (fun decision => decision.leaseId = some id) = [] := by
        refine List.filter_eq_nil_iff.mpr fun other member names => ?_
        obtain ⟨held, heldFound, _⟩ := right.named member (by simpa using names)
        rw [middleFound] at heldFound
        cases heldFound
      rw [only, quiet, List.append_nil]
    | some held =>
      obtain ⟨decision, only, binding⟩ := right.leaving middleFound gone
      have quiet : first.filter (fun decision => decision.leaseId = some id) = [] := by
        refine List.filter_eq_nil_iff.mpr fun other member names => ?_
        rw [ended other member id (by simpa using names)] at middleFound
        cases middleFound
      refine ⟨decision, by rw [quiet, only, List.nil_append], ?_⟩
      obtain ⟨origin, originFound, same⟩ := left.unnamed ended middleFound
      rw [found] at originFound
      cases originFound
      exact binding.trans same
  named := by
    intro decision id member names
    rcases List.mem_append.mp member with inFirst | inSecond
    · obtain ⟨lease, found, binding, _⟩ := left.named inFirst names
      refine ⟨lease, found, binding, fun rest restFound => ?_⟩
      rw [right.absent (ended decision inFirst id names)] at restFound
      cases restFound
    · obtain ⟨lease, found, binding, unbound⟩ := right.named inSecond names
      obtain ⟨origin, originFound, same⟩ := left.unnamed ended found
      exact ⟨origin, originFound, binding.trans same, unbound⟩
  bound := by
    intro decision binding member
    rcases List.mem_append.mp member with inFirst | inSecond
    · exact left.bound inFirst
    · exact right.bound inSecond
  about := by
    intro decision identity member names
    rcases List.mem_append.mp member with inFirst | inSecond
    · exact left.about inFirst names
    · obtain ⟨state, entry⟩ := right.about inSecond names
      obtain ⟨old, oldEntry, _⟩ := left.kept entry
      exact ⟨old, oldEntry⟩
  kept := by
    intro identity state entry
    obtain ⟨old, oldEntry, oldRuntime⟩ := right.kept entry
    obtain ⟨origin, originEntry, originRuntime⟩ := left.kept oldEntry
    exact ⟨origin, originEntry, originRuntime.trans oldRuntime⟩
  removed := by
    intro identity state entry gone
    cases middleEntry : middle.workspaces.get identity with
    | none =>
      obtain ⟨decision, member, facts⟩ := left.removed entry middleEntry
      exact ⟨decision, List.mem_append_left _ member, facts⟩
    | some held =>
      obtain ⟨decision, member, names, runtime⟩ := right.removed middleEntry gone
      obtain ⟨origin, originEntry, originRuntime⟩ := left.kept middleEntry
      rw [entry] at originEntry
      cases originEntry
      exact ⟨decision, List.mem_append_right _ member, names, originRuntime ▸ runtime⟩
  stops := by
    intro decision runtime member handed
    rcases List.mem_append.mp member with inFirst | inSecond
    · obtain ⟨identity, state, names, entry, same, gone⟩ := left.stops inFirst handed
      refine ⟨identity, state, names, entry, same, ?_⟩
      -- nothing is created in between, so the entry stays away
      cases afterEntry : after.workspaces.get identity with
      | none => rfl
      | some held =>
        obtain ⟨old, oldEntry, _⟩ := right.kept afterEntry
        rw [gone] at oldEntry
        cases oldEntry
    · obtain ⟨identity, state, names, entry, same, gone⟩ := right.stops inSecond handed
      obtain ⟨origin, originEntry, originRuntime⟩ := left.kept entry
      exact ⟨identity, origin, names, originEntry, originRuntime.trans same, gone⟩
  order := by
    refine List.pairwise_append.mpr ⟨left.order, right.order, ?_⟩
    intro stopping member other otherMember handed same
    obtain ⟨runtime, runtimeEq⟩ := Option.ne_none_iff_exists'.mp handed
    obtain ⟨identity, state, names, _, _, gone⟩ := left.stops member runtimeEq
    obtain ⟨held, heldEntry⟩ := right.about otherMember (same.trans names)
    rw [gone] at heldEntry
    cases heldEntry

/-- A lease without a binding leaves. -/
theorem Evolves.endUnbound (sound : self.Sound)
    (found : self.active.get id = some lease) (unbound : lease.binding = none)
    (names : decision.leaseId = some id) (binding : decision.bindingToRelease = none)
    (identity : decision.identity = none) (runtime : decision.runtimeToStop = none) :
    Evolves self [decision] { self with active := self.active.erase id } where
  sound := sound.rewrite (le_refl _) none (by simp) (by simp [found, DaemonLease.place, unbound])
  uuid := rfl
  survivor := fun there => ⟨_, (Dict.found_erase there).2, .inl rfl⟩
  leaving := by
    intro other held heldFound gone
    obtain rfl := Dict.lost_erase heldFound gone
    rw [found] at heldFound
    cases heldFound
    exact ⟨decision, by simp [names], by rw [binding, unbound]⟩
  named := by
    intro other otherId member otherNames
    obtain rfl := List.mem_singleton.mp member
    obtain rfl : id = otherId := Option.mem_unique names otherNames
    refine ⟨lease, found, by rw [binding, unbound], fun rest restFound => ?_⟩
    rw [Dict.get_erase_self] at restFound
    cases restFound
  bound := by
    intro other held member heldEq
    obtain rfl := List.mem_singleton.mp member
    rw [binding] at heldEq
    cases heldEq
  about := by
    intro other place member placeEq
    obtain rfl := List.mem_singleton.mp member
    rw [identity] at placeEq
    cases placeEq
  kept := fun entry => ⟨_, entry, rfl⟩
  removed := by
    intro place state entry gone
    rw [entry] at gone
    cases gone
  stops := by
    intro other handed member handedEq
    obtain rfl := List.mem_singleton.mp member
    rw [runtime] at handedEq
    cases handedEq
  order := List.pairwise_singleton _ _

/-- A bound lease loses its binding, and possibly leaves. -/
theorem Evolves.leave (sound : self.Sound) (settings : LeaseSettings Time) (now : Time)
    (immediate : Bool)
    (found : self.active.get id = some lease) (bound : lease.binding = some binding)
    (entry : self.workspaces.get binding.identity = some state)
    (next : Option (DaemonLease Identity Runtime Time))
    (unbound : ∀ rest ∈ next, rest.id = id ∧ rest.binding = none)
    (names : decision.leaseId = some id)
    (released : decision.bindingToRelease = some binding)
    (identity : decision.identity = some binding.identity)
    (runtime : decision.runtimeToStop =
      (state.detachment settings id now immediate).runtimeToStop) :
    Evolves self [decision]
      { self with
        active := self.active.update id next
        workspaces := self.workspaces.update binding.identity
          (state.afterLeave settings id now immediate) } where
  sound := sound.leave settings now immediate found bound entry next unbound
  uuid := rfl
  survivor := by
    intro other rest restFound
    obtain ⟨rfl, left⟩ | ⟨_, old⟩ := Dict.found_update restFound
    · refine ⟨lease, found, .inr ⟨(unbound rest left).2, decision, by simp, names, ?_⟩⟩
      rw [released, bound]
    · exact ⟨rest, old, .inl rfl⟩
  leaving := by
    intro other held heldFound gone
    obtain ⟨rfl, -⟩ := Dict.lost_update heldFound gone
    rw [found] at heldFound
    cases heldFound
    exact ⟨decision, by simp [names], by rw [released, bound]⟩
  named := by
    intro other otherId member otherNames
    obtain rfl := List.mem_singleton.mp member
    obtain rfl : id = otherId := Option.mem_unique names otherNames
    refine ⟨lease, found, by rw [released, bound], fun rest restFound => ?_⟩
    rw [Dict.get_update_self] at restFound
    exact (unbound rest restFound).2
  bound := by
    intro other held member heldEq
    obtain rfl := List.mem_singleton.mp member
    obtain rfl : binding = held := Option.mem_unique released heldEq
    exact ⟨identity, id, names⟩
  about := by
    intro other place member placeEq
    obtain rfl := List.mem_singleton.mp member
    obtain rfl : binding.identity = place := Option.mem_unique identity placeEq
    exact ⟨state, entry⟩
  kept := by
    intro place kept keptEntry
    obtain ⟨rfl, left⟩ | ⟨_, old⟩ := Dict.found_update keptEntry
    · exact ⟨state, entry, (WorkspaceState.afterLeave_some left).1.symm⟩
    · exact ⟨kept, old, rfl⟩
  removed := by
    intro place held heldEntry gone
    obtain ⟨rfl, dropped⟩ := Dict.lost_update heldEntry gone
    rw [entry] at heldEntry
    cases heldEntry
    exact ⟨decision, by simp, identity,
      runtime.trans (WorkspaceState.afterLeave_none_iff.mp dropped)⟩
  stops := by
    intro other handed member handedEq
    obtain rfl := List.mem_singleton.mp member
    rw [runtime] at handedEq
    obtain ⟨rfl, _⟩ := WorkspaceState.detachment_runtime handedEq
    refine ⟨binding.identity, state, identity, entry, rfl, ?_⟩
    rw [Dict.get_update_self]
    exact WorkspaceState.afterLeave_none_iff.mpr handedEq
  order := List.pairwise_singleton _ _

/-- A workspace whose grace elapsed is dropped. -/
theorem Evolves.drop (sound : self.Sound) {place : Identity}
    (entry : self.workspaces.get place = some state) (empty : state.holders = ∅) (names : decision.leaseId = none)
    (binding : decision.bindingToRelease = none) (identity : decision.identity = some place)
    (runtime : decision.runtimeToStop = some state.runtime) :
    Evolves self [decision] { self with workspaces := self.workspaces.erase place } where
  sound := sound.drop entry empty
  uuid := rfl
  survivor := fun found => ⟨_, found, .inl rfl⟩
  leaving := by
    intro id lease found gone
    rw [found] at gone
    cases gone
  named := by
    intro other id member otherNames
    obtain rfl := List.mem_singleton.mp member
    rw [names] at otherNames
    cases otherNames
  bound := by
    intro other held member heldEq
    obtain rfl := List.mem_singleton.mp member
    rw [binding] at heldEq
    cases heldEq
  about := by
    intro other otherPlace member placeEq
    obtain rfl := List.mem_singleton.mp member
    obtain rfl : place = otherPlace := Option.mem_unique identity placeEq
    exact ⟨state, entry⟩
  kept := fun keptEntry => ⟨_, (Dict.found_erase keptEntry).2, rfl⟩
  removed := by
    intro other held heldEntry gone
    obtain rfl := Dict.lost_erase heldEntry gone
    rw [entry] at heldEntry
    cases heldEntry
    exact ⟨decision, by simp, identity, runtime⟩
  stops := by
    intro other handed member handedEq
    obtain rfl := List.mem_singleton.mp member
    obtain rfl : state.runtime = handed := Option.mem_unique runtime handedEq
    exact ⟨place, state, identity, entry, rfl, Dict.get_erase_self _ _⟩
  order := List.pairwise_singleton _ _

end LeaseLifecycle

end SerenaLight.Daemon
