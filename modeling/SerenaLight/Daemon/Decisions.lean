/-
**Decisions on the registry.**

The registry side of the service's critical sections: a decision of the lifecycle releases a lease
and may retire a runtime, and the discard of an activation's candidate does the same.

* `Retires`, `Applies`: a retirement request and a list of decisions, as relations on the registry.
* `applyDecisionsLocked_run`, `discardPreparedActivationLocked_run`: the methods refine them.
* `Applies.leases`, `Applies.runtime_kept`, `Applies.target_of_gone`, …: what is released, what
  stays, and that a runtime that went away is handed over to be stopped.
-/

import SerenaLight.Workspace.RegistryInvariant
import SerenaLight.Daemon.LeaseMethods
import SerenaLight.Daemon.Stores

set_option linter.unusedSectionVars false

namespace SerenaLight.Daemon

open Foundation Workspace WorkspaceRuntimeRegistry
open EStateM (run_bind run_pure)

variable {Identity Time : Type}
variable [DecidableEq Identity] [LinearOrder Time] [Add Time] [Zero Time]

/-! ### Decisions as relations on the registry -/

/-- The registry after the release of the decision's lease. -/
def releasedFor (registry : Registry Identity) (decision : Decision Identity Time) :
    Registry Identity :=
  match decision.bindingToRelease with
  | some binding => registry.withoutBoundLease binding.lease.id
  | none => registry

/-- A retirement request detaches an idle runtime, or nothing. -/
inductive Retires (before : Registry Identity) :
    Option (Identity × RuntimeId) → List RuntimeId → Registry Identity → Prop
  | retired {identity : Identity} {runtime : RuntimeId} {entry : RuntimeEntry RuntimeId}
      (found : before.runtimes.get identity = some entry) (same : entry.runtime = runtime)
      (idle : before.references identity = 0) :
      Retires before (some (identity, runtime)) [runtime]
        { before with runtimes := before.runtimes.erase identity }
  | kept {request : Option (Identity × RuntimeId)}
      (busy : ∀ identity runtime, request = some (identity, runtime) →
        ∀ entry, before.runtimes.get identity = some entry → entry.runtime = runtime →
          0 < before.references identity) :
      Retires before request [] before

/-- The decisions are applied one after the other. -/
inductive Applies :
    Registry Identity → List (Decision Identity Time) → List RuntimeId → Registry Identity → Prop
  | nil (registry : Registry Identity) : Applies registry [] [] registry
  | cons {before middle after : Registry Identity} {decision : Decision Identity Time}
      {rest : List (Decision Identity Time)} {first others : List RuntimeId}
      (head : Retires (releasedFor before decision) decision.retirement first middle)
      (tail : Applies middle rest others after) :
      Applies before (decision :: rest) (first ++ others) after

variable {registry : Registry Identity} {decision : Decision Identity Time}
  {binding : Binding Identity} {session : Uuid}

theorem releasedFor_sound (sound : registry.Sound)
    (decision : Decision Identity Time) : (releasedFor registry decision).Sound := by
  unfold releasedFor
  split
  · exact sound.withoutBoundLease _
  · exact sound

theorem releasedFor_runtime (registry : Registry Identity) (decision : Decision Identity Time)
    (identity : Identity) :
    ((releasedFor registry decision).runtimes.get identity).map RuntimeEntry.runtime =
      (registry.runtimes.get identity).map RuntimeEntry.runtime := by
  unfold releasedFor
  split
  · exact withoutBoundLease_runtime _ _
  · rfl

/-- A retirement request. -/
theorem retire_run (sound : registry.Sound)
    (request : Option (Identity × RuntimeId)) :
    ∃ targets after, Retires registry request targets after ∧
      (retire request).run registry = .ok targets after := by
  cases request with
  | none => exact ⟨[], registry, .kept (by simp), rfl⟩
  | some pair =>
    obtain ⟨identity, runtime⟩ := pair
    rcases @retireIdle_cases _ _ _ Fault _ _ _ registry sound identity
      runtime with ⟨entry, found, same, idle, run⟩ | ⟨busy, run⟩
    · refine ⟨[runtime], _, .retired found same idle, ?_⟩
      simp [retire, run, Option.toList_some]
    · refine ⟨[], registry, .kept ?_, ?_⟩
      · rintro _ _ ⟨⟩
        exact busy
      · simp [retire, run, Option.toList_none]

theorem releaseBinding_run (sound : registry.Sound)
    (decision : Decision Identity Time) :
    (releaseBinding decision.bindingToRelease).run registry =
      .ok () (releasedFor registry decision) := by
  unfold releasedFor releaseBinding
  cases decision.bindingToRelease with
  | none => rfl
  | some binding =>
    simp [releaseLease_run sound]

/-- `_apply_decision_locked` at a decision. -/
theorem applyDecisionLocked_run (sound : registry.Sound)
    (decision : Decision Identity Time) :
    ∃ targets after, Retires (releasedFor registry decision) decision.retirement targets after ∧
      (applyDecisionLocked (some decision)).run registry = .ok targets after := by
  obtain ⟨targets, after, retires, run⟩ :=
    retire_run (releasedFor_sound sound decision) decision.retirement
  refine ⟨targets, after, retires, ?_⟩
  simp [applyDecisionLocked, run_bind, releaseBinding_run sound, run]

theorem retirement_eq_some {identity : Identity}
    {runtime : RuntimeId} :
    decision.retirement = some (identity, runtime) ↔
      decision.identity = some identity ∧ decision.runtimeToStop = some runtime := by
  unfold LeaseLifecycleDecision.retirement
  cases decision.identity <;> cases decision.runtimeToStop <;> simp

/-! ### Facts about a retirement -/

namespace Retires

variable {before after : Registry Identity} {request : Option (Identity × RuntimeId)}
  {targets : List RuntimeId}

section

variable (retires : Retires before request targets after)

include retires

theorem sound (sound : before.Sound) :
    after.Sound := by
  cases retires with
  | retired _ _ idle => exact sound.retire idle
  | kept _ => exact sound

theorem leases :
    after.leases = before.leases := by
  cases retires <;> rfl

theorem bindings :
    after.bindings = before.bindings := by
  cases retires <;> rfl

theorem nextUuid :
    after.nextUuid = before.nextUuid := by
  cases retires <;> rfl

end

variable {identity : Identity}

section

variable (retires : Retires before request targets after)

include retires

/-- A runtime is retained unless its retirement was requested. -/
theorem runtime_of_ne
    (other : ∀ runtime, request ≠ some (identity, runtime)) :
    after.runtimes.get identity = before.runtimes.get identity := by
  cases retires with
  | retired found same _ =>
    refine Dict.get_erase_of_ne _ fun equal => ?_
    exact other _ (by rw [equal])
  | kept _ => rfl

variable {entry : RuntimeEntry RuntimeId}

/-- What is retained was retained before. -/
theorem runtime_of_after (found : after.runtimes.get identity = some entry) :
    before.runtimes.get identity = some entry := by
  cases retires with
  | retired _ _ _ => exact (Dict.found_erase found).2
  | kept _ => exact found

/-- A runtime that went away is a target. -/
theorem target_of_gone (found : before.runtimes.get identity = some entry)
    (gone : after.runtimes.get identity = none) : entry.runtime ∈ targets := by
  cases retires with
  | retired there same _ =>
    rw [Dict.lost_erase found gone, there] at found
    cases found
    simp [same]
  | kept _ =>
    rw [found] at gone
    cases gone

end

end Retires

/-! ### Facts about applied decisions -/

/-- `_apply_decisions_locked`. -/
theorem applyDecisionsLocked_run (decisions : List (Decision Identity Time)) :
    ∀ {registry : Registry Identity}, registry.Sound →
      ∃ targets after, Applies registry decisions targets after ∧
        (applyDecisionsLocked decisions).run registry = .ok targets after := by
  induction decisions with
  | nil => exact fun {registry} _ => ⟨[], registry, .nil registry, rfl⟩
  | cons decision rest ih =>
    intro registry sound
    obtain ⟨first, middle, retires, run⟩ := applyDecisionLocked_run sound decision
    obtain ⟨others, after, applies, restRun⟩ :=
      ih (retires.sound (releasedFor_sound sound decision))
    refine ⟨first ++ others, after, .cons retires applies, ?_⟩
    simp [applyDecisionsLocked, run_bind, run, restRun]

/-- `_apply_decision_locked`, as a list of at most one decision. -/
theorem applyDecisionLocked_applies (sound : registry.Sound)
    (decision : Option (Decision Identity Time)) :
    ∃ targets after, Applies registry decision.toList targets after ∧
      (applyDecisionLocked decision).run registry = .ok targets after := by
  cases decision with
  | none => exact ⟨[], registry, .nil registry, rfl⟩
  | some decision =>
    obtain ⟨targets, after, retires, run⟩ := applyDecisionLocked_run sound decision
    refine ⟨targets, after, ?_, run⟩
    rw [← List.append_nil targets]
    exact .cons retires (.nil after)

/-- Some decision of the list releases the lease `id`. -/
def Releases (decisions : List (Decision Identity Time)) (id : Uuid) : Prop :=
  ∃ decision ∈ decisions, ∃ binding, decision.bindingToRelease = some binding ∧
    binding.lease.id = id

/-- Every binding uses a live lease of its own. -/
structure Tidy (registry : Registry Identity) : Prop where
  live : ∀ {session binding}, registry.bindings.get session = some binding →
    registry.leases.get binding.lease.id = some binding.lease
  distinct : ∀ {first second one other}, registry.bindings.get first = some one →
    registry.bindings.get second = some other → one.lease.id = other.lease.id → first = second

variable {before after : Registry Identity}

/-- Fewer bindings stay tidy if their leases stay. -/
theorem Tidy.shrink (tidy : Tidy before)
    (bindings : ∀ {session binding}, after.bindings.get session = some binding →
      before.bindings.get session = some binding)
    (leases : ∀ {session binding}, after.bindings.get session = some binding →
      after.leases.get binding.lease.id = before.leases.get binding.lease.id) : Tidy after where
  live := by
    intro session binding found
    rw [leases found]
    exact tidy.live (bindings found)
  distinct := fun one other same => tidy.distinct (bindings one) (bindings other) same

theorem releasedFor_leases (registry : Registry Identity) (decision : Decision Identity Time)
    (id : Uuid) [Decidable (Releases [decision] id)] :
    (releasedFor registry decision).leases.get id =
      if Releases [decision] id then none else registry.leases.get id := by
  unfold releasedFor
  cases released : decision.bindingToRelease with
  | none =>
    rw [if_neg]
    simp [Releases, released]
  | some binding =>
    simp only [withoutBoundLease_leases, Dict.get_erase]
    by_cases same : id = binding.lease.id
    · rw [if_pos same, if_pos ⟨decision, by simp, binding, released, same.symm⟩]
    · rw [if_neg same, if_neg]
      rintro ⟨other, member, held, heldEq, heldId⟩
      obtain rfl := List.mem_singleton.mp member
      rw [released] at heldEq
      cases heldEq
      exact same heldId.symm

theorem releasedFor_nextUuid (registry : Registry Identity) (decision : Decision Identity Time) :
    (releasedFor registry decision).nextUuid = registry.nextUuid := by
  unfold releasedFor
  split
  · exact withoutBoundLease_nextUuid _
  · rfl

theorem releasedFor_binding
    (found : (releasedFor registry decision).bindings.get session = some binding) :
    registry.bindings.get session = some binding := by
  unfold releasedFor at found
  split at found
  · exact (withoutBoundLease_binding found).1
  · exact found

theorem releasedFor_keeps (found : registry.bindings.get session = some binding)
    (other : ¬Releases [decision] binding.lease.id) :
    (releasedFor registry decision).bindings.get session = some binding := by
  unfold releasedFor
  split
  · rename_i released releasedEq
    refine withoutBoundLease_keeps found fun same => ?_
    exact other ⟨decision, by simp, released, releasedEq, same.symm⟩
  · exact found

theorem releasedFor_tidy (tidy : Tidy registry)
    (decision : Decision Identity Time) : Tidy (releasedFor registry decision) := by
  refine tidy.shrink releasedFor_binding fun {session binding} found => ?_
  have before := releasedFor_binding found
  unfold releasedFor at found ⊢
  split at found
  · rename_i released releasedEq
    simp only [withoutBoundLease_leases, Dict.get_erase]
    rw [if_neg]
    intro same
    refine (withoutBoundLease_binding found).2 ?_ same
    rw [Dict.contains_iff, ← same]
    exact ⟨_, tidy.live before⟩
  · rfl

theorem Retires.tidy {request : Option (Identity × RuntimeId)} {targets : List RuntimeId}
    (retires : Retires before request targets after) (tidy : Tidy before) : Tidy after := by
  refine tidy.shrink ?_ ?_
  · rw [retires.bindings]
    exact id
  · intro session binding _
    rw [retires.leases]

namespace Applies

variable {before after : Registry Identity} {decisions : List (Decision Identity Time)}
  {targets : List RuntimeId}

theorem sound (applies : Applies before decisions targets after) (sound : before.Sound) :
    after.Sound := by
  induction applies with
  | nil => exact sound
  | cons head _ ih => exact ih (head.sound (releasedFor_sound sound _))

theorem nextUuid (applies : Applies before decisions targets after) :
    after.nextUuid = before.nextUuid := by
  induction applies with
  | nil => rfl
  | cons head _ ih => rw [ih, head.nextUuid, releasedFor_nextUuid]

open Classical in
section

variable (applies : Applies before decisions targets after)
include applies

/-- The leases that stay are those that no decision releases. -/
theorem leases (id : Uuid) :
    after.leases.get id =
      if Releases decisions id then none else before.leases.get id := by
  induction applies with
  | nil registry =>
    rw [if_neg]
    simp [Releases]
  | @cons before middle after decision rest first others head _ ih =>
    rw [ih, head.leases, releasedFor_leases]
    by_cases later : Releases rest id
    · obtain ⟨other, member, facts⟩ := later
      rw [if_pos ⟨other, member, facts⟩, if_pos ⟨other, List.mem_cons_of_mem _ member, facts⟩]
    · rw [if_neg later]
      by_cases here : Releases [decision] id
      · obtain ⟨other, member, facts⟩ := here
        obtain rfl := List.mem_singleton.mp member
        rw [if_pos ⟨other, by simp, facts⟩, if_pos ⟨other, by simp, facts⟩]
      · rw [if_neg here, if_neg]
        rintro ⟨other, member, facts⟩
        rcases List.mem_cons.mp member with rfl | inRest
        · exact here ⟨other, by simp, facts⟩
        · exact later ⟨other, inRest, facts⟩

theorem lease_of_after {id : Uuid} {lease : WorkspaceLease Identity RuntimeId}
    (found : after.leases.get id = some lease) :
    before.leases.get id = some lease ∧ ¬Releases decisions id := by
  rw [applies.leases] at found
  split at found
  · cases found
  · rename_i kept
    exact ⟨found, kept⟩

theorem tidy (tidy : Tidy before) :
    Tidy after := by
  induction applies with
  | nil => exact tidy
  | cons head _ ih => exact ih (head.tidy (releasedFor_tidy tidy _))

end

variable {session : Uuid} {binding : Binding Identity}

theorem binding_of_after (applies : Applies before decisions targets after)
    (found : after.bindings.get session = some binding) :
    before.bindings.get session = some binding := by
  induction applies with
  | nil => exact found
  | cons head _ ih =>
    have middle := ih found
    rw [head.bindings] at middle
    exact releasedFor_binding middle

theorem binding_kept (applies : Applies before decisions targets after)
    (found : before.bindings.get session = some binding)
    (other : ¬Releases decisions binding.lease.id) :
    after.bindings.get session = some binding := by
  induction applies with
  | nil => exact found
  | @cons before middle after decision rest first others head _ ih =>
    refine ih ?_ ?_
    · rw [head.bindings]
      refine releasedFor_keeps found ?_
      rintro ⟨released, member, facts⟩
      obtain rfl := List.mem_singleton.mp member
      exact other ⟨released, by simp, facts⟩
    · rintro ⟨released, member, facts⟩
      exact other ⟨released, List.mem_cons_of_mem _ member, facts⟩

variable {entry : RuntimeEntry RuntimeId} {identity : Identity}

section

variable (applies : Applies before decisions targets after)

include applies

/-- What is retained was retained before, with its runtime. -/
theorem runtime_of_after (found : after.runtimes.get identity = some entry) :
    ∃ old, before.runtimes.get identity = some old ∧ old.runtime = entry.runtime := by
  induction applies with
  | nil => exact ⟨entry, found, rfl⟩
  | @cons before middle after decision rest first others head _ ih =>
    obtain ⟨kept, keptFound, keptRuntime⟩ := ih found
    have released := head.runtime_of_after keptFound
    have same := releasedFor_runtime before decision identity
    rw [released, Option.map_some] at same
    obtain ⟨old, oldFound, oldRuntime⟩ := Option.map_eq_some_iff.mp same.symm
    exact ⟨old, oldFound, oldRuntime.trans keptRuntime⟩

/-- A runtime whose retirement no decision asks for is retained. -/
theorem runtime_kept (found : before.runtimes.get identity = some entry)
    (other : ∀ decision ∈ decisions, ∀ runtime,
      decision.retirement ≠ some (identity, runtime)) :
    ∃ kept, after.runtimes.get identity = some kept ∧ kept.runtime = entry.runtime := by
  induction applies generalizing entry with
  | nil => exact ⟨entry, found, rfl⟩
  | @cons before middle after decision rest first others head _ ih =>
    have same := releasedFor_runtime before decision identity
    rw [found, Option.map_some] at same
    obtain ⟨released, releasedFound, releasedRuntime⟩ := Option.map_eq_some_iff.mp same
    have middleFound : middle.runtimes.get identity = some released := by
      rw [head.runtime_of_ne (other decision (by simp))]
      exact releasedFound
    obtain ⟨kept, keptFound, keptRuntime⟩ := ih middleFound
      fun later member => other later (List.mem_cons_of_mem _ member)
    exact ⟨kept, keptFound, keptRuntime.trans releasedRuntime⟩

/-- A runtime that went away is a target. -/
theorem target_of_gone (found : before.runtimes.get identity = some entry)
    (gone : after.runtimes.get identity = none) : entry.runtime ∈ targets := by
  induction applies generalizing entry with
  | nil =>
    rw [found] at gone
    cases gone
  | @cons before middle after decision rest first others head _ ih =>
    have same := releasedFor_runtime before decision identity
    rw [found, Option.map_some] at same
    obtain ⟨released, releasedFound, releasedRuntime⟩ := Option.map_eq_some_iff.mp same
    cases middleFound : middle.runtimes.get identity with
    | none =>
      refine List.mem_append_left _ ?_
      rw [← releasedRuntime]
      exact head.target_of_gone releasedFound middleFound
    | some kept =>
      have keptEq := head.runtime_of_after middleFound
      rw [releasedFound] at keptEq
      cases keptEq
      refine List.mem_append_right _ ?_
      rw [← releasedRuntime]
      exact ih middleFound gone

/-- No decision brings a runtime back. -/
theorem absent
    (gone : before.runtimes.get identity = none) : after.runtimes.get identity = none := by
  by_contra there
  obtain ⟨entry, found⟩ := Option.ne_none_iff_exists'.mp there
  obtain ⟨old, oldFound, _⟩ := applies.runtime_of_after found
  rw [gone] at oldFound
  cases oldFound

end

variable {earlier later : List (Decision Identity Time)}

/-- Decisions are applied one after the other. -/
theorem split (applies : Applies before (earlier ++ later) targets after) :
    ∃ middle first second, Applies before earlier first middle ∧
      Applies middle later second after := by
  induction earlier generalizing before targets with
  | nil => exact ⟨before, [], targets, .nil before, applies⟩
  | cons decision rest ih =>
    cases applies with
    | cons head tail =>
      obtain ⟨middle, first, second, front, back⟩ := ih tail
      exact ⟨middle, _, second, .cons head front, back⟩

/-- **A runtime is retired** by a decision that asks for it when the decisions so far release every
lease on it. -/
theorem retired {decision : Decision Identity Time}
    (applies : Applies before (earlier ++ decision :: later) targets after)
    (found : before.runtimes.get identity = some entry)
    (asked : decision.retirement = some (identity, entry.runtime))
    (released : ∀ id lease, before.leases.get id = some lease → lease.identity = identity →
      Releases (earlier ++ [decision]) id) : after.runtimes.get identity = none := by
  obtain ⟨middle, _, _, front, back⟩ := applies.split
  cases there : middle.runtimes.get identity with
  | none => exact back.absent there
  | some kept =>
    obtain ⟨old, oldFound, oldRuntime⟩ := front.runtime_of_after there
    obtain rfl := Option.mem_unique found oldFound
    have idle : (releasedFor middle decision).references identity = 0 := by
      classical
      refine references_eq_zero.mpr fun id lease live here => ?_
      rw [releasedFor_leases] at live
      split at live
      · cases live
      · rename_i kept
        obtain ⟨before, notEarlier⟩ := front.lease_of_after live
        obtain ⟨made, member, facts⟩ := released id lease before here
        rcases List.mem_append.mp member with early | last
        · exact notEarlier ⟨made, early, facts⟩
        · exact kept ⟨made, last, facts⟩
    cases back with
    | @cons _ next _ _ _ _ _ head tail =>
      refine tail.absent ?_
      rw [asked] at head
      have same := releasedFor_runtime middle decision identity
      rw [there, Option.map_some] at same
      obtain ⟨free, freeFound, freeRuntime⟩ := Option.map_eq_some_iff.mp same
      cases head with
      | retired _ _ _ => exact Dict.get_erase_self _ _
      | kept busy =>
        have held := busy identity _ rfl free freeFound (freeRuntime.trans oldRuntime.symm)
        omega

end Applies

/-! ### The discard of a candidate -/

/-- The registry after a candidate was undone: a committed one is the session's binding. -/
def undone (registry : Registry Identity) (leaseId : Uuid) (prepared : Prepared Identity)
    (committed : Bool) : Registry Identity :=
  if committed then registry.withoutSession leaseId else registry.aborted prepared

theorem undone_sound (sound : registry.Sound) (leaseId : Uuid)
    (prepared : Prepared Identity) (committed : Bool) :
    (undone registry leaseId prepared committed).Sound := by
  unfold undone
  split
  · exact sound.withoutSession leaseId
  · exact sound.aborted prepared

theorem undone_runtime (registry : Registry Identity) (leaseId : Uuid)
    (prepared : Prepared Identity) (committed : Bool) (identity : Identity) :
    ((undone registry leaseId prepared committed).runtimes.get identity).map RuntimeEntry.runtime =
      (registry.runtimes.get identity).map RuntimeEntry.runtime := by
  unfold undone
  split
  · exact withoutSession_runtime _ _
  · exact aborted_runtime _ _

theorem undone_nextUuid (registry : Registry Identity) (leaseId : Uuid)
    (prepared : Prepared Identity) (committed : Bool) :
    (undone registry leaseId prepared committed).nextUuid = registry.nextUuid := by
  unfold undone
  split
  · exact withoutSession_nextUuid _
  · exact aborted_nextUuid _

theorem undone_binding {leaseId : Uuid}
    {prepared : Prepared Identity} {committed : Bool}
    (found : (undone registry leaseId prepared committed).bindings.get session = some binding) :
    registry.bindings.get session = some binding := by
  unfold undone at found
  split at found
  · rw [withoutSession_bindings] at found
    exact (Dict.found_erase found).2
  · rwa [aborted_bindings] at found

theorem undoCandidate_run (sound : registry.Sound) (leaseId : Uuid)
    (prepared : Prepared Identity) (committed : Bool) :
    (undoCandidate leaseId prepared committed).run registry =
      .ok () (undone registry leaseId prepared committed) := by
  cases committed with
  | true =>
    obtain ⟨released, run⟩ :=
      @release_run _ _ _ Fault _ _ _ registry sound leaseId
    simp [undoCandidate, undone, run]
  | false =>
    obtain ⟨released, run⟩ :=
      @abortActivation_run _ _ _ Fault _ _ _ registry sound prepared
    simp [undoCandidate, undone, Bool.false_eq_true, run]

/-- `_discard_prepared_activation_locked`. -/
theorem discardPreparedActivationLocked_run (sound : registry.Sound)
    (leaseId : Uuid) (prepared : Prepared Identity) (committed : Bool) :
    ∃ targets after,
      Retires (undone registry leaseId prepared committed) (retirementOf prepared) targets after ∧
      (discardPreparedActivationLocked leaseId prepared committed).run registry =
        .ok targets after := by
  obtain ⟨targets, after, retires, run⟩ :=
    retire_run (undone_sound sound leaseId prepared committed) (retirementOf prepared)
  refine ⟨targets, after, retires, ?_⟩
  simp [discardPreparedActivationLocked, run_bind, undoCandidate_run sound, run]

end SerenaLight.Daemon
