/-
**The invariant of the workspace runtime registry.**

`WorkspaceRuntimeRegistry.Sound`: every live lease is on a retained runtime, and the reference
count of a runtime is the number of live leases on its identity.

* `withoutLease`, `withLease`: what releasing and acquiring a lease do to a sound registry, and
  that they keep it sound.
* `releaseLocked_run`, `acquireLocked_cases`, `prepareActivation_cases`, `commitActivation_run`,
  `release_run`, `releaseLease_run`, `retireIdle_cases`: one specification for each method. From a
  sound registry none of them underflows or misses an entry.
-/

import Mathlib.Tactic.Ring
import SerenaLight.Workspace.Registry

set_option linter.unusedSectionVars false

namespace SerenaLight.Workspace

open Foundation
open EStateM (run_bind run_get run_pure run_set)

namespace WorkspaceRuntimeRegistry

variable {Identity Runtime Session Fault : Type}
variable [DecidableEq Identity] [DecidableEq Runtime] [DecidableEq Session]

/-- The number of live leases on `identity`. -/
def references (registry : WorkspaceRuntimeRegistry Identity Runtime Session)
    (identity : Identity) : Nat :=
  registry.leases.count fun lease => decide (lease.identity = identity)

/-- Live leases are on retained runtimes, and counted. -/
structure Sound (registry : WorkspaceRuntimeRegistry Identity Runtime Session) : Prop where
  key : ∀ {id lease}, registry.leases.get id = some lease → lease.id = id
  fresh : ∀ {id lease}, registry.leases.get id = some lease → id < registry.nextUuid
  hosted : ∀ {id lease}, registry.leases.get id = some lease →
    ∃ entry, registry.runtimes.get lease.identity = some entry ∧ entry.runtime = lease.runtime
  counted : ∀ {identity entry}, registry.runtimes.get identity = some entry →
    entry.referenceCount = registry.references identity

variable {self : WorkspaceRuntimeRegistry Identity Runtime Session}

theorem Sound.init : (init : WorkspaceRuntimeRegistry Identity Runtime Session).Sound where
  key := by simp [WorkspaceRuntimeRegistry.init]
  fresh := by simp [WorkspaceRuntimeRegistry.init]
  hosted := by simp [WorkspaceRuntimeRegistry.init]
  counted := by simp [WorkspaceRuntimeRegistry.init]

/-- The bindings are no part of the count. -/
theorem Sound.rebind (sound : self.Sound)
    (bindings : Dict Session (WorkspaceBinding Identity Runtime)) :
    ({ self with bindings } : WorkspaceRuntimeRegistry Identity Runtime Session).Sound :=
  { sound with }

theorem Sound.unused (sound : self.Sound) : self.leases.get self.nextUuid = none := by
  cases found : self.leases.get self.nextUuid with
  | none => rfl
  | some lease => exact absurd (sound.fresh found) (lt_irrefl _)

variable {lease : WorkspaceLease Identity Runtime}

/-- A live lease keeps its identity's count positive. -/
theorem Sound.references_pos {id : Uuid} (found : self.leases.get id = some lease) :
    0 < self.references lease.identity :=
  Dict.count_pos found (by simp)

variable {identity : Identity}

theorem references_eq_zero :
    self.references identity = 0 ↔
      ∀ id lease, self.leases.get id = some lease → lease.identity ≠ identity := by
  simp [references, Dict.count_eq_zero]

/-! ### Releasing a lease -/

/-- The registry without the lease. -/
def withoutLease (self : WorkspaceRuntimeRegistry Identity Runtime Session) (leaseId : Uuid) :
    WorkspaceRuntimeRegistry Identity Runtime Session :=
  match self.leases.get leaseId with
  | none => self
  | some lease =>
    match self.runtimes.get lease.identity with
    | none => { self with leases := self.leases.erase leaseId }
    | some entry => { self with
        leases := self.leases.erase leaseId
        runtimes := self.runtimes.set lease.identity
          { entry with referenceCount := entry.referenceCount - 1 } }

@[simp] theorem withoutLease_leases (leaseId : Uuid) :
    (self.withoutLease leaseId).leases = self.leases.erase leaseId := by
  unfold withoutLease
  split
  · rename_i absent
    exact (Dict.erase_of_absent _ absent).symm
  · split <;> rfl

@[simp] theorem withoutLease_bindings (leaseId : Uuid) :
    (self.withoutLease leaseId).bindings = self.bindings := by
  unfold withoutLease
  split
  · rfl
  · split <;> rfl

@[simp] theorem withoutLease_nextUuid (leaseId : Uuid) :
    (self.withoutLease leaseId).nextUuid = self.nextUuid := by
  unfold withoutLease
  split
  · rfl
  · split <;> rfl

/-- Releasing a lease retains every runtime. -/
theorem withoutLease_runtime (leaseId : Uuid) (identity : Identity) :
    ((self.withoutLease leaseId).runtimes.get identity).map RuntimeEntry.runtime =
      (self.runtimes.get identity).map RuntimeEntry.runtime := by
  unfold withoutLease
  split
  · rfl
  · rename_i lease _
    split
    · rfl
    · rename_i entry found
      show ((self.runtimes.set lease.identity _).get identity).map _ = _
      rw [Dict.get_set]
      split
      · rename_i same
        rw [same, found]
        rfl
      · rfl

variable {leaseId : Uuid} {binding : WorkspaceBinding Identity Runtime} {session : Session}

/-- The count after a release. -/
theorem references_withoutLease (found : self.leases.get leaseId = some lease)
    (identity : Identity) :
    (self.withoutLease leaseId).references identity +
      (if lease.identity = identity then 1 else 0) = self.references identity := by
  have counted := Dict.count_erase self.leases
    (fun lease : WorkspaceLease Identity Runtime => decide (lease.identity = identity)) found
  simpa [references] using counted

theorem Sound.withoutLease (sound : self.Sound) (leaseId : Uuid) :
    (self.withoutLease leaseId).Sound where
  key := by
    intro id lease
    rw [withoutLease_leases]
    exact fun found => sound.key (Dict.found_erase found).2
  fresh := by
    intro id lease
    rw [withoutLease_leases, withoutLease_nextUuid]
    exact fun found => sound.fresh (Dict.found_erase found).2
  hosted := by
    intro id lease
    rw [withoutLease_leases]
    intro found
    obtain ⟨entry, entryFound, runtime⟩ := sound.hosted (Dict.found_erase found).2
    have same : ((self.withoutLease leaseId).runtimes.get lease.identity).map
        RuntimeEntry.runtime = some entry.runtime := by
      rw [withoutLease_runtime, entryFound, Option.map_some]
    obtain ⟨kept, keptFound, keptRuntime⟩ := Option.map_eq_some_iff.mp same
    exact ⟨kept, keptFound, keptRuntime.trans runtime⟩
  counted := by
    intro identity entry found
    cases live : self.leases.get leaseId with
    | none =>
      have same : self.withoutLease leaseId = self := by
        unfold WorkspaceRuntimeRegistry.withoutLease
        rw [live]
      rw [same] at found ⊢
      exact sound.counted found
    | some lease =>
      obtain ⟨host, hostFound, _⟩ := sound.hosted live
      have counts := references_withoutLease live identity
      have runtimes : (self.withoutLease leaseId).runtimes = self.runtimes.set lease.identity
          { host with referenceCount := host.referenceCount - 1 } := by
        unfold WorkspaceRuntimeRegistry.withoutLease
        rw [live]
        simp only [hostFound]
      rw [runtimes, Dict.get_set] at found
      split at found
      · rename_i same
        cases found
        rw [if_pos same.symm] at counts
        have before := sound.counted hostFound
        rw [← same] at before
        show host.referenceCount - 1 = _
        omega
      · rename_i different
        rw [if_neg fun same => different same.symm] at counts
        have before := sound.counted found
        omega

/-- `_release_locked` from a sound registry. -/
theorem releaseLocked_run (sound : self.Sound) (leaseId : Uuid) :
    (releaseLocked leaseId : Method Identity Runtime Session Fault Bool).run self =
      .ok (self.leases.contains leaseId) (self.withoutLease leaseId) := by
  unfold WorkspaceRuntimeRegistry.withoutLease
  cases live : self.leases.get leaseId with
  | none =>
    simp only [releaseLocked, run_bind, run_get, live, run_pure, Dict.contains, Option.isSome_none]
  | some lease =>
    obtain ⟨host, hostFound, _⟩ := sound.hosted live
    have positive := Sound.references_pos live
    have noUnderflow : ¬host.referenceCount - 1 < 0 := by
      have counted := sound.counted hostFound
      omega
    simp only [releaseLocked, run_bind, run_get, live, run_set,
      hostFound, noUnderflow, if_false, run_pure, Dict.contains, Option.isSome_some]

/-! ### Acquiring a lease -/

/-- The next lease, on `identity`. -/
def leaseFor (self : WorkspaceRuntimeRegistry Identity Runtime Session) (identity : Identity)
    (runtime : Runtime) : WorkspaceLease Identity Runtime :=
  { id := self.nextUuid, identity, runtime }

/-- The registry with one more lease on the runtime of `entry`. -/
def withLease (self : WorkspaceRuntimeRegistry Identity Runtime Session) (identity : Identity)
    (entry : RuntimeEntry Runtime) : WorkspaceRuntimeRegistry Identity Runtime Session :=
  { self with
    runtimes := self.runtimes.set identity
      { entry with referenceCount := entry.referenceCount + 1 }
    leases := self.leases.set self.nextUuid (self.leaseFor identity entry.runtime)
    nextUuid := self.nextUuid + 1 }

section

variable (identity : Identity) (entry : RuntimeEntry Runtime)

@[simp] theorem withLease_leases :
    (self.withLease identity entry).leases =
      self.leases.set self.nextUuid (self.leaseFor identity entry.runtime) := rfl

@[simp] theorem withLease_runtimes :
    (self.withLease identity entry).runtimes = self.runtimes.set identity
      { entry with referenceCount := entry.referenceCount + 1 } := rfl

@[simp] theorem withLease_bindings :
    (self.withLease identity entry).bindings = self.bindings := rfl

@[simp] theorem withLease_nextUuid :
    (self.withLease identity entry).nextUuid = self.nextUuid + 1 := rfl

end

theorem references_withLease (sound : self.Sound) (place identity : Identity)
    (entry : RuntimeEntry Runtime) :
    (self.withLease place entry).references identity =
      self.references identity + if place = identity then 1 else 0 := by
  have counted := Dict.count_set_of_fresh self.leases (self.leaseFor place entry.runtime)
    (fun lease : WorkspaceLease Identity Runtime => decide (lease.identity = identity)) sound.unused
  rw [references, withLease_leases, counted, references]
  by_cases same : place = identity <;> simp [leaseFor, same]

theorem Sound.withLease (sound : self.Sound) {place : Identity} {entry : RuntimeEntry Runtime}
    (source : self.runtimes.get place = some entry ∨
      self.runtimes.get place = none ∧ entry.referenceCount = 0) :
    (self.withLease place entry).Sound where
  key := by
    intro id lease
    rw [withLease_leases]
    intro found
    obtain ⟨same, rfl⟩ | ⟨_, old⟩ := Dict.found_set found
    · exact same.symm
    · exact sound.key old
  fresh := by
    intro id lease
    rw [withLease_leases, withLease_nextUuid]
    intro found
    obtain ⟨rfl, _⟩ | ⟨_, old⟩ := Dict.found_set found
    · exact Nat.lt_succ_self _
    · exact Nat.lt_succ_of_lt (sound.fresh old)
  hosted := by
    intro id lease
    rw [withLease_leases, withLease_runtimes]
    intro found
    obtain ⟨_, rfl⟩ | ⟨_, old⟩ := Dict.found_set found
    · exact ⟨_, Dict.get_set_self _ _ _, rfl⟩
    · obtain ⟨host, hostFound, runtime⟩ := sound.hosted old
      rw [Dict.get_set]
      split
      · rename_i same
        rw [same] at hostFound
        rcases source with entryFound | ⟨absent, _⟩
        · rw [entryFound] at hostFound
          cases hostFound
          exact ⟨_, rfl, runtime⟩
        · rw [absent] at hostFound
          cases hostFound
      · exact ⟨host, hostFound, runtime⟩
  counted := by
    intro identity kept found
    rw [references_withLease sound]
    rw [withLease_runtimes, Dict.get_set] at found
    split at found
    · rename_i same
      subst same
      cases found
      rw [if_pos rfl]
      rcases source with entryFound | ⟨absent, zero⟩
      · have before := sound.counted entryFound
        show entry.referenceCount + 1 = _
        omega
      · have unused : self.references identity = 0 := by
          refine references_eq_zero.mpr fun id lease live same => ?_
          obtain ⟨host, hostFound, _⟩ := sound.hosted live
          rw [same, absent] at hostFound
          cases hostFound
        show entry.referenceCount + 1 = _
        omega
    · rename_i different
      rw [if_neg fun same => different same.symm]
      have before := sound.counted found
      omega

/-- **`_acquire_locked`**: on the retained runtime, on a new one, or the factory raised. -/
theorem acquireLocked_cases (self : WorkspaceRuntimeRegistry Identity Runtime Session)
    (made : Except Fault Runtime) (identity : Identity) :
    (∃ entry, (self.runtimes.get identity = some entry ∨
        self.runtimes.get identity = none ∧ made = .ok entry.runtime ∧ entry.referenceCount = 0) ∧
      (acquireLocked made identity : Method Identity Runtime Session Fault _).run self =
        .ok (self.leaseFor identity entry.runtime) (self.withLease identity entry)) ∨
    (∃ fault, self.runtimes.get identity = none ∧ made = .error fault ∧
      (acquireLocked made identity : Method Identity Runtime Session Fault _).run self =
        .error (.factory fault) self) := by
  cases found : self.runtimes.get identity with
  | some entry =>
    refine .inl ⟨entry, .inl rfl, ?_⟩
    simp only [acquireLocked, run_bind, run_get, found, run_pure, run_set]
    rfl
  | none =>
    cases made with
    | ok runtime =>
      refine .inl ⟨{ runtime }, .inr ⟨rfl, rfl, rfl⟩, ?_⟩
      simp only [acquireLocked, run_bind, run_get, found, run_pure, run_set]
      rfl
    | error fault =>
      refine .inr ⟨fault, rfl, rfl, ?_⟩
      simp only [acquireLocked, run_bind, run_get, found]
      rfl

/-- **`prepare_activation`**: on the session's own root, nothing changes; on another root, a
provisional lease, or the factory raised. -/
theorem prepareActivation_cases (self : WorkspaceRuntimeRegistry Identity Runtime Session)
    (made : Except Fault Runtime) (session : Session) (resolved : ResolvedWorkspace Identity) :
    (∃ old, self.bindings.get session = some old ∧ old.identity = resolved.identity ∧
      (prepareActivation made session resolved : Method Identity Runtime Session Fault _).run self =
        .ok ⟨session, some old, ⟨old.lease, resolved.workingSubdirectory⟩, false, false⟩ self) ∨
    (∃ entry, (∀ old, self.bindings.get session = some old → old.identity ≠ resolved.identity) ∧
      (self.runtimes.get resolved.identity = some entry ∨
        self.runtimes.get resolved.identity = none ∧ made = .ok entry.runtime ∧
          entry.referenceCount = 0) ∧
      (prepareActivation made session resolved : Method Identity Runtime Session Fault _).run self =
        .ok ⟨session, self.bindings.get session,
            ⟨self.leaseFor resolved.identity entry.runtime, resolved.workingSubdirectory⟩, true,
            !self.runtimes.contains resolved.identity⟩
          (self.withLease resolved.identity entry)) ∨
    (∃ fault, (∀ old, self.bindings.get session = some old → old.identity ≠ resolved.identity) ∧
      self.runtimes.get resolved.identity = none ∧ made = .error fault ∧
      (prepareActivation made session resolved : Method Identity Runtime Session Fault _).run self =
        .error (.factory fault) self) := by
  have crossing (other : ∀ old, self.bindings.get session = some old →
      old.identity ≠ resolved.identity) :
      (prepareActivation made session resolved : Method Identity Runtime Session Fault _).run self =
        (do let lease ← acquireLocked made resolved.identity
            return ⟨session, self.bindings.get session, ⟨lease, resolved.workingSubdirectory⟩, true,
              !self.runtimes.contains resolved.identity⟩ :
          Method Identity Runtime Session Fault _).run self := by
    cases found : self.bindings.get session with
    | none => simp only [prepareActivation, run_bind, run_get, found]
    | some old =>
      simp only [prepareActivation, run_bind, run_get, found, other old found, if_false]
  by_cases sameRoot : ∃ old, self.bindings.get session = some old ∧
      old.identity = resolved.identity
  · obtain ⟨old, found, same⟩ := sameRoot
    refine .inl ⟨old, found, same, ?_⟩
    simp only [prepareActivation, run_bind, run_get, found, same, if_true, run_pure]
  · have other : ∀ old, self.bindings.get session = some old →
        old.identity ≠ resolved.identity := fun old found same => sameRoot ⟨old, found, same⟩
    rcases acquireLocked_cases self made resolved.identity with
      ⟨entry, source, run⟩ | ⟨fault, absent, failed, run⟩
    · refine .inr (.inl ⟨entry, other, source, ?_⟩)
      rw [crossing other, run_bind, run]
      rfl
    · refine .inr (.inr ⟨fault, other, absent, failed, ?_⟩)
      rw [crossing other, run_bind, run]

/-! ### Committing and aborting a candidate -/

/-- The registry after an abort. -/
def aborted (self : WorkspaceRuntimeRegistry Identity Runtime Session)
    (prepared : PreparedWorkspaceActivation Identity Runtime Session) :
    WorkspaceRuntimeRegistry Identity Runtime Session :=
  if prepared.candidateIsProvisional then self.withoutLease prepared.binding.lease.id else self

/-- The registry after an accepted commit. -/
def committed (self : WorkspaceRuntimeRegistry Identity Runtime Session)
    (prepared : PreparedWorkspaceActivation Identity Runtime Session) :
    WorkspaceRuntimeRegistry Identity Runtime Session :=
  let bound := { self with bindings := self.bindings.set prepared.session prepared.binding }
  match prepared.expectedBinding with
  | none => bound
  | some old =>
    if prepared.candidateIsProvisional then bound.withoutLease old.lease.id else bound

/-- What `commit_activation` checks. -/
def Current (self : WorkspaceRuntimeRegistry Identity Runtime Session)
    (prepared : PreparedWorkspaceActivation Identity Runtime Session) : Prop :=
  self.bindings.get prepared.session = prepared.expectedBinding ∧
    (prepared.candidateIsProvisional = true →
      self.leases.get prepared.binding.lease.id = some prepared.binding.lease)

section

variable (prepared : PreparedWorkspaceActivation Identity Runtime Session)

include prepared

@[simp] theorem committed_bindings :
    (self.committed prepared).bindings =
      self.bindings.set prepared.session prepared.binding := by
  unfold committed
  cases prepared.expectedBinding with
  | none => rfl
  | some old =>
    dsimp only
    split
    · rw [withoutLease_bindings]
    · rfl

@[simp] theorem aborted_bindings :
    (self.aborted prepared).bindings = self.bindings := by
  unfold aborted
  split
  · rw [withoutLease_bindings]
  · rfl

@[simp] theorem aborted_nextUuid :
    (self.aborted prepared).nextUuid = self.nextUuid := by
  unfold aborted
  split
  · rw [withoutLease_nextUuid]
  · rfl

theorem aborted_leases :
    (self.aborted prepared).leases =
      if prepared.candidateIsProvisional then self.leases.erase prepared.binding.lease.id
      else self.leases := by
  unfold aborted
  split
  · rw [withoutLease_leases]
  · rfl

@[simp] theorem committed_nextUuid :
    (self.committed prepared).nextUuid = self.nextUuid := by
  unfold committed
  cases prepared.expectedBinding with
  | none => rfl
  | some old =>
    dsimp only
    split
    · rw [withoutLease_nextUuid]
    · rfl

theorem committed_leases :
    (self.committed prepared).leases = match prepared.expectedBinding with
      | none => self.leases
      | some old =>
        if prepared.candidateIsProvisional then self.leases.erase old.lease.id
        else self.leases := by
  unfold committed
  cases prepared.expectedBinding with
  | none => rfl
  | some old =>
    dsimp only
    split
    · rw [withoutLease_leases]
    · rfl

end

theorem Sound.aborted (sound : self.Sound)
    (prepared : PreparedWorkspaceActivation Identity Runtime Session) :
    (self.aborted prepared).Sound := by
  unfold WorkspaceRuntimeRegistry.aborted
  split
  · exact sound.withoutLease _
  · exact sound

theorem Sound.committed (sound : self.Sound)
    (prepared : PreparedWorkspaceActivation Identity Runtime Session) :
    (self.committed prepared).Sound := by
  unfold WorkspaceRuntimeRegistry.committed
  have bound := sound.rebind (self.bindings.set prepared.session prepared.binding)
  cases prepared.expectedBinding with
  | none => exact bound
  | some old =>
    dsimp only
    split
    · exact bound.withoutLease _
    · exact bound

theorem aborted_runtime (prepared : PreparedWorkspaceActivation Identity Runtime Session)
    (identity : Identity) :
    ((self.aborted prepared).runtimes.get identity).map RuntimeEntry.runtime =
      (self.runtimes.get identity).map RuntimeEntry.runtime := by
  unfold aborted
  split
  · exact withoutLease_runtime _ _
  · rfl

theorem committed_runtime (prepared : PreparedWorkspaceActivation Identity Runtime Session)
    (identity : Identity) :
    ((self.committed prepared).runtimes.get identity).map RuntimeEntry.runtime =
      (self.runtimes.get identity).map RuntimeEntry.runtime := by
  unfold committed
  cases prepared.expectedBinding with
  | none => rfl
  | some old =>
    dsimp only
    split
    · exact withoutLease_runtime _ _
    · rfl

/-- `abort_activation`. -/
theorem abortActivation_run (sound : self.Sound)
    (prepared : PreparedWorkspaceActivation Identity Runtime Session) :
    ∃ released, (abortActivation prepared : Method Identity Runtime Session Fault Bool).run self =
      .ok released (self.aborted prepared) := by
  unfold abortActivation abortPreparedLocked aborted
  split
  · exact ⟨_, releaseLocked_run sound _⟩
  · exact ⟨false, rfl⟩

/-- **`commit_activation`** publishes a current candidate, and aborts any other. -/
theorem commitActivation_run (sound : self.Sound)
    (prepared : PreparedWorkspaceActivation Identity Runtime Session) :
    (self.Current prepared ∧
      (commitActivation prepared : Method Identity Runtime Session Fault _).run self =
        .ok prepared.binding (self.committed prepared)) ∨
    (¬self.Current prepared ∧ ∃ message,
      (commitActivation prepared : Method Identity Runtime Session Fault _).run self =
        .error (.runtimeError message) (self.aborted prepared)) := by
  obtain ⟨released, abort⟩ : ∃ released,
      (abortPreparedLocked prepared : Method Identity Runtime Session Fault Bool).run self =
        .ok released (self.aborted prepared) := abortActivation_run sound prepared
  by_cases unchanged : self.bindings.get prepared.session = prepared.expectedBinding
  · by_cases live : prepared.candidateIsProvisional = true →
        self.leases.get prepared.binding.lease.id = some prepared.binding.lease
    · refine .inl ⟨⟨unchanged, live⟩, ?_⟩
      have accepted : ¬(prepared.candidateIsProvisional = true ∧
          self.leases.get prepared.binding.lease.id ≠ some prepared.binding.lease) :=
        fun ⟨provisional, dead⟩ => dead (live provisional)
      have bound := sound.rebind (self.bindings.set prepared.session prepared.binding)
      simp only [commitActivation, run_bind, run_get, unchanged, ne_eq,
        not_true_eq_false, if_false, accepted, run_set, committed]
      cases prepared.expectedBinding with
      | none => rfl
      | some old =>
        by_cases provisional : prepared.candidateIsProvisional = true
        · simp only [provisional, if_true, run_bind, releaseLocked_run bound, run_pure]
        · simp only [provisional, Bool.false_eq_true, if_false, run_pure]
    · have dead : prepared.candidateIsProvisional = true ∧
          self.leases.get prepared.binding.lease.id ≠ some prepared.binding.lease := by
        by_contra none
        exact live fun provisional => by_contra fun absent => none ⟨provisional, absent⟩
      refine .inr ⟨fun current => live current.2,
        "prepared workspace lease is no longer active", ?_⟩
      simp only [commitActivation, run_bind, run_get, unchanged, ne_eq,
        not_true_eq_false, if_false, dead, not_false_eq_true, and_self, if_true, abort]
      rfl
  · refine .inr ⟨fun current => unchanged current.1,
      "workspace binding changed before activation commit", ?_⟩
    simp only [commitActivation, run_bind, run_get, unchanged, ne_eq,
      not_false_eq_true, if_true, abort]
    rfl

/-! ### Releasing a session or a lease with its bindings -/

/-- The bindings that do not use the lease. -/
theorem detachBindings_get (leaseId : Uuid)
    (bindings : Dict Session (WorkspaceBinding Identity Runtime)) (session : Session) :
    (detachBindings leaseId bindings).get session =
      (bindings.get session).filter fun binding => decide (binding.lease.id ≠ leaseId) := by
  have folded : ∀ (items : List (Session × WorkspaceBinding Identity Runtime))
      (kept : Dict Session (WorkspaceBinding Identity Runtime)),
      (items.foldl (fun kept item =>
        if item.2.lease.id = leaseId then kept.erase item.1 else kept) kept).get session =
        if ∃ item ∈ items, item.1 = session ∧ item.2.lease.id = leaseId then none
        else kept.get session := by
    intro items
    induction items with
    | nil => intro kept; simp
    | cons item rest ih =>
      intro kept
      rw [List.foldl_cons, ih]
      by_cases later : ∃ other ∈ rest, other.1 = session ∧ other.2.lease.id = leaseId
      · have anywhere : ∃ other ∈ item :: rest, other.1 = session ∧ other.2.lease.id = leaseId := by
          obtain ⟨other, member, facts⟩ := later
          exact ⟨other, List.mem_cons_of_mem _ member, facts⟩
        rw [if_pos later, if_pos anywhere]
      · rw [if_neg later]
        by_cases uses : item.2.lease.id = leaseId
        · rw [if_pos uses, Dict.get_erase]
          by_cases here : session = item.1
          · rw [if_pos here, if_pos ⟨item, by simp, here.symm, uses⟩]
          · rw [if_neg here, if_neg]
            rintro ⟨other, member, same, otherUses⟩
            rcases List.mem_cons.mp member with rfl | inRest
            · exact here same.symm
            · exact later ⟨other, inRest, same, otherUses⟩
        · rw [if_neg uses, if_neg]
          rintro ⟨other, member, same, otherUses⟩
          rcases List.mem_cons.mp member with rfl | inRest
          · exact uses otherUses
          · exact later ⟨other, inRest, same, otherUses⟩
  unfold detachBindings
  rw [folded]
  cases found : bindings.get session with
  | none =>
    rw [if_neg]
    · rfl
    · rintro ⟨item, member, rfl, _⟩
      rw [Dict.mem_items.mp member] at found
      cases found
  | some binding =>
    by_cases uses : binding.lease.id = leaseId
    · rw [if_pos ⟨(session, binding), Dict.mem_items.mpr found, rfl, uses⟩]
      simp [Option.filter, uses]
    · rw [if_neg]
      · simp [Option.filter, uses]
      · rintro ⟨item, member, rfl, itemUses⟩
        rw [Dict.mem_items.mp member] at found
        cases found
        exact uses itemUses

/-- The registry after `release_lease`. -/
def withoutBoundLease (self : WorkspaceRuntimeRegistry Identity Runtime Session) (leaseId : Uuid) :
    WorkspaceRuntimeRegistry Identity Runtime Session :=
  if self.leases.contains leaseId then
    ({ self with bindings := detachBindings leaseId self.bindings } :
      WorkspaceRuntimeRegistry Identity Runtime Session).withoutLease leaseId
  else self

/-- The registry after `release`. -/
def withoutSession (self : WorkspaceRuntimeRegistry Identity Runtime Session) (session : Session) :
    WorkspaceRuntimeRegistry Identity Runtime Session :=
  match self.bindings.get session with
  | none => self
  | some binding =>
    ({ self with bindings := self.bindings.erase session } :
      WorkspaceRuntimeRegistry Identity Runtime Session).withoutLease binding.lease.id

/-- `release_lease`. -/
theorem releaseLease_run (sound : self.Sound) (leaseId : Uuid) :
    (releaseLease leaseId : Method Identity Runtime Session Fault Bool).run self =
      .ok (self.leases.contains leaseId) (self.withoutBoundLease leaseId) := by
  unfold withoutBoundLease
  cases live : self.leases.get leaseId with
  | none =>
    simp only [releaseLease, run_bind, run_get, live, run_pure,
      Dict.contains, Option.isSome_none, Bool.false_eq_true, if_false]
  | some lease =>
    have key := sound.key live
    subst key
    have bound := sound.rebind (detachBindings lease.id self.bindings)
    simp only [releaseLease, run_bind, run_get, live, run_set,
      releaseLocked_run bound, Dict.contains, Option.isSome_some, if_true]

/-- `release`. -/
theorem release_run (sound : self.Sound) (session : Session) :
    ∃ released, (release session : Method Identity Runtime Session Fault Bool).run self =
      .ok released (self.withoutSession session) := by
  unfold withoutSession
  cases found : self.bindings.get session with
  | none =>
    refine ⟨false, ?_⟩
    simp only [release, run_bind, run_get, found, run_pure]
  | some binding =>
    have bound := sound.rebind (self.bindings.erase session)
    refine ⟨self.leases.contains binding.lease.id, ?_⟩
    simp only [release, run_bind, run_get, found, run_set]
    exact releaseLocked_run bound binding.lease.id

theorem Sound.withoutBoundLease (sound : self.Sound) (leaseId : Uuid) :
    (self.withoutBoundLease leaseId).Sound := by
  unfold WorkspaceRuntimeRegistry.withoutBoundLease
  split
  · exact (sound.rebind _).withoutLease leaseId
  · exact sound

theorem Sound.withoutSession (sound : self.Sound) (session : Session) :
    (self.withoutSession session).Sound := by
  unfold WorkspaceRuntimeRegistry.withoutSession
  split
  · exact sound
  · exact (sound.rebind _).withoutLease _

@[simp] theorem withoutBoundLease_leases (leaseId : Uuid) :
    (self.withoutBoundLease leaseId).leases = self.leases.erase leaseId := by
  unfold withoutBoundLease
  split
  · rw [withoutLease_leases]
  · rename_i absent
    refine (Dict.erase_of_absent _ ?_).symm
    simpa [Dict.contains] using absent

@[simp] theorem withoutBoundLease_nextUuid (leaseId : Uuid) :
    (self.withoutBoundLease leaseId).nextUuid = self.nextUuid := by
  unfold withoutBoundLease
  split
  · rw [withoutLease_nextUuid]
  · rfl

theorem withoutBoundLease_runtime (leaseId : Uuid) (identity : Identity) :
    ((self.withoutBoundLease leaseId).runtimes.get identity).map RuntimeEntry.runtime =
      (self.runtimes.get identity).map RuntimeEntry.runtime := by
  unfold withoutBoundLease
  split
  · exact withoutLease_runtime _ _
  · rfl

theorem withoutSession_runtime (session : Session) (identity : Identity) :
    ((self.withoutSession session).runtimes.get identity).map RuntimeEntry.runtime =
      (self.runtimes.get identity).map RuntimeEntry.runtime := by
  unfold withoutSession
  split
  · rfl
  · exact withoutLease_runtime _ _

@[simp] theorem withoutSession_bindings (session : Session) :
    (self.withoutSession session).bindings = self.bindings.erase session := by
  unfold withoutSession
  split
  · rename_i absent
    exact (Dict.erase_of_absent _ absent).symm
  · rw [withoutLease_bindings]

@[simp] theorem withoutSession_nextUuid (session : Session) :
    (self.withoutSession session).nextUuid = self.nextUuid := by
  unfold withoutSession
  split
  · rfl
  · rw [withoutLease_nextUuid]

theorem withoutSession_leases (found : self.bindings.get session = some binding) :
    (self.withoutSession session).leases = self.leases.erase binding.lease.id := by
  unfold withoutSession
  rw [found]
  exact withoutLease_leases _

theorem withoutSession_of_absent (absent : self.bindings.get session = none) :
    self.withoutSession session = self := by
  unfold withoutSession
  rw [absent]

/-- A binding that survives `release_lease`. -/
theorem withoutBoundLease_binding
    (found : (self.withoutBoundLease leaseId).bindings.get session = some binding) :
    self.bindings.get session = some binding ∧
      (self.leases.contains leaseId = true → binding.lease.id ≠ leaseId) := by
  unfold withoutBoundLease at found
  split at found
  · rw [withoutLease_bindings, detachBindings_get] at found
    obtain ⟨kept, other⟩ := Option.filter_eq_some_iff.mp found
    exact ⟨kept, fun _ => by simpa using other⟩
  · rename_i absent
    exact ⟨found, fun present => absurd present absent⟩

/-- A binding that does not use the lease survives `release_lease`. -/
theorem withoutBoundLease_keeps (found : self.bindings.get session = some binding)
    (other : binding.lease.id ≠ leaseId) :
    (self.withoutBoundLease leaseId).bindings.get session = some binding := by
  unfold withoutBoundLease
  split
  · rw [withoutLease_bindings, detachBindings_get]
    exact Option.filter_eq_some_iff.mpr ⟨found, by simpa using other⟩
  · exact found

/-! ### Retiring a runtime -/

/-- **`retire_idle`** detaches the expected runtime exactly when no lease is on its identity. -/
theorem retireIdle_cases (sound : self.Sound) (identity : Identity) (runtime : Runtime) :
    (∃ entry, self.runtimes.get identity = some entry ∧ entry.runtime = runtime ∧
      self.references identity = 0 ∧
      (retireIdle identity runtime : Method Identity Runtime Session Fault _).run self =
        .ok (some runtime) { self with runtimes := self.runtimes.erase identity }) ∨
    ((∀ entry, self.runtimes.get identity = some entry → entry.runtime = runtime →
        0 < self.references identity) ∧
      (retireIdle identity runtime : Method Identity Runtime Session Fault _).run self =
        .ok none self) := by
  cases found : self.runtimes.get identity with
  | none =>
    refine .inr ⟨by simp, ?_⟩
    simp only [retireIdle, run_bind, run_get, found, run_pure]
  | some entry =>
    have counted := sound.counted found
    by_cases kept : entry.runtime ≠ runtime ∨ entry.referenceCount ≠ 0
    · refine .inr ⟨?_, ?_⟩
      · rintro _ ⟨⟩ same
        rcases kept with differs | referenced
        · exact absurd same differs
        · omega
      · simp only [retireIdle, run_bind, run_get, found, kept, if_true, run_pure]
    · have idle : entry.runtime = runtime ∧ entry.referenceCount = 0 := by
        rw [not_or, not_not, not_not] at kept
        exact kept
      refine .inl ⟨entry, rfl, idle.1, by omega, ?_⟩
      simp only [retireIdle, run_bind, run_get, found, kept, if_false, run_set, run_pure]
      rw [idle.1]

/-- An entry without leases can go. -/
theorem Sound.retire (sound : self.Sound) (idle : self.references identity = 0) :
    ({ self with runtimes := self.runtimes.erase identity } :
      WorkspaceRuntimeRegistry Identity Runtime Session).Sound where
  key := sound.key
  fresh := sound.fresh
  hosted := by
    intro id lease live
    obtain ⟨host, hostFound, runtime⟩ := sound.hosted live
    have different := references_eq_zero.mp idle id lease live
    exact ⟨host, by rw [Dict.get_erase_of_ne _ different, hostFound], runtime⟩
  counted := fun found => sound.counted (Dict.found_erase found).2

end WorkspaceRuntimeRegistry

end SerenaLight.Workspace
