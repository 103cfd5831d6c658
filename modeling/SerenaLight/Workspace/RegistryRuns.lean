/-
**Runs of the workspace runtime registry.**

Sessions call the methods in any order; a prepared activation is committed or aborted at most once.

- `System`, `System.call`: the registry with the activations that are still prepared.
- `Consistent`: a binding's lease is live and bound once; a provisional lease is bound by nobody.
- `registry_consistent`: counts, bindings and retained runtimes in every run, and what a call that
  raises leaves alone.
-/

import SerenaLight.Foundation.Run
import SerenaLight.Workspace.RegistryInvariant
import Mathlib.Data.List.Perm.Basic

set_option linter.unusedSectionVars false

namespace SerenaLight.Workspace.WorkspaceRuntimeRegistry

open Foundation

variable {Identity Runtime Session Fault : Type}
variable [DecidableEq Identity] [DecidableEq Runtime] [DecidableEq Session]

/-! ### Calls -/

/-- The registry, and the prepared activations that were neither committed nor aborted. -/
structure System (Identity Runtime Session : Type) where
  registry : WorkspaceRuntimeRegistry Identity Runtime Session
  prepared : List (PreparedWorkspaceActivation Identity Runtime Session)

inductive Call (Identity Runtime Session Fault : Type) where
  | activate (made : Except Fault Runtime) (session : Session)
      (resolved : ResolvedWorkspace Identity)
  | prepare (made : Except Fault Runtime) (session : Session)
      (resolved : ResolvedWorkspace Identity)
  | commit (prepared : PreparedWorkspaceActivation Identity Runtime Session)
  | abort (prepared : PreparedWorkspaceActivation Identity Runtime Session)
  | release (session : Session)
  | releaseLease (leaseId : Uuid)
  | retireIdle (identity : Identity) (expectedRuntime : Runtime)

namespace System

variable (system : System Identity Runtime Session)

/-- A method runs; whether it returned. -/
def ran {Value : Type} (method : Method Identity Runtime Session Fault Value) :
    Bool × System Identity Runtime Session :=
  match method.run system.registry with
  | .ok _ registry => (true, { system with registry })
  | .error _ registry => (false, { system with registry })

/-- An activation that was prepared is used up. -/
def used (prepared : PreparedWorkspaceActivation Identity Runtime Session) :
    System Identity Runtime Session :=
  { system with prepared := system.prepared.erase prepared }

/-- One call, and whether it returned. -/
def call : Call Identity Runtime Session Fault → Option (Bool × System Identity Runtime Session)
  | .activate made session resolved => some (system.ran (activate made session resolved))
  | .prepare made session resolved =>
    match (prepareActivation made session resolved : Method _ _ _ Fault _).run system.registry with
    | .ok prepared registry => some (true, ⟨registry, prepared :: system.prepared⟩)
    | .error _ registry => some (false, { system with registry })
  | .commit prepared =>
    if prepared ∈ system.prepared then
      some ((system.used prepared).ran (commitActivation prepared : Method _ _ _ Fault _))
    else none
  | .abort prepared =>
    if prepared ∈ system.prepared then
      some ((system.used prepared).ran (abortActivation prepared : Method _ _ _ Fault _))
    else none
  | .release session => some (system.ran (release session : Method _ _ _ Fault _))
  | .releaseLease leaseId => some (system.ran (releaseLease leaseId : Method _ _ _ Fault _))
  | .retireIdle identity runtime =>
    some (system.ran (retireIdle identity runtime : Method _ _ _ Fault _))

def step (call : Call Identity Runtime Session Fault) : Option (System Identity Runtime Session) :=
  (system.call call).map Prod.snd

end System

/-! ### Leases and bindings -/

/-- **A binding's lease is live and bound once, and a provisional lease is bound by nobody.** -/
@[grind cases eager]
structure Consistent (registry : WorkspaceRuntimeRegistry Identity Runtime Session)
    (prepared : List (PreparedWorkspaceActivation Identity Runtime Session)) : Prop where
  sound : registry.Sound
  live : ∀ {session binding}, registry.bindings.get session = some binding →
    registry.leases.get binding.lease.id = some binding.lease
  alone : ∀ {session binding other otherBinding}, registry.bindings.get session = some binding →
    registry.bindings.get other = some otherBinding →
    binding.lease.id = otherBinding.lease.id → session = other
  candidate : ∀ {candidate}, candidate ∈ prepared → candidate.candidateIsProvisional = true →
    candidate.binding.lease.id < registry.nextUuid ∧ ∀ {session binding},
      registry.bindings.get session = some binding → binding.lease.id ≠ candidate.binding.lease.id
  distinct : prepared.Pairwise fun first second => first.candidateIsProvisional = true →
    second.candidateIsProvisional = true → first.binding.lease.id ≠ second.binding.lease.id
  own : ∀ {candidate}, candidate ∈ prepared → candidate.candidateIsProvisional = false →
    ∃ old, candidate.expectedBinding = some old ∧ candidate.binding.lease = old.lease

variable {self after : WorkspaceRuntimeRegistry Identity Runtime Session}
  {prepared rest : List (PreparedWorkspaceActivation Identity Runtime Session)}
  {candidate : PreparedWorkspaceActivation Identity Runtime Session} {session : Session}
  {binding : WorkspaceBinding Identity Runtime} {entry : RuntimeEntry Runtime}

attribute [grind =] Dict.get_set Dict.get_erase withoutLease_leases withoutLease_bindings
  withoutLease_nextUuid withLease_leases withLease_bindings withLease_nextUuid

theorem Consistent.init : Consistent
    (init : WorkspaceRuntimeRegistry Identity Runtime Session) [] where
  sound := .init
  live := nofun
  alone := nofun
  candidate := nofun
  distinct := .nil
  own := nofun

theorem Consistent.perm (consistent : Consistent self prepared) (same : prepared.Perm rest) :
    Consistent self rest :=
  { consistent with
    candidate := fun mem => consistent.candidate (same.mem_iff.mpr mem)
    distinct := (same.pairwise_iff fun apart second first => (apart first second).symm).mp
      consistent.distinct
    own := fun mem => consistent.own (same.mem_iff.mpr mem) }

/-- The registry after `activate` has bound the session to a new lease. -/
@[grind =] def activated (self : WorkspaceRuntimeRegistry Identity Runtime Session)
    (session : Session)
    (resolved : ResolvedWorkspace Identity) (entry : RuntimeEntry Runtime) :
    WorkspaceRuntimeRegistry Identity Runtime Session :=
  let lease := self.leaseFor resolved.identity entry.runtime
  let bound := { self.withLease resolved.identity entry with
    bindings := self.bindings.set session ⟨lease, resolved.workingSubdirectory⟩ }
  match self.bindings.get session with
  | none => bound
  | some old => bound.withoutLease old.lease.id

/-- **`activate`**: on the session's own root only its subdirectory changes; on another root it is
bound to a new lease, or the factory raised. -/
theorem activate_cases (sound : self.Sound) (made : Except Fault Runtime) (session : Session)
    (resolved : ResolvedWorkspace Identity) :
    (∃ old, self.bindings.get session = some old ∧
      (activate made session resolved : Method Identity Runtime Session Fault _).run self =
        .ok ⟨old.lease, resolved.workingSubdirectory⟩ { self with
          bindings := self.bindings.set session ⟨old.lease, resolved.workingSubdirectory⟩ }) ∨
    (∃ entry lease, (self.runtimes.get resolved.identity = some entry ∨
        self.runtimes.get resolved.identity = none ∧ entry.referenceCount = 0) ∧
      (activate made session resolved : Method Identity Runtime Session Fault _).run self =
        .ok lease (self.activated session resolved entry)) ∨
    (∃ fault, (activate made session resolved : Method Identity Runtime Session Fault _).run self =
      .error (.factory fault) self) := by
  by_cases sameRoot : ∃ old, self.bindings.get session = some old ∧ old.identity = resolved.identity
  · obtain ⟨old, found, same⟩ := sameRoot
    refine .inl ⟨old, found, ?_⟩
    simp only [activate, EStateM.run_bind, EStateM.run_get, found, same, if_true,
      EStateM.run_modify, EStateM.run_pure]
  have other (old) (found : self.bindings.get session = some old) :
      old.identity ≠ resolved.identity := fun same => sameRoot ⟨old, found, same⟩
  refine .inr ?_
  rcases acquireLocked_cases self made resolved.identity with
    ⟨entry, source, run⟩ | ⟨fault, -, -, run⟩
  · have source : self.runtimes.get resolved.identity = some entry ∨
        self.runtimes.get resolved.identity = none ∧ entry.referenceCount = 0 :=
      source.imp_right fun new => ⟨new.1, new.2.2⟩
    refine .inl ⟨entry, ⟨self.leaseFor resolved.identity entry.runtime,
      resolved.workingSubdirectory⟩, source, ?_⟩
    unfold activated
    cases found : self.bindings.get session with
    | none =>
      simp only [activate, EStateM.run_bind, EStateM.run_get, found, run, EStateM.run_modify,
        EStateM.run_pure, withLease_bindings]
    | some old =>
      have bound := (sound.withLease source).rebind (self.bindings.set session
        ⟨self.leaseFor resolved.identity entry.runtime, resolved.workingSubdirectory⟩)
      simp only [activate, EStateM.run_bind, EStateM.run_get, found, other old found, if_false, run,
        EStateM.run_modify, withLease_bindings, releaseLocked_run bound, EStateM.run_pure]
  · refine .inr ⟨fault, ?_⟩
    cases found : self.bindings.get session with
    | none => simp only [activate, EStateM.run_bind, EStateM.run_get, found, run]
    | some old =>
      simp only [activate, EStateM.run_bind, EStateM.run_get, found, other old found, if_false, run]

theorem Consistent.activated (consistent : Consistent self prepared)
    {resolved : ResolvedWorkspace Identity}
    (source : self.runtimes.get resolved.identity = some entry ∨
      self.runtimes.get resolved.identity = none ∧ entry.referenceCount = 0) :
    Consistent (self.activated session resolved entry) prepared := by
  have fresh {id lease} := @consistent.sound.fresh id lease
  have leased := consistent.sound.withLease source
  refine ⟨?_, ?_, ?_, ?_, consistent.distinct, consistent.own⟩
  · unfold WorkspaceRuntimeRegistry.activated
    split
    · exact leased.rebind _
    · exact (leased.rebind _).withoutLease _
  all_goals grind [leaseFor]

theorem Consistent.committed (consistent : Consistent self (candidate :: rest))
    (current : self.Current candidate) : Consistent (self.committed candidate) rest := by
  have apart := List.pairwise_cons.mp consistent.distinct
  refine ⟨consistent.sound.committed candidate, ?_, ?_, ?_, ?_, ?_⟩
  all_goals grind [committed_bindings, committed_leases, committed_nextUuid, Current]

theorem Consistent.aborted (consistent : Consistent self (candidate :: rest)) :
    Consistent (self.aborted candidate) rest := by
  refine ⟨consistent.sound.aborted candidate, ?_, ?_, ?_, ?_, ?_⟩
  all_goals grind [aborted_bindings, aborted_leases, aborted_nextUuid]

section

variable (consistent : Consistent self prepared)

include consistent

theorem Consistent.withoutSession (session : Session) :
    Consistent (self.withoutSession session) prepared := by
  refine ⟨consistent.sound.withoutSession session, ?_, ?_, ?_, ?_, ?_⟩
  all_goals grind [WorkspaceRuntimeRegistry.withoutSession]

theorem Consistent.withoutBoundLease (leaseId : Uuid) :
    Consistent (self.withoutBoundLease leaseId) prepared := by
  refine ⟨consistent.sound.withoutBoundLease leaseId, ?_, ?_, ?_, ?_, ?_⟩
  all_goals grind [withoutBoundLease_leases, withoutBoundLease_nextUuid, →
      withoutBoundLease_binding, Dict.contains]

theorem Consistent.prepare
    (own : candidate.candidateIsProvisional = false → ∃ old, candidate.expectedBinding = some old ∧
      candidate.binding.lease = old.lease)
    (fresh : candidate.candidateIsProvisional = true → candidate.binding.lease.id < self.nextUuid ∧
      (∀ {session binding}, self.bindings.get session = some binding →
        binding.lease.id ≠ candidate.binding.lease.id) ∧
      ∀ {other}, other ∈ prepared → other.candidateIsProvisional = true →
        candidate.binding.lease.id ≠ other.binding.lease.id) :
    Consistent self (candidate :: prepared) := by
  refine ⟨consistent.sound, consistent.live, consistent.alone, ?_, ?_, ?_⟩
  · grind
  · exact List.pairwise_cons.mpr ⟨fun other mem provisional => (fresh provisional).2.2 mem,
      consistent.distinct⟩
  · grind

theorem Consistent.withLease {identity : Identity}
    (source : self.runtimes.get identity = some entry ∨
      self.runtimes.get identity = none ∧ entry.referenceCount = 0) :
    Consistent (self.withLease identity entry) prepared := by
  have fresh {id lease} := @consistent.sound.fresh id lease
  refine ⟨consistent.sound.withLease source, ?_, ?_, ?_, consistent.distinct, consistent.own⟩
  all_goals grind

end

/-! ### Runs -/

/-- A runtime goes only without a live lease on its identity. -/
def Retains (self after : WorkspaceRuntimeRegistry Identity Runtime Session) : Prop :=
  ∀ identity entry, self.runtimes.get identity = some entry →
    (∃ kept, after.runtimes.get identity = some kept ∧ kept.runtime = entry.runtime) ∨
      self.references identity = 0

theorem retains_of_map (same : ∀ identity, (after.runtimes.get identity).map RuntimeEntry.runtime =
    (self.runtimes.get identity).map RuntimeEntry.runtime) : Retains self after := by
  intro identity entry found
  have kept := same identity
  rw [found, Option.map_some, Option.map_eq_some_iff] at kept
  exact .inl kept

theorem retains_withLease {identity : Identity}
    (source : self.runtimes.get identity = some entry ∨
      self.runtimes.get identity = none ∧ entry.referenceCount = 0) :
    Retains self (self.withLease identity entry) := by
  intro place host found
  rw [withLease_runtimes]
  grind

theorem retains_activated {resolved : ResolvedWorkspace Identity}
    (source : self.runtimes.get resolved.identity = some entry ∨
      self.runtimes.get resolved.identity = none ∧ entry.referenceCount = 0) :
    Retains self (self.activated session resolved entry) := by
  intro place host found
  have leased := retains_withLease source place host found
  unfold activated
  split
  · exact leased
  · rename_i old _
    have kept := @withoutLease_runtime _ _ _ _ _ _ { self.withLease resolved.identity entry with
      bindings := self.bindings.set session
        ⟨self.leaseFor resolved.identity entry.runtime, resolved.workingSubdirectory⟩ }
      old.lease.id place
    grind [Option.map_eq_some_iff]

/-- What a call does. -/
structure Effect (before : System Identity Runtime Session)
    (result : Bool × System Identity Runtime Session) : Prop where
  consistent : Consistent result.2.registry result.2.prepared
  retained : Retains before.registry result.2.registry
  unbound : result.1 = false → result.2.registry.bindings = before.registry.bindings

variable {system : System Identity Runtime Session}

theorem effect_of_call {call : Call Identity Runtime Session Fault}
    {result : Bool × System Identity Runtime Session}
    (consistent : Consistent system.registry system.prepared)
    (called : system.call call = some result) : Effect system result := by
  have sound := consistent.sound
  have retains : Retains system.registry system.registry := retains_of_map fun _ => rfl
  cases call with
  | activate made session resolved =>
    cases called
    rcases activate_cases sound made session resolved with
      ⟨old, bound, run⟩ | ⟨entry, lease, source, run⟩ | ⟨fault, run⟩ <;> rw [System.ran, run]
    · refine ⟨⟨sound.rebind _, ?_, ?_, ?_, consistent.distinct, consistent.own⟩, retains, by simp⟩
      all_goals grind
    · exact ⟨consistent.activated source, retains_activated source, by simp⟩
    · exact ⟨consistent, retains, fun _ => rfl⟩
  | prepare made session resolved =>
    rcases prepareActivation_cases system.registry made session resolved with
      ⟨old, bound, -, run⟩ | ⟨entry, -, source, run⟩ | ⟨fault, -, -, -, run⟩ <;>
      simp only [System.call, run] at called <;> cases called
    · exact ⟨consistent.prepare (fun _ => ⟨old, rfl, rfl⟩) (by simp), retains, by simp⟩
    · have source : system.registry.runtimes.get resolved.identity = some entry ∨
          system.registry.runtimes.get resolved.identity = none ∧ entry.referenceCount = 0 := by
        grind
      have fresh {id lease} := @sound.fresh id lease
      refine ⟨(consistent.withLease source).prepare (by simp) ?_, retains_withLease source, by simp⟩
      grind [leaseFor]
    · exact ⟨consistent, retains, fun _ => rfl⟩
  | commit candidate =>
    simp only [System.call] at called
    split at called
    · cases called
      have split := consistent.perm (List.perm_cons_erase ‹_›)
      rcases @commitActivation_run _ _ _ Fault _ _ _ _ sound candidate with
        ⟨current, run⟩ | ⟨-, message, run⟩ <;> rw [System.ran, System.used, run]
      · exact ⟨split.committed current, retains_of_map (committed_runtime _), by simp⟩
      · exact ⟨split.aborted, retains_of_map (aborted_runtime _), fun _ => aborted_bindings _⟩
    · cases called
  | abort candidate =>
    simp only [System.call] at called
    split at called
    · cases called
      have split := consistent.perm (List.perm_cons_erase ‹_›)
      obtain ⟨released, run⟩ := @abortActivation_run _ _ _ Fault _ _ _ _ sound candidate
      rw [System.ran, System.used, run]
      exact ⟨split.aborted, retains_of_map (aborted_runtime _), by simp⟩
    · cases called
  | release session =>
    cases called
    obtain ⟨released, run⟩ := @release_run _ _ _ Fault _ _ _ _ sound session
    rw [System.ran, run]
    exact ⟨consistent.withoutSession session, retains_of_map (withoutSession_runtime session),
      by simp⟩
  | releaseLease leaseId =>
    cases called
    rw [System.ran, releaseLease_run sound leaseId]
    exact ⟨consistent.withoutBoundLease leaseId, retains_of_map (withoutBoundLease_runtime leaseId),
      by simp⟩
  | retireIdle identity runtime =>
    cases called
    rcases retireIdle_cases sound identity runtime with ⟨entry, found, -, idle, run⟩ | ⟨-, run⟩ <;>
      rw [System.ran, run]
    · refine ⟨{ consistent with sound := sound.retire idle }, fun place host found => ?_, by simp⟩
      grind
    · exact ⟨consistent, retains, by simp⟩

/-- The states of the registry that calls of the sessions reach. -/
def Runs (Fault : Type) (system : System Identity Runtime Session) : Prop :=
  Reaches (fun (system : System Identity Runtime Session)
    (call : Call Identity Runtime Session Fault) => system.step call) (fun _ _ => True) ⟨init,
        []⟩ system

theorem Runs.consistent (run : Runs Fault system) : Consistent system.registry system.prepared := by
  let Invariant (system : System Identity Runtime Session) : Prop :=
    Consistent system.registry system.prepared
  have kept (before : System Identity Runtime Session) (call : Call Identity Runtime Session Fault)
      (after : System Identity Runtime Session) (consistent : Invariant before) (_ : True)
      (taken : before.step call = some after) : Invariant after := by
    obtain ⟨result, called, rfl⟩ := Option.map_eq_some_iff.mp taken
    exact (effect_of_call consistent called).consistent
  exact Reaches.invariant (show Invariant ⟨init, []⟩ from Consistent.init) kept run

/-- **In every run of the registry**: an entry counts the live leases on its identity, so its count
is never negative; a binding's lease is live and has the runtime of its entry; and whatever is
called next, a runtime goes only if no live lease is on its identity, and a call that raises changes
no binding. -/
theorem registry_consistent {system : System Identity Runtime Session}
    (run : Runs Fault system) :
    (∀ identity entry, system.registry.runtimes.get identity = some entry →
      entry.referenceCount = system.registry.references identity ∧ 0 ≤ entry.referenceCount) ∧
    (∀ session binding, system.registry.bindings.get session = some binding →
      system.registry.leases.get binding.lease.id = some binding.lease ∧
      ∃ entry, system.registry.runtimes.get binding.identity = some entry ∧
        entry.runtime = binding.runtime) ∧
    ∀ (call : Call Identity Runtime Session Fault) (returned : Bool)
      (after : System Identity Runtime Session), system.call call = some (returned, after) →
      Retains system.registry after.registry ∧
      (returned = false → after.registry.bindings = system.registry.bindings) := by
  have consistent := run.consistent
  refine ⟨fun identity entry found => ?_, fun session binding bound => ?_,
    fun call returned after called => ?_⟩
  · have counted := consistent.sound.counted found
    exact ⟨counted, by omega⟩
  · have live := consistent.live bound
    exact ⟨live, consistent.sound.hosted live⟩
  · have effect := effect_of_call consistent called
    exact ⟨effect.retained, effect.unbound⟩

/-- Session 1 is bound to root 1, and session 2, which has prepared root 1 too, to root 2. -/
def overtakenRun : List (Call Nat Nat Nat Unit) :=
  [.activate (.ok 10) 1 ⟨1, ""⟩, .prepare (.ok 11) 2 ⟨1, ""⟩, .activate (.ok 20) 2 ⟨2, ""⟩]

/-- The activation that was prepared comes too late. -/
theorem registry_consistent_overtaken : ∃ system after : System Nat Nat Nat,
    Runs Unit system ∧ system.registry.references 1 = 2 ∧
    system.call (.commit ⟨2, none, ⟨⟨1, 1, 10⟩, ""⟩, true, false⟩ : Call Nat Nat Nat Unit) =
      some (false, after) ∧ after.registry.bindings = system.registry.bindings := by
  obtain ⟨system, runs, references, late⟩ := Reaches.of_run (fun system call => system.step call)
    (fun _ _ => True) (⟨init, []⟩ : System Nat Nat Nat) overtakenRun (fun system =>
      system.registry.references 1 = 2 ∧ (system.call (.commit
        ⟨2, none, ⟨⟨1, 1, 10⟩, ""⟩, true, false⟩ : Call Nat Nat Nat Unit)).any (!·.1) = true)
    (by decide +kernel)
  obtain ⟨⟨returned, after⟩, called, raised⟩ := (Option.any_eq_true _ _).mp late
  cases returned with
  | true => cases raised
  | false =>
    exact ⟨system, after, runs, references, called,
      ((registry_consistent runs).2.2 _ false after called).2 rfl⟩

end SerenaLight.Workspace.WorkspaceRuntimeRegistry
