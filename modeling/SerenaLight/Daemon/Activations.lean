/-
**The registry while an activation holds the lock.**

As long as no abandoned worker thread interferes, the registry under a held lock is the registry that
the activation found, with at most its own candidate on top. So the end of an activation is
described against that registry.

* `Tracks`: the registry in each phase, from the one at entry.
* `Stores.Tracked`, `Stores.Moves.tracked`: the invariant, and that every move keeps it.
* `Stores.Moves.undisturbed`: without cancellation no thread is left alone.
* `Tracks.restores`: a discarded candidate leaves the runtimes, the reference counts, the leases and
  the bindings exactly as they were.
* `Tracks.withdraws`: the discard of a committed one leaves what a release of the session leaves.
-/

import SerenaLight.Daemon.ServiceSteps

set_option linter.unusedSectionVars false

namespace SerenaLight.Daemon

open Foundation Workspace WorkspaceRuntimeRegistry

variable {Identity Time : Type}
variable [DecidableEq Identity] [LinearOrder Time] [Add Time] [Zero Time]

/-! ### The phases -/

/-- The candidate before its commit. -/
def Phase.tentative : Phase Identity → Option (Prepared Identity)
  | .prepared (.ok held) => some held
  | .refreshing held => some held
  | .committing held => some held
  | _ => none

variable {phase : Phase Identity} {prepared : Prepared Identity}

theorem tentative_uncommitted (tentative : phase.tentative = some prepared) :
    phase.uncommitted = some prepared := by
  unfold Phase.tentative at tentative
  split at tentative
  · exact tentative
  · exact tentative
  · exact tentative
  · cases tentative

variable {label : StoresLabel Identity Time}

/-- A lease is checked before the commit or after it. -/
theorem Checking.moment {committed : Bool} (checking : Checking phase label prepared committed) :
    (committed = false ∧ phase.tentative = some prepared) ∨
      (committed = true ∧ phase = .committed prepared (.ok prepared.binding)) := by
  cases checking with
  | refresh => exact .inl ⟨rfl, rfl⟩
  | rebind => exact .inr ⟨rfl, rfl⟩

/-- The registry in each phase of an activation that found `entry`. -/
inductive Tracks (entry : Registry Identity) (leaseId : Uuid) :
    Phase Identity → Registry Identity → Prop
  | preparing {resolved : ResolvedWorkspace Identity} : Tracks entry leaseId (.preparing resolved) entry
  | faulted {fault : Fault} : Tracks entry leaseId (.prepared (.error fault)) entry
  | same {phase : Phase Identity} {resolved : ResolvedWorkspace Identity} {old : Binding Identity}
      (there : entry.bindings.get leaseId = some old) (root : old.identity = resolved.identity)
      (tentative : phase.tentative = some (sameRoot leaseId resolved old)) :
      Tracks entry leaseId phase entry
  | cross {phase : Phase Identity} {resolved : ResolvedWorkspace Identity} {fault : Option Fault}
      {nextRuntime : RuntimeId} {made : RuntimeEntry RuntimeId}
      (crosses : Crosses entry fault nextRuntime leaseId resolved.identity made)
      (tentative : phase.tentative = some (crossRoot entry leaseId resolved made)) :
      Tracks entry leaseId phase (entry.withLease resolved.identity made)
  | committed {prepared : Prepared Identity} {registry : Registry Identity}
      (before : Tracks entry leaseId (.committing prepared) registry) :
      Tracks entry leaseId (.committed prepared (.ok prepared.binding))
        (registry.committed prepared)

namespace Tracks

variable {entry registry : Registry Identity} {leaseId : Uuid} {phase : Phase Identity}
  {prepared : Prepared Identity}

/-- Before the thread's call nothing has changed. -/
theorem of_preparing {resolved : ResolvedWorkspace Identity}
    (tracks : Tracks entry leaseId (.preparing resolved) registry) : registry = entry := by
  cases tracks with
  | preparing => rfl
  | same _ _ tentative | cross _ tentative => cases tentative

theorem of_faulted {fault : Fault}
    (tracks : Tracks entry leaseId (.prepared (.error fault)) registry) : registry = entry := by
  cases tracks with
  | faulted => rfl
  | same _ _ tentative | cross _ tentative => cases tentative

section

variable (tracks : Tracks entry leaseId phase registry)

include tracks

/-- The candidate stays what it is until its commit. -/
theorem advance {next : Phase Identity}
    (before : phase.tentative = some prepared) (after : next.tentative = some prepared) :
    Tracks entry leaseId next registry := by
  cases tracks with
  | preparing | faulted | committed _ => cases before
  | same there root tentative => exact .same there root (after.trans (before.symm.trans tentative))
  | cross crosses tentative => exact .cross crosses (after.trans (before.symm.trans tentative))

/-- An undisturbed candidate can be committed. -/
theorem current
    (tentative : phase.tentative = some prepared) : registry.Current prepared := by
  cases tracks with
  | preparing | faulted | committed _ => cases tentative
  | same there _ held =>
    obtain rfl := Option.mem_unique tentative held
    exact ⟨there, by simp [sameRoot]⟩
  | cross crosses held =>
    obtain rfl := Option.mem_unique tentative held
    exact ⟨rfl, fun _ => Dict.get_set_self _ _ _⟩

theorem uuid :
    entry.nextUuid ≤ registry.nextUuid := by
  induction tracks with
  | preparing | faulted | same _ _ _ => exact le_rfl
  | cross _ _ => exact Nat.le_succ _
  | committed _ ih =>
    rw [committed_nextUuid]
    exact ih

/-- A candidate that is discarded because of an error is not committed: no commit is refused. -/
theorem failing (failing : Failing phase label prepared) : phase.tentative = some prepared := by
  cases failing with
  | refresh => rfl
  | commit =>
    cases tracks with
    | same _ _ tentative | cross _ tentative => cases tentative

end

end Tracks

/-! ### The end of an activation -/

/-- The registry is back to what it was, except that identifiers were used up. -/
structure Restored (entry after : Registry Identity) : Prop where
  runtimes : after.runtimes = entry.runtimes
  leases : after.leases = entry.leases
  bindings : after.bindings = entry.bindings
  uuid : entry.nextUuid ≤ after.nextUuid

/-- The same leases and bindings, and for each root the same runtime. -/
structure Alike (one other : Registry Identity) : Prop where
  runtimes : ∀ identity, (one.runtimes.get identity).map RuntimeEntry.runtime =
    (other.runtimes.get identity).map RuntimeEntry.runtime
  leases : ∀ id, one.leases.get id = other.leases.get id
  bindings : ∀ session, one.bindings.get session = other.bindings.get session

theorem Restored.alike {entry after : Registry Identity} (restored : Restored entry after) :
    Alike after entry :=
  ⟨fun _ => by rw [restored.runtimes], fun _ => by rw [restored.leases],
    fun _ => by rw [restored.bindings]⟩

/-- The release of a lease that was just taken, but for the runtime's entry. -/
theorem withoutLease_withLease {registry : Registry Identity} (sound : registry.Sound)
    (identity : Identity) (made : RuntimeEntry RuntimeId) :
    (registry.withLease identity made).withoutLease registry.nextUuid =
      { registry with
        runtimes := registry.runtimes.set identity made
        nextUuid := registry.nextUuid + 1 } := by
  have found : (registry.withLease identity made).leases.get registry.nextUuid =
      some (registry.leaseFor identity made.runtime) := Dict.get_set_self _ _ _
  have host : (registry.withLease identity made).runtimes.get
      (registry.leaseFor identity made.runtime).identity =
        some { made with referenceCount := made.referenceCount + 1 } := Dict.get_set_self _ _ _
  unfold WorkspaceRuntimeRegistry.withoutLease
  simp only [found, host]
  simp only [withLease_leases, withLease_runtimes, withLease_bindings, withLease_nextUuid]
  rw [Dict.erase_set_of_fresh _ _ sound.unused]
  have again : (registry.runtimes.set identity
      { made with referenceCount := made.referenceCount + 1 }).set
        (registry.leaseFor identity made.runtime).identity
        { made with referenceCount := made.referenceCount + 1 - 1 } =
      registry.runtimes.set identity made := by
    rw [Int.add_sub_cancel]
    exact Dict.set_set _ _ _ _
  rw [again]

theorem retirementOf_crossRoot (entry : Registry Identity) (session : Uuid)
    (resolved : ResolvedWorkspace Identity) (made : RuntimeEntry RuntimeId) :
    retirementOf (crossRoot entry session resolved made) =
      if (entry.runtimes.get resolved.identity).isNone then
        some (resolved.identity, made.runtime) else none := by
  have created : (crossRoot entry session resolved made).candidateRuntimeCreated =
      (entry.runtimes.get resolved.identity).isNone := by
    simp [crossRoot, Dict.contains]
  rw [retirementOf, created]
  rfl

/-- A new lease is undone: the runtime is retired if it was made for the lease. -/
theorem Retires.created_runtime {entry undone after : Registry Identity}
    {targets : List RuntimeId} {place : Identity} {made : RuntimeEntry RuntimeId}
    {fresh : Prop} {request : Option (Identity × RuntimeId)}
    (retires : Retires undone request targets after)
    (source : entry.runtimes.get place = some made ∨ entry.runtimes.get place = none ∧ fresh)
    (asked : request = if (entry.runtimes.get place).isNone then some (place, made.runtime) else none)
    (runtimes : ∀ identity, (undone.runtimes.get identity).map RuntimeEntry.runtime =
      ((entry.withLease place made).runtimes.get identity).map RuntimeEntry.runtime)
    (idle : entry.runtimes.get place = none → undone.references place = 0) (identity : Identity) :
    (after.runtimes.get identity).map RuntimeEntry.runtime =
      (entry.runtimes.get identity).map RuntimeEntry.runtime := by
  have other : ∀ {identity}, identity ≠ place →
      (undone.runtimes.get identity).map RuntimeEntry.runtime =
        (entry.runtimes.get identity).map RuntimeEntry.runtime := by
    intro identity different
    rw [runtimes, withLease_runtimes, Dict.get_set_of_ne _ _ different]
  have here : (undone.runtimes.get place).map RuntimeEntry.runtime = some made.runtime := by
    rw [runtimes, withLease_runtimes, Dict.get_set_self, Option.map_some]
  rcases source with found | ⟨absent, _⟩
  · rw [found] at asked
    cases asked
    cases retires
    by_cases same : identity = place
    · rw [same, here, found, Option.map_some]
    · exact other same
  · rw [absent] at asked
    cases asked
    by_cases same : identity = place
    · rw [same, absent, Option.map_none]
      cases retires with
      | retired _ _ _ => rw [Dict.get_erase_self, Option.map_none]
      | kept busy =>
        obtain ⟨kept, found, runtime⟩ := Option.map_eq_some_iff.mp here
        have positive := busy place made.runtime rfl kept found runtime
        rw [idle absent] at positive
        exact absurd positive (lt_irrefl 0)
    · rw [retires.runtime_of_ne fun runtime asks => same (by cases asks; rfl)]
      exact other same

namespace Tracks

variable {entry registry after : Registry Identity} {leaseId : Uuid} {phase : Phase Identity}
  {prepared : Prepared Identity} {targets : List RuntimeId}

/-- A root without a runtime has no lease. -/
theorem unreferenced (sound : entry.Sound) {identity : Identity}
    (absent : entry.runtimes.get identity = none) : entry.references identity = 0 := by
  refine references_eq_zero.mpr fun id lease found here => ?_
  obtain ⟨host, hostFound, _⟩ := sound.hosted found
  rw [here, absent] at hostFound
  cases hostFound

/-- **A discarded candidate leaves no trace.** -/
theorem restores (tracks : Tracks entry leaseId phase registry) (sound : entry.Sound)
    (tentative : phase.tentative = some prepared)
    (retires : Retires (undone registry leaseId prepared false) (retirementOf prepared) targets
      after) : Restored entry after := by
  cases tracks with
  | preparing | faulted | committed _ => cases tentative
  | same there _ held =>
    obtain rfl := Option.mem_unique tentative held
    -- the candidate is on the old lease: nothing to release, nothing to retire
    cases retires
    exact ⟨rfl, rfl, rfl, le_rfl⟩
  | @cross _ resolved fault nextRuntime made crosses held =>
    obtain rfl := Option.mem_unique tentative held
    have undoneEq : undone (entry.withLease resolved.identity made) leaseId
        (crossRoot entry leaseId resolved made) false =
        { entry with
          runtimes := entry.runtimes.set resolved.identity made
          nextUuid := entry.nextUuid + 1 } :=
      withoutLease_withLease sound resolved.identity made
    rw [undoneEq, retirementOf_crossRoot] at retires
    rcases crosses.source with found | ⟨absent, _⟩
    · -- the runtime was there, and its count is what it was
      rw [found, Dict.set_of_get _ found] at retires
      cases retires
      exact ⟨rfl, rfl, rfl, Nat.le_succ _⟩
    · rw [absent] at retires
      cases retires with
      | retired _ _ _ =>
        exact ⟨Dict.erase_set_of_fresh _ _ absent, rfl, rfl, Nat.le_succ _⟩
      | kept busy =>
        have positive : 0 < entry.references resolved.identity :=
          busy resolved.identity made.runtime rfl made (Dict.get_set_self _ _ _) rfl
        rw [unreferenced sound absent] at positive
        exact absurd positive (lt_irrefl 0)

theorem withoutSession_lease {id : Uuid} {lease : WorkspaceLease Identity RuntimeId}
    (found : (entry.withoutSession leaseId).leases.get id = some lease) :
    entry.leases.get id = some lease := by
  cases there : entry.bindings.get leaseId with
  | none => rwa [withoutSession_of_absent there] at found
  | some old =>
    rw [withoutSession_leases there] at found
    exact (Dict.found_erase found).2

/-- What a commit leaves: the session has the candidate's lease and not its old one. -/
structure Commits (entry : Registry Identity) (leaseId : Uuid) (prepared : Prepared Identity)
    (registry : Registry Identity) : Prop where
  bindings : registry.bindings = entry.bindings.set leaseId prepared.binding
  leases : ∀ {id lease}, registry.leases.get id = some lease → id = prepared.binding.lease.id ∨
    (entry.leases.get id = some lease ∧
      ∀ old, entry.bindings.get leaseId = some old → id ≠ old.lease.id)
  own : prepared.binding.lease.id = entry.nextUuid ∨
    ∃ old, entry.bindings.get leaseId = some old ∧ prepared.binding.lease = old.lease
  runtimes : ∀ {identity}, registry.runtimes.get identity ≠ none →
    entry.runtimes.get identity ≠ none ∨ identity = prepared.binding.identity
  uuid : entry.nextUuid ≤ registry.nextUuid

/-- The leases after the discard of a committed candidate on a new lease. -/
theorem withdrawn_leases (sound : entry.Sound) (resolved : ResolvedWorkspace Identity)
    (made : RuntimeEntry RuntimeId) (id : Uuid) :
    (undone ((entry.withLease resolved.identity made).committed
      (crossRoot entry leaseId resolved made)) leaseId
      (crossRoot entry leaseId resolved made) true).leases.get id =
      (entry.withoutSession leaseId).leases.get id := by
  have bound : ((entry.withLease resolved.identity made).committed
      (crossRoot entry leaseId resolved made)).bindings.get leaseId =
        some (crossRoot entry leaseId resolved made).binding := by
    rw [committed_bindings]
    exact Dict.get_set_self _ _ _
  have own : (crossRoot entry leaseId resolved made).binding.lease.id = entry.nextUuid := rfl
  unfold undone
  rw [if_pos rfl, withoutSession_leases bound, own, committed_leases, Dict.get_erase]
  show (if id = entry.nextUuid then none else _) = _
  cases there : entry.bindings.get leaseId with
  | none =>
    rw [withoutSession_of_absent there]
    simp only [crossRoot, there, withLease_leases, Dict.get_set]
    split
    · rename_i fresh
      rw [fresh, sound.unused]
    · rfl
  | some old =>
    rw [withoutSession_leases there]
    simp only [crossRoot, there, if_true, withLease_leases, Dict.get_erase, Dict.get_set]
    by_cases fresh : id = entry.nextUuid
    · rw [if_pos fresh, fresh, sound.unused, ite_self]
    · rw [if_neg fresh, if_neg fresh]

/-- **The discard of a committed candidate** leaves what a release of the session leaves. -/
theorem withdraws (tracks : Tracks entry leaseId (.committed prepared (.ok prepared.binding))
      registry) (sound : entry.Sound)
    (retires : Retires (undone registry leaseId prepared true) (retirementOf prepared) targets
      after) : Alike after (entry.withoutSession leaseId) := by
  cases tracks with
  | same _ _ tentative | cross _ tentative => cases tentative
  | @committed _ before tracks =>
    have cleared : ∀ session,
        (undone (before.committed prepared) leaseId prepared true).bindings.get session =
          ((before.bindings.set prepared.session prepared.binding).erase leaseId).get session := by
      intro session
      unfold undone
      rw [if_pos rfl, withoutSession_bindings, committed_bindings]
    have runtimes : ∀ identity,
        ((undone (before.committed prepared) leaseId prepared true).runtimes.get identity).map
            RuntimeEntry.runtime =
          (before.runtimes.get identity).map RuntimeEntry.runtime := fun identity =>
      (undone_runtime _ _ _ _ _).trans (committed_runtime _ _)
    cases tracks with
    | @same _ resolved old there root tentative =>
      obtain rfl := Option.some.inj tentative
      cases retires
      refine ⟨fun identity => ?_, fun id => ?_, fun session => ?_⟩
      · rw [runtimes, withoutSession_runtime]
      · rw [withoutSession_leases there]
        have bound : (entry.committed (sameRoot leaseId resolved old)).bindings.get leaseId =
            some (sameRoot leaseId resolved old).binding := by
          rw [committed_bindings]
          exact Dict.get_set_self _ _ _
        unfold undone
        rw [if_pos rfl, withoutSession_leases bound]
        rfl
      · rw [cleared, withoutSession_bindings]
        simp only [sameRoot, Dict.get_erase, Dict.get_set]
        split <;> rfl
    | @cross _ resolved fault nextRuntime made crosses tentative =>
      obtain rfl := Option.some.inj tentative
      have leases := @withdrawn_leases _ _ entry leaseId sound resolved made
      refine ⟨fun identity => ?_, fun id => ?_, fun session => ?_⟩
      · rw [withoutSession_runtime]
        refine retires.created_runtime crosses.source ?_ runtimes ?_ identity
        · exact retirementOf_crossRoot entry leaseId resolved made
        · intro absent
          refine references_eq_zero.mpr fun id lease found here => ?_
          have older := withoutSession_lease ((leases id).symm.trans found)
          obtain ⟨host, hostFound, _⟩ := sound.hosted older
          rw [here, absent] at hostFound
          cases hostFound
      · rw [retires.leases]
        exact leases id
      · rw [retires.bindings, cleared, withoutSession_bindings]
        simp only [crossRoot, withLease_bindings, Dict.get_erase, Dict.get_set]
        split <;> rfl

theorem commits (tracks : Tracks entry leaseId (.committed prepared (.ok prepared.binding))
      registry) : Commits entry leaseId prepared registry := by
  cases tracks with
  | same _ _ tentative | cross _ tentative => cases tentative
  | @committed _ before tracks =>
    have kept : ∀ {identity}, (before.committed prepared).runtimes.get identity ≠ none →
        before.runtimes.get identity ≠ none := by
      intro identity retained absent
      have same := @committed_runtime _ _ _ _ _ _ before prepared identity
      rw [absent, Option.map_none, Option.map_eq_none_iff] at same
      exact retained same
    cases tracks with
    | @same _ resolved old there root tentative =>
      obtain rfl := Option.some.inj tentative
      refine ⟨?_, fun {id lease} found => ?_, .inr ⟨old, there, rfl⟩,
        fun retained => Or.inl (kept retained), ?_⟩
      · rw [committed_bindings]
        rfl
      · rw [committed_leases] at found
        by_cases own : id = old.lease.id
        · exact .inl own
        · refine .inr ⟨found, fun other otherFound => ?_⟩
          rw [there] at otherFound
          cases otherFound
          exact own
      · rw [committed_nextUuid]
    | @cross _ resolved fault nextRuntime made crosses tentative =>
      obtain rfl := Option.some.inj tentative
      refine ⟨?_, fun {id lease} found => ?_, .inl rfl, fun {identity} retained => ?_, ?_⟩
      · rw [committed_bindings]
        rfl
      · rw [committed_leases] at found
        have fresh : ∀ {id lease}, (entry.withLease resolved.identity made).leases.get id =
            some lease → id ≠ entry.nextUuid → entry.leases.get id = some lease := by
          intro id lease found different
          rwa [withLease_leases, Dict.get_set_of_ne _ _ different] at found
        by_cases own : id = entry.nextUuid
        · exact .inl own
        · refine .inr ?_
          cases there : entry.bindings.get leaseId with
          | none =>
            simp only [crossRoot, there] at found
            exact ⟨fresh found own, by simp⟩
          | some old =>
            simp only [crossRoot, there, if_true, Dict.get_erase] at found
            obtain ⟨different, found⟩ := Option.ite_none_left_eq_some.mp found
            refine ⟨fresh found own, ?_⟩
            rintro _ ⟨⟩
            exact different
      · have before := kept retained
        by_cases here : identity = resolved.identity
        · exact .inr here
        · rw [withLease_runtimes, Dict.get_set_of_ne _ _ here] at before
          exact .inl before
      · rw [committed_nextUuid]
        exact Nat.le_succ _

end Tracks

/-! ### The invariant -/

namespace Stores

/-- The lock holder's registry is tracked from the one it found, which was in order. -/
structure Tracked (stores : Stores Identity Time) : Prop where
  tracks : ∀ {activation}, stores.holder = some activation →
    Tracks activation.registryAtEntry activation.leaseId activation.phase stores.registry
  sound : ∀ {activation}, stores.holder = some activation → activation.registryAtEntry.Sound
  tidy : ∀ {activation}, stores.holder = some activation → Tidy activation.registryAtEntry

variable {settings : LeaseSettings Time} {self after : Stores Identity Time}
  {label : StoresLabel Identity Time}
  {effect : Effect Identity Time} {activation : Activation Identity Time}
  {prepared : Prepared Identity}

theorem Tracked.init : (Stores.init : Stores Identity Time).Tracked :=
  ⟨by simp [Stores.init], by simp [Stores.init], by simp [Stores.init]⟩

theorem Tracked.vacant (free : self.holder = none) : self.Tracked :=
  ⟨by simp [free], by simp [free], by simp [free]⟩

theorem Tracked.pass (tracked : self.Tracked) (holder : after.holder = self.holder)
    (registry : after.registry = self.registry) : after.Tracked :=
  ⟨fun holds => registry ▸ tracked.tracks (holder ▸ holds),
    fun holds => tracked.sound (holder ▸ holds), fun holds => tracked.tidy (holder ▸ holds)⟩

/-- The activation goes to its next phase. -/
theorem Tracked.follow (tracked : self.Tracked) (holds : self.holder = some activation)
    {phase : Phase Identity} (holder : after.holder = some { activation with phase })
    (tracks : Tracks activation.registryAtEntry activation.leaseId phase after.registry) :
    after.Tracked := by
  have sound := tracked.sound holds
  have tidy := tracked.tidy holds
  refine ⟨fun {other} found => ?_, fun {other} found => ?_, fun {other} found => ?_⟩ <;>
    obtain rfl := Option.mem_unique holder found
  · exact tracks
  · exact sound
  · exact tidy

/-- A thread that was left alone does not change the registry. -/
def Steady (self : Stores Identity Time) (label : StoresLabel Identity Time)
    (after : Stores Identity Time) : Prop :=
  ∀ index fault, label = .threadOrphan index fault → after.registry = self.registry

/-- **Every move that no abandoned thread disturbs keeps the registry tracked.** -/
theorem Moves.tracked (moves : Moves settings self label after effect) (base : self.Base)
    (steady : Steady self label after) (tracked : self.Tracked) : after.Tracked := by
  cases moves with
  | issued _ _ | checked _ _ | lapsed _ | queued _ | cancelledWaiting => exact tracked.pass rfl rfl
  | cleaned free _ _ | applied free _ _ _ _ _ _ => exact .vacant free
  | entered free _ _ =>
    refine ⟨?_, ?_, ?_⟩ <;> rintro _ ⟨⟩
    · exact .preparing
    · exact base.registry
    · exact base.leased.tidy
  | preparedSame holds phase there same =>
    refine tracked.follow holds rfl ?_
    have tracks := tracked.tracks holds
    rw [phase] at tracks
    obtain entry := tracks.of_preparing
    exact entry ▸ .same (entry ▸ there) same rfl
  | preparedCross holds phase crosses =>
    refine tracked.follow holds rfl ?_
    have tracks := tracked.tracks holds
    rw [phase] at tracks
    obtain entry := tracks.of_preparing
    exact entry ▸ .cross crosses rfl
  | preparedFault holds phase =>
    refine tracked.follow holds rfl ?_
    have tracks := tracked.tracks holds
    rw [phase] at tracks
    obtain entry := tracks.of_preparing
    exact entry ▸ .faulted
  | resumed holds phase | committing holds phase _ =>
    refine tracked.follow holds rfl ((tracked.tracks holds).advance ?_ rfl)
    rw [phase]
    rfl
  | refused _ _ | failed _ _ _ | expired _ _ _ _ _ | rebound _ _ _ _ _ | cancelledActivation _ => exact .vacant rfl
  | committed holds phase _ =>
    refine tracked.follow holds rfl (.committed ?_)
    rw [← phase]
    exact tracked.tracks holds
  | overtaken holds phase stale =>
    exact absurd ((tracked.tracks holds).current (by rw [phase]; rfl)) stale
  | orphanPrepared _ _ | orphanCommitted _ _ => exact tracked.pass rfl (steady _ _ rfl)

/-- The registry is tracked, and no thread was left alone. -/
structure Undisturbed (stores : Stores Identity Time) : Prop where
  tracked : stores.Tracked
  orphans : stores.orphans = []

theorem Undisturbed.init : (Stores.init : Stores Identity Time).Undisturbed := ⟨.init, rfl⟩

/-- No abandoned thread is there to change the registry. -/
theorem Undisturbed.steady (undisturbed : self.Undisturbed)
    (moves : Moves settings self label after effect) : Steady self label after := by
  rintro index fault rfl
  cases moves with
  | orphanPrepared orphan _ | orphanCommitted orphan _ =>
    rw [undisturbed.orphans] at orphan
    cases orphan
  | failed _ failing _ => exact absurd rfl (failing.own.2.1 index fault)
  | expired _ checking _ _ _ => exact absurd rfl (checking.own.2.1 index fault)

/-- **Without cancellation the registry stays tracked.** -/
theorem Moves.undisturbed (moves : Moves settings self label after effect) (base : self.Base)
    (quiet : label.cancels = false) (undisturbed : self.Undisturbed) : after.Undisturbed := by
  refine ⟨moves.tracked base (undisturbed.steady moves) undisturbed.tracked, ?_⟩
  cases moves with
  | cancelledActivation _ => cases quiet
  | orphanPrepared orphan _ | orphanCommitted orphan _ =>
    rw [undisturbed.orphans] at orphan
    cases orphan
  | _ => exact undisturbed.orphans

end Stores

end SerenaLight.Daemon
