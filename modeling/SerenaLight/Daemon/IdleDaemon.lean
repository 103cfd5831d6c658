/-
**An idle daemon has stopped its runtimes.**

`daemon_idle` asks the lifecycle and the pending runtimes. A runtime that the service made and
committed or discarded is in the registry, or in the hands of the stops (`StopState.Handles`), and
without cancellation it is never lost. Two places are not seen by `daemon_idle`: a target that waits
for the stop lock, and a runtime that an activation has committed and not yet bound to its lease.

* `Moves.retains`: a runtime leaves the registry only as a target.
* `Stores.Numbered`: a new runtime is none of those settled before.
* `idle_runtimes_stopped`: at a point where neither blind spot is occupied, an idle daemon has
  stopped every runtime.
* `idle_runtime_waits`: the daemon is idle while a runtime waits for the stop lock.
* `Service.runtimes_kept`: no runtime is lost but with a coroutine that waits for the stop lock.
-/

import SerenaLight.Daemon.RetainedRuntimes
import SerenaLight.Daemon.Stops

set_option linter.unusedSectionVars false

namespace SerenaLight.Daemon

open Foundation Workspace WorkspaceRuntimeRegistry

variable {Identity Time : Type}
variable [DecidableEq Identity] [LinearOrder Time] [Add Time] [Zero Time]

/-! ### Runtimes leave the registry as targets -/

variable {identity : Identity} {runtime : RuntimeId}

variable {before after : Registry Identity} {targets : List RuntimeId}

theorem Applies.retains {decisions : List (Decision Identity Time)}
    (applies : Applies before decisions targets after) (retains : Retains before identity runtime) :
    Retains after identity runtime ∨ runtime ∈ targets := by
  obtain ⟨entry, found, rfl⟩ := retains
  cases there : after.runtimes.get identity with
  | none => exact .inr (applies.target_of_gone found there)
  | some kept =>
    obtain ⟨old, oldFound, same⟩ := applies.runtime_of_after there
    rw [found] at oldFound
    cases oldFound
    exact .inl ⟨kept, there, same.symm⟩

theorem Retires.retains {request : Option (Identity × RuntimeId)}
    (retires : Retires before request targets after) (retains : Retains before identity runtime) :
    Retains after identity runtime ∨ runtime ∈ targets := by
  obtain ⟨entry, found, rfl⟩ := retains
  cases there : after.runtimes.get identity with
  | none => exact .inr (retires.target_of_gone found there)
  | some kept =>
    have same := retires.runtime_of_after there
    rw [found] at same
    cases same
    exact .inl ⟨_, there, rfl⟩

variable {registry : Registry Identity} {leaseId : Uuid} {prepared : Prepared Identity}

theorem retains_undone {committed : Bool} (retains : Retains registry identity runtime) :
    Retains (undone registry leaseId prepared committed) identity runtime :=
  retains.congr (undone_runtime registry leaseId prepared committed identity)

namespace Stores

variable {settings : LeaseSettings Time} {self after : Stores Identity Time}
  {label : StoresLabel Identity Time} {effect : Effect Identity Time}

/-- **A runtime that leaves the registry is a target.** -/
theorem Moves.retains (moves : Moves settings self label after effect) {identity : Identity}
    {runtime : RuntimeId} (retains : Retains self.registry identity runtime) :
    Retains after.registry identity runtime ∨ runtime ∈ effect.targets := by
  cases moves with
  | cleaned _ _ applies | applied _ _ _ _ applies _ _ => exact applies.retains retains
  | preparedCross _ _ crosses => exact .inl (retains.withLease crosses)
  | failed _ _ retires => exact retires.retains (retains_undone retains)
  | expired _ _ _ retires applies =>
    rcases retires.retains (retains_undone retains) with kept | discarded
    · exact (applies.retains kept).imp_right (List.mem_append_right _)
    · exact .inr (List.mem_append_left _ discarded)
  | committed _ _ _ =>
    exact .inl (retains.congr (committed_runtime _ identity))
  | overtaken _ _ _ =>
    exact .inl (retains.congr (aborted_runtime _ identity))
  | orphanPrepared _ outcome =>
    rcases outcome with rfl | ⟨_, crosses, rfl⟩
    · exact .inl retains
    · exact .inl (retains.withLease crosses)
  | orphanCommitted _ outcome =>
    rcases outcome with ⟨_, rfl⟩ | ⟨_, rfl⟩
    · exact .inl (retains.congr (committed_runtime _ identity))
    · exact .inl (retains.congr (aborted_runtime _ identity))
  | _ => exact .inl retains

/-- A candidate that is settled now was settled before, or the registry has its runtime. -/
theorem Moves.settles (moves : Moves settings self label after effect) (base : self.Base)
    (member : prepared ∈ after.settled) :
    prepared ∈ self.settled ∨
      Retains self.registry prepared.binding.identity prepared.binding.runtime := by
  cases moves with
  | failed holds failing _ =>
    rcases List.mem_cons.mp member with rfl | earlier
    · exact .inr (base.candidate holds (uncommitted_candidate failing.uncommitted))
    · exact .inl earlier
  | expired holds checking _ _ _ =>
    rcases List.mem_cons.mp member with rfl | earlier
    · exact .inr (base.candidate holds checking.candidate.1)
    · exact .inl earlier
  | committed holds phase _ =>
    rcases List.mem_cons.mp member with rfl | earlier
    · exact .inr (base.candidate holds (by rw [phase]; rfl))
    · exact .inl earlier
  | _ => exact .inl member

/-! ### New runtimes are new -/

theorem retains_withLease_cases {place identity : Identity} {entry : RuntimeEntry RuntimeId}
    {fault : Option Fault} {session : Uuid} {nextRuntime runtime : RuntimeId}
    (crosses : Crosses registry fault nextRuntime session place entry)
    (retains : Retains (registry.withLease place entry) identity runtime) :
    Retains registry identity runtime ∨ runtime = nextRuntime := by
  obtain ⟨found, there, rfl⟩ := retains
  rw [withLease_runtimes, Dict.get_set] at there
  split at there
  · rename_i same
    cases there
    rcases crosses.source with old | ⟨_, _, new, _⟩
    · exact .inl ⟨entry, same ▸ old, rfl⟩
    · exact .inr new
  · exact .inl ⟨found, there, rfl⟩

/-- A runtime of the registry was there before, or is the next one. -/
theorem Moves.numbers (moves : Moves settings self label after effect) :
    self.nextRuntime ≤ after.nextRuntime ∧
      ∀ {identity runtime}, Retains after.registry identity runtime →
        Retains self.registry identity runtime ∨
          runtime = self.nextRuntime ∧ after.nextRuntime = self.nextRuntime + 1 := by
  have applied : ∀ {before next : Registry Identity} {decisions : List (Decision Identity Time)}
      {targets identity runtime}, Applies before decisions targets next →
      Retains next identity runtime → Retains before identity runtime := by
    rintro before next decisions targets identity _ applies ⟨entry, found, rfl⟩
    exact applies.runtime_of_after found
  have retired : ∀ {leaseId : Uuid} {prepared : Prepared Identity} {committed : Bool}
      {next : Registry Identity} {request targets identity runtime},
      Retires (undone self.registry leaseId prepared committed) request targets next →
      Retains next identity runtime → Retains self.registry identity runtime := by
    rintro leaseId prepared committed next request targets identity _ retires ⟨entry, found, rfl⟩
    exact Retains.congr ⟨entry, retires.runtime_of_after found, rfl⟩
      (undone_runtime self.registry leaseId prepared committed identity).symm
  cases moves with
  | cleaned _ _ applies => exact ⟨le_rfl, fun retains => Or.inl (applied applies retains)⟩
  | applied _ _ _ _ applies _ _ =>
    exact ⟨le_rfl, fun retains => Or.inl (applied applies retains)⟩
  | preparedSame _ _ _ _ | preparedFault _ _ => exact ⟨Nat.le_succ _, .inl⟩
  | preparedCross _ _ crosses =>
    exact ⟨Nat.le_succ _, fun retains =>
      (retains_withLease_cases crosses retains).imp_right fun new => ⟨new, rfl⟩⟩
  | failed _ _ retires => exact ⟨le_rfl, fun retains => Or.inl (retired retires retains)⟩
  | expired _ _ _ retires applies =>
    exact ⟨le_rfl, fun retains => Or.inl (retired retires (applied applies retains))⟩
  | committed _ _ _ =>
    exact ⟨le_rfl, fun retains => Or.inl (retains.congr (committed_runtime _ _).symm)⟩
  | overtaken _ _ _ =>
    exact ⟨le_rfl, fun retains => Or.inl (retains.congr (aborted_runtime _ _).symm)⟩
  | orphanPrepared _ outcome =>
    refine ⟨Nat.le_succ _, fun retains => ?_⟩
    rcases outcome with rfl | ⟨_, crosses, rfl⟩
    · exact .inl retains
    · exact (retains_withLease_cases crosses retains).imp_right fun new => ⟨new, rfl⟩
  | orphanCommitted _ outcome =>
    refine ⟨le_rfl, fun retains => Or.inl ?_⟩
    rcases outcome with ⟨_, rfl⟩ | ⟨_, rfl⟩
    · exact retains.congr (committed_runtime _ _).symm
    · exact retains.congr (aborted_runtime _ _).symm
  | _ => exact ⟨le_rfl, .inl⟩

/-- The runtimes are numbered, and a new runtime that is not settled yet is none of the settled. -/
structure Numbered (stores : Stores Identity Time) : Prop where
  retained : ∀ {identity runtime}, Retains stores.registry identity runtime →
    runtime < stores.nextRuntime
  settled : ∀ {prepared}, prepared ∈ stores.settled →
    prepared.binding.runtime < stores.nextRuntime
  apart : ∀ {activation prepared other}, stores.holder = some activation →
    activation.phase.uncommitted = some prepared → prepared.candidateRuntimeCreated = true →
    other ∈ stores.settled → other.binding.runtime ≠ prepared.binding.runtime

theorem Numbered.init : (Stores.init : Stores Identity Time).Numbered :=
  ⟨by simp [Retains, Stores.init, WorkspaceRuntimeRegistry.init], by simp [Stores.init],
    by simp [Stores.init]⟩

theorem Moves.apart (moves : Moves settings self label after effect) (numbered : self.Numbered)
    {activation : Activation Identity Time} {other : Prepared Identity}
    (holds : after.holder = some activation)
    (uncommitted : activation.phase.uncommitted = some prepared)
    (created : prepared.candidateRuntimeCreated = true) (member : other ∈ after.settled) :
    other.binding.runtime ≠ prepared.binding.runtime := by
  cases moves with
  | cleaned free _ _ | applied free _ _ _ _ _ _ => exact absurd (free.symm.trans holds) (by simp)
  | entered _ _ _ | preparedFault _ _ | committed _ _ _ =>
    cases holds
    cases uncommitted
  | preparedSame _ _ _ _ =>
    cases holds
    cases uncommitted
    cases created
  | @preparedCross _ resolved entry _ _ _ crosses =>
    cases holds
    cases uncommitted
    rcases crosses.source with old | ⟨_, _, new, _⟩
    · simp [crossRoot, Dict.contains, old] at created
    · intro same
      exact absurd (same.trans new) (Nat.ne_of_lt (numbered.settled member))
  | resumed held phase | committing held phase _ | overtaken held phase _ =>
    cases holds
    exact numbered.apart held (by rw [phase]; exact uncommitted) created member
  | refused _ _ | failed _ _ _ | expired _ _ _ _ _ | rebound _ _ _ _ _ | cancelledActivation _ => cases holds
  | _ => exact numbered.apart holds uncommitted created member

theorem Moves.numbered (moves : Moves settings self label after effect) (base : self.Base)
    (numbered : self.Numbered) : after.Numbered := by
  obtain ⟨grows, origin⟩ := moves.numbers
  refine ⟨fun retains => ?_, fun member => ?_, fun holds => moves.apart numbered holds⟩
  · rcases origin retains with before | ⟨rfl, next⟩
    · exact lt_of_lt_of_le (numbered.retained before) grows
    · exact next ▸ Nat.lt_succ_self _
  · rcases moves.settles base member with before | retains
    · exact lt_of_lt_of_le (numbered.settled before) grows
    · exact lt_of_lt_of_le (numbered.retained retains) grows

end Stores

/-! ### The idle daemon -/

/-- An activation holds the binding lock that has committed a new runtime and not yet bound it. -/
def Stores.publishing (stores : Stores Identity Time) : Bool :=
  stores.holder.any fun activation => match activation.phase with
    | .committed prepared (.ok _) => prepared.candidateRuntimeCreated
    | _ => false

/-- A `_stop_runtimes` call waits for the stop lock with runtimes to stop. -/
def StopState.queuing (stops : StopState Identity Time) : Bool :=
  stops.waiters.any fun call => !call.targets.isEmpty

/-- **Nothing is lost**: every runtime that was made and settled is in the registry or with the
stops. -/
structure Custody (stores : Stores Identity Time) (stops : StopState Identity Time) : Prop where
  regular : stores.Regular
  hosted : Hosted stores.lifecycle stores.ledger
  numbered : stores.Numbered
  gathers : stops.Gathers
  kept : ∀ {prepared}, prepared ∈ stores.settled →
    (∃ identity, Retains stores.registry identity prepared.binding.runtime) ∨
      stops.Handles prepared.binding.runtime

theorem Custody.init : Custody (Stores.init : Stores Identity Time) .init where
  regular := .init
  hosted := by simp [Hosted, Stores.ledger, Stores.init, WorkspaceRuntimeRegistry.init]
  numbered := .init
  gathers := .init
  kept := by simp [Stores.init]

variable {stops : StopState Identity Time}

theorem Custody.moved {settings : LeaseSettings Time} {stores next : Stores Identity Time}
    {label : StoresLabel Identity Time} {effect : Effect Identity Time}
    (custody : Custody stores stops) (base : stores.Base) (quiet : label.cancels = false)
    (timely : stores.timely settings label = true)
    (moves : Stores.Moves settings stores label next effect) :
    Custody next (stops.proceed effect) where
  regular := moves.regular base quiet custody.regular
  hosted := moves.hosted base quiet timely custody.regular custody.hosted
  numbered := moves.numbered base custody.numbered
  gathers := custody.gathers.proceed effect
  kept := by
    have retained : ∀ {identity runtime}, Retains stores.registry identity runtime →
        (∃ identity, Retains next.registry identity runtime) ∨
          (stops.proceed effect).Handles runtime := fun retains =>
      (moves.retains retains).imp (fun kept => ⟨_, kept⟩)
        (fun target => StopState.handles_proceed (.inl target))
    intro prepared member
    rcases moves.settles base member with before | retains
    · rcases custody.kept before with ⟨_, retains⟩ | handles
      · exact retained retains
      · exact .inr (StopState.handles_proceed (.inr handles))
    · exact retained retains

/-- Beyond an empty ledger the registry has at most a runtime that the activation made. -/
theorem Tracks.beyond {entry : Registry Identity} {phase : Phase Identity}
    (tracks : Tracks entry leaseId phase registry) (bare : ∀ place, entry.runtimes.get place = none)
    (there : registry.runtimes.get identity ≠ none) :
    ∃ held, phase.candidate = some held ∧ held.candidateRuntimeCreated = true ∧
      held.binding.identity = identity ∧
      (phase.uncommitted = some held ∨ phase = .committed held (.ok held.binding)) := by
  induction tracks with
  | preparing | faulted | same _ _ _ => exact absurd (bare identity) there
  | cross crosses tentative =>
    rw [withLease_runtimes, Dict.get_set] at there
    split at there
    · rename_i here
      have uncommitted := tentative_uncommitted tentative
      exact ⟨_, Stores.uncommitted_candidate uncommitted,
        by simp [crossRoot, Dict.contains, bare], here.symm, .inl uncommitted⟩
    · exact absurd (bare identity) there
  | @committed prepared registry before ih =>
    have earlier : registry.runtimes.get identity ≠ none := by
      intro absent
      have same := @committed_runtime _ _ _ _ _ _ registry prepared identity
      rw [absent, Option.map_none] at same
      exact there (Option.map_eq_none_iff.mp same)
    obtain ⟨held, candidate, created, here, _⟩ := ih earlier
    cases candidate
    exact ⟨prepared, rfl, created, here, .inr rfl⟩

/-- **What the registry still has, no settled activation made**, when the lifecycle is idle and
nobody is publishing. -/
theorem Custody.unsettled {stores : Stores Identity Time} (custody : Custody stores stops)
    (base : stores.Base) (idle : ∀ identity, stores.lifecycle.workspaces.get identity = none)
    (quiet : stores.publishing = false) (member : prepared ∈ stores.settled) (identity : Identity) :
    ¬Retains stores.registry identity prepared.binding.runtime := by
  rintro ⟨entry, found, same⟩
  have bare : ∀ place, stores.ledger.runtimes.get place = none := fun place => by
    by_contra there
    exact custody.hosted place there (idle place)
  cases holds : stores.holder with
  | none =>
    have absent := bare identity
    rw [Stores.ledger_of_free holds, found] at absent
    cases absent
  | some activation =>
    rw [Stores.ledger_of_holder holds] at bare
    have tracks := custody.regular.undisturbed.tracked.tracks holds
    have there : stores.registry.runtimes.get identity ≠ none := by simp [found]
    obtain ⟨held, candidate, created, rfl, moment⟩ := tracks.beyond bare there
    obtain ⟨other, otherFound, otherSame⟩ := base.candidate holds candidate
    rw [found] at otherFound
    cases otherFound
    rcases moment with uncommitted | phase
    · exact custody.numbered.apart holds uncommitted created member (same.symm.trans otherSame)
    · simp [Stores.publishing, holds, phase, created] at quiet

/-! ### Runs of the service -/

/-- **An idle daemon has stopped its runtimes.** In a run without cancellation whose sections are
all timely, wherever `daemon_idle` is true, nobody publishes a new runtime and no `_stop_runtimes`
call waits with targets, the stopper of every runtime that an activation made, and committed or
discarded, has returned. -/
theorem idle_runtimes_stopped (settings : LeaseSettings Time) {state : Service Identity Time}
    (reached : Reaches (Service.step settings)
      (fun service label => service.timely settings label = true) Service.init state)
    (idle : state.daemonIdle = true) (bound : state.stores.publishing = false)
    (served : state.stops.queuing = false) :
    ∀ prepared ∈ state.stores.settled, prepared.candidateRuntimeCreated = true →
      prepared.binding.runtime ∈ state.stops.stopped := by
  obtain ⟨base, custody⟩ := Service.invariant settings Custody
    (fun stores _ label => label.cancels = false ∧ stores.timely settings label = true)
    (fun _ _ _ permitted drives => Service.timely_storesLabel permitted drives)
    .init (fun base custody permitted moves => custody.moved base permitted.1 permitted.2 moves)
    (fun _ _ _ waiters _ => ⟨rfl, by simp [Stores.timely, waiters]⟩)
    (fun {service label stops} permitted _ custody turns => by
      rw [Service.timely, Bool.and_eq_true, Bool.not_eq_true'] at permitted
      exact { custody with
        gathers := custody.gathers.turns turns
        kept := fun member => (custody.kept member).imp_right fun handles =>
          handles.turns custody.gathers turns permitted.1 }) reached
  intro prepared member _
  rw [Service.daemonIdle, LeaseLifecycle.daemonIdle, Bool.and_eq_true, Bool.and_eq_true,
    List.isEmpty_iff, List.isEmpty_iff, List.isEmpty_iff] at idle
  have forgotten := Dict.get_of_empty idle.1.2
  rcases custody.kept member with ⟨identity, retains⟩ | pending | stopped | ⟨call, waits, target⟩
  · exact absurd retains (custody.unsettled base forgotten bound member identity)
  · rw [idle.2] at pending
    cases pending
  · exact stopped
  · have none := List.any_eq_false.mp served call waits
    rw [Bool.not_eq_true, Bool.not_eq_false', List.isEmpty_iff] at none
    rw [none] at target
    cases target

/-- A lease is released at once, and the stopper of its runtime returns. -/
theorem idle_runtimes_stopped_release : ∃ state : Service Nat Nat,
    state.daemonIdle = true ∧ ∃ prepared ∈ state.stores.settled,
      prepared.candidateRuntimeCreated = true ∧
        prepared.binding.runtime ∈ state.stops.stopped := by
  obtain ⟨state, reached, idle, bound, served, prepared, member, created⟩ := Reaches.of_run
    (Service.step LeaseSettings.default)
    (fun state label => Service.timely LeaseSettings.default state label = true) Service.init
    ([.spawn .acquireLease 0] ++ Service.activationRun 0 1 7 0 ++
      [.spawn (.releaseLease (some 0) true) 1, .stopperReturned 0 true, .resumeStop])
    (fun state => state.daemonIdle = true ∧ state.stores.publishing = false ∧
      state.stops.queuing = false ∧
      ∃ prepared ∈ state.stores.settled, prepared.candidateRuntimeCreated = true)
    (by decide +kernel)
  exact ⟨state, idle, prepared, member, created,
    idle_runtimes_stopped LeaseSettings.default reached idle bound served prepared member created⟩

/-- **The daemon is idle while a runtime waits for the stop lock.** Two leases on two roots are
released at once one after the other; the second waits for the stop lock until the first runtime is
stopped, and then neither the lifecycle nor the pending runtimes know its runtime. -/
theorem idle_runtime_waits : ∃ state : Service Nat Nat,
    Service.Uncancelled LeaseSettings.default state ∧ state.daemonIdle = true ∧
      ∃ prepared ∈ state.stores.settled, prepared.candidateRuntimeCreated = true ∧
        prepared.binding.runtime ∉ state.stops.stopped := by
  exact Reaches.of_run _ _ _
    ([.spawn .acquireLease 0, .spawn .acquireLease 0] ++ Service.activationRun 0 2 7 0 ++
      Service.activationRun 1 3 8 0 ++
      [.spawn (.releaseLease (some 0) true) 1, .spawn (.releaseLease (some 1) true) 1,
        .stopperReturned 0 true, .resumeStop]) _ (by decide +kernel)

/-! ### Cancelled tasks -/

/-- The step cancels a coroutine that waits for the stop lock. -/
def Label.dropsStop : Label Identity Time → Bool
  | .cancelStopWaiting _ => true
  | _ => false

/-- The registry has the runtime, or the stops have it. -/
def Service.Keeps (service : Service Identity Time) (identity : Identity) (runtime : RuntimeId) :
    Prop :=
  Retains service.stores.registry identity runtime ∨ service.stops.Handles runtime

/-- The runtimes of a batch stay pending when its coroutine is cancelled. -/
theorem StopState.Handles.kept {stops next : StopState Identity Time} {label : Label Identity Time}
    (handles : stops.Handles runtime) (gathers : stops.Gathers) (turns : stops.Turns label next)
    (waits : label.dropsStop = false) : next.Handles runtime := by
  have same := turns
  cases turns with
  | waits | answered _ => exact handles
  | returned _ | resumed _ | granted _ => exact handles.turns gathers same rfl
  | cancelled taken =>
    unfold cancelHolder at taken
    split at taken
    · cases taken
      exact handles
    · cases taken
  | cancelledWaiting _ => cases waits

namespace Service

variable {settings : LeaseSettings Time} {before after : Service Identity Time}

theorem Keeps.step {label : Label Identity Time} (keeps : before.Keeps identity runtime)
    (base : before.stores.Base) (gathers : before.stops.Gathers) (waits : label.dropsStop = false)
    (taken : step settings before label = some after) : after.Keeps identity runtime := by
  have moved : ∀ {stores next : Stores Identity Time} {driven effect},
      Stores.Moves settings stores driven next effect →
      Retains stores.registry identity runtime ∨ before.stops.Handles runtime →
      Retains next.registry identity runtime ∨ (before.stops.proceed effect).Handles runtime := by
    rintro stores next driven effect moves (retains | handles)
    · exact (moves.retains retains).imp_right fun target => StopState.handles_proceed (.inl target)
    · exact .inr (StopState.handles_proceed (.inr handles))
  rcases step_turns settings taken with ⟨driven, -, plain, effect, stepped, stops⟩ | ⟨stores, turns⟩
  · rw [Keeps, stops]
    rcases Stores.step_moves settings base plain stepped with moves |
      ⟨middle, now, -, queued, _, _, -, -, served⟩
    · exact moved moves keeps
    · exact moved served (moved queued keeps)
  · rw [Keeps, stores]
    exact keeps.imp_right fun handles => handles.kept gathers turns waits

/-- **The service loses no runtime**, whatever else is cancelled, as long as no coroutine is cancelled
that waits for the stop lock. -/
theorem runtimes_kept (reached : Reaches (step settings) (fun _ _ => True) init before)
    (later : Reaches (step settings) (fun _ label => label.dropsStop = false) before after)
    (keeps : before.Keeps identity runtime) : after.Keeps identity runtime := by
  refine (@Reaches.invariant _ _ _ _ _ (fun service => Reaches (step settings) (fun _ _ => True) init
    service ∧ service.Keeps identity runtime) ⟨reached, keeps⟩ ?_ _ later).2
  rintro service label next ⟨reached, keeps⟩ waits taken
  obtain ⟨base, gathers⟩ := invariant settings (fun _ stops => stops.Gathers) (fun _ _ _ => True)
    (fun _ _ _ _ _ => trivial) .init (fun _ gathers _ _ => gathers.proceed _)
    (fun _ _ _ _ _ => trivial) (fun _ _ gathers turns => gathers.turns turns) reached
  exact ⟨.step reached trivial taken, keeps.step base gathers waits taken⟩

/-- The release of a lease whose stopper raises and whose coroutine is then cancelled. -/
theorem runtimes_kept_cancelled : ∃ state : Service Nat Nat, state.Keeps 7 0 := by
  obtain ⟨before, reached, pending⟩ := Reaches.of_run (step LeaseSettings.default) (fun _ _ => True)
    init ([.spawn .acquireLease 0] ++ activationRun 0 1 7 0 ++
      [.spawn (.releaseLease (some 0) true) 1]) (fun state => 0 ∈ state.stops.pending ∧
        (follow (step LeaseSettings.default) (fun _ label => decide (label.dropsStop = false)) state
          [.stopperReturned 0 false, .cancelStop]).isSome = true) (by decide +kernel)
  obtain ⟨after, followed⟩ := Option.isSome_iff_exists.mp pending.2
  exact ⟨after, runtimes_kept reached ((Reaches.of_follow _ followed).mono fun _ _ =>
    of_decide_eq_true) (.inr (.inl pending.1))⟩

end Service

end SerenaLight.Daemon
