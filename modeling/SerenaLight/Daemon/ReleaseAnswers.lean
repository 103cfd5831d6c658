/-
**What a release answers.**

`release_lease` and `release_workspace` answer `runtime_stopped` and `runtime_stop_pending` from the
lifecycle's decision and from `_stop_runtimes`, which is given what the registry detached. If the
registry refuses to retire the runtime, the call has no target and everything it was given is
stopped, so the answer says that the runtime is.

* `Returned.Truthful`: the answer's two fields are true of the runtime that the decision names.
* `Stores.unshared`: an immediate release of the last holder finds no other registry lease on the
  root.
* `release_answers_truthful`: in a run where all releases are unshared, every answer is truthful.
* `release_answer_untruthful`: a release while another lease waits for its cleanup.
-/

import SerenaLight.Daemon.Stops

set_option linter.unusedSectionVars false

namespace SerenaLight.Daemon

open Foundation Workspace

variable {Identity Time : Type}
variable [DecidableEq Identity] [LinearOrder Time] [Add Time] [Zero Time]

/-! ### Truthful answers -/

/-- A release that answers `runtime_stopped` detached the runtime of its decision, and the stopper
has returned; one that answers `runtime_stop_pending` returns with that runtime pending. -/
def Returned.Truthful (record : Returned Identity Time) : Prop :=
  ∀ data, record.answer = .released data ∨ record.answer = .workspaceReleased data →
    (data.runtimeStopped = true → ∃ decision runtime, record.decision = some decision ∧
      decision.runtimeToStop = some runtime ∧ runtime ∈ record.detached ∧
        runtime ∈ record.stopped) ∧
    (data.runtimeStopPending = true → ∃ decision runtime, record.decision = some decision ∧
      decision.runtimeToStop = some runtime ∧ runtime ∈ record.pending)

/-- The targets of a release are what its decision names. -/
def StopCall.Names (call : StopCall Identity Time) : Prop :=
  ∀ decision, call.finish.decision = some decision →
    call.targets = decision.runtimeToStop.toList

/-- The two fields come from the decision that the payload reports on. -/
theorem Finish.answer_fields {finish : Finish Identity Time} {stopped : Bool}
    {data : ReleaseData Time} (answered : finish.answer stopped = .released data ∨
      finish.answer stopped = .workspaceReleased data) :
    (data.runtimeStopped, data.runtimeStopPending) = stopFields finish.decision stopped := by
  cases finish with
  | releaseLease _ _ _ =>
    rcases answered with same | same
    · cases same
      rfl
    · cases same
  | releaseWorkspace _ _ _ =>
    rcases answered with same | same
    · cases same
    · cases same
      rfl
  | _ => rcases answered with same | same <;> cases same

theorem stopFields_cases (decision : Option (Decision Identity Time)) (stopped : Bool) :
    ((stopFields decision stopped).1 = true → stopped = true ∧ ∃ made runtime,
      decision = some made ∧ made.runtimeToStop = some runtime) ∧
    ((stopFields decision stopped).2 = true → stopped = false ∧ ∃ made runtime,
      decision = some made ∧ made.runtimeToStop = some runtime) := by
  simp only [stopFields, Bool.and_eq_true, Option.isSome_iff_exists, Option.bind_eq_some_iff,
    Bool.not_eq_true']
  constructor
  · rintro ⟨⟨runtime, made, found, stops⟩, rfl⟩
    exact ⟨rfl, made, runtime, found, stops⟩
  · rintro ⟨⟨runtime, made, found, stops⟩, rfl⟩
    exact ⟨rfl, made, runtime, found, stops⟩

namespace StopState

variable {self after : StopState Identity Time} {label : Label Identity Time}
  {call : StopCall Identity Time}

/-- The records are truthful, and the calls in progress name their targets. -/
structure Honest (stops : StopState Identity Time) : Prop where
  gathers : stops.Gathers
  waiting : ∀ {call}, call ∈ stops.waiters → call.Names
  gathering : ∀ {batch}, stops.holder = some batch → batch.call.Names
  returned : ∀ {record}, record ∈ stops.returned → record.Truthful

theorem Honest.init : (init : StopState Identity Time).Honest :=
  ⟨.init, by simp [StopState.init], by simp [StopState.init], by simp [StopState.init]⟩

theorem Honest.answer (honest : self.Honest) (task : Task) {answer : Answer Identity Time}
    (plain : answer.Plain) : (self.answer task answer).Honest where
  gathers := honest.gathers.answer task answer
  waiting := honest.waiting
  gathering := honest.gathering
  returned := by
    intro record member
    rcases List.mem_cons.mp member with rfl | earlier
    · intro data released
      exact absurd released (not_or.mpr (plain data))
    · exact honest.returned earlier

/-- The record of a call that returns. -/
theorem truthful_conclude {confirmed : Bool} (names : call.Names)
    (stopped : confirmed = true → call.targets ⊆ self.stopped)
    (failed : confirmed = false → ∃ target ∈ call.targets, target ∈ self.pending) :
    Returned.Truthful ⟨call.task, call.finish.answer confirmed, call.finish.decision,
      call.targets, self.pending, self.stopped⟩ := by
  intro data answered
  have fields := Finish.answer_fields answered
  obtain ⟨whenStopped, whenPending⟩ := stopFields_cases call.finish.decision confirmed
  rw [← fields] at whenStopped whenPending
  constructor
  · intro claimed
    obtain ⟨rfl, made, runtime, found, stops⟩ := whenStopped claimed
    have target : runtime ∈ call.targets := by simp [names made found, stops]
    exact ⟨made, runtime, found, stops, target, stopped rfl target⟩
  · intro claimed
    obtain ⟨rfl, made, runtime, found, stops⟩ := whenPending claimed
    obtain ⟨target, member, pending⟩ := failed rfl
    rw [names made found, stops] at member
    exact ⟨made, runtime, found, stops, List.mem_singleton.mp member ▸ pending⟩

theorem Honest.begin (honest : self.Honest) (free : self.holder = none) (names : call.Names) :
    (StopState.begin call self).Honest := by
  have gathers := Gathers.begin free call
  rcases begin_cases call self with ⟨none, begun⟩ | begun
  · rw [begun] at gathers ⊢
    refine ⟨gathers, honest.waiting, honest.gathering, fun member => ?_⟩
    rcases List.mem_cons.mp member with rfl | earlier
    · -- nothing is pending, so the call itself had no target
      have idle : call.targets = [] := List.eq_nil_iff_forall_not_mem.mpr fun target there => by
        have pending := (mem_addPending self.pending call.targets).mpr (.inr there)
        rw [none] at pending
        cases pending
      exact truthful_conclude names (by simp [idle]) (by simp)
    · exact honest.returned earlier
  · rw [begun] at gathers ⊢
    refine ⟨gathers, honest.waiting, ?_, honest.returned⟩
    rintro _ ⟨⟩
    exact names

theorem Honest.stopRuntimes (honest : self.Honest) (names : call.Names) :
    (stopRuntimes call self).Honest := by
  have gathers := honest.gathers.stopRuntimes call
  unfold StopState.stopRuntimes at gathers ⊢
  split
  · rename_i free
    rw [Bool.and_eq_true, Option.isNone_iff_eq_none] at free
    exact honest.begin free.1 names
  · rename_i busy
    rw [if_neg busy] at gathers
    refine ⟨gathers, fun member => ?_, honest.gathering, honest.returned⟩
    rcases List.mem_append.mp member with earlier | here
    · exact honest.waiting earlier
    · rw [List.mem_singleton.mp here]
      exact names

/-- **The steps of the stops keep the answers truthful.** -/
theorem Honest.turns (honest : self.Honest) (turns : self.Turns label after) : after.Honest := by
  have gathers := honest.gathers.turns turns
  cases turns with
  | waits => exact honest
  | answered plain =>
    refine honest.answer _ fun data => ?_
    rcases plain with rfl | rfl | ⟨_, rfl⟩ <;> simp
  | returned taken =>
    obtain ⟨batch, holds, _, rfl⟩ := stopperReturned_cases taken
    have names := honest.gathering holds
    refine ⟨gathers, honest.waiting, ?_, honest.returned⟩
    rintro _ ⟨⟩
    exact names
  | resumed taken =>
    obtain ⟨batch, holds, gathered, rfl⟩ := resume_cases taken
    refine ⟨gathers, honest.waiting, (by simp [conclude]), fun member => ?_⟩
    rcases List.mem_cons.mp member with rfl | earlier
    · refine truthful_conclude (honest.gathering holds) (fun confirmed target there => ?_)
        (fun refused => ?_)
      · have fine := List.all_eq_true.mp confirmed target there
        rcases honest.gathers.outcome holds gathered (honest.gathers.own holds there) with
          failed | stopped
        · rw [failed] at fine
          cases fine
        · exact stopped
      · obtain ⟨target, there, failed⟩ := List.all_eq_false.mp refused
        refine ⟨target, there, List.mem_filter.mpr ⟨?_, ?_⟩⟩
        · rw [← honest.gathers.pending holds]
          exact honest.gathers.own holds there
        · simpa using Or.inr failed
    · exact honest.returned earlier
  | granted taken =>
    obtain ⟨call, rest, free, first, rfl⟩ := grant_cases taken
    have popped : ({ self with waiters := rest } : StopState Identity Time).Honest :=
      ⟨.vacant free, fun member => honest.waiting (first ▸ List.mem_cons_of_mem _ member),
        honest.gathering, honest.returned⟩
    exact popped.begin free (honest.waiting (first ▸ List.mem_cons_self ..))
  | cancelled taken =>
    unfold cancelHolder at taken
    split at taken
    · cases taken
      have freed : ({ self with holder := none } : StopState Identity Time).Honest :=
        ⟨.vacant rfl, honest.waiting, by simp, honest.returned⟩
      exact freed.answer _ (by simp [Answer.Plain])
    · cases taken
  | @cancelledWaiting task _ taken =>
    unfold cancelWaiting at taken
    obtain ⟨-, ⟨⟩⟩ := Option.ite_none_right_eq_some.mp taken
    have fewer : ({ self with
        waiters := self.waiters.filter fun call => call.task ≠ task } :
          StopState Identity Time).Honest :=
      ⟨⟨honest.gathers.pending, honest.gathers.own, honest.gathers.confirmed⟩,
        fun member => honest.waiting (List.mem_of_mem_filter member), honest.gathering,
        honest.returned⟩
    exact fewer.answer _ (by simp [Answer.Plain])

end StopState

/-! ### Unshared releases -/

namespace Stores

/-- If an immediate release of the lease drops its workspace, then its binding has the only registry
lease on the root. -/
def alone (stores : Stores Identity Time) (leaseId : Uuid) (now : Time) : Bool :=
  (stores.lifecycle.active.get leaseId).all fun lease => lease.binding.all fun binding =>
    (stores.lifecycle.workspaces.get binding.identity).all fun state =>
      decide (¬stores.lifecycle.Releasable leaseId now state) ||
        stores.registry.leases.items.all fun item =>
          decide (item.2.identity = binding.identity → item.1 = binding.lease.id)

/-- The section is no immediate release, or an unshared one. -/
def admits (stores : Stores Identity Time) (now : Time) : Section Identity Time → Bool
  | .releaseLease leaseId true => stores.alone leaseId now
  | .releaseWorkspace leaseId true => stores.alone leaseId now
  | _ => true

/-- An immediate release that the step runs, after a wait or at once, is unshared. -/
def unshared (stores : Stores Identity Time) : StoresLabel Identity Time → Bool
  | .grantBinding now => stores.waiters.head?.all fun waiter => stores.admits now waiter.2
  | .enter _ body now =>
    !(stores.holder.isNone && stores.waiters.isEmpty) || stores.admits now body
  | _ => true

variable {settings : LeaseSettings Time} {self after : Stores Identity Time}
  {label : StoresLabel Identity Time} {effect : Effect Identity Time}

variable {now : Time}

/-- The registry has no other lease on a root that an unshared release drops. -/
theorem alone_lease {leaseId id : Uuid} {identity : Identity}
    {state : WorkspaceState RuntimeId Time} {lease : DaemonLease Identity RuntimeId Time}
    {other : WorkspaceLease Identity RuntimeId} (base : self.Base)
    (alone : self.alone leaseId now = true) (found : self.lifecycle.active.get leaseId = some lease)
    (entry : self.lifecycle.workspaces.get identity = some state)
    (last : self.lifecycle.Releasable leaseId now state)
    (live : self.registry.leases.get id = some other) (here : other.identity = identity) :
    ∃ binding, lease.binding = some binding ∧ binding.lease.id = id := by
  have holder : leaseId ∈ state.holders := by simp [last.1]
  obtain ⟨holding, there, place⟩ := (base.lifecycle.holders entry leaseId).mp holder
  rw [found] at there
  cases there
  obtain ⟨binding, bound, rfl⟩ := Option.map_eq_some_iff.mp place
  simp only [Stores.alone, found, bound, entry, Option.all_some, Bool.or_eq_true,
    decide_eq_true_eq, List.all_eq_true] at alone
  have only := alone.resolve_left (fun never => never last) (id, other) (Dict.mem_items.mpr live)
  exact ⟨binding, bound, (only here).symm⟩

variable {body : Section Identity Time}

/-- **The targets of an unshared release** are what its decision names. -/
theorem names_applied {decisions : List (Decision Identity Time)}
    {lifecycle : Lifecycle Identity Time} {targets : List RuntimeId}
    {registry : Registry Identity} {decision : Decision Identity Time} (base : self.Base)
    (admits : self.admits now body = true)
    (evolves : LeaseLifecycle.Evolves self.lifecycle decisions lifecycle)
    (applies : Applies self.registry decisions targets registry)
    (drops : ∀ {identity state}, self.lifecycle.workspaces.get identity = some state →
      lifecycle.workspaces.get identity = none → Drops settings self.lifecycle now state body)
    (reports : Reports self.lifecycle lifecycle now body decisions decision) :
    targets = decision.runtimeToStop.toList := by
  obtain ⟨leaseId, immediate, lease, isRelease, found, released, firm, _⟩ := reports.origin
  rw [reports.only] at applies evolves
  cases applies with
  | @cons _ middle _ _ _ first _ head tail =>
    cases tail
    rw [List.append_nil]
    cases stops : decision.runtimeToStop with
    | none =>
      have quiet : decision.retirement = none := by
        unfold LeaseLifecycleDecision.retirement
        rw [stops]
        split
        · rename_i stops'
          cases stops'
        · rfl
      rw [quiet] at head
      cases head
      rfl
    | some runtime =>
      obtain ⟨identity, state, place, entry, same, dropped⟩ :=
        evolves.stops (List.mem_singleton_self _) stops
      rw [retirement_eq_some.mpr ⟨place, stops⟩] at head
      cases head with
      | retired _ _ _ => rfl
      | kept busy =>
        exfalso
        obtain ⟨kept, keptFound, keptSame⟩ := (base.shared identity state entry).congr
          (releasedFor_runtime self.registry decision identity)
        have held := busy identity runtime rfl kept keptFound (keptSame.trans same)
        refine absurd (WorkspaceRuntimeRegistry.references_eq_zero.mpr ?_)
          (Nat.pos_iff_ne_zero.mp held)
        -- the release is the last holder's, so no other lease is live on the root
        intro id other live here
        classical
        rw [releasedFor_leases] at live
        obtain ⟨notReleased, live⟩ := Option.ite_none_left_eq_some.mp live
        obtain ⟨rfl, _⟩ := firm (by simp [stops])
        have last : self.lifecycle.Releasable leaseId now state := by
          rcases isRelease with rfl | rfl
          · exact drops entry dropped
          · exact drops entry dropped
        have alone : self.alone leaseId now = true := by
          rcases isRelease with rfl | rfl
          · exact admits
          · exact admits
        obtain ⟨binding, bound, rfl⟩ :=
          alone_lease base alone found entry last live here
        exact notReleased ⟨decision, List.mem_singleton_self _, binding, released.trans bound, rfl⟩

/-- The effect of a move does not spoil the answers. -/
theorem Moves.honest (moves : Moves settings self label after effect) (base : self.Base)
    (unshared : self.unshared label = true) {stops : StopState Identity Time}
    (honest : stops.Honest) : (stops.proceed effect).Honest := by
  have silent : ∀ {task targets finish}, Finish.decision finish = none →
      (stops.proceed (.stops task targets finish : Effect Identity Time)).Honest := by
    intro task targets finish quiet
    refine honest.stopRuntimes fun decision found => ?_
    rw [quiet] at found
    cases found
  cases moves with
  | issued _ _ | cancelledActivation _ | cancelledWaiting => exact honest.answer _ (by simp [Answer.Plain])
  | checked _ plain => exact honest.answer _ plain
  | cleaned _ _ _ | refused _ _ | failed _ _ _ | expired _ _ _ _ _ | rebound _ _ _ _ _ => exact silent rfl
  | applied _ first _ evolves applies drops reports =>
    refine honest.stopRuntimes fun decision found => ?_
    simp only [Stores.unshared, first, List.head?_cons, Option.all_some] at unshared
    exact names_applied base unshared evolves applies drops (reports decision found)
  | _ => exact honest

/-- A coroutine that is served when it enters was asked about then. -/
theorem Moves.unshared_served {middle : Stores Identity Time} {task : Task}
    (moves : Moves settings self label middle .silent) (unshared : self.unshared label = true)
    (free : middle.holder = none) (alone : middle.waiters = [(task, body)])
    (arrives : label.arrival = some now) :
    middle.unshared (.grantBinding now) = true := by
  cases moves with
  | lapsed _ _ =>
    obtain ⟨idle, last⟩ := List.append_eq_singleton_iff.mp alone |>.resolve_right
      (fun swapped => by cases swapped.2)
    simp [Stores.unshared, idle, Stores.admits]
  | queued _ =>
    obtain ⟨idle, last⟩ := List.append_eq_singleton_iff.mp alone |>.resolve_right
      (fun swapped => by cases swapped.2)
    cases arrives
    change self.holder = none at free
    simp only [Stores.unshared, free, idle, Option.isNone_none, List.isEmpty_nil, Bool.and_true,
      Bool.not_true, Bool.false_or] at unshared
    simp only [Stores.unshared, idle, List.nil_append, List.head?_cons, Option.all_some]
    exact unshared
  | _ => cases arrives

end Stores

/-- The releases that the step runs are unshared. -/
def Service.unshared (service : Service Identity Time) (label : Label Identity Time) : Bool :=
  (service.storesLabel label).all service.stores.unshared

/-- **Releases answer the truth.** In a run whose immediate releases are all unshared, every answer
of a release is truthful. -/
theorem release_answers_truthful (settings : LeaseSettings Time) {state : Service Identity Time}
    (reached : Reaches (Service.step settings) (fun service label => service.unshared label = true)
      Service.init state) : ∀ record ∈ state.stops.returned, record.Truthful := by
  obtain ⟨_, honest⟩ := Service.invariant settings (fun _ stops => stops.Honest)
    (fun stores _ label => stores.unshared label = true)
    (fun _ _ _ permitted drives => by simpa [Service.unshared, drives] using permitted) .init
    (fun base honest unshared moves => moves.honest base unshared honest)
    (fun unshared moves free alone arrives => moves.unshared_served unshared free alone arrives)
    (fun _ _ honest turns => honest.turns turns) reached
  exact fun record member => honest.returned member

/-- A lease is released at once, its runtime is stopped, and the answer says so. -/
theorem release_answers_truthful_stopped : ∃ state : Service Nat Nat,
    ∃ record ∈ state.stops.returned, record.Truthful ∧ ∃ data,
      record.answer = .released data ∧ data.runtimeStopped = true := by
  obtain ⟨state, reached, record, member, claimed⟩ := Reaches.of_run
    (Service.step LeaseSettings.default) (fun state label => Service.unshared state label = true)
    Service.init ([.spawn .acquireLease 0] ++ Service.activationRun 0 1 7 0 ++
      [.spawn (.releaseLease (some 0) true) 1, .stopperReturned 0 true, .resumeStop])
    (fun state => ∃ record ∈ state.stops.returned, (match record.answer with
      | .released data => data.runtimeStopped
      | _ => false) = true) (by decide +kernel)
  split at claimed
  · rename_i data answered
    exact ⟨state, record, member,
      release_answers_truthful LeaseSettings.default reached record member, data, answered, claimed⟩
  · cases claimed

/-- **A release answers that it stopped a runtime that it did not detach.** Two leases are on the
root `7`. One expires at a heartbeat while an activation holds the lock, and its cleanup waits; the
immediate release of the other was queued before, drops the workspace, and the registry refuses to
retire the runtime. -/
theorem release_answer_untruthful : ∃ state : Service Nat Nat,
    Service.Uncancelled LeaseSettings.default state ∧ ∃ record ∈ state.stops.returned,
      (∃ data, record.answer = .released data ∧ data.runtimeStopped = true) ∧
        record.detached = [] ∧ record.stopped = [] ∧ ¬record.Truthful := by
  obtain ⟨state, reached, record, member, detached, stopped, claimed⟩ := Reaches.of_run (Service.step LeaseSettings.default)
    (fun _ label => label.cancels = false) Service.init
    ([.spawn .acquireLease 0, .spawn .acquireLease 0, .spawn .acquireLease 0] ++
      Service.activationRun 0 3 7 0 ++ Service.activationRun 1 4 7 0 ++
      [.spawn (.heartbeat (some 0)) 10, .spawn (.heartbeat (some 2)) 10,
        .spawn (.activateWorkspace (some 2) true) 20, .resolved 7 (.ok ⟨8, ""⟩) 20,
        .spawn (.releaseLease (some 0) true) 30, .spawn (.heartbeat (some 1)) 60,
        .stores (.threadPrepare (some .other)), .stores .resumePrepared,
        .stores (.grantBinding 61)])
    (fun state => ∃ record ∈ state.stops.returned, record.detached = [] ∧ record.stopped = [] ∧
      (match record.answer with
        | .released data => data.runtimeStopped
        | _ => false) = true) (by decide +kernel)
  split at claimed
  · rename_i data answered
    refine ⟨state, reached, record, member, ⟨data, answered, claimed⟩, detached, stopped, ?_⟩
    intro truthful
    obtain ⟨_, _, _, _, there, _⟩ := (truthful data (.inl answered)).1 claimed
    rw [detached] at there
    cases there
  · cases claimed

end SerenaLight.Daemon
