/-
**What a step of the service does.**

A step of the service is a step on its stores, whose effect it hands to the stops, or a step of the
stops alone. So an invariant of the stores that every permitted move keeps holds in every state that
the service reaches by permitted steps.

* `Stores.step_moves`: a step on the stores is a move, or the queueing of a coroutine that is served
  at once.
* `Service.step_turns`: the two kinds of steps of the service.
* `Service.invariant`: the invariant rule for the stores and the stops of a running service.
-/

import SerenaLight.Foundation.Run
import SerenaLight.Daemon.Service
import SerenaLight.Daemon.StoresInvariant

set_option linter.unusedSectionVars false

namespace SerenaLight.Daemon

open Foundation Workspace

variable {Identity Time : Type}
variable [DecidableEq Identity] [LinearOrder Time] [Add Time] [Zero Time]

/-- A cleanup is queued by a lease check only. -/
def StoresLabel.Plain : StoresLabel Identity Time → Prop
  | .enter _ (.cleanExpired _) _ => False
  | _ => True

/-- When a coroutine arrives at the binding lock. -/
def StoresLabel.arrival : StoresLabel Identity Time → Option Time
  | .check _ _ _ now => some now
  | .enter _ _ now => some now
  | _ => none

namespace Stores

variable {self after : Stores Identity Time} {label : StoresLabel Identity Time}
  {effect : Effect Identity Time} (settings : LeaseSettings Time)

/-- The lock is free and nobody waits for it, so the coroutine that was queued last is served. -/
def Served (now : Time) (middle after : Stores Identity Time) (effect : Effect Identity Time) :
    Prop :=
  ∃ task body, middle.holder = none ∧ middle.waiters = [(task, body)] ∧
    Moves settings middle (.grantBinding now) after effect

/-- A coroutine that enters is queued, and served at once if the lock is free. -/
theorem enter_served {task : Task} {now : Time} {body : Section Identity Time}
    (base : ({ self with waiters := self.waiters ++ [(task, body)] } : Stores Identity Time).Base)
    (taken : enter settings task now self body = (after, effect)) :
    (after = { self with waiters := self.waiters ++ [(task, body)] } ∧ effect = .silent) ∨
      Served settings now { self with waiters := self.waiters ++ [(task, body)] } after effect := by
  unfold enter at taken
  split at taken
  · rename_i free
    rw [Bool.and_eq_true, Option.isNone_iff_eq_none, List.isEmpty_iff] at free
    refine .inr ⟨task, body, free.1, by simp [free.2], ?_⟩
    have moves := runSection_moves settings base now free.1
      (show self.waiters ++ [(task, body)] = (task, body) :: self.waiters by simp [free.2])
    simp only at moves
    rw [taken] at moves
    exact moves
  · cases taken
    exact .inl ⟨rfl, rfl⟩

/-- `heartbeat` and `binding_for`: the lease is live, or it has lapsed. -/
theorem check_cases (base : self.Base) (task : Task) (call : LeaseCheck) (leaseId : Uuid)
    (now : Time) :
    (∃ answer lifecycle, LeaseLifecycle.Evolves self.lifecycle [] lifecycle ∧ answer.Plain ∧
      check settings task call leaseId now self =
        ({ self with lifecycle }, .answers task answer)) ∨
    (∃ decision lifecycle, Lapses self.lifecycle leaseId decision lifecycle ∧
      (∀ lease, self.lifecycle.active.get leaseId = some lease → lease.expiresAt ≤ now) ∧
      check settings task call leaseId now self =
        enter settings task now { self with lifecycle } (.cleanExpired decision)) := by
  cases call with
  | heartbeat =>
    rcases LeaseLifecycle.heartbeat_cases settings base.lifecycle leaseId now with
      ⟨lease, lifecycle, _, evolves, run⟩ | ⟨decision, lifecycle, lapses, late, run⟩
    · refine .inl ⟨.lease { lease with lastHeartbeatAt := now }, lifecycle, evolves,
        by simp [Answer.Plain], ?_⟩
      simp only [check, map_eq_pure_bind, EStateM.run_bind, run, EStateM.run_pure]
    · refine .inr ⟨decision, lifecycle, lapses, late, ?_⟩
      simp only [check, map_eq_pure_bind, EStateM.run_bind, run]
  | bindingFor =>
    rcases requireActive_cases settings base.lifecycle leaseId now with
      ⟨lease, found, run⟩ | ⟨decision, lifecycle, lapses, late, run⟩
    · cases bound : lease.binding with
      | none =>
        refine .inl ⟨.noWorkspace, self.lifecycle, .refl base.lifecycle, by simp [Answer.Plain],
          ?_⟩
        simp only [check, map_eq_pure_bind, LeaseLifecycle.bindingFor, EStateM.run_bind, run, bound]
        rfl
      | some binding =>
        refine .inl ⟨.binding binding, self.lifecycle, .refl base.lifecycle,
          by simp [Answer.Plain], ?_⟩
        simp only [check, map_eq_pure_bind, LeaseLifecycle.bindingFor, EStateM.run_bind, run,
          bound, EStateM.run_pure]
    · refine .inr ⟨decision, lifecycle, lapses, late, ?_⟩
      simp only [check, map_eq_pure_bind, LeaseLifecycle.bindingFor, EStateM.run_bind, run]

/-- **A step on the stores** is a move, or two: a coroutine is queued and served. -/
theorem step_moves (base : self.Base) (plain : label.Plain)
    (taken : step settings self label = some (after, effect)) :
    Moves settings self label after effect ∨
      ∃ middle now, label.arrival = some now ∧ Moves settings self label middle .silent ∧
        Served settings now middle after effect := by
  cases label with
  | acquireLease task now =>
    rcases LeaseLifecycle.issue_cases settings base.lifecycle none now with
      ⟨lifecycle, binds, uuid, run⟩ | ⟨_, _, _, absurdity, _⟩
    · simp only [step, run] at taken
      cases taken
      exact .inl (.issued binds uuid)
    · cases absurdity
  | check task call leaseId now =>
    rw [step, Option.some.injEq] at taken
    rcases check_cases settings base task call leaseId now with
      ⟨answer, lifecycle, evolves, answered, run⟩ | ⟨decision, lifecycle, lapses, late, run⟩
    · rw [run] at taken
      cases taken
      exact .inl (.checked evolves answered)
    · rw [run] at taken
      have queued : Moves settings self (.check task call leaseId now) _ .silent :=
        .lapsed lapses late
      rcases enter_served settings (queued.base base) taken with ⟨rfl, rfl⟩ | served
      · exact .inl queued
      · exact .inr ⟨_, now, rfl, queued, served⟩
  | enter task body now =>
    rw [step, Option.some.injEq] at taken
    have queued : Moves settings self (.enter task body now) _ .silent :=
      .queued fun decision isClean => by
        rw [isClean] at plain
        exact plain
    rcases enter_served settings (queued.base base) taken with ⟨rfl, rfl⟩ | served
    · exact .inl queued
    · exact .inr ⟨_, now, rfl, queued, served⟩
  | grantBinding now =>
    refine .inl ?_
    simp only [step, grant] at taken
    split at taken
    · rename_i task body rest free first
      have moves := runSection_moves settings base now free first
      rw [Option.some.inj taken] at moves
      exact moves
    · cases taken
  | threadPrepare fault =>
    obtain ⟨next, ran, pair⟩ := Option.map_eq_some_iff.mp taken
    cases pair
    exact .inl (threadPrepare_moves ran)
  | resumePrepared => exact .inl (resumePrepared_moves taken)
  | resumeRefreshed fault now => exact .inl (resumeRefreshed_moves base taken)
  | threadCommit =>
    obtain ⟨next, ran, pair⟩ := Option.map_eq_some_iff.mp taken
    cases pair
    exact .inl (threadCommit_moves base ran)
  | resumeCommitted now => exact .inl (resumeCommitted_moves base taken)
  | cancelActivation started =>
    refine .inl ?_
    simp only [step, cancelActivation] at taken
    split at taken
    · rename_i activation holds
      cases taken
      exact .cancelledActivation holds
    · cases taken
  | cancelWaiting task =>
    refine .inl ?_
    obtain ⟨-, ⟨⟩⟩ := Option.ite_none_right_eq_some.mp taken
    exact .cancelledWaiting
  | threadOrphan index fault =>
    obtain ⟨next, ran, pair⟩ := Option.map_eq_some_iff.mp taken
    cases pair
    exact .inl (threadOrphan_moves base ran)

end Stores

/-! ### Steps of the service -/

/-- What the stops do with the effect of a step on the stores. -/
def StopState.proceed (self : StopState Identity Time) :
    Effect Identity Time → StopState Identity Time
  | .silent => self
  | .answers task answer => self.answer task answer
  | .stops task targets finish => self.stopRuntimes ⟨task, targets, finish⟩

/-- The steps that the stops take alone. -/
inductive StopState.Turns (self : StopState Identity Time) :
    Label Identity Time → StopState Identity Time → Prop
  | waits {label : Label Identity Time} : Turns self label self
  | answered {label : Label Identity Time} {task : Task} {answer : Answer Identity Time}
      (plain : answer = .leaseExpired ∨ answer = .cancelled ∨ ∃ code, answer = .error code) :
      Turns self label (self.answer task answer)
  | returned {runtime : RuntimeId} {ok : Bool} {after : StopState Identity Time}
      (taken : self.stopperReturned runtime ok = some after) :
      Turns self (.stopperReturned runtime ok) after
  | resumed {after : StopState Identity Time} (taken : self.resume = some after) :
      Turns self .resumeStop after
  | granted {after : StopState Identity Time} (taken : self.grant = some after) :
      Turns self .grantStop after
  | cancelled {after : StopState Identity Time} (taken : self.cancelHolder = some after) :
      Turns self .cancelStop after
  | cancelledWaiting {task : Task} {after : StopState Identity Time}
      (taken : self.cancelWaiting task = some after) :
      Turns self (.cancelStopWaiting task) after

namespace Service

variable {self after : Service Identity Time} {label : Label Identity Time}
  (settings : LeaseSettings Time)

/-- The step on the stores that a step of the service takes, if it takes one. -/
def storesLabel (self : Service Identity Time) :
    Label Identity Time → Option (StoresLabel Identity Time)
  | .spawn .acquireLease now => some (.acquireLease self.nextTask now)
  | .spawn (.heartbeat (some leaseId)) now => some (.check self.nextTask .heartbeat leaseId now)
  | .spawn (.bindingFor (some leaseId)) now => some (.check self.nextTask .bindingFor leaseId now)
  | .spawn (.releaseLease (some leaseId) immediate) now =>
    some (.enter self.nextTask (.releaseLease leaseId immediate) now)
  | .spawn (.releaseWorkspace (some leaseId) immediate) now =>
    some (.enter self.nextTask (.releaseWorkspace leaseId immediate) now)
  | .spawn .sweep now => some (.enter self.nextTask .sweep now)
  | .resolved task (.ok resolved) now =>
    (self.resolving.find? fun waiting => waiting.1 = task).map fun waiting =>
      .enter task (.activate waiting.2 resolved) now
  | .stores label => if scheduled label then some label else none
  | _ => none

variable {driven : StoresLabel Identity Time}

/-- A step that cancels nothing cancels nothing on the stores. -/
theorem storesLabel_cancels (drives : self.storesLabel label = some driven)
    (quiet : label.cancels = false) :
    driven.cancels = false := by
  unfold storesLabel at drives
  split at drives
  case h_7 =>
    obtain ⟨waiting, _, rfl⟩ := Option.map_eq_some_iff.mp drives
    rfl
  case h_8 =>
    obtain ⟨-, ⟨⟩⟩ := Option.ite_none_right_eq_some.mp drives
    exact quiet
  all_goals cases drives; try rfl

/-- A step on the stores, and its effect. -/
def Drives (self after : Service Identity Time) (label : StoresLabel Identity Time) : Prop :=
  ∃ effect, self.stores.step settings label = some (after.stores, effect) ∧
    after.stops = self.stops.proceed effect

theorem feed_drives {other : Service Identity Time}
    (taken : other.feed (self.stores.step settings driven) = some after)
    (stops : other.stops = self.stops) : Drives settings self after driven := by
  unfold feed at taken
  split at taken
  · cases taken
  · rename_i stores stepped
    cases taken
    exact ⟨.silent, stepped, stops⟩
  · rename_i stores task answer stepped
    cases taken
    exact ⟨.answers task answer, stepped, congrArg (StopState.answer task answer) stops⟩
  · rename_i stores task targets finish stepped
    cases taken
    exact ⟨.stops task targets finish, stepped,
      congrArg (StopState.stopRuntimes ⟨task, targets, finish⟩) stops⟩

/-- **A step of the service** is a step on its stores with what follows from it, or one of its stops
alone. -/
theorem advance_turns (taken : advance settings self label = some after) :
    (∃ driven, self.storesLabel label = some driven ∧ driven.Plain ∧
      Drives settings self after driven) ∨
    (after.stores = self.stores ∧ self.stops.Turns label after.stops) := by
  cases label with
  | spawn call now =>
    have expires : ∀ {task : Task}, some ({ self with
          nextTask := task + 1
          stops := self.stops.answer task .leaseExpired } : Service Identity Time) = some after →
        after.stores = self.stores ∧ self.stops.Turns (.spawn call now) after.stops := by
      rintro task ⟨⟩
      exact ⟨rfl, .answered (.inl rfl)⟩
    cases call with
    | acquireLease | sweep => exact .inl ⟨_, rfl, trivial, feed_drives settings taken rfl⟩
    | heartbeat leaseId | bindingFor leaseId | releaseLease leaseId immediate
    | releaseWorkspace leaseId immediate =>
      cases leaseId with
      | none => exact .inr (expires taken)
      | some leaseId => exact .inl ⟨_, rfl, trivial, feed_drives settings taken rfl⟩
    | activateWorkspace leaseId absolute =>
      cases leaseId with
      | none => exact .inr (expires taken)
      | some leaseId =>
        refine .inr ?_
        cases absolute with
        | true =>
          cases taken
          exact ⟨rfl, .waits⟩
        | false =>
          cases taken
          exact ⟨rfl, .answered (.inr (.inr ⟨_, rfl⟩))⟩
  | resolved task outcome now =>
    simp only [advance] at taken
    split at taken
    · cases taken
    · rename_i leaseId found
      cases outcome with
      | error fault =>
        cases taken
        exact .inr ⟨rfl, .answered (.inr (.inr ⟨_, rfl⟩))⟩
      | ok resolved =>
        refine .inl ⟨.enter task (.activate leaseId resolved) now, ?_, trivial,
          feed_drives settings taken rfl⟩
        simp [storesLabel, found]
  | stores driven =>
    obtain ⟨isScheduled, taken⟩ := Option.ite_none_right_eq_some.mp taken
    refine .inl ⟨driven, by simp [storesLabel, isScheduled], ?_,
      feed_drives settings taken rfl⟩
    cases driven <;> trivial
  | stopperReturned runtime ok =>
    obtain ⟨stops, ran, rfl⟩ := Option.map_eq_some_iff.mp taken
    exact .inr ⟨rfl, .returned ran⟩
  | resumeStop =>
    obtain ⟨stops, ran, rfl⟩ := Option.map_eq_some_iff.mp taken
    exact .inr ⟨rfl, .resumed ran⟩
  | grantStop =>
    obtain ⟨stops, ran, rfl⟩ := Option.map_eq_some_iff.mp taken
    exact .inr ⟨rfl, .granted ran⟩
  | cancelResolving task =>
    obtain ⟨-, ⟨⟩⟩ := Option.ite_none_right_eq_some.mp taken
    exact .inr ⟨rfl, .answered (.inr (.inl rfl))⟩
  | cancelStop =>
    obtain ⟨stops, ran, rfl⟩ := Option.map_eq_some_iff.mp taken
    exact .inr ⟨rfl, .cancelled ran⟩
  | cancelStopWaiting task =>
    obtain ⟨stops, ran, rfl⟩ := Option.map_eq_some_iff.mp taken
    exact .inr ⟨rfl, .cancelledWaiting ran⟩

theorem step_turns (taken : step settings self label = some after) :
    (∃ driven, self.storesLabel label = some driven ∧ driven.Plain ∧
      Drives settings self after driven) ∨
    (after.stores = self.stores ∧ self.stops.Turns label after.stops) := by
  unfold step at taken
  split at taken
  · exact advance_turns settings taken
  · rename_i now _
    obtain ⟨-, taken⟩ := Option.ite_none_right_eq_some.mp taken
    -- the clock is read neither by the stores nor by the stops
    have turns := advance_turns settings taken
    have same : ({ self with clock := some now } : Service Identity Time).storesLabel label =
        self.storesLabel label := by
      unfold storesLabel
      rfl
    rw [same] at turns
    exact turns

/-- **The invariant rule of the service.** An invariant of the stores and the stops that holds at
the start, that every permitted move on the stores keeps with its effect, and that every allowed step
of the stops keeps, holds in every state that allowed steps reach. A coroutine that is served when it
enters needs its grant permitted as well. -/
theorem invariant (Inv : Stores Identity Time → StopState Identity Time → Prop)
    (permits : Stores Identity Time → StopState Identity Time → StoresLabel Identity Time → Prop)
    {allowed : Service Identity Time → Label Identity Time → Prop}
    (allows : ∀ service label driven, allowed service label →
      service.storesLabel label = some driven → permits service.stores service.stops driven)
    (initial : Inv .init .init)
    (moved : ∀ {stores stops label next effect}, stores.Base → Inv stores stops →
      permits stores stops label → Stores.Moves settings stores label next effect →
      Inv next (stops.proceed effect))
    (serves : ∀ {stores stops label middle task body now}, permits stores stops label →
      Stores.Moves settings stores label middle .silent → middle.holder = none →
      middle.waiters = [(task, body)] → label.arrival = some now →
      permits middle stops (.grantBinding now))
    (turned : ∀ {service label stops}, allowed service label → service.stores.Base →
      Inv service.stores service.stops → service.stops.Turns label stops →
      Inv service.stores stops)
    {state : Service Identity Time} (reached : Reaches (step settings) allowed init state) :
    state.stores.Base ∧ Inv state.stores state.stops := by
  refine @Reaches.invariant _ _ _ _ _ (fun service => service.stores.Base ∧
    Inv service.stores service.stops) ⟨.init, initial⟩ ?_ _ reached
  rintro before label after ⟨base, inv⟩ permitted taken
  rcases step_turns settings taken with ⟨driven, drives, plain, effect, stepped, stops⟩ |
    ⟨stores, turns⟩
  · have granted := allows before label driven permitted drives
    rw [stops]
    rcases Stores.step_moves settings base plain stepped with moves |
      ⟨middle, now, arrives, queued, task, body, free, alone, served⟩
    · exact ⟨moves.base base, moved base inv granted moves⟩
    · have middleBase := queued.base base
      exact ⟨served.base middleBase, moved middleBase (moved base inv granted queued)
        (serves granted queued free alone arrives) served⟩
  · rw [stores]
    exact ⟨base, turned permitted base inv turns⟩

/-! ### Runs without cancellation -/

/-- The states that uncancelled steps reach. -/
abbrev Uncancelled (settings : LeaseSettings Time) : Service Identity Time → Prop :=
  Reaches (step settings) (fun _ label => label.cancels = false) init

/-- The steps of an activation that nobody disturbs. -/
def activationRun (leaseId : Uuid) (task : Task) (root now : Nat) : List (Label Nat Nat) :=
  [.spawn (.activateWorkspace (some leaseId) true) now, .resolved task (.ok ⟨root, ""⟩) now,
    .stores (.threadPrepare none), .stores .resumePrepared, .stores (.resumeRefreshed none now),
    .stores .threadCommit, .stores (.resumeCommitted now)]

end Service

end SerenaLight.Daemon
