/-
**Started runtimes stay within reach of the adapter.**

The adapter forgets a runtime before the provider has stopped it in three places: when it replaces a
crashed runtime, when it restarts one after the loss of its transport, and when a start has failed.
If the provider raises there, the runtime is lost; only `_stop_worker` keeps it for another attempt.

* `held`: the runtime that the adapter still has in its field, or the worker in a local variable.
* `Owns`: the runtime held is the only one that was started and not stopped.
* `runtimes_held`: as long as the provider does not raise in one of the three places, this is so at
  every moment, and the first step that breaks it is such an exception.
-/

import Mathlib.Data.Int.Order.Basic
import SerenaLight.Lsp.AdapterPlaces

set_option linter.unusedSectionVars false

namespace SerenaLight.Lsp.Adapter

open Foundation

variable {Time : Type} [LinearOrder Time] [Add Time] [Sub Time]
variable {policy : CrashPolicy Time} {capacity : Nat} {before after system : System Time}
  {label : Label Time}

/-- The runtime that the adapter or its worker still knows. -/
def System.held (system : System Time) : Option Nat :=
  match system.worker with
  | .replacing old _ => some old
  | .retiring old _ => some old
  | .discarding failed => some failed
  | .ending _ => none
  | _ => system.adapter.runtime

/-- **The runtime held is the only one alive.** -/
structure Owns (system : System Time) : Prop where
  alive : system.alive = system.held.toList
  placed : Placed system.worker system.adapter.runtime

/-! ### Steps and runs -/

/-- **The condition on a step**: outside of `_stop_worker`, the provider stops without raising. -/
def Undropped : Label Time → Prop
  | .replaced raised => raised = false
  | .discarded raised => raised = false
  | .retired raised => raised = false
  | _ => True

instance (label : Label Time) : Decidable (Undropped label) := by
  apply label.casesOn (motive := fun label => Decidable (Undropped label)) <;> intros <;>
    dsimp only [Undropped] <;> infer_instance

namespace Owns

/-- The runtimes alive, by the place of the worker. -/
theorem known (owns : Owns system) {place : Place Time} (at_ : system.worker = place) :
    system.alive = (system.goto place).held.toList := by
  subst at_
  exact owns.alive

/-- Once the runtime held is stopped, none is alive. -/
theorem buried (owns : Owns system) {runtime : Nat} (held : system.held = some runtime) :
    (system.bury runtime).alive = [] := by
  show system.alive.erase runtime = []
  rw [owns.alive, held]
  exact List.erase_cons_head ..

/-- A step of another thread. -/
theorem aside (owns : Owns system) {adapter : LanguageAdapter Time}
    (runtime : adapter.runtime = system.adapter.runtime) :
    system.alive = (system.withAdapter adapter).held.toList := by
  rw [owns.alive, System.held, System.held, System.withAdapter, runtime]

/-- A step that does not drop the runtime keeps it within reach. -/
theorem step (owns : Owns before) (move : Move policy before label after)
    (undropped : Undropped label) : Owns after := by
  refine ⟨?_, placed_step owns.placed move⟩
  have refreshed := (refreshCooldown_rephased before.clock before.adapter).runtime
  -- what the place says about the field
  have field : ∀ {place : Place Time}, before.worker = place →
      Placed place before.adapter.runtime := fun at_ => at_ ▸ owns.placed
  cases move
  case taken entry _ _ at_ _ _ =>
    rcases entry with ⟨_, _ | _⟩ | _ | _ <;> exact (owns.known at_ :)
  case notAdmitted at_ | refused at_ | launched at_ | bootRaised at_ | initializeRaised at_
    | operated at_ | transportLost at_ | warmRefused at_ | warmRaised at_ | terminateRaised at_
    | foreignDone at_ => exact (owns.known at_ :)
  case admitted at_ _ | warmBegun at_ _ => exact (owns.known at_ :)
  case warmReported at_ _ _ | stopNothing at_ _ _ => exact (owns.known at_ :)
  case cooling at_ | restartCooling at_ =>
    exact (owns.known at_).trans (congrArg Option.toList refreshed.symm)
  case running work at_ _ _ =>
    cases work <;> exact (owns.known at_).trans (congrArg Option.toList refreshed.symm)
  case initialized work at_ => cases work <;> exact (owns.known at_ :)
  case prepared at_ _ _ =>
    rw [refreshed]
    refine (owns.known at_).trans ?_
    show before.adapter.runtime.toList = _
    cases before.adapter.runtime <;> rfl
  case restarted at_ _ =>
    rw [refreshed]
    refine (owns.known at_).trans ?_
    show before.adapter.runtime.toList = _
    cases before.adapter.runtime <;> rfl
  case replaceRaised | discardRaised | retireRaised => cases undropped
  case replaced at_ | discarded at_ | retired at_ =>
    -- the worker has taken the runtime out of the field
    have absent : before.adapter.runtime = none := field at_
    refine (owns.buried (by rw [System.held, at_])).trans ?_
    show [] = before.adapter.runtime.toList
    rw [absent]
    rfl
  case booted at_ =>
    have absent : before.adapter.runtime = none := field at_
    have none_ : before.alive = before.adapter.runtime.toList := owns.known at_
    show before.alive ++ [before.adapter.runtimeToken] = [before.adapter.runtimeToken]
    rw [none_, absent]
    rfl
  case abandoned at_ found | abandonedNothing at_ found =>
    have known : before.alive = before.adapter.runtime.toList := owns.known at_
    exact known.trans (congrArg Option.toList found)
  case reported now at_ _ | lostLast now at_ _ | lost now at_ _ =>
    obtain ⟨_, _, _, crashed, runtime, _⟩ :=
      crash_frame policy before.adapter.runtimeToken now before
    rw [crashed]
    exact (owns.known at_).trans (congrArg Option.toList runtime.symm)
  case stopBegun at_ _ =>
    refine (owns.known at_).trans (congrArg Option.toList ?_)
    show before.adapter.runtime = System.held (System.goto (before.withAdapter _) _)
    cases found : before.adapter.runtime with
    | none => rfl
    | some token => exact found.symm
  case terminated runtime at_ =>
    have found : before.adapter.runtime = some runtime := field at_
    exact owns.buried (by rw [System.held, at_]; exact found)
  case ended runtime at_ =>
    have found : before.adapter.runtime = runtime := field at_
    exact (owns.known at_).trans (congrArg Option.toList (if_pos found).symm)
  case recorded token since now _ =>
    obtain ⟨_, _, _, crashed, runtime, _⟩ := crash_frame policy token now
      { before with callbacks := before.callbacks.erase (token, since) }
    rw [crashed]
    exact owns.aside runtime
  case documentReady => exact owns.aside (markDocumentReady_shifts _).rephased.runtime
  case snapshot => exact owns.aside (snapshot_rephased _ _ _).runtime
  case waitGlobal => exact owns.aside (waitForGlobal_shifts _ _).rephased.runtime
  -- the steps of the other threads that leave the runtime alone
  all_goals exact owns.alive

end Owns

/-- A step that drops the runtime leaves it alive and out of reach. -/
theorem lost_of_dropped (owns : Owns before) (move : Move policy before label after)
    (dropped : ¬Undropped label) : ∃ runtime ∈ after.alive, after.held ≠ some runtime := by
  have escapes : ∀ {runtime : Nat}, before.held = some runtime → before.adapter.runtime = none →
      ∃ lost ∈ (before.finish false).alive, (before.finish false).held ≠ some lost := by
    intro runtime held absent
    refine ⟨runtime, ?_, ?_⟩
    · show runtime ∈ before.alive
      rw [owns.alive, held]
      exact List.mem_singleton_self runtime
    · show before.adapter.runtime ≠ some runtime
      rw [absent]
      exact nofun
  have placed := owns.placed
  cases move
  case replaceRaised at_ | discardRaised at_ | retireRaised at_ =>
    rw [at_] at placed
    exact escapes (by rw [System.held, at_]) placed
  case replaced | discarded | retired => exact absurd rfl dropped
  all_goals exact absurd trivial dropped

theorem Owns.all_held (owns : Owns system) : ∀ runtime ∈ system.alive, system.held = some runtime := by
  intro runtime member
  rw [owns.alive] at member
  exact Option.mem_toList.mp member

theorem owns_of_reached {policy : CrashPolicy Time} {capacity : Nat} {clock : Time}
    {system : System Time}
    (reached : Reaches (step policy capacity) (fun _ label => Undropped label) (.init clock) system) :
    Owns system :=
  reached.invariant ⟨rfl, trivial⟩ fun _ _ _ owns undropped taken =>
    owns.step (move_of_step taken) undropped

/-- A stop that succeeds leaves no runtime alive. -/
theorem none_alive_of_terminated {policy : CrashPolicy Time} {capacity : Nat} {clock : Time}
    {system after : System Time}
    (reached : Reaches (step policy capacity) (fun _ label => Undropped label) (.init clock) system)
    (taken : step policy capacity system (.terminated false) = some after) : after.alive = [] := by
  have move := move_of_step taken
  have owns := (owns_of_reached reached).step move trivial
  rw [owns.alive]
  cases move with
  | terminated at_ => rfl

/-- **Every started runtime stays within reach until the provider has stopped it**, as long as the
provider raises in no stop outside of `_stop_worker`. There is at most one such runtime, a stop that
runs then calls the provider with it, and the step at which one gets out of reach is exactly a stop
that raises elsewhere. -/
theorem runtimes_held (policy : CrashPolicy Time) (capacity : Nat) (clock : Time)
    (system : System Time)
    (reached : Reaches (step policy capacity) (fun _ label => Undropped label) (.init clock) system) :
    (∀ runtime ∈ system.alive, system.held = some runtime) ∧
    system.alive.length ≤ 1 ∧
    (∀ runtime ∈ system.alive, system.worker = .stopping →
      ∃ after, step policy capacity system .beginStop = some after ∧
        after.worker = .terminating runtime) ∧
    ∀ label after, step policy capacity system label = some after →
      ((∀ runtime ∈ after.alive, after.held = some runtime) ↔ Undropped label) := by
  have owns := owns_of_reached reached
  refine ⟨owns.all_held, ?_, ?_, ?_⟩
  · rw [owns.alive]
    cases system.held <;> simp
  · intro runtime member stopping
    have held := owns.all_held runtime member
    rw [System.held, stopping] at held
    have found : system.adapter.runtime = some runtime := held
    refine ⟨_, by simp only [step, stopping, LanguageAdapter.beginStop, found]; rfl, rfl⟩
  · intro label after taken
    constructor
    · intro kept
      by_contra dropped
      obtain ⟨runtime, member, lost⟩ := lost_of_dropped owns (move_of_step taken) dropped
      exact lost (kept runtime member)
    · intro undropped
      exact (owns.step (move_of_step taken) undropped).all_held

/-- The steps that start a runtime. -/
def startSteps : List (Label Int) :=
  [.submit .start false, .next, .passSeal, .ensure false, .launch, .booted false]

/-- A runtime that has been started. -/
theorem runtimes_held_started :
    ∃ (policy : CrashPolicy Int) (system : System Int),
      system.alive = [1] ∧
      (∀ runtime ∈ system.alive, system.held = some runtime) ∧
      system.alive.length ≤ 1 ∧
      (∀ runtime ∈ system.alive, system.worker = .stopping →
        ∃ after, step policy 32 system .beginStop = some after ∧
          after.worker = .terminating runtime) ∧
      ∀ label after, step policy 32 system label = some after →
        ((∀ runtime ∈ after.alive, after.held = some runtime) ↔ Undropped label) := by
  let policy : CrashPolicy Int := ⟨3, 60, 30, by decide⟩
  obtain ⟨system, reached, alive⟩ := Reaches.of_run (step policy 32) (fun _ label => Undropped label)
    (.init 0) (startSteps ++ [.initialized false]) (fun system => system.alive = [1])
    (by decide +kernel)
  exact ⟨policy, system, alive, runtimes_held policy 32 0 system reached⟩

/-- **Two started runtimes.** The first one crashes, the provider raises when it is stopped for its
successor, and the next item starts another one: the adapter holds only the second. -/
theorem two_runtimes_alive :
    ∃ (policy : CrashPolicy Int) (system : System Int),
      Reaches (step policy 32) (fun _ _ => True) (.init 0) system ∧
      system.alive = [1, 3] ∧ system.held = some 3 := by
  exact ⟨⟨3, 60, 30, by decide⟩, Reaches.of_run _ _ _ (startSteps ++ [.initialized false, .terminal 1,
    .record 1 0 0, .submit .start false, .next, .passSeal, .ensure false, .replaced true] ++
    startSteps) _ (by decide +kernel)⟩

end SerenaLight.Lsp.Adapter
