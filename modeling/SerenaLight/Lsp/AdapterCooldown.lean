/-
**The cooldown after repeated crashes.**

Once the crashes within the window reach the threshold, the adapter is to start no runtime until the
cooldown is over. The cooldown is kept in the phase, which other threads and the worker itself write
as well: `wait_for_global` and the report of `_warm_global_worker` overwrite it whatever it is.

* `Counted`: each runtime token contributes at most one crash to the count.
* `Cooled`: a cooldown that is not over is the phase of the adapter, and the worker is not about to
  start a runtime.
* `cooldown_respected`: this is so as long as no step overwrites a cooldown, and no crash is counted in
  a cooldown or between the check of `_ensure_started_worker` and the start.
-/

import Mathlib.Data.Int.Order.Basic
import Mathlib.Data.List.Nodup
import SerenaLight.Lsp.AdapterPlaces

set_option linter.unusedSectionVars false

namespace SerenaLight.Lsp.Adapter

open Foundation

variable {Time : Type} [LinearOrder Time] [Add Time] [Sub Time]
variable {policy : CrashPolicy Time} {capacity : Nat} {before after system : System Time}
  {label : Label Time}

/-! ### The count -/

/-- The crashes counted, by runtime. -/
structure Counted (system : System Time) : Prop where
  tokens : system.log.map Prod.fst = system.adapter.crashedRuntimeTokens
  once : system.adapter.crashedRuntimeTokens.Nodup
  total : system.adapter.crashTotal = system.log.length
  times : system.adapter.crashTimes.Sublist (system.log.map Prod.snd)

theorem Counted.crash (counted : Counted before) (token : Nat) (now : Time) :
    Counted (before.crash policy token now) := by
  unfold System.crash
  split
  · exact counted
  · rename_i fresh
    have recorded : ∀ adapter, adapter = before.adapter.recordCrash policy token now →
        adapter.crashedRuntimeTokens = before.adapter.crashedRuntimeTokens ++ [token] ∧
        adapter.crashTotal = before.adapter.crashTotal + 1 ∧
        adapter.crashTimes = before.adapter.crashTimes.dropWhile
          (fun time => time < now - policy.windowSeconds) ++ [now] := by
      rintro adapter rfl
      unfold LanguageAdapter.recordCrash
      rw [if_neg fresh]
      dsimp only
      split <;> exact ⟨rfl, rfl, rfl⟩
    obtain ⟨tokens, total, times⟩ := recorded _ rfl
    refine ⟨?_, ?_, ?_, ?_⟩
    · rw [tokens, List.map_append, counted.tokens]
      rfl
    · rw [tokens]
      exact List.nodup_append.mpr ⟨counted.once, List.nodup_singleton token, fun other member last
        lastMember same => fresh (List.mem_singleton.mp lastMember ▸ same ▸ member)⟩
    · rw [total, counted.total, List.length_append]
      rfl
    · rw [times, List.map_append]
      exact ((List.dropWhile_sublist _).trans counted.times).append (List.Sublist.refl _)

/-- A step that counts no crash. -/
theorem Counted.same (counted : Counted before) (log : after.log = before.log)
    (rephased : Rephased before.adapter after.adapter) : Counted after := by
  refine ⟨?_, ?_, ?_, ?_⟩
  · rw [log, rephased.tokens, counted.tokens]
  · rw [rephased.tokens]
    exact counted.once
  · rw [rephased.total, log, counted.total]
  · rw [log]
    obtain same | none_ := rephased.times
    · rw [same]
      exact counted.times
    · rw [none_]
      exact List.nil_sublist _

theorem Counted.step (counted : Counted before) (move : Move policy before label after) :
    Counted after := by
  -- the fields of the count, whatever else the step does to the adapter
  have frame : ∀ {current : System Time}, Counted current → after.log = current.log →
      after.adapter.crashedRuntimeTokens = current.adapter.crashedRuntimeTokens →
      after.adapter.crashTotal = current.adapter.crashTotal →
      after.adapter.crashTimes = current.adapter.crashTimes → Counted after := by
    intro current counted log tokens total times
    exact ⟨log ▸ tokens ▸ counted.tokens, tokens ▸ counted.once, log ▸ total ▸ counted.total,
      log ▸ times ▸ counted.times⟩
  have refreshed : Counted (before.withAdapter (before.adapter.refreshCooldown before.clock)) :=
    counted.same rfl (refreshCooldown_rephased _ _)
  cases move
  case cooling | prepared | restartCooling | restarted => exact frame refreshed rfl rfl rfl rfl
  case running work _ _ _ => cases work <;> exact frame refreshed rfl rfl rfl rfl
  case initialized work _ => cases work <;> exact frame counted rfl rfl rfl rfl
  case reported | lostLast | lost => exact frame (counted.crash _ _) rfl rfl rfl rfl
  case recorded =>
    refine Counted.crash ?_ _ _
    exact counted.same rfl .refl
  case documentReady => exact counted.same rfl (markDocumentReady_shifts _).rephased
  case snapshot => exact counted.same rfl (snapshot_rephased _ _ _)
  case waitGlobal => exact counted.same rfl (waitForGlobal_shifts _ _).rephased
  all_goals exact frame counted rfl rfl rfl rfl

/-! ### The cooldown -/

/-- A stop is waiting or running. -/
def System.stopUnderWay (system : System Time) : Prop :=
  (∃ item ∈ system.queue, item.1 = .stop) ∨ system.worker.stops = true

/-- Every cooldown is over, unless a stop has intervened. -/
def System.Elapsed (system : System Time) : Prop :=
  system.adapter.admissionSealed = false → ∀ deadline ∈ system.deadlines, deadline ≤ system.clock

/-- **A cooldown that is not over is the phase of the adapter.** -/
structure Cooled (system : System Time) : Prop where
  stops : system.stopUnderWay → system.adapter.admissionSealed = true
  cooled : system.adapter.admissionSealed = false → ∀ deadline ∈ system.deadlines,
    deadline ≤ system.clock ∨ (system.adapter.phase = .cooldown ∧
      ∃ until_, system.adapter.cooldownUntil = some until_ ∧ deadline ≤ until_)
  starts : system.worker.starts = true → system.Elapsed

/-- **The condition on a step.** -/
def Undisturbed (system : System Time) : Label Time → Prop
  | .waitGlobal result =>
    result = .scopeIncompatible → system.adapter.phase ≠ .cooldown
  | .warmed report => report ≠ .raised → system.adapter.phase ≠ .cooldown
  | .report _ =>
    system.adapter.runtimeToken ∉ system.adapter.crashedRuntimeTokens →
      system.adapter.phase ≠ .cooldown
  | .lose _ =>
    system.adapter.runtimeToken ∉ system.adapter.crashedRuntimeTokens →
      system.adapter.phase ≠ .cooldown
  | .record token _ _ =>
    token ∉ system.adapter.crashedRuntimeTokens →
      system.adapter.phase ≠ .cooldown ∧ system.worker.starts = false
  | _ => True

instance (system : System Time) (label : Label Time) : Decidable (Undisturbed system label) := by
  apply label.casesOn (motive := fun label => Decidable (Undisturbed system label)) <;> intros <;>
    dsimp only [Undisturbed] <;> infer_instance

/-- No step opens the admission again. -/
theorem sealed_step (move : Move policy before label after)
    (closed : before.adapter.admissionSealed = true) : after.adapter.admissionSealed = true := by
  have refreshed := (refreshCooldown_rephased before.clock before.adapter).admissionSealed
  cases move
  case stopRejected | stopSubmitted => rfl
  case cooling | prepared | restartCooling | restarted => exact refreshed.trans closed
  case running work _ _ _ => cases work <;> exact refreshed.trans closed
  case initialized work _ => cases work <;> exact closed
  case reported now _ _ | lostLast now _ _ | lost now _ _ =>
    obtain ⟨_, _, _, crashed, _, isSealed, _⟩ :=
      crash_frame policy before.adapter.runtimeToken now before
    rw [crashed]
    exact isSealed.trans closed
  case recorded token since now _ =>
    obtain ⟨_, _, _, crashed, _, isSealed, _⟩ := crash_frame policy token now
      { before with callbacks := before.callbacks.erase (token, since) }
    rw [crashed]
    exact isSealed.trans closed
  case documentReady => exact (markDocumentReady_shifts _).rephased.admissionSealed.trans closed
  case snapshot => exact (snapshot_rephased _ _ _).admissionSealed.trans closed
  case waitGlobal => exact (waitForGlobal_shifts _ _).rephased.admissionSealed.trans closed
  all_goals exact closed

/-- A stop that waits or runs has been requested. -/
theorem stopUnderWay_step
    (stops : before.stopUnderWay → before.adapter.admissionSealed = true)
    (move : Move policy before label after) (under : after.stopUnderWay) :
    after.adapter.admissionSealed = true := by
  cases turn_of_move move with
  | requested eq => exact eq ▸ rfl
  | onward queue _ _ _ place =>
    rw [System.stopUnderWay, queue, place] at under
    exact sealed_step move (stops under)
  | finished _ queue _ _ _ place =>
    rw [System.stopUnderWay, queue, place] at under
    exact sealed_step move (stops (under.imp_right nofun))
  | submitted eq other =>
    subst eq
    refine sealed_step move (stops (under.imp_left ?_))
    rintro ⟨item, member, stop⟩
    obtain earlier | last := List.mem_append.mp member
    · exact ⟨item, earlier, stop⟩
    · rw [List.mem_singleton.mp last] at stop
      exact absurd stop other
  | cancelled _ eq =>
    subst eq
    exact sealed_step move (stops under)
  | closed eq =>
    subst eq
    exact sealed_step move (stops (under.imp_left nofun))
  | dropped head eq =>
    subst eq
    refine sealed_step move (stops (under.imp_left ?_))
    exact fun ⟨item, member, stop⟩ => ⟨item, head ▸ List.mem_cons_of_mem _ member, stop⟩
  | @taken entry future _ head eq =>
    subst eq
    refine sealed_step move (stops (.inl ?_))
    obtain ⟨item, member, stop⟩ | running := under
    · exact ⟨item, head ▸ List.mem_cons_of_mem _ member, stop⟩
    · exact ⟨(entry, future), head ▸ List.mem_cons_self, (begins_stops entry).mp running⟩

/-- The cooldowns, without the stops. -/
structure Awaited (system : System Time) : Prop where
  cooled : system.adapter.admissionSealed = false → ∀ deadline ∈ system.deadlines,
    deadline ≤ system.clock ∨ (system.adapter.phase = .cooldown ∧
      ∃ until_, system.adapter.cooldownUntil = some until_ ∧ deadline ≤ until_)
  starts : system.worker.starts = true → system.Elapsed

namespace Awaited

/-- Outside of the phase, nothing is left to wait for. -/
theorem elapsed (awaited : Awaited system) (warm : system.adapter.phase ≠ .cooldown) :
    system.Elapsed := by
  intro unsealed deadline member
  obtain passed | ⟨phase, _⟩ := awaited.cooled unsealed deadline member
  · exact passed
  · exact absurd phase warm

theorem of_elapsed (elapsed : system.Elapsed) : Awaited system :=
  ⟨fun unsealed deadline member => .inl (elapsed unsealed deadline member), fun _ => elapsed⟩

theorem of_sealed (closed : system.adapter.admissionSealed = true) : Awaited system :=
  of_elapsed fun unsealed => nomatch closed.symm.trans unsealed

/-- A step that leaves the cooldown alone. -/
theorem moved (awaited : Awaited before)
    (isSealed : after.adapter.admissionSealed = before.adapter.admissionSealed)
    (phase : after.adapter.phase = before.adapter.phase)
    (until_ : after.adapter.cooldownUntil = before.adapter.cooldownUntil)
    (deadlines : after.deadlines = before.deadlines) (clock : before.clock ≤ after.clock)
    (starts : after.worker.starts = true → before.worker.starts = true) : Awaited after := by
  refine ⟨fun unsealed deadline member => ?_, fun starting unsealed deadline member => ?_⟩
  · rw [deadlines] at member
    rw [phase, until_]
    exact (awaited.cooled (isSealed ▸ unsealed) deadline member).imp_left (·.trans clock)
  · rw [deadlines] at member
    exact (awaited.starts (starts starting) (isSealed ▸ unsealed) deadline member).trans clock

/-- A look at the clock ends a cooldown only when it is over. -/
theorem refresh_elapsed (awaited : Awaited system)
    (warm : (system.adapter.refreshCooldown system.clock).phase ≠ .cooldown) : system.Elapsed := by
  obtain same | ⟨until_, found, phase, passed, _⟩ :=
    refreshCooldown_cases system.clock system.adapter
  · rw [same] at warm
    exact awaited.elapsed warm
  · intro unsealed deadline member
    obtain passed | ⟨_, other, set_, bound⟩ := awaited.cooled unsealed deadline member
    · exact passed
    · obtain rfl := Option.some.inj (found.symm.trans set_)
      exact bound.trans passed

theorem refresh (awaited : Awaited system) :
    Awaited (system.withAdapter (system.adapter.refreshCooldown system.clock)) := by
  have isSealed := (refreshCooldown_rephased system.clock system.adapter).admissionSealed
  by_cases cool : (system.adapter.refreshCooldown system.clock).phase = .cooldown
  · obtain same | ⟨_, _, _, _, refreshed⟩ := refreshCooldown_cases system.clock system.adapter
    · rw [same]
      exact awaited
    · rw [refreshed] at cool
      cases cool
  · exact of_elapsed fun unsealed => awaited.refresh_elapsed cool (isSealed.symm.trans unsealed)

/-- A crash that is counted outside of a cooldown, and not while a runtime is about to be started. -/
theorem crash (awaited : Awaited before) (token : Nat) (now : Time)
    (warm : token ∉ before.adapter.crashedRuntimeTokens → before.adapter.phase ≠ .cooldown)
    (window : token ∉ before.adapter.crashedRuntimeTokens → before.worker.starts = false) :
    Awaited (before.crash policy token now) := by
  unfold System.crash
  split
  · exact awaited
  · rename_i fresh
    have elapsed := awaited.elapsed (warm fresh)
    unfold LanguageAdapter.recordCrash
    rw [if_neg fresh]
    dsimp only
    split
    all_goals refine ⟨fun unsealed deadline member => ?_, fun starting => ?_⟩
    case isTrue.refine_1 =>
      obtain earlier | last := List.mem_append.mp member
      · exact .inl (elapsed unsealed deadline earlier)
      · exact .inr ⟨rfl, _, rfl, (List.mem_singleton.mp last).le⟩
    case isFalse.refine_1 => exact .inl (elapsed unsealed deadline member)
    all_goals exact nomatch (window fresh).symm.trans starting

/-- A change of the phase outside of a cooldown. -/
theorem shift (awaited : Awaited before) {forced : Prop} {adapter : LanguageAdapter Time}
    (shifts : Shifts forced before.adapter adapter)
    (warm : forced → before.adapter.phase ≠ .cooldown) : Awaited (before.withAdapter adapter) := by
  obtain rfl | ⟨_, _, rfl, why⟩ := shifts
  · exact awaited
  · exact of_elapsed (awaited.elapsed (why.elim warm And.right))

theorem step (awaited : Awaited before)
    (stops : before.stopUnderWay → before.adapter.admissionSealed = true)
    (move : Move policy before label after) (undisturbed : Undisturbed before label) :
    Awaited after := by
  have refreshed := (refreshCooldown_rephased before.clock before.adapter).admissionSealed
  cases move
  case tick later => exact awaited.moved rfl rfl rfl rfl later id
  case stopRejected | stopSubmitted => exact .of_sealed rfl
  case taken entry _ _ _ _ _ =>
    refine awaited.moved rfl rfl rfl rfl le_rfl fun starts => ?_
    rcases entry with ⟨_, _ | _⟩ | _ | _ <;> cases starts
  case cooling | restartCooling => exact awaited.refresh.moved rfl rfl rfl rfl le_rfl nofun
  case running work _ _ _ =>
    cases work <;> exact awaited.refresh.moved rfl rfl rfl rfl le_rfl nofun
  case initialized work _ => cases work <;> exact awaited.moved rfl rfl rfl rfl le_rfl nofun
  case prepared warm | restarted warm =>
    exact .of_elapsed fun unsealed => awaited.refresh_elapsed warm (refreshed.symm.trans unsealed)
  case replaced at_ => exact awaited.moved rfl rfl rfl rfl le_rfl fun _ => by rw [at_]; rfl
  case reported at_ _ | lostLast at_ _ | lost at_ _ =>
    exact (awaited.crash _ _ undisturbed fun _ => by rw [at_]; rfl).moved rfl rfl rfl rfl le_rfl nofun
  case warmBegun warmable =>
    refine .of_elapsed (awaited.elapsed fun cool => ?_)
    rw [LanguageAdapter.warmable, cool] at warmable
    cases warmable
  case warmReported reports _ => exact .of_elapsed (awaited.elapsed (undisturbed reports))
  -- a stop that runs has sealed the adapter
  case stopBegun at_ _ => exact .of_sealed (stops (.inr (by rw [at_]; rfl)))
  case ended at_ => exact .of_sealed (stops (.inr (by rw [at_]; rfl)))
  case recorded token since now _ =>
    have aside : Awaited { before with callbacks := before.callbacks.erase (token, since) } :=
      awaited.moved rfl rfl rfl rfl le_rfl id
    exact aside.crash token now (fun fresh => (undisturbed fresh).1) fun fresh => (undisturbed fresh).2
  case documentReady => exact awaited.shift (markDocumentReady_shifts _) nofun
  case snapshot => exact awaited.refresh.shift (snapshot_shifts _ _ _) nofun
  case waitGlobal => exact awaited.shift (waitForGlobal_shifts _ _) undisturbed
  case submitted | submittedForeign | standing | cancelled | closed | dropped | touched | terminal =>
    exact awaited.moved rfl rfl rfl rfl le_rfl id
  -- the worker goes on, at a place where it starts no runtime
  all_goals exact awaited.moved rfl rfl rfl rfl le_rfl nofun

end Awaited

/-- **One undisturbed step.** -/
theorem Cooled.step (cooled : Cooled before) (move : Move policy before label after)
    (undisturbed : Undisturbed before label) : Cooled after := by
  have awaited : Awaited before := ⟨cooled.cooled, cooled.starts⟩
  have later := awaited.step cooled.stops move undisturbed
  exact ⟨stopUnderWay_step cooled.stops move, later.cooled, later.starts⟩

/-! ### Runs -/

/-- **No start before the end of a cooldown.** In every run whose steps are undisturbed,
`provider.start` is called only when every cooldown called for so far is over, unless a stop was
requested; and each runtime token is counted at most once. -/
theorem cooldown_respected (policy : CrashPolicy Time) (capacity : Nat) (clock : Time)
    (system : System Time)
    (reached : Reaches (step policy capacity) Undisturbed (.init clock) system) :
    (∀ after, step policy capacity system .launch = some after →
      system.adapter.admissionSealed = true ∨ ∀ deadline ∈ system.deadlines, deadline ≤ system.clock) ∧
    (system.log.map Prod.fst).Nodup ∧
    system.adapter.crashTotal = system.log.length ∧
    system.adapter.crashTimes.Sublist (system.log.map Prod.snd) := by
  have initial : Cooled (System.init clock) :=
    ⟨by simp [System.stopUnderWay, System.init, Place.stops], nofun, nofun⟩
  have cooled : Cooled system := reached.invariant initial fun _ _ _ cooled undisturbed taken =>
    cooled.step (move_of_step taken) undisturbed
  have empty : Counted (System.init clock) := ⟨rfl, List.nodup_nil, rfl, List.nil_sublist _⟩
  have counted : Counted system := reached.invariant empty fun _ _ _ counted _ taken =>
    counted.step (move_of_step taken)
  refine ⟨fun after taken => ?_, counted.tokens ▸ counted.once, counted.total, counted.times⟩
  cases move_of_step taken with
  | launched at_ =>
    by_cases isSealed : system.adapter.admissionSealed = true
    · exact .inl isSealed
    · exact .inr (cooled.starts (by rw [at_]; rfl) ((Bool.not_eq_true _).mp isSealed))

/-- The steps up to a first runtime with a ready document, and its crash. -/
def crashSteps : List (Label Int) :=
  [.submit .start false, .next, .passSeal, .ensure false, .launch, .booted false, .initialized false,
    .documentReady]

/-- After a crash and its cooldown, a second start. -/
theorem cooldown_respected_later :
    ∃ (policy : CrashPolicy Int) (system : System Int),
      system.deadlines = [30] ∧
      (∃ after, step policy 32 system .launch = some after) ∧
      (∀ after, step policy 32 system .launch = some after →
        system.adapter.admissionSealed = true ∨
          ∀ deadline ∈ system.deadlines, deadline ≤ system.clock) ∧
      (system.log.map Prod.fst).Nodup ∧
      system.adapter.crashTotal = system.log.length ∧
      system.adapter.crashTimes.Sublist (system.log.map Prod.snd) := by
  let policy : CrashPolicy Int := ⟨1, 60, 30, by decide⟩
  obtain ⟨system, reached, deadlines, enabled⟩ := Reaches.of_run (step policy 32) Undisturbed
    (.init 0) (crashSteps ++ [.terminal 1, .record 1 0 0, .tick 30, .submit .start false, .next,
      .passSeal, .ensure false, .replaced false])
    (fun system => system.deadlines = [30] ∧ (step policy 32 system .launch).isSome = true)
    (by decide +kernel)
  exact ⟨policy, system, deadlines, Option.isSome_iff_exists.mp enabled,
    cooldown_respected policy 32 0 system reached⟩

/-- **A start in the middle of a cooldown.** The runtime crashes after the answer to the sentinel
query and before `_warm_global_worker` reports it: the report sets the phase to ready, and the next
item starts a runtime at once, thirty seconds early. -/
theorem cooldown_overwritten :
    ∃ (policy : CrashPolicy Int) (system : System Int),
      Reaches (step policy 32) (fun _ _ => True) (.init 0) system ∧
      system.adapter.admissionSealed = false ∧ system.deadlines = [30] ∧ system.clock = 0 ∧
      ∃ after, step policy 32 system .launch = some after := by
  let policy : CrashPolicy Int := ⟨1, 60, 30, by decide⟩
  obtain ⟨system, reached, unsealed, deadlines, clock, enabled⟩ := Reaches.of_run (step policy 32)
    (fun _ _ => True) (.init 0) (crashSteps ++ [.submit .warm false, .next, .passSeal, .ensure false,
      .warm, .terminal 1, .record 1 0 0, .warmed .current, .submit .start false, .next, .passSeal,
      .ensure false, .replaced false])
    (fun system => system.adapter.admissionSealed = false ∧ system.deadlines = [30] ∧
      system.clock = 0 ∧ (step policy 32 system .launch).isSome = true) (by decide +kernel)
  exact ⟨policy, system, reached, unsealed, deadlines, clock, Option.isSome_iff_exists.mp enabled⟩

end SerenaLight.Lsp.Adapter
