/-
**The stop lock.**

`_stop_runtimes` adds its targets to the pending runtimes, gathers a stopper call for each pending
runtime, and keeps the ones whose stopper raised.

* `StopState.Gathers`: what holds of the batch while it is gathered.
* `StopState.Handles`: a runtime is pending, stopped, or a target that waits for the stop lock. No
  step of the stops loses one unless it cancels a task.
-/

import SerenaLight.Daemon.ServiceSteps

namespace SerenaLight.Daemon

open Foundation Workspace

variable {Identity Time : Type}

/-- The runtimes that a step hands to the stops. -/
def Effect.targets : Effect Identity Time → List RuntimeId
  | .stops _ targets _ => targets
  | _ => []

namespace StopState

variable {self after : StopState Identity Time} {label : Label Identity Time}
  {call : StopCall Identity Time} {runtime : RuntimeId}

theorem mem_addPending (pending targets : List RuntimeId) :
    runtime ∈ addPending pending targets ↔ runtime ∈ pending ∨ runtime ∈ targets := by
  induction targets generalizing pending with
  | nil => simp [addPending]
  | cons target rest ih =>
    rw [addPending, List.foldl_cons, ← addPending, ih]
    by_cases known : target ∈ pending
    · rw [if_pos known, List.mem_cons]
      constructor
      · exact Or.imp_right Or.inr
      · rintro (there | rfl | later)
        · exact .inl there
        · exact .inl known
        · exact .inr later
    · rw [if_neg known, List.mem_append, List.mem_singleton, List.mem_cons, or_assoc]

/-- A `_stop_runtimes` call has the lock: nothing is pending, or a batch is gathered. -/
theorem begin_cases (call : StopCall Identity Time) (self : StopState Identity Time) :
    (addPending self.pending call.targets = [] ∧
      begin call self =
        conclude call true { self with pending := addPending self.pending call.targets }) ∨
    begin call self = { self with
      pending := addPending self.pending call.targets
      holder := some { call, pending := addPending self.pending call.targets, results := [] } } := by
  by_cases none : addPending self.pending call.targets = []
  · exact .inl ⟨none, if_pos none⟩
  · exact .inr (if_neg none)

/-! ### The batch -/

/-- What holds while a batch is gathered: it has all pending runtimes, its call's targets among
them, and its good results are on record. -/
structure Gathers (stops : StopState Identity Time) : Prop where
  pending : ∀ {batch}, stops.holder = some batch → batch.pending = stops.pending
  own : ∀ {batch}, stops.holder = some batch → batch.call.targets ⊆ batch.pending
  confirmed : ∀ {batch runtime}, stops.holder = some batch → (runtime, true) ∈ batch.results →
    runtime ∈ stops.stopped

theorem Gathers.vacant (free : self.holder = none) : self.Gathers :=
  ⟨by simp [free], by simp [free], by simp [free]⟩

theorem Gathers.init : (init : StopState Identity Time).Gathers := .vacant rfl

theorem Gathers.answer (gathers : self.Gathers) (task : Task) (answer : Answer Identity Time) :
    (self.answer task answer).Gathers :=
  { gathers with }

theorem Gathers.begin {self : StopState Identity Time} (free : self.holder = none)
    (call : StopCall Identity Time) :
    (StopState.begin call self).Gathers := by
  rcases begin_cases call self with ⟨_, begun⟩ | begun
  · rw [begun]
    exact .vacant free
  · rw [begun]
    refine ⟨?_, ?_, ?_⟩
    · rintro _ ⟨⟩
      rfl
    · rintro _ ⟨⟩ target member
      exact (mem_addPending _ _).mpr (.inr member)
    · rintro _ _ ⟨⟩ member
      cases member

theorem Gathers.stopRuntimes (gathers : self.Gathers) (call : StopCall Identity Time) :
    (stopRuntimes call self).Gathers := by
  unfold StopState.stopRuntimes
  split
  · rename_i free
    rw [Bool.and_eq_true, Option.isNone_iff_eq_none] at free
    exact .begin free.1 call
  · exact { gathers with }

theorem Gathers.proceed (gathers : self.Gathers) (effect : Effect Identity Time) :
    (self.proceed effect).Gathers := by
  cases effect with
  | silent => exact gathers
  | answers task answer => exact gathers.answer task answer
  | stops task targets finish => exact gathers.stopRuntimes _

/-- A stopper thread that returned, inverted. -/
theorem stopperReturned_cases {ok : Bool} (taken : self.stopperReturned runtime ok = some after) :
    ∃ batch, self.holder = some batch ∧ runtime ∈ batch.pending ∧
      after = { self with
        holder := some { batch with results := batch.results ++ [(runtime, ok)] }
        stopped := if ok then runtime :: self.stopped else self.stopped } := by
  unfold stopperReturned at taken
  split at taken
  · rename_i batch holds
    split at taken
    · rename_i due
      exact ⟨batch, holds, due.1, (Option.some.inj taken).symm⟩
    · cases taken
  · cases taken

/-- A gathered batch, inverted. -/
theorem resume_cases (taken : self.resume = some after) :
    ∃ batch, self.holder = some batch ∧
      (∀ runtime ∈ batch.pending, ∃ ok, (runtime, ok) ∈ batch.results) ∧
      after = conclude batch.call (batch.call.targets.all fun target => !batch.failed target)
        { self with
          holder := none
          pending := self.pending.filter fun runtime =>
            runtime ∉ batch.pending ∨ batch.failed runtime } := by
  unfold resume at taken
  split at taken
  · rename_i batch holds
    split at taken
    · rename_i gathered
      refine ⟨batch, holds, fun runtime member => ?_, (Option.some.inj taken).symm⟩
      have done := List.all_eq_true.mp gathered runtime member
      rw [decide_eq_true_eq] at done
      obtain ⟨⟨_, ok⟩, found, rfl⟩ := List.mem_map.mp done
      exact ⟨ok, found⟩
    · cases taken
  · cases taken

/-- The grant of the stop lock, inverted. -/
theorem grant_cases (taken : self.grant = some after) :
    ∃ call rest, self.holder = none ∧ self.waiters = call :: rest ∧
      after = begin call { self with waiters := rest } := by
  unfold grant at taken
  split at taken
  · rename_i call rest free first
    exact ⟨call, rest, free, first, (Option.some.inj taken).symm⟩
  · cases taken

theorem Gathers.turns (gathers : self.Gathers) (turns : self.Turns label after) :
    after.Gathers := by
  cases turns with
  | waits => exact gathers
  | answered _ => exact gathers.answer _ _
  | returned taken =>
    obtain ⟨batch, holds, _, rfl⟩ := stopperReturned_cases taken
    have pending := gathers.pending holds
    have own := gathers.own holds
    refine ⟨?_, ?_, ?_⟩
    · rintro _ ⟨⟩
      exact pending
    · rintro _ ⟨⟩
      exact own
    · rintro _ other ⟨⟩ member
      rcases List.mem_append.mp member with earlier | here
      · have there := gathers.confirmed holds earlier
        split
        · exact List.mem_cons_of_mem _ there
        · exact there
      · cases List.mem_singleton.mp here
        exact List.mem_cons_self ..
  | resumed taken =>
    obtain ⟨batch, _, _, rfl⟩ := resume_cases taken
    exact .vacant rfl
  | granted taken =>
    obtain ⟨call, rest, free, _, rfl⟩ := grant_cases taken
    exact Gathers.begin (show ({ self with waiters := rest } : StopState _ _).holder = none from free)
      call
  | cancelled taken =>
    unfold cancelHolder at taken
    split at taken
    · cases taken
      exact .vacant rfl
    · cases taken
  | cancelledWaiting taken =>
    unfold cancelWaiting at taken
    split at taken
    · cases taken
      exact { gathers with }
    · cases taken

/-- A runtime of a gathered batch is stopped, or its stopper raised. -/
theorem Gathers.outcome (gathers : self.Gathers) {batch : StopBatch Identity Time}
    (holds : self.holder = some batch)
    (gathered : ∀ runtime ∈ batch.pending, ∃ ok, (runtime, ok) ∈ batch.results)
    (member : runtime ∈ batch.pending) :
    batch.failed runtime = true ∨ runtime ∈ self.stopped := by
  obtain ⟨ok, found⟩ := gathered runtime member
  cases ok with
  | true => exact .inr (gathers.confirmed holds found)
  | false => exact .inl (decide_eq_true found)

/-! ### No runtime is lost -/

/-- The runtime is pending, or stopped, or a target that waits for the stop lock. -/
def Handles (stops : StopState Identity Time) (runtime : RuntimeId) : Prop :=
  runtime ∈ stops.pending ∨ runtime ∈ stops.stopped ∨
    ∃ call ∈ stops.waiters, runtime ∈ call.targets

theorem handles_begin (handled : runtime ∈ call.targets ∨ self.Handles runtime) :
    (StopState.begin call self).Handles runtime := by
  have moved : runtime ∈ addPending self.pending call.targets ∨ runtime ∈ self.stopped ∨
      ∃ other ∈ self.waiters, runtime ∈ other.targets := by
    rcases handled with target | pending | later
    · exact .inl ((mem_addPending _ _).mpr (.inr target))
    · exact .inl ((mem_addPending _ _).mpr (.inl pending))
    · exact .inr later
  rcases begin_cases call self with ⟨_, begun⟩ | begun
  · rw [begun]
    exact moved
  · rw [begun]
    exact moved

theorem handles_proceed {effect : Effect Identity Time}
    (handled : runtime ∈ effect.targets ∨ self.Handles runtime) :
    (self.proceed effect).Handles runtime := by
  cases effect with
  | silent | answers _ _ => exact handled.resolve_left (by simp [Effect.targets])
  | stops task targets finish =>
    change runtime ∈ targets ∨ self.Handles runtime at handled
    show (stopRuntimes ⟨task, targets, finish⟩ self).Handles runtime
    unfold stopRuntimes
    split
    · exact handles_begin handled
    · rcases handled with target | pending | stopped | ⟨call, member, target⟩
      · exact .inr (.inr ⟨_, List.mem_append_right _ (List.mem_singleton_self _), target⟩)
      · exact .inl pending
      · exact .inr (.inl stopped)
      · exact .inr (.inr ⟨call, List.mem_append_left _ member, target⟩)

/-- **The stops lose no runtime** unless a task is cancelled. -/
theorem Handles.turns (handles : self.Handles runtime) (gathers : self.Gathers)
    (turns : self.Turns label after) (quiet : label.cancels = false) :
    after.Handles runtime := by
  cases turns with
  | waits | answered _ => exact handles
  | returned taken =>
    obtain ⟨batch, _, _, rfl⟩ := stopperReturned_cases taken
    refine handles.imp_right (Or.imp_left fun stopped => ?_)
    show runtime ∈ ite _ _ _
    split
    · exact List.mem_cons_of_mem _ stopped
    · exact stopped
  | resumed taken =>
    obtain ⟨batch, holds, gathered, rfl⟩ := resume_cases taken
    rcases handles with pending | later
    · rcases gathers.outcome holds gathered (gathers.pending holds ▸ pending) with failed | stopped
      · exact .inl (List.mem_filter.mpr ⟨pending, by simp [failed]⟩)
      · exact .inr (.inl stopped)
    · exact .inr later
  | granted taken =>
    obtain ⟨call, rest, free, first, rfl⟩ := grant_cases taken
    refine handles_begin ?_
    rcases handles with pending | stopped | ⟨other, member, target⟩
    · exact .inr (.inl pending)
    · exact .inr (.inr (.inl stopped))
    · rw [first] at member
      rcases List.mem_cons.mp member with rfl | later
      · exact .inl target
      · exact .inr (.inr (.inr ⟨other, later, target⟩))
  | cancelled _ | cancelledWaiting _ => cases quiet

end StopState

end SerenaLight.Daemon
