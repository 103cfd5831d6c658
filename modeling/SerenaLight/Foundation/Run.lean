/-
**Runs of a labelled transition function.**

`next state label` is the state after the step `label`, if that step is enabled in `state`.
`Reaches next allowed start` are the states that runs from `start` reach when every step of the run
is allowed in the state it is taken in.

* `Reaches.invariant`: what holds at the start and is kept by every allowed step holds in every
  state reached.
* `Reaches.mono`: fewer allowed steps reach fewer states. `Reaches.sharpen`: as many, if the others are
  not needed on the way.
* `Reaches.of_follow`: a list of labels that can be followed is a run.
* `Reaches.of_run`: so what holds at its end holds in a state reached.
-/

import Mathlib.Logic.Basic

namespace SerenaLight.Foundation

variable {State Label : Type*}

/-- The states reached by allowed steps. -/
inductive Reaches (next : State → Label → Option State) (allowed : State → Label → Prop)
    (start : State) : State → Prop
  | start : Reaches next allowed start start
  | step {before after : State} {label : Label} (reached : Reaches next allowed start before)
      (permitted : allowed before label) (taken : next before label = some after) :
      Reaches next allowed start after

namespace Reaches

variable {next : State → Label → Option State} {allowed : State → Label → Prop} {start : State}

/-- **The invariant rule.** -/
theorem invariant {Holds : State → Prop} (initial : Holds start)
    (kept : ∀ before label after, Holds before → allowed before label →
      next before label = some after → Holds after) {state : State}
    (reached : Reaches next allowed start state) : Holds state := by
  induction reached with
  | start => exact initial
  | step _ permitted taken ih => exact kept _ _ _ ih permitted taken

theorem mono {wider : State → Label → Prop}
    (weaker : ∀ state label, allowed state label → wider state label) {state : State}
    (reached : Reaches next allowed start state) : Reaches next wider start state := by
  induction reached with
  | start => exact .start
  | step _ permitted taken ih => exact .step ih (weaker _ _ permitted) taken

/-- Steps that are allowed wherever the run has come so far. -/
theorem sharpen {sharper : State → Label → Prop} {state : State}
    (reached : Reaches next allowed start state)
    (sharpens : ∀ state label, Reaches next sharper start state → allowed state label →
      sharper state label) : Reaches next sharper start state := by
  induction reached with
  | start => exact .start
  | step _ permitted taken ih => exact .step ih (sharpens _ _ ih permitted) taken

end Reaches

/-- The state after the steps `labels`, if each of them is enabled and allowed. -/
def follow (next : State → Label → Option State) (allowed : State → Label → Bool)
    (start : State) : List Label → Option State
  | [] => some start
  | label :: rest =>
    if allowed start label then
      match next start label with
      | some middle => follow next allowed middle rest
      | none => none
    else none

/-- **A list of labels that can be followed is a run.** -/
theorem Reaches.of_follow {next : State → Label → Option State} {allowed : State → Label → Bool}
    {start state : State} (labels : List Label)
    (followed : follow next allowed start labels = some state) :
    Reaches next (fun before label => allowed before label = true) start state := by
  -- the run grows at its end, so the induction keeps a run to the current state
  suffices grows : ∀ (labels : List Label) (current : State),
      Reaches next (fun before label => allowed before label = true) start current →
      follow next allowed current labels = some state →
      Reaches next (fun before label => allowed before label = true) start state from
    grows labels start .start followed
  intro labels
  induction labels with
  | nil =>
    intro current reached eq
    cases eq
    exact reached
  | cons label rest ih =>
    intro current reached eq
    rw [follow] at eq
    split at eq
    · rename_i permitted
      split at eq
      · rename_i middle taken
        exact ih middle (.step reached permitted taken) eq
      · cases eq
    · cases eq

/-- **A run of allowed steps to a state with a property**, where both can be decided. -/
theorem Reaches.of_run (next : State → Label → Option State) (allowed : State → Label → Prop)
    [∀ state label, Decidable (allowed state label)] (start : State) (labels : List Label)
    (property : State → Prop) [DecidablePred property]
    (checked : (follow next (fun state label => decide (allowed state label)) start labels).any
      (fun state => decide (property state)) = true) :
    ∃ state, Reaches next allowed start state ∧ property state := by
  obtain ⟨state, followed, holds⟩ := (Option.any_eq_true _ _).mp checked
  have reached := Reaches.of_follow labels followed
  exact ⟨state, reached.mono fun _ _ => of_decide_eq_true, of_decide_eq_true holds⟩

end SerenaLight.Foundation
