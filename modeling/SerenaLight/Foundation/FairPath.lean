/-
**Fair paths of a labelled transition function.**

Every label belongs to an actor, or to the environment. A path is infinite, with moments in which
nothing happens; an actor that could act at every moment from some time on does act.

* `FairPath.always`: what every moment keeps holds from then on.
* `FairPath.acts`: an actor that is able to act for as long as it does not, acts.
* `FairPath.exists_of_follow`: a list of labels that ends where nobody can act is a fair path.
-/

import Mathlib.Tactic.ByContra
import SerenaLight.Foundation.Run

namespace SerenaLight.Foundation

variable {State Label Actor : Type*}

section Paths

variable (next : State → Label → Option State) (actor : Label → Option Actor)

/-- One moment of a path. -/
def Moved (before : State) (label : Option Label) (after : State) : Prop :=
  match label with
  | none => after = before
  | some label => next before label = some after

/-- The actor can take a step. -/
def Able (who : Actor) (state : State) : Prop :=
  ∃ label, actor label = some who ∧ (next state label).isSome = true

/-- The actor takes this step. -/
def Acts (who : Actor) (label : Option Label) : Prop :=
  ∃ taken, label = some taken ∧ actor taken = some who

/-- **A fair path.** -/
structure FairPath where
  states : Nat → State
  labels : Nat → Option Label
  moves : ∀ time, Moved next (states time) (labels time) (states (time + 1))
  fair : ∀ who start, (∀ time, start ≤ time → Able next actor who (states time)) →
    ∃ time, start ≤ time ∧ Acts actor who (labels time)

end Paths

namespace FairPath

variable {next : State → Label → Option State} {actor : Label → Option Actor}
  (path : FairPath next actor)

variable {start : Nat}

/-- **What every moment keeps holds from then on.** -/
theorem always (Holds : State → Prop)
    (kept : ∀ time, start ≤ time → Holds (path.states time) → Holds (path.states (time + 1)))
    (holds : Holds (path.states start)) : ∀ time, start ≤ time → Holds (path.states time) := by
  intro time later
  induction later with
  | refl => exact holds
  | step later ih => exact kept _ later ih

variable {Holds : State → Prop}

/-- A property that every transition keeps is kept by every moment. -/
theorem kept
    (step : ∀ before label after, Holds before → next before label = some after → Holds after)
    (time : Nat) (holds : Holds (path.states time)) : Holds (path.states (time + 1)) := by
  have moves := path.moves time
  cases labelled : path.labels time with
  | none =>
    rw [labelled] at moves
    rw [show path.states (time + 1) = path.states time from moves]
    exact holds
  | some label =>
    rw [labelled] at moves
    exact step _ label _ holds moves

/-- **An invariant of the transitions holds at every time.** -/
theorem invariant (initial : Holds (path.states 0))
    (step : ∀ before label after, Holds before → next before label = some after → Holds after)
    (time : Nat) : Holds (path.states time) :=
  path.always Holds (fun time _ => path.kept step time) initial time (Nat.zero_le time)

/-- **An actor that is able to act for as long as it does not, acts.** -/
theorem acts (Holds : State → Prop) {who : Actor}
    (able : ∀ time, start ≤ time → Holds (path.states time) → Able next actor who (path.states time))
    (kept : ∀ time, start ≤ time → Holds (path.states time) → ¬Acts actor who (path.labels time) → Holds (path.states (time + 1)))
    (holds : Holds (path.states start)) :
    ∃ time, start ≤ time ∧ Acts actor who (path.labels time) ∧ Holds (path.states time) := by
  by_contra never
  have still := path.always Holds (fun time later holds => kept time later holds fun acted =>
    never ⟨time, later, acted, holds⟩) holds
  obtain ⟨time, later, acted⟩ := path.fair who start fun time later =>
    able time later (still time later)
  exact never ⟨time, later, acted, still time later⟩

/-! ### Paths of a given shape -/

/-- A path on which nothing happens. -/
def rest (state : State) (idle : ∀ who, ¬Able next actor who state) : FairPath next actor where
  states _ := state
  labels _ := none
  moves _ := rfl
  fair who start able := absurd (able start (Nat.le_refl start)) (idle who)

/-- One step, and then a path. -/
def cons (before : State) (label : Label) (taken : next before label = some (path.states 0)) :
    FairPath next actor where
  states
    | 0 => before
    | time + 1 => path.states time
  labels
    | 0 => some label
    | time + 1 => path.labels time
  moves
    | 0 => taken
    | time + 1 => path.moves time
  fair who start able := by
    obtain ⟨time, later, acted⟩ := path.fair who start fun time later =>
      able (time + 1) (Nat.le_succ_of_le later)
    exact ⟨time + 1, Nat.le_succ_of_le later, acted⟩

/-- A list of steps that can be followed, and then a path. What every step of both is checked for, every
step of the whole is. -/
theorem exists_of_follow {allowed : State → Label → Bool} {start : State} (steps : List Label)
    (followed : follow next allowed start steps = some (path.states 0))
    (checked : ∀ time label, path.labels time = some label →
      allowed (path.states time) label = true) :
    ∃ whole : FairPath next actor, whole.states 0 = start ∧
      (∀ time, whole.states (steps.length + time) = path.states time) ∧
      ∀ time label, whole.labels time = some label → allowed (whole.states time) label = true := by
  induction steps generalizing start with
  | nil =>
    cases followed
    exact ⟨path, rfl, fun time => by rw [List.length_nil, Nat.zero_add], checked⟩
  | cons label steps ih =>
    rw [follow] at followed
    split at followed
    · rename_i permitted
      split at followed
      · rename_i middle taken
        obtain ⟨whole, first, states, labels⟩ := ih followed
        have onto : next start label = some (whole.states 0) := first ▸ taken
        refine ⟨whole.cons start label onto, rfl, fun time => ?_, fun time other here => ?_⟩
        · rw [List.length_cons, Nat.add_right_comm]
          exact states time
        · cases time with
          | zero =>
            cases here
            exact permitted
          | succ time => exact labels time other here
      · cases followed
    · cases followed

end FairPath

end SerenaLight.Foundation
