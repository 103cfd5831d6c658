/-
**Pre- and postconditions of stateful, fallible programs.**

`Triple pre program post fails`: started in a state of `pre`, the program ends in a state of `post`,
or with a fault in a state of `fails`. A fault keeps the state it was raised in, as an exception of
the host language does.

- `Triple.bind`, `Triple.weaken`: the rules of composition.
- `handle` is `try`/`except` and `ensuring` is `try`/`finally`; `Triple.handle` and `Triple.ensuring`
  are their rules.
- `Triple.ite`: a choice by a condition.
-/

import Mathlib.Tactic.Common

namespace SerenaLight.Foundation

variable {Fault State First Second : Type}

/-- `try` with a handler that sees the fault and the state it was raised in. -/
def handle (program : EStateM Fault State First) (handler : Fault → EStateM Fault State First) :
    EStateM Fault State First :=
  fun state =>
    match program state with
    | .ok value after => .ok value after
    | .error fault after => handler fault after

/-- `try … finally`: the cleanup runs in any case, and a fault of its own takes the place of the
result. -/
def ensuring (program : EStateM Fault State First) (cleanup : EStateM Fault State Unit) :
    EStateM Fault State First :=
  fun state =>
    match program state with
    | .ok value after =>
      match cleanup after with
      | .ok _ last => .ok value last
      | .error fault last => .error fault last
    | .error fault after =>
      match cleanup after with
      | .ok _ last => .error fault last
      | .error later last => .error later last

/-- What a program guarantees from the states of `pre`. -/
def Triple (pre : State → Prop) (program : EStateM Fault State First)
    (post : First → State → Prop) (fails : Fault → State → Prop) : Prop :=
  ∀ state, pre state →
    match program state with
    | .ok value after => post value after
    | .error fault after => fails fault after

namespace Triple

variable {pre : State → Prop} {program : EStateM Fault State First}
  {post : First → State → Prop} {fails : Fault → State → Prop}

theorem weaken {pre' : State → Prop} {post' : First → State → Prop} {fails' : Fault → State → Prop}
    (holds : Triple pre program post fails) (before : ∀ state, pre' state → pre state)
    (after : ∀ value state, post value state → post' value state)
    (failed : ∀ fault state, fails fault state → fails' fault state) :
    Triple pre' program post' fails' := by
  intro state start
  have run := holds state (before state start)
  cases done : program state with
  | ok value last =>
    rw [done] at run
    exact after value last run
  | error fault last =>
    rw [done] at run
    exact failed fault last run

theorem pure {value : First} (already : ∀ state, pre state → post value state) :
    Triple pre (Pure.pure value : EStateM Fault State First) post fails := already

theorem throw {fault : Fault} (already : ∀ state, pre state → fails fault state) :
    Triple pre (MonadExcept.throw fault : EStateM Fault State First) post fails := already

variable {middle : First → State → Prop}

theorem bind {next : First → EStateM Fault State Second} {last : Second → State → Prop}
    (first : Triple pre program middle fails)
    (second : ∀ value, Triple (middle value) (next value) last fails) :
    Triple pre (program >>= next) last fails := by
  intro state start
  have run := first state start
  show match EStateM.bind program next state with
    | .ok value after => last value after
    | .error fault after => fails fault after
  unfold EStateM.bind
  cases done : program state with
  | ok value after =>
    rw [done] at run
    exact second value after run
  | error fault after =>
    rw [done] at run
    exact run

theorem handle {handler : Fault → EStateM Fault State First} {caught : Fault → State → Prop}
    (first : Triple pre program post caught)
    (second : ∀ fault, Triple (caught fault) (handler fault) post fails) :
    Triple pre (Foundation.handle program handler) post fails := by
  intro state start
  have run := first state start
  unfold Foundation.handle
  cases done : program state with
  | ok value after =>
    rw [done] at run
    exact run
  | error fault after =>
    rw [done] at run
    exact second fault after run

theorem ensuring {cleanup : EStateM Fault State Unit} {raised : Fault → State → Prop}
    (first : Triple pre program middle raised)
    (afterOk : ∀ value, Triple (middle value) cleanup (fun _ => post value) fails)
    (afterFault : ∀ fault, Triple (raised fault) cleanup (fun _ => fails fault) fails) :
    Triple pre (Foundation.ensuring program cleanup) post fails := by
  intro state start
  have run := first state start
  unfold Foundation.ensuring
  cases done : program state with
  | ok value after =>
    rw [done] at run
    have clean := afterOk value after run
    dsimp only
    cases cleaned : cleanup after with
    | ok _ last | error fault last =>
      rw [cleaned] at clean
      exact clean
  | error fault after =>
    rw [done] at run
    have clean := afterFault fault after run
    dsimp only
    cases cleaned : cleanup after with
    | ok _ last | error later last =>
      rw [cleaned] at clean
      exact clean

/-- A choice by a condition. -/
theorem ite {condition : Prop} [Decidable condition] {other : EStateM Fault State First}
    (yes : condition → Triple pre program post fails)
    (no : ¬condition → Triple pre other post fails) :
    Triple pre (if condition then program else other) post fails := by
  by_cases holds : condition
  · rw [if_pos holds]
    exact yes holds
  · rw [if_neg holds]
    exact no holds

end Triple

end SerenaLight.Foundation
