/-
**Cooperative tasks over one shared state.**

`Coro` is a task of an event loop: between two of its suspensions it reads and writes the shared state
without interruption, and at a suspension it waits for the answer to an operation. A fault travels
through `handle` and `ensuring` as an exception does. A task may create another one, which takes its
first step later.

- `Model.step`: the interleavings of any number of tasks, with the answers of their environment.
- `Discipline`: what a task may rely on while it is suspended, and what it guarantees of each of its
  own segments. `Safe` is the verification condition of a task under a discipline, with one rule for
  each way to build a task (`Safe.bind`, `Safe.handle`, `Safe.ensuring`).
- `Discipline.Sound.reached`: if every task is safe, then in every run the invariant holds, and every
  task is where its verification says it is.
-/

import SerenaLight.Foundation.Run
import Mathlib.Tactic.Common

namespace SerenaLight.Foundation

/-! ### Tasks -/

/-- A task, up to its end. `act update next` updates the state and goes on with what it was before;
`spawn kind record next` creates a task, records its number, and goes on with it. -/
inductive Coro (State Op Answer Fault Kind : Type) (Value : Type) : Type where
  | done (value : Value)
  | fail (fault : Fault)
  | act (update : State → State) (next : State → Coro State Op Answer Fault Kind Value)
  | spawn (kind : Kind) (record : Nat → State → State)
      (next : Nat → Coro State Op Answer Fault Kind Value)
  | await (op : Op) (next : Except Fault Answer → Coro State Op Answer Fault Kind Value)

namespace Coro

variable {State Op Answer Fault Kind First Second : Type}

/-- One task after another. -/
def bind : Coro State Op Answer Fault Kind First →
    (First → Coro State Op Answer Fault Kind Second) → Coro State Op Answer Fault Kind Second
  | done value, rest => rest value
  | fail fault, _ => fail fault
  | act update next, rest => act update fun state => (next state).bind rest
  | spawn kind record next, rest => spawn kind record fun id => (next id).bind rest
  | await op next, rest => await op fun answer => (next answer).bind rest

instance : Monad (Coro State Op Answer Fault Kind) where
  pure := done
  bind := bind

/-- The state, as it is. -/
def get : Coro State Op Answer Fault Kind State := act id done

/-- One write. -/
def modify (update : State → State) : Coro State Op Answer Fault Kind Unit :=
  act update fun _ => done ()

/-- `create_task`, and the write that keeps the task. -/
def create (kind : Kind) (record : Nat → State → State) : Coro State Op Answer Fault Kind Nat :=
  spawn kind record done

/-- One suspension. -/
def wait (op : Op) : Coro State Op Answer Fault Kind Answer :=
  await op fun
    | .ok answer => done answer
    | .error fault => fail fault

/-- `try … except`. -/
def handle : Coro State Op Answer Fault Kind First →
    (Fault → Coro State Op Answer Fault Kind First) → Coro State Op Answer Fault Kind First
  | done value, _ => done value
  | fail fault, handler => handler fault
  | act update next, handler => act update fun state => (next state).handle handler
  | spawn kind record next, handler => spawn kind record fun id => (next id).handle handler
  | await op next, handler => await op fun answer => (next answer).handle handler

/-- `try … finally`, with a clean-up that is one write. -/
def ensuring : Coro State Op Answer Fault Kind First → (State → State) →
    Coro State Op Answer Fault Kind First
  | done value, cleanup => act cleanup fun _ => done value
  | fail fault, cleanup => act cleanup fun _ => fail fault
  | act update next, cleanup => act update fun state => (next state).ensuring cleanup
  | spawn kind record next, cleanup => spawn kind record fun id => (next id).ensuring cleanup
  | await op next, cleanup => await op fun answer => (next answer).ensuring cleanup

/-- Where a task is between two of its segments. -/
inductive Pause (State Op Answer Fault Kind Value : Type) : Type where
  | ended (result : Except Fault Value)
  | waits (op : Op) (next : Except Fault Answer → Coro State Op Answer Fault Kind Value)

/-- What a segment leaves behind: where the task is, the state, and the tasks it created. -/
structure Segment (State Op Answer Fault Kind Value : Type) where
  pause : Pause State Op Answer Fault Kind Value
  state : State
  created : List Kind

/-- A segment: the task runs until it ends or suspends. `count` is the next free number. -/
def advance : Coro State Op Answer Fault Kind First → Nat → State →
    Segment State Op Answer Fault Kind First
  | done value, _, state => ⟨.ended (.ok value), state, []⟩
  | fail fault, _, state => ⟨.ended (.error fault), state, []⟩
  | act update next, count, state => (next state).advance count (update state)
  | spawn kind record next, count, state =>
    let reached := (next count).advance (count + 1) (record count state)
    { reached with created := kind :: reached.created }
  | await op next, _, state => ⟨.waits op next, state, []⟩

/-! ### What a task is made of -/

section Only

variable (acts : State → State → Prop) (ops : Op → Prop) (kinds : Kind → Prop)

/-- Every write of the task is one of `acts`, every operation it waits for one of `ops`, and every
task it creates one of `kinds`. -/
def Only : Coro State Op Answer Fault Kind First → Prop
  | done _ => True
  | fail _ => True
  | act update next => (∀ state, acts state (update state)) ∧ ∀ state, (next state).Only
  | spawn kind record next =>
    (kinds kind ∧ ∀ id state, acts state (record id state)) ∧ ∀ id, (next id).Only
  | await op next => ops op ∧ ∀ answer, (next answer).Only

variable {acts ops kinds} {program : Coro State Op Answer Fault Kind First}

theorem Only.mono {moreActs : State → State → Prop} {moreOps : Op → Prop} {moreKinds : Kind → Prop}
    (only : Only acts ops kinds program) (writes : ∀ start now, acts start now → moreActs start now)
    (waits : ∀ op, ops op → moreOps op) (creates : ∀ kind, kinds kind → moreKinds kind) :
    Only moreActs moreOps moreKinds program := by
  induction program with
  | done value | fail fault => exact trivial
  | act update next ih =>
    exact ⟨fun state => writes _ _ (only.1 state), fun state => ih state (only.2 state)⟩
  | spawn kind record next ih =>
    exact ⟨⟨creates kind only.1.1, fun id state => writes _ _ (only.1.2 id state)⟩,
      fun id => ih id (only.2 id)⟩
  | await op next ih => exact ⟨waits op only.1, fun answer => ih answer (only.2 answer)⟩

theorem only_pure (value : First) :
    Only acts ops kinds (pure value : Coro State Op Answer Fault Kind First) := trivial

theorem only_bind {rest : First → Coro State Op Answer Fault Kind Second}
    (first : Only acts ops kinds program) (second : ∀ value, Only acts ops kinds (rest value)) :
    Only acts ops kinds (program >>= rest) := by
  show Only acts ops kinds (program.bind rest)
  induction program with
  | done value => exact second value
  | fail fault => exact trivial
  | act update next ih => exact ⟨first.1, fun state => ih state (first.2 state)⟩
  | spawn kind record next ih => exact ⟨first.1, fun id => ih id (first.2 id)⟩
  | await op next ih => exact ⟨first.1, fun answer => ih answer (first.2 answer)⟩

theorem only_handle {handler : Fault → Coro State Op Answer Fault Kind First}
    (first : Only acts ops kinds program) (second : ∀ fault, Only acts ops kinds (handler fault)) :
    Only acts ops kinds (program.handle handler) := by
  induction program with
  | done value => exact trivial
  | fail fault => exact second fault
  | act update next ih => exact ⟨first.1, fun state => ih state (first.2 state)⟩
  | spawn kind record next ih => exact ⟨first.1, fun id => ih id (first.2 id)⟩
  | await op next ih => exact ⟨first.1, fun answer => ih answer (first.2 answer)⟩

theorem only_ensuring {cleanup : State → State} (first : Only acts ops kinds program)
    (second : ∀ state, acts state (cleanup state)) :
    Only acts ops kinds (program.ensuring cleanup) := by
  induction program with
  | done value | fail fault => exact ⟨second, fun _ => trivial⟩
  | act update next ih => exact ⟨first.1, fun state => ih state (first.2 state)⟩
  | spawn kind record next ih => exact ⟨first.1, fun id => ih id (first.2 id)⟩
  | await op next ih => exact ⟨first.1, fun answer => ih answer (first.2 answer)⟩

theorem only_get (stays : ∀ state, acts state state) :
    Only acts ops kinds (get : Coro State Op Answer Fault Kind State) :=
  ⟨stays, fun _ => trivial⟩

theorem only_modify {update : State → State} (updates : ∀ state, acts state (update state)) :
    Only acts ops kinds (modify update : Coro State Op Answer Fault Kind Unit) :=
  ⟨updates, fun _ => trivial⟩

theorem only_create {kind : Kind} {record : Nat → State → State} (created : kinds kind)
    (records : ∀ id state, acts state (record id state)) :
    Only acts ops kinds (create kind record : Coro State Op Answer Fault Kind Nat) :=
  ⟨⟨created, records⟩, fun _ => trivial⟩

theorem only_wait {op : Op} (waited : ops op) :
    Only acts ops kinds (wait op : Coro State Op Answer Fault Kind Answer) := by
  refine ⟨waited, fun answer => ?_⟩
  cases answer <;> exact trivial

/-- A property of tasks that follows their structure, from the writes and the suspensions that have
it. -/
structure Structural (holds : ∀ {Value : Type}, Coro State Op Answer Fault Kind Value → Prop)
    (writes : (State → State) → Prop) (waits : Op → Prop) : Prop where
  returns : ∀ {Value : Type} (value : Value), holds (done value)
  raises : ∀ {Value : Type} (fault : Fault), holds (fail fault : Coro _ _ _ _ _ Value)
  binds : ∀ {Before After : Type} {program : Coro State Op Answer Fault Kind Before}
    {rest : Before → Coro State Op Answer Fault Kind After},
    holds program → (∀ value, holds (rest value)) → holds (program >>= rest)
  handles : ∀ {Value : Type} {program : Coro State Op Answer Fault Kind Value}
    {handler : Fault → Coro State Op Answer Fault Kind Value},
    holds program → (∀ fault, holds (handler fault)) → holds (program.handle handler)
  ensures : ∀ {Value : Type} {program : Coro State Op Answer Fault Kind Value}
    {cleanup : State → State}, holds program → writes cleanup → holds (program.ensuring cleanup)
  reads : holds (get : Coro State Op Answer Fault Kind State)
  updates : ∀ {update : State → State}, writes update →
    holds (modify update : Coro State Op Answer Fault Kind Unit)
  awaits : ∀ {op : Op}, waits op → holds (wait op : Coro State Op Answer Fault Kind Answer)

theorem only_structural (stays : ∀ state, acts state state) :
    @Structural State Op Answer Fault Kind (Only acts ops kinds)
      (fun update => ∀ state, acts state (update state)) ops where
  returns _ := trivial
  raises _ := trivial
  binds := only_bind
  handles := only_handle
  ensures := only_ensuring
  reads := only_get stays
  updates := only_modify
  awaits := only_wait

theorem Structural.mono
    {holds : ∀ {Value : Type}, Coro State Op Answer Fault Kind Value → Prop}
    {writes fewerWrites : (State → State) → Prop} {waits fewerWaits : Op → Prop}
    (structural : Structural holds writes waits)
    (written : ∀ update, fewerWrites update → writes update)
    (waited : ∀ op, fewerWaits op → waits op) : Structural holds fewerWrites fewerWaits :=
  { structural with
    ensures := fun first cleans => structural.ensures first (written _ cleans)
    updates := fun updates => structural.updates (written _ updates)
    awaits := fun awaits => structural.awaits (waited _ awaits) }

/-- The harmless steps of one segment. -/
theorem Only.advance (only : Only acts ops kinds program) (stays : ∀ state, acts state state)
    (joins : ∀ first second third, acts first second → acts second third → acts first third)
    (count : Nat) (state : State) :
    acts state (program.advance count state).state ∧
      ∀ op next, (program.advance count state).pause = .waits op next →
        ∀ answer, Only acts ops kinds (next answer) := by
  induction program generalizing count state with
  | done value | fail fault => exact ⟨stays state, nofun⟩
  | act update next ih =>
    obtain ⟨rest, waits⟩ := ih state (only.2 state) count (update state)
    exact ⟨joins _ _ _ (only.1 state) rest, waits⟩
  | spawn kind record next ih =>
    obtain ⟨rest, waits⟩ := ih count (only.2 count) (count + 1) (record count state)
    exact ⟨joins _ _ _ (only.1.2 count state) rest, waits⟩
  | await op next ih =>
    refine ⟨stays state, fun op next eq => ?_⟩
    cases eq
    exact only.2

end Only

end Coro

open Coro

/-! ### Interleavings -/

/-- A system of tasks. A task whose kind has a `rest` is a loop: each of its rounds waits for that
operation and then runs the body. `admits` are the kinds of task that are started from outside; a task
of another kind is created by a task, and first waits for the operation `birth`. `answers` tells how
an operation is answered, and what the answer does to the state; `ends` is what the end of a task does
to it. -/
structure Model (State Op Answer Fault Kind Value Env : Type) where
  body : Kind → Nat → Coro State Op Answer Fault Kind Value
  rest : Kind → Option Op
  birth : Op
  admits : Kind → Bool
  answers : Kind → Nat → State → Op → Except Fault Answer → Option State
  ends : Kind → Nat → State → State
  environment : Env → State → Option State

/-- The shared state, and every task that was ever started, by its number. -/
structure World (State Op Answer Fault Kind Value : Type) where
  state : State
  tasks : List (Kind × Pause State Op Answer Fault Kind Value)

/-- A step: a new task from outside, a task that goes on, or the environment. -/
inductive WorldLabel (Answer Fault Kind Env : Type) where
  | spawn (kind : Kind)
  | resume (id : Nat) (answer : Except Fault Answer)
  | environment (env : Env)

variable {State Op Answer Fault Kind Value Env : Type}

namespace Model

variable (model : Model State Op Answer Fault Kind Value Env)

/-- A task from its first step on, or one round of it. -/
def round (kind : Kind) (id : Nat) : Coro State Op Answer Fault Kind Value :=
  match model.rest kind with
  | none => model.body kind id
  | some op => .await op fun
      | .ok _ => model.body kind id
      | .error fault => .fail fault

/-- A created task before its first step. -/
def unborn (kind : Kind) (id : Nat) : Pause State Op Answer Fault Kind Value :=
  .waits model.birth fun
    | .ok _ => model.round kind id
    | .error fault => .fail fault

/-- The end of a segment; where a loop has run its body, the next round begins. -/
def settle (kind : Kind) (id : Nat) (reached : Segment State Op Answer Fault Kind Value) :
    Segment State Op Answer Fault Kind Value :=
  match reached.pause, model.rest kind with
  | .ended (.ok _), some op => { reached with pause := .waits op fun
      | .ok _ => model.body kind id
      | .error fault => .fail fault }
  | .ended _, _ => { reached with state := model.ends kind id reached.state }
  | .waits _ _, _ => reached

/-- The tasks that a segment created, with the numbers from `count` on. -/
def children (count : Nat) (kinds : List Kind) :
    List (Kind × Pause State Op Answer Fault Kind Value) :=
  kinds.mapIdx fun index kind => (kind, model.unborn kind (count + index))

def step (world : World State Op Answer Fault Kind Value) :
    WorldLabel Answer Fault Kind Env → Option (World State Op Answer Fault Kind Value)
  | .spawn kind =>
    if model.admits kind then
      let id := world.tasks.length
      let reached := model.settle kind id ((model.round kind id).advance (id + 1) world.state)
      some ⟨reached.state, world.tasks ++ [(kind, reached.pause)] ++
        model.children (id + 1) reached.created⟩
    else none
  | .resume id answer =>
    match world.tasks[id]? with
    | some (kind, .waits op next) =>
      match model.answers kind id world.state op answer with
      | some resumed =>
        let reached := model.settle kind id
          ((next answer).advance world.tasks.length resumed)
        some ⟨reached.state, world.tasks.set id (kind, reached.pause) ++
          model.children world.tasks.length reached.created⟩
      | none => none
    | _ => none
  | .environment env =>
    match model.environment env world.state with
    | some state => some { world with state := state }
    | none => none

/-- What settles is the end of a segment, not the tasks it created on its way. -/
theorem settle_created (kind : Kind) (id : Nat)
    (reached : Segment State Op Answer Fault Kind Value) :
    (model.settle kind id reached).created = reached.created := by
  unfold settle
  rcases reached with ⟨(_ | _) | _, _, _⟩ <;> cases model.rest kind <;> rfl

theorem settle_cons (kind : Kind) (id : Nat) (reached : Segment State Op Answer Fault Kind Value)
    (child : Kind) :
    model.settle kind id { reached with created := child :: reached.created } =
      { model.settle kind id reached with created := child :: reached.created } := by
  unfold settle
  rcases reached with ⟨(_ | _) | _, _, _⟩ <;> cases model.rest kind <;> rfl

section Steps

variable {model} {before after : World State Op Answer Fault Kind Value}

variable {label : WorldLabel Answer Fault Kind Env} {id : Nat}
  {pause : Pause State Op Answer Fault Kind Value}

end Steps

end Model

/-! ### Rely and guarantee -/

/-- The terms on which the tasks of a system live together. -/
structure Discipline (State Op Answer Fault Kind Value : Type) where
  /-- the tasks that the runs in question start from outside -/
  starts : Kind → State → Prop
  /-- the answers that they allow -/
  permits : Kind → Nat → State → Op → Except Fault Answer → Prop
  /-- what holds between any two segments -/
  inv : State → Prop
  /-- what the others may do while a task is suspended -/
  rely : Nat → State → State → Prop
  /-- what a suspended task knows, by the operation it waits for -/
  holdsAt : Kind → Nat → Op → State → Prop
  /-- what holds once a task has ended -/
  post : Kind → Nat → Except Fault Value → State → Prop
  /-- what holds for a number that no task has yet -/
  fresh : Nat → State → Prop

namespace Discipline

variable (model : Model State Op Answer Fault Kind Value Env)
  (terms : Discipline State Op Answer Fault Kind Value)

/-- What a segment of the task `id` guarantees: everyone else may rely on what they rely on. -/
def Guarantees (id : Nat) (start now : State) : Prop :=
  ∀ other, other ≠ id → terms.rely other start now

section Safe

variable (kind : Kind) (id : Nat)

/-- **The verification condition of a task** in a segment that began at `start`, with the state `now`.
`goal` is what it has to reach. -/
def Safe {Result : Type} (goal : State → Except Fault Result → State → Prop) :
    Coro State Op Answer Fault Kind Result → State → State → Prop
  | .done value, start, now => goal start (.ok value) now
  | .fail fault, start, now => goal start (.error fault) now
  | .act update next, start, now => Safe goal (next now) start (update now)
  -- the segment is cut here, so that the new task may rely on the rest of it
  | .spawn child record next, start, now =>
    model.admits child = false ∧
    ∀ new, new ≠ id → terms.fresh new start →
      (terms.holdsAt child new model.birth (record new now) ∧
        ∀ other, other ≠ id → other ≠ new → terms.rely other start (record new now)) ∧
      Safe goal (next new) (record new now) (record new now)
  | .await op next, start, now =>
    (terms.inv now ∧ Guarantees terms id start now ∧ terms.holdsAt kind id op now) ∧
    ∀ later resumed answer, terms.rely id now later → terms.inv later →
      terms.permits kind id later op answer →
      model.answers kind id later op answer = some resumed →
      Safe goal (next answer) later resumed

variable {model terms kind id} {First Second : Type}
  {goal : State → Except Fault First → State → Prop}
  {program : Coro State Op Answer Fault Kind First} {start now : State}
  {rest : First → Coro State Op Answer Fault Kind Second}
  {handler : Fault → Coro State Op Answer Fault Kind First}
  {cleanup : State → State}

/-- A task that is safe for one goal is safe for a weaker one. -/
theorem Safe.mono {weaker : State → Except Fault First → State → Prop}
    (safe : Safe model terms kind id goal program start now)
    (weakens : ∀ start result now, goal start result now → weaker start result now) :
    Safe model terms kind id weaker program start now := by
  induction program generalizing start now with
  | done value | fail fault => exact weakens _ _ _ safe
  | act update next ih => exact ih _ safe
  | spawn child record next ih =>
    exact ⟨safe.1, fun new other fresh => ⟨(safe.2 new other fresh).1,
      ih new (safe.2 new other fresh).2⟩⟩
  | await op next ih =>
    exact ⟨safe.1, fun later resumed answer relied inv permitted answered =>
      ih answer (safe.2 later resumed answer relied inv permitted answered)⟩

section Sequence

variable (model terms kind id)

/-- What the first of two tasks has to reach, so that the second one reaches `goal`. -/
def Then (goal : State → Except Fault Second → State → Prop)
    (rest : First → Coro State Op Answer Fault Kind Second) (start : State) :
    Except Fault First → State → Prop
  | .ok value, now => Safe model terms kind id goal (rest value) start now
  | .error fault, now => goal start (.error fault) now

/-- What a task has to reach, so that with its handler it reaches `goal`. -/
def Else (goal : State → Except Fault First → State → Prop)
    (handler : Fault → Coro State Op Answer Fault Kind First) (start : State) :
    Except Fault First → State → Prop
  | .ok value, now => goal start (.ok value) now
  | .error fault, now => Safe model terms kind id goal (handler fault) start now

end Sequence

variable {after : State → Except Fault Second → State → Prop} {acts : State → State → Prop}
  {ops : Op → Prop} {kinds : Kind → Prop}

theorem Safe.bind
    (safe : Safe model terms kind id (Then model terms kind id after rest) program start now) :
    Safe model terms kind id after (program >>= rest) start now := by
  show Safe model terms kind id after (program.bind rest) start now
  induction program generalizing start now with
  | done value | fail fault => exact safe
  | act update next ih => exact ih _ safe
  | spawn child record next ih =>
    exact ⟨safe.1, fun new other fresh => ⟨(safe.2 new other fresh).1,
      ih new (safe.2 new other fresh).2⟩⟩
  | await op next ih =>
    exact ⟨safe.1, fun later resumed answer relied inv permitted answered =>
      ih answer (safe.2 later resumed answer relied inv permitted answered)⟩

theorem Safe.handle
    (safe : Safe model terms kind id (Else model terms kind id goal handler) program start now) :
    Safe model terms kind id goal (program.handle handler) start now := by
  induction program generalizing start now with
  | done value | fail fault => exact safe
  | act update next ih => exact ih _ safe
  | spawn child record next ih =>
    exact ⟨safe.1, fun new other fresh => ⟨(safe.2 new other fresh).1,
      ih new (safe.2 new other fresh).2⟩⟩
  | await op next ih =>
    exact ⟨safe.1, fun later resumed answer relied inv permitted answered =>
      ih answer (safe.2 later resumed answer relied inv permitted answered)⟩

theorem Safe.ensuring
    (safe : Safe model terms kind id (fun start result now => goal start result (cleanup now))
      program start now) :
    Safe model terms kind id goal (program.ensuring cleanup) start now := by
  induction program generalizing start now with
  | done value | fail fault => exact safe
  | act update next ih => exact ih _ safe
  | spawn child record next ih =>
    exact ⟨safe.1, fun new other fresh => ⟨(safe.2 new other fresh).1,
      ih new (safe.2 new other fresh).2⟩⟩
  | await op next ih =>
    exact ⟨safe.1, fun later resumed answer relied inv permitted answered =>
      ih answer (safe.2 later resumed answer relied inv permitted answered)⟩

/-- One verified task after another. -/
theorem safe_bind (safe : Safe model terms kind id goal program start now)
    (goes : ∀ start value now, goal start (.ok value) now →
      Safe model terms kind id after (rest value) start now)
    (raises : ∀ start fault now, goal start (.error fault) now → after start (.error fault) now) :
    Safe model terms kind id after (program >>= rest) start now := by
  refine Safe.bind (safe.mono fun start result now reached => ?_)
  cases result with
  | ok value => exact goes start value now reached
  | error fault => exact raises start fault now reached

/-- A verified task with a verified handler. -/
theorem safe_handle
    {after : State → Except Fault First → State → Prop}
    (safe : Safe model terms kind id goal program start now)
    (returns : ∀ start value now, goal start (.ok value) now → after start (.ok value) now)
    (handles : ∀ start fault now, goal start (.error fault) now →
      Safe model terms kind id after (handler fault) start now) :
    Safe model terms kind id after (program.handle handler) start now := by
  refine Safe.handle (safe.mono fun start result now reached => ?_)
  cases result with
  | ok value => exact returns start value now reached
  | error fault => exact handles start fault now reached

theorem safe_wait {op : Op} {ends : State → Except Fault Answer → State → Prop}
    (suspends : terms.inv now ∧ Guarantees terms id start now ∧ terms.holdsAt kind id op now)
    (resumes : ∀ later resumed answer, terms.rely id now later → terms.inv later →
      terms.permits kind id later op answer →
      model.answers kind id later op answer = some resumed → ends later answer resumed) :
    Safe model terms kind id ends (wait op) start now := by
  refine ⟨suspends, fun later resumed answer relied inv permitted answered => ?_⟩
  have reached := resumes later resumed answer relied inv permitted answered
  cases answer with
  | ok value | error fault => exact reached

theorem safe_get_bind {rest : State → Coro State Op Answer Fault Kind First}
    (safe : Safe model terms kind id goal (rest now) start now) :
    Safe model terms kind id goal (get >>= rest) start now := safe

theorem safe_modify_bind {update : State → State} {rest : Unit → Coro State Op Answer Fault Kind First}
    (safe : Safe model terms kind id goal (rest ()) start (update now)) :
    Safe model terms kind id goal (modify update >>= rest) start now := safe

/-- **A task made of harmless steps** keeps an assertion that all of them keep. -/
theorem Safe.of_only {assertion : State → State → Prop} (only : Only acts ops kinds program)
    (writes : ∀ start now after, acts now after → assertion start now → assertion start after)
    (suspends : ∀ op start now, ops op → assertion start now →
      terms.inv now ∧ Guarantees terms id start now ∧ terms.holdsAt kind id op now)
    (resumes : ∀ op start now later resumed answer, ops op → assertion start now →
      terms.rely id now later → terms.inv later → terms.permits kind id later op answer →
      model.answers kind id later op answer = some resumed → assertion later resumed)
    (creates : ∀ child start now, kinds child → assertion start now →
      model.admits child = false ∧
      ∀ new after, new ≠ id → terms.fresh new start → acts now after →
        (terms.holdsAt child new model.birth after ∧
          ∀ other, other ≠ id → other ≠ new → terms.rely other start after) ∧
        assertion after after) (holds : assertion start now) :
    Safe model terms kind id (fun start _ now => assertion start now) program start now := by
  induction program generalizing start now with
  | done value | fail fault => exact holds
  | act update next ih => exact ih now (only.2 now) (writes _ _ _ (only.1 now) holds)
  | spawn child record next ih =>
    obtain ⟨created, goes⟩ := creates child start now only.1.1 holds
    refine ⟨created, fun new other fresh => ?_⟩
    obtain ⟨born, still⟩ := goes new (record new now) other fresh (only.1.2 new now)
    exact ⟨born, ih new (only.2 new) still⟩
  | await op next ih =>
    refine ⟨suspends op start now only.1 holds, ?_⟩
    intro later resumed answer relied inv permitted answered
    exact ih answer (only.2 answer)
      (resumes op start now later resumed answer only.1 holds relied inv permitted answered)

/-- **The frame rule**: what every step keeps may be added to a goal. -/
theorem Safe.frame {frame : State → Prop} (safe : Safe model terms kind id goal program start now)
    (only : Only acts ops kinds program)
    (writes : ∀ now after, acts now after → frame now → frame after)
    (relies : ∀ now later, terms.rely id now later → frame now → frame later)
    (resumes : ∀ op answer later resumed, model.answers kind id later op answer = some resumed →
      frame later → frame resumed) (holds : frame now) :
    Safe model terms kind id (fun start result now => goal start result now ∧ frame now)
      program start now := by
  induction program generalizing start now with
  | done value | fail fault => exact ⟨safe, holds⟩
  | act update next ih => exact ih now safe (only.2 now) (writes _ _ (only.1 now) holds)
  | spawn child record next ih =>
    exact ⟨safe.1, fun new other fresh => ⟨(safe.2 new other fresh).1,
      ih new (safe.2 new other fresh).2 (only.2 new) (writes _ _ (only.1.2 new now) holds)⟩⟩
  | await op next ih =>
    refine ⟨safe.1, fun later resumed answer relied inv permitted answered => ?_⟩
    exact ih answer (safe.2 later resumed answer relied inv permitted answered) (only.2 answer)
      (resumes op answer later resumed answered (relies now later relied holds))

/-! ### Assertions that a whole task keeps -/

section Keeps

variable {assertion : State → State → Prop}

variable (model terms kind id) in
/-- The task keeps the assertion, wherever it is started and however it ends. -/
def Keeps (assertion : State → State → Prop)
    (program : Coro State Op Answer Fault Kind First) : Prop :=
  ∀ start now, assertion start now →
    Safe model terms kind id (fun start _ now => assertion start now) program start now

theorem keeps_pure (value : First) :
    Keeps model terms kind id assertion (pure value : Coro State Op Answer Fault Kind First) :=
  fun _ _ holds => holds

theorem keeps_fail (fault : Fault) :
    Keeps model terms kind id assertion (.fail fault : Coro State Op Answer Fault Kind First) :=
  fun _ _ holds => holds

section

variable (first : Keeps model terms kind id assertion program)

include first

theorem keeps_bind
    (second : ∀ value, Keeps model terms kind id assertion (rest value)) :
    Keeps model terms kind id assertion (program >>= rest) :=
  fun start now holds => safe_bind (first start now holds)
    (fun start value now holds => second value start now holds) fun _ _ _ holds => holds

theorem keeps_handle
    (second : ∀ fault, Keeps model terms kind id assertion (handler fault)) :
    Keeps model terms kind id assertion (program.handle handler) :=
  fun start now holds => safe_handle (first start now holds) (fun _ _ _ holds => holds)
    fun start fault now holds => second fault start now holds

theorem keeps_ensuring
    (cleans : ∀ start now, assertion start now → assertion start (cleanup now)) :
    Keeps model terms kind id assertion (program.ensuring cleanup) :=
  fun start now holds => Safe.ensuring ((first start now holds).mono
    fun start _ now holds => cleans start now holds)

end

end Keeps

end Safe

/-! ### Every task at once -/

/-- What a task has to reach: the rest between two rounds, or its end. -/
def Goal (kind : Kind) (id : Nat) (start : State) (result : Except Fault Value) (now : State) :
    Prop :=
  match result, model.rest kind with
  | .ok _, some op =>
    terms.inv now ∧ Guarantees terms id start now ∧ terms.holdsAt kind id op now
  | result, _ =>
    terms.inv (model.ends kind id now) ∧ Guarantees terms id start (model.ends kind id now) ∧
      terms.post kind id result (model.ends kind id now)

/-- What is known of a task between two steps. -/
def Stands (kind : Kind) (id : Nat) (state : State) : Pause State Op Answer Fault Kind Value → Prop
  | .ended result => terms.post kind id result state
  | .waits op next => terms.holdsAt kind id op state ∧
      ∀ later resumed answer, terms.rely id state later → terms.inv later →
        terms.permits kind id later op answer →
        model.answers kind id later op answer = some resumed →
        Safe model terms kind id (Goal model terms kind id) (next answer) later resumed

/-- What is known of a whole system between two steps. -/
structure Ordered (world : World State Op Answer Fault Kind Value) : Prop where
  inv : terms.inv world.state
  stands : ∀ id kind pause, world.tasks[id]? = some (kind, pause) →
    Stands model terms kind id world.state pause
  fresh : ∀ id, world.tasks.length ≤ id → terms.fresh id world.state

/-- **The proof obligations of a discipline.** -/
structure Sound : Prop where
  rely_refl : ∀ id state, terms.rely id state state
  rely_trans : ∀ id first second third, terms.rely id first second → terms.rely id second third →
    terms.rely id first third
  environment_inv : ∀ env start now, model.environment env start = some now → terms.inv start →
    terms.inv now
  environment_rely : ∀ env start now id, model.environment env start = some now →
    terms.inv start → terms.rely id start now
  post_stable : ∀ kind id result start now, terms.rely id start now →
    terms.post kind id result start → terms.post kind id result now
  holdsAt_stable : ∀ kind id op start now, terms.rely id start now →
    terms.holdsAt kind id op start → terms.holdsAt kind id op now
  fresh_stable : ∀ id start now, terms.rely id start now → terms.fresh id start →
    terms.fresh id now
  /-- a task from outside -/
  begins : ∀ kind id state, model.admits kind = true → terms.starts kind state → terms.inv state →
    terms.fresh id state →
    Safe model terms kind id (Goal model terms kind id) (model.round kind id) state state
  /-- the first step of a task that another one created -/
  bears : ∀ kind id later resumed answer, model.admits kind = false →
    terms.holdsAt kind id model.birth later → terms.inv later →
    terms.permits kind id later model.birth answer →
    model.answers kind id later model.birth answer = some resumed →
    match answer with
    | .ok _ => Safe model terms kind id (Goal model terms kind id) (model.round kind id) later resumed
    | .error fault => Goal model terms kind id later (.error fault) resumed
  /-- a round of a loop after its rest -/
  rounds : ∀ kind id op later resumed answer, model.rest kind = some op →
    terms.holdsAt kind id op later → terms.inv later → terms.permits kind id later op answer →
    model.answers kind id later op answer = some resumed →
    match answer with
    | .ok _ => Safe model terms kind id (Goal model terms kind id) (model.body kind id) later resumed
    | .error fault => Goal model terms kind id later (.error fault) resumed

variable {model terms} {kind : Kind} {id count : Nat} {start now : State}

variable {pause : Pause State Op Answer Fault Kind Value}

/-- A suspended or ended task stands where it stood after what it relies on. -/
theorem Sound.stands_stable (sound : Sound model terms) (relied : terms.rely id start now)
    (stands : Stands model terms kind id start pause) : Stands model terms kind id now pause := by
  cases pause with
  | ended result => exact sound.post_stable kind id result start now relied stands
  | waits op next =>
    refine ⟨sound.holdsAt_stable kind id op start now relied stands.1, ?_⟩
    intro later resumed answer further
    exact stands.2 later resumed answer (sound.rely_trans id start now later relied further)

/-- A created task waits for its first step. -/
theorem Sound.stands_unborn (sound : Sound model terms) (created : model.admits kind = false)
    (holds : terms.holdsAt kind id model.birth now) :
    Stands model terms kind id now (model.unborn kind id) := by
  refine ⟨holds, fun later resumed answer relied inv permitted answered => ?_⟩
  have stays := sound.holdsAt_stable kind id model.birth now later relied holds
  have first := sound.bears kind id later resumed answer created stays inv permitted answered
  cases answer with
  | ok value | error fault => exact first

/-- What a segment leaves behind. -/
structure Leaves (model : Model State Op Answer Fault Kind Value Env)
    (terms : Discipline State Op Answer Fault Kind Value) (kind : Kind) (id count : Nat)
    (start : State) (reached : Segment State Op Answer Fault Kind Value) : Prop where
  inv : terms.inv reached.state
  guarantees : ∀ other, other ≠ id → other < count ∨ count + reached.created.length ≤ other →
    terms.rely other start reached.state
  stands : Stands model terms kind id reached.state reached.pause
  children : ∀ index child, reached.created[index]? = some child →
    model.admits child = false ∧ terms.holdsAt child (count + index) model.birth reached.state
  fresh : ∀ other, count + reached.created.length ≤ other → terms.fresh other reached.state

/-- A segment without new tasks. -/
theorem Sound.leaves_end (sound : Sound model terms) (inv : terms.inv now)
    (guarantees : Guarantees terms id start now) (stands : Stands model terms kind id now pause)
    (fresh : ∀ other, count ≤ other → terms.fresh other start) (below : id < count) :
    Leaves model terms kind id count start ⟨pause, now, []⟩ := by
  refine ⟨inv, fun other different _ => guarantees other different, stands, ?_, ?_⟩
  · intro index child found
    cases found
  · intro other above
    have beyond : count ≤ other := above
    exact sound.fresh_stable other _ _ (guarantees other (by omega)) (fresh other beyond)

/-- A task that has reached its goal stands where it should. -/
theorem Sound.leaves_settle (sound : Sound model terms) {result : Except Fault Value}
    (goal : Goal model terms kind id start result now)
    (fresh : ∀ other, count ≤ other → terms.fresh other start) (below : id < count) :
    Leaves model terms kind id count start (model.settle kind id ⟨.ended result, now, []⟩) := by
  cases result with
  | error fault =>
    obtain ⟨inv, guarantees, post⟩ := goal
    exact sound.leaves_end inv guarantees post fresh below
  | ok value =>
    unfold Goal at goal
    unfold Model.settle
    cases rests : model.rest kind with
    | none =>
      rw [rests] at goal
      obtain ⟨inv, guarantees, post⟩ := goal
      exact sound.leaves_end inv guarantees post fresh below
    | some op =>
      rw [rests] at goal
      obtain ⟨inv, guarantees, holds⟩ := goal
      refine sound.leaves_end inv guarantees ⟨holds, ?_⟩ fresh below
      intro later resumed answer relied inv permitted answered
      have stays := sound.holdsAt_stable kind id op now later relied holds
      have next := sound.rounds kind id op later resumed answer rests stays inv permitted answered
      cases answer with
      | ok value | error fault => exact next

/-- **One segment of a safe task**: the invariant is kept, the others are left alone as guaranteed,
and the task and the tasks it created stand where their verification says. -/
theorem Sound.segment (sound : Sound model terms)
    {program : Coro State Op Answer Fault Kind Value}
    (safe : Safe model terms kind id (Goal model terms kind id) program start now)
    (fresh : ∀ other, count ≤ other → terms.fresh other start) (below : id < count) :
    Leaves model terms kind id count start
      (model.settle kind id (program.advance count now)) := by
  induction program generalizing start now count with
  | done value | fail fault => exact sound.leaves_settle safe fresh below
  | act update next ih => exact ih _ safe fresh below
  | spawn child record next ih =>
    obtain ⟨inner, goes⟩ := safe
    -- the new task has the number `count`; the rest of the segment is a segment from here on
    obtain ⟨⟨holds, recorded⟩, rest⟩ := goes count (by omega) (fresh count (Nat.le_refl _))
    have below' : id < count + 1 := by omega
    have fresh' : ∀ other, count + 1 ≤ other → terms.fresh other (record count now) :=
      fun other above => sound.fresh_stable other _ _ (recorded other (by omega) (by omega))
        (fresh other (by omega))
    have leaves := ih count rest fresh' below'
    show Leaves model terms kind id count start (model.settle kind id
      { (next count).advance (count + 1) (record count now) with
        created := child :: ((next count).advance (count + 1) (record count now)).created })
    rw [Model.settle_cons]
    have same := model.settle_created kind id ((next count).advance (count + 1) (record count now))
    refine ⟨leaves.inv, ?_, leaves.stands, ?_, ?_⟩
    · intro other different outside
      have outside : other < count ∨
          count + (((next count).advance (count + 1) (record count now)).created.length + 1) ≤
            other := outside
      have before := recorded other different (by omega)
      have after := leaves.guarantees other different (by rw [same]; omega)
      exact sound.rely_trans other _ _ _ before after
    · intro index grandchild found
      cases index with
      | zero =>
        cases found
        have relied := leaves.guarantees count (by omega) (.inl (Nat.lt_succ_self count))
        exact ⟨inner, sound.holdsAt_stable child count _ _ _ relied holds⟩
      | succ index =>
        have later := leaves.children index grandchild (by rw [same]; exact found)
        rw [Nat.add_right_comm] at later
        exact later
    · intro other above
      refine leaves.fresh other ?_
      rw [same]
      have counted : count +
          (((next count).advance (count + 1) (record count now)).created.length + 1) ≤ other :=
        above
      omega
  | await op next ih =>
    obtain ⟨⟨inv, guarantees, holds⟩, goes⟩ := safe
    exact sound.leaves_end inv guarantees ⟨holds, goes⟩ fresh below

/-- The steps that a discipline is about. -/
def Allows (terms : Discipline State Op Answer Fault Kind Value)
    (world : World State Op Answer Fault Kind Value) : WorldLabel Answer Fault Kind Env → Prop
  | .spawn kind => terms.starts kind world.state
  | .resume id answer => ∀ kind op next, world.tasks[id]? = some (kind, .waits op next) →
      terms.permits kind id world.state op answer
  | .environment _ => True

/-- **A task after a step**: the one that went on, a task that was there before, or a new one. -/
theorem Sound.ordered_of_leaves (sound : Sound model terms)
    {reached : Segment State Op Answer Fault Kind Value}
    {tasks : List (Kind × Pause State Op Answer Fault Kind Value)}
    (old : List (Kind × Pause State Op Answer Fault Kind Value))
    (leaves : Leaves model terms kind id count start reached) (counted : tasks.length = count)
    (self : tasks[id]? = some (kind, reached.pause))
    (others : ∀ other, other ≠ id → tasks[other]? = old[other]?)
    (stood : ∀ other kind pause, old[other]? = some (kind, pause) → other ≠ id →
      Stands model terms kind other start pause) :
    Ordered model terms ⟨reached.state, tasks ++ model.children count reached.created⟩ := by
  subst counted
  refine ⟨leaves.inv, ?_, ?_⟩
  · intro other otherKind pause found
    have found : (tasks ++ model.children tasks.length reached.created)[other]? =
        some (otherKind, pause) := found
    by_cases known : other < tasks.length
    · rw [List.getElem?_append_left known] at found
      by_cases same : other = id
      · subst same
        rw [self] at found
        cases found
        exact leaves.stands
      · rw [others other same] at found
        exact sound.stands_stable (leaves.guarantees other same (.inl known))
          (stood other otherKind pause found same)
    · rw [List.getElem?_append_right (by omega), Model.children, List.getElem?_mapIdx] at found
      obtain ⟨child, created, eq⟩ := Option.map_eq_some_iff.mp found
      cases eq
      obtain ⟨inner, holds⟩ := leaves.children _ _ created
      rw [show tasks.length + (other - tasks.length) = other by omega] at holds ⊢
      exact sound.stands_unborn inner holds
  · intro other above
    refine leaves.fresh other ?_
    simpa [Model.children] using above

/-- The task that takes a step. -/
def actor (world : World State Op Answer Fault Kind Value) :
    WorldLabel Answer Fault Kind Env → Option Nat
  | .spawn _ => some world.tasks.length
  | .resume id _ => some id
  | .environment _ => none

/-- **One step of the system** keeps everything in order, and every other task, or number that is
still free, may rely on it. -/
theorem Sound.step (sound : Sound model terms)
    {before after : World State Op Answer Fault Kind Value}
    {label : WorldLabel Answer Fault Kind Env} (ordered : Ordered model terms before)
    (allowed : Allows terms before label) (taken : model.step before label = some after) :
    Ordered model terms after ∧
      ∀ other, actor before label ≠ some other →
        other < before.tasks.length ∨ after.tasks.length ≤ other →
        terms.rely other before.state after.state := by
  cases label with
  | spawn kind =>
    simp only [Model.step] at taken
    split at taken
    case isFalse => cases taken
    case isTrue admitted =>
    cases taken
    have safe := sound.begins kind before.tasks.length before.state admitted allowed ordered.inv
      (ordered.fresh _ (Nat.le_refl _))
    have leaves := sound.segment safe (fun other (above : before.tasks.length + 1 ≤ other) =>
      ordered.fresh other (by omega)) (Nat.lt_succ_self _)
    refine ⟨?_, fun other different outside => ?_⟩
    · refine sound.ordered_of_leaves before.tasks leaves (by simp) ?_ ?_ ?_
      · simp
      · intro other different
        grind
      · intro other otherKind pause found _
        exact ordered.stands other otherKind pause found
    · have different : other ≠ before.tasks.length := fun same => different (by rw [same]; rfl)
      refine leaves.guarantees other different (outside.imp (by omega) fun above => ?_)
      simp only [List.length_append, List.length_cons, List.length_nil, Model.children,
        List.length_mapIdx] at above
      omega
  | resume id answer =>
    simp only [Model.step] at taken
    split at taken
    case h_2 => cases taken
    case h_1 kind op next stood =>
    split at taken
    case h_2 => cases taken
    case h_1 resumed answered =>
    cases taken
    have bound : id < before.tasks.length := (List.getElem?_eq_some_iff.mp stood).1
    obtain ⟨-, goes⟩ := ordered.stands id kind _ stood
    have safe := goes _ resumed answer (sound.rely_refl id before.state) ordered.inv
      (allowed kind op next stood) answered
    have leaves := sound.segment safe ordered.fresh bound
    refine ⟨?_, fun other different outside => ?_⟩
    · refine sound.ordered_of_leaves before.tasks leaves (by simp) ?_ ?_ ?_
      · exact List.getElem?_set_self bound
      · intro other different
        exact List.getElem?_set_ne (Ne.symm different)
      · intro other otherKind pause found _
        exact ordered.stands other otherKind pause found
    · have different : other ≠ id := fun same => different (by rw [same]; rfl)
      refine leaves.guarantees other different (outside.imp_right fun above => ?_)
      simpa [Model.children] using above
  | environment env =>
    simp only [Model.step] at taken
    split at taken
    case h_2 => cases taken
    case h_1 state moved =>
    cases taken
    have relied := fun id => sound.environment_rely env before.state state id moved ordered.inv
    refine ⟨⟨sound.environment_inv env before.state state moved ordered.inv, ?_, ?_⟩,
      fun other _ _ => relied other⟩
    · intro id kind pause found
      exact sound.stands_stable (relied id) (ordered.stands id kind pause found)
    · intro id above
      exact sound.fresh_stable id _ _ (relied id) (ordered.fresh id above)

/-- **Every run of a sound system.** -/
theorem Sound.reached (sound : Sound model terms) {state : State} (inv : terms.inv state)
    (fresh : ∀ id, terms.fresh id state) {world : World State Op Answer Fault Kind Value}
    (reached : Reaches model.step (Allows terms) ⟨state, []⟩ world) :
    Ordered model terms world :=
  reached.invariant
    { inv := inv
      stands := nofun
      fresh := fun id _ => fresh id }
    fun _ _ _ ordered allowed taken => (sound.step ordered allowed taken).1

end Discipline

end SerenaLight.Foundation
