/-
**Auxiliary variables of a system of tasks.**

Some properties are about what a run has done, and not about the state that it has reached. `Observer`
keeps a record of the writes, the answers and the end of every task, next to the state.

- `Coro.observe`: a task with its record. It is built as the task itself is (`observe_bind`,
  `observe_handle`, `observe_ensuring`), so it is verified with the rules for tasks.
- `Model.observe`: a system with its record.
- `Model.observe_step`: the record follows the system and never holds it up; so every run has its
  record (`Model.observed`), and every record is that of a run (`Model.unobserved`).
-/

import SerenaLight.Foundation.Coroutine

namespace SerenaLight.Foundation

open Coro

/-- What is recorded of the task with a number: each of its writes, each answer to it with the state in
which it comes, and the state at its end. -/
structure Observer (State Op Answer Fault Record : Type) where
  writes : Nat → State → State → Record → Record
  answers : Nat → State → Op → Except Fault Answer → Record → Record
  ends : Nat → State → Record → Record

variable {State Op Answer Fault Kind Value Env Record First Second : Type}
  (observer : Observer State Op Answer Fault Record)

/-! ### Tasks -/

namespace Coro

/-- A write, with its record. -/
def noted (id : Nat) (update : State → State) (both : State × Record) : State × Record :=
  (update both.1, observer.writes id both.1 (update both.1) both.2)

/-- A task that keeps a record. -/
def observe (id : Nat) : Coro State Op Answer Fault Kind Value →
    Coro (State × Record) Op Answer Fault Kind Value
  | done value => done value
  | fail fault => fail fault
  | act update next => act (noted observer id update) fun both => (next both.1).observe id
  | spawn kind record next =>
    spawn kind (fun new => noted observer id (record new)) fun new => (next new).observe id
  | await op next => await op fun answer => (next answer).observe id

section Build

variable {observer} {id : Nat} {program : Coro State Op Answer Fault Kind First}

theorem observe_bind (rest : First → Coro State Op Answer Fault Kind Second) :
    (program >>= rest).observe observer id =
      (program.observe observer id >>= fun value => (rest value).observe observer id) := by
  show (program.bind rest).observe observer id =
    (program.observe observer id).bind fun value => (rest value).observe observer id
  induction program with
  | done value | fail fault => rfl
  | act update next ih => exact congrArg (act _) (funext fun both => ih both.1)
  | spawn kind record next ih => exact congrArg (spawn kind _) (funext ih)
  | await op next ih => exact congrArg (await op) (funext ih)

theorem observe_handle (handler : Fault → Coro State Op Answer Fault Kind First) :
    (program.handle handler).observe observer id =
      (program.observe observer id).handle fun fault => (handler fault).observe observer id := by
  induction program with
  | done value | fail fault => rfl
  | act update next ih => exact congrArg (act _) (funext fun both => ih both.1)
  | spawn kind record next ih => exact congrArg (spawn kind _) (funext ih)
  | await op next ih => exact congrArg (await op) (funext ih)

theorem observe_ensuring (cleanup : State → State) :
    (program.ensuring cleanup).observe observer id =
      (program.observe observer id).ensuring (noted observer id cleanup) := by
  induction program with
  | done value | fail fault => rfl
  | act update next ih => exact congrArg (act _) (funext fun both => ih both.1)
  | spawn kind record next ih => exact congrArg (spawn kind _) (funext ih)
  | await op next ih => exact congrArg (await op) (funext ih)

theorem observe_wait (op : Op) :
    (wait op : Coro State Op Answer Fault Kind Answer).observe observer id = wait op := by
  refine congrArg (await op) (funext fun answer => ?_)
  cases answer <;> rfl

/-- The writes of a task that keeps a record are its own, each with its record. -/
theorem only_observe {acts : State → State → Prop} {ops : Op → Prop} {kinds : Kind → Prop}
    (only : Only acts ops kinds program) :
    Only (fun before after : State × Record => acts before.1 after.1 ∧
        after.2 = observer.writes id before.1 after.1 before.2) ops kinds
      (program.observe observer id) := by
  induction program with
  | done value | fail fault => exact trivial
  | act update next ih =>
    exact ⟨fun both => ⟨only.1 both.1, rfl⟩, fun both => ih both.1 (only.2 both.1)⟩
  | spawn kind record next ih =>
    exact ⟨⟨only.1.1, fun new both => ⟨only.1.2 new both.1, rfl⟩⟩, fun new => ih new (only.2 new)⟩
  | await op next ih => exact ⟨only.1, fun answer => ih answer (only.2 answer)⟩

end Build

variable (id : Nat)

def Pause.observe : Pause State Op Answer Fault Kind Value →
    Pause (State × Record) Op Answer Fault Kind Value
  | .ended result => .ended result
  | .waits op next => .waits op fun answer => (next answer).observe observer id

def Segment.observe (seen : Record) (reached : Segment State Op Answer Fault Kind Value) :
    Segment (State × Record) Op Answer Fault Kind Value :=
  ⟨reached.pause.observe observer id, (reached.state, seen), reached.created⟩

/-- A segment goes as it goes without the record. -/
theorem observe_advance (program : Coro State Op Answer Fault Kind Value) (count : Nat)
    (state : State) (record : Record) :
    ∃ seen, (program.observe observer id).advance count (state, record) =
      (program.advance count state).observe observer id seen := by
  induction program generalizing count state record with
  | done value | fail fault | await op next ih => exact ⟨record, rfl⟩
  | act update next ih => exact ih state count (update state) _
  | spawn kind save next ih =>
    obtain ⟨seen, same⟩ := ih count (count + 1) (save count state)
      (observer.writes id state (save count state) record)
    exact ⟨seen, congrArg (fun reached : Segment _ _ _ _ _ _ =>
      { reached with created := kind :: reached.created }) same⟩

end Coro

/-! ### Systems -/

/-- A system that keeps a record. -/
def Model.observe (model : Model State Op Answer Fault Kind Value Env) :
    Model (State × Record) Op Answer Fault Kind Value Env where
  body := fun kind id => (model.body kind id).observe observer id
  rest := model.rest
  birth := model.birth
  admits := model.admits
  answers := fun kind id both op answer =>
    (model.answers kind id both.1 op answer).map fun resumed =>
      (resumed, observer.answers id both.1 op answer both.2)
  ends := fun kind id both => (model.ends kind id both.1, observer.ends id both.1 both.2)
  environment := fun env both => (model.environment env both.1).map fun state => (state, both.2)

/-- A task of a system, with its record. -/
def observeTask (id : Nat) (task : Kind × Pause State Op Answer Fault Kind Value) :
    Kind × Pause (State × Record) Op Answer Fault Kind Value :=
  (task.1, task.2.observe observer id)

/-- A whole system, with a record. -/
def World.observe (seen : Record) (world : World State Op Answer Fault Kind Value) :
    World (State × Record) Op Answer Fault Kind Value :=
  ⟨(world.state, seen), world.tasks.mapIdx (observeTask observer)⟩

namespace Model

variable {observer} {model : Model State Op Answer Fault Kind Value Env}

theorem answers_of_observe {kind : Kind} {id : Nat} {both resumed : State × Record} {op : Op}
    {answer : Except Fault Answer}
    (ended : (model.observe observer).answers kind id both op answer = some resumed) :
    model.answers kind id both.1 op answer = some resumed.1 ∧
      resumed.2 = observer.answers id both.1 op answer both.2 := by
  obtain ⟨state, answered, rfl⟩ := Option.map_eq_some_iff.mp ended
  exact ⟨answered, rfl⟩

variable (observer model)

theorem observe_round (kind : Kind) (id : Nat) :
    (model.observe observer).round kind id = (model.round kind id).observe observer id := by
  have same : (model.observe observer).rest kind = model.rest kind := rfl
  unfold round
  rw [same]
  cases model.rest kind with
  | none => rfl
  | some op =>
    refine congrArg (Coro.await op) (funext fun answer => ?_)
    cases answer <;> rfl

theorem observe_unborn (kind : Kind) (id : Nat) :
    (model.observe observer).unborn kind id = (model.unborn kind id).observe observer id := by
  refine congrArg (Pause.waits model.birth) (funext fun answer => ?_)
  cases answer with
  | ok value => exact observe_round observer model kind id
  | error fault => rfl

theorem observe_settle (kind : Kind) (id : Nat) (seen : Record)
    (reached : Segment State Op Answer Fault Kind Value) :
    ∃ after, (model.observe observer).settle kind id (reached.observe observer id seen) =
      (model.settle kind id reached).observe observer id after := by
  have same : (model.observe observer).rest kind = model.rest kind := rfl
  unfold settle
  rw [same]
  rcases reached with ⟨pause, state, created⟩
  cases pause with
  | waits op next => exact ⟨seen, rfl⟩
  | ended result =>
    cases result with
    | error fault => exact ⟨observer.ends id state seen, rfl⟩
    | ok value =>
      cases model.rest kind with
      | none => exact ⟨observer.ends id state seen, rfl⟩
      | some op =>
        refine ⟨seen, congrArg (fun next => Segment.mk (Pause.waits op next) _ _)
          (funext fun answer => ?_)⟩
        cases answer <;> rfl

theorem observe_children (count : Nat) (kinds : List Kind) :
    (model.observe observer).children count kinds =
      (model.children count kinds).mapIdx fun index => observeTask observer (index + count) := by
  unfold children
  rw [List.mapIdx_mapIdx]
  refine congrArg (fun each => List.mapIdx each kinds) (funext fun index => funext fun kind => ?_)
  refine congrArg (Prod.mk kind) ((observe_unborn observer model kind (count + index)).trans ?_)
  rw [Nat.add_comm]

/-- A segment and the tasks it created, next to the tasks that were there. -/
theorem observe_world {tasks : List (Kind × Pause State Op Answer Fault Kind Value)}
    {count : Nat} (counted : tasks.length = count) (state : State) (seen : Record)
    (kinds : List Kind) :
    World.mk (state, seen)
        (tasks.mapIdx (observeTask observer) ++ (model.observe observer).children count kinds) =
      World.observe observer seen ⟨state, tasks ++ model.children count kinds⟩ := by
  subst counted
  refine congrArg (World.mk (state, seen)) ?_
  rw [observe_children]
  exact List.mapIdx_append.symm

/-- **A step with the record** is a step without it. -/
theorem observe_step (world : World State Op Answer Fault Kind Value)
    (label : WorldLabel Answer Fault Kind Env) (record : Record) :
    ∃ seen, (model.observe observer).step (world.observe observer record) label =
      (model.step world label).map (World.observe observer seen) := by
  have counted : (world.observe observer record).tasks.length = world.tasks.length :=
    List.length_mapIdx
  cases label with
  | spawn kind =>
    obtain ⟨going, same⟩ := observe_advance observer world.tasks.length
      (model.round kind world.tasks.length) (world.tasks.length + 1) world.state record
    obtain ⟨seen, settled⟩ := observe_settle observer model kind world.tasks.length going
      ((model.round kind world.tasks.length).advance (world.tasks.length + 1) world.state)
    refine ⟨seen, ?_⟩
    have permits : (model.observe observer).admits kind = model.admits kind := rfl
    have state : (world.observe observer record).state = (world.state, record) := rfl
    simp only [step, counted, permits, state, observe_round, same, settled]
    split
    · refine congrArg some (Eq.trans ?_ (observe_world observer model (by simp) _ seen _))
      rw [List.mapIdx_append, List.mapIdx_singleton, Nat.zero_add]
      rfl
    · rfl
  | resume id answer =>
    have found : (world.observe observer record).tasks[id]? =
        world.tasks[id]?.map (observeTask observer id) := List.getElem?_mapIdx
    simp only [step, found]
    cases stood : world.tasks[id]? with
    | none => exact ⟨record, rfl⟩
    | some task =>
    obtain ⟨kind, pause⟩ := task
    cases pause with
    | ended result => exact ⟨record, rfl⟩
    | waits op next =>
    cases answered : model.answers kind id world.state op answer with
    | none =>
      have refused : (model.observe observer).answers kind id
          (world.observe observer record).state op answer = none :=
        congrArg (Option.map _) answered
      simp only [Option.map_some, observeTask, Pause.observe, refused, answered]
      exact ⟨record, rfl⟩
    | some resumed =>
      have given : (model.observe observer).answers kind id
          (world.observe observer record).state op answer =
            some (resumed, observer.answers id world.state op answer record) :=
        congrArg (Option.map _) answered
      obtain ⟨going, same⟩ := observe_advance observer id (next answer) world.tasks.length
        resumed (observer.answers id world.state op answer record)
      obtain ⟨seen, settled⟩ := observe_settle observer model kind id going
        ((next answer).advance world.tasks.length resumed)
      refine ⟨seen, ?_⟩
      simp only [Option.map_some, observeTask, Pause.observe, given, answered, counted, same, settled]
      refine congrArg some (Eq.trans ?_ (observe_world observer model (by simp) _ seen _))
      rw [List.mapIdx_set]
      rfl
  | environment env =>
    refine ⟨record, ?_⟩
    simp only [step]
    cases moved : model.environment env world.state with
    | none =>
      have refused : (model.observe observer).environment env
          (world.observe observer record).state = none := congrArg (Option.map _) moved
      rw [refused]
      rfl
    | some state =>
      have given : (model.observe observer).environment env
          (world.observe observer record).state = some (state, record) :=
        congrArg (Option.map _) moved
      rw [given]
      rfl

variable {model} {start : World State Op Answer Fault Kind Value} (record : Record)

/-- **Every run has its record.** -/
theorem observed {world : World State Op Answer Fault Kind Value}
    (reached : Reaches model.step (fun _ _ => True) start world) :
    ∃ seen, Reaches (model.observe observer).step (fun _ _ => True)
      (start.observe observer record) (world.observe observer seen) := by
  induction reached with
  | start => exact ⟨record, .start⟩
  | @step before after label _ _ taken ih =>
    obtain ⟨noted, run⟩ := ih
    obtain ⟨seen, same⟩ := observe_step observer model before label noted
    rw [taken] at same
    exact ⟨seen, .step run trivial same⟩

variable {record observer} in
/-- **Every record is that of a run.** -/
theorem unobserved {reported : World (State × Record) Op Answer Fault Kind Value}
    (reached : Reaches (model.observe observer).step (fun _ _ => True)
      (start.observe observer record) reported) :
    ∃ world seen, reported = world.observe observer seen ∧
      Reaches model.step (fun _ _ => True) start world := by
  induction reached with
  | start => exact ⟨start, record, rfl, .start⟩
  | @step before after label _ _ taken ih =>
    obtain ⟨world, noted, rfl, run⟩ := ih
    obtain ⟨seen, same⟩ := observe_step observer model world label noted
    obtain ⟨next, stepped, rfl⟩ := Option.map_eq_some_iff.mp (same.symm.trans taken)
    exact ⟨next, seen, rfl, .step run trivial stepped⟩

end Model

/-! ### Rules for tasks that keep a record -/

namespace Discipline

variable {observer} {model : Model (State × Record) Op Answer Fault Kind Value Env}
  {terms : Discipline (State × Record) Op Answer Fault Kind Value} {kind : Kind} {id : Nat}
  {start now : State × Record} {program : Coro State Op Answer Fault Kind First}
  {goal : State × Record → Except Fault First → State × Record → Prop}

theorem safe_observe_bind {rest : First → Coro State Op Answer Fault Kind Second}
    {after : State × Record → Except Fault Second → State × Record → Prop}
    (safe : Safe model terms kind id goal (program.observe observer id) start now)
    (goes : ∀ start value now, goal start (.ok value) now →
      Safe model terms kind id after ((rest value).observe observer id) start now)
    (raises : ∀ start fault now, goal start (.error fault) now → after start (.error fault) now) :
    Safe model terms kind id after ((program >>= rest).observe observer id) start now := by
  rw [observe_bind]
  exact safe_bind safe goes raises

theorem safe_observe_handle {handler : Fault → Coro State Op Answer Fault Kind First}
    {after : State × Record → Except Fault First → State × Record → Prop}
    (safe : Safe model terms kind id goal (program.observe observer id) start now)
    (returns : ∀ start value now, goal start (.ok value) now → after start (.ok value) now)
    (handles : ∀ start fault now, goal start (.error fault) now →
      Safe model terms kind id after ((handler fault).observe observer id) start now) :
    Safe model terms kind id after ((program.handle handler).observe observer id) start now := by
  rw [observe_handle]
  exact safe_handle safe returns handles

theorem safe_observe_ensuring {cleanup : State → State}
    (safe : Safe model terms kind id
      (fun start result now => goal start result (noted observer id cleanup now))
      (program.observe observer id) start now) :
    Safe model terms kind id goal ((program.ensuring cleanup).observe observer id) start now := by
  rw [observe_ensuring]
  exact Safe.ensuring safe

theorem safe_observe_wait {op : Op}
    {ends : State × Record → Except Fault Answer → State × Record → Prop}
    (suspends : terms.inv now ∧ Guarantees terms id start now ∧ terms.holdsAt kind id op now)
    (resumes : ∀ later resumed answer, terms.rely id now later → terms.inv later →
      terms.permits kind id later op answer →
      model.answers kind id later op answer = some resumed → ends later answer resumed) :
    Safe model terms kind id ends ((wait op).observe observer id) start now := by
  rw [observe_wait]
  exact safe_wait suspends resumes

section Keeps

variable {assertion : State × Record → State × Record → Prop}

theorem observe_structural (stays : ∀ start now, assertion start now →
    assertion start (noted observer id (fun state => state) now)) : @Structural State Op Answer Fault Kind
    (fun {_} program => Keeps model terms kind id assertion (program.observe observer id))
    (fun update => ∀ start now, assertion start now →
      assertion start (noted observer id update now))
    (fun op => Keeps model terms kind id assertion
      ((wait op : Coro State Op Answer Fault Kind Answer).observe observer id)) where
  returns := keeps_pure
  raises := keeps_fail
  binds first second := by
    rw [observe_bind]
    exact keeps_bind first second
  handles first second := by
    rw [observe_handle]
    exact keeps_handle first second
  ensures first cleans := by
    rw [observe_ensuring]
    exact keeps_ensuring first cleans
  reads start now holds := stays start now holds
  updates writes start now holds := writes start now holds
  awaits waited := waited

end Keeps

end Discipline

end SerenaLight.Foundation
