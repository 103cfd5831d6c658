/-
**The task that owns a daemon session** (`_OwnedMcpDaemonSession` of `connector.py`).

Every request to the daemon is a command on the queue of one task. The owner takes the commands in
their order, each with a worker of its own, until it takes the sentinel that `aclose` has put. Then it
cancels the workers, awaits their end, closes the session, and fails the commands that are still queued.

- `Owner`, `step`: the owner, its queue and its workers, in any order in which the event loop runs them.
- `Attended`: the owner leaves its loop when no worker is still to take its first step, and its clean-up
  is not interrupted.
- `commands_completed`: then every command is completed once the owner has finished.
- `cancelled_before_first_step`: a worker that is cancelled before its first step never enters the `try`
  of `_execute`, and leaves its command open for good.
-/

import SerenaLight.Foundation.Run
import Mathlib.Logic.Function.Basic
import Mathlib.Tactic.Common

namespace SerenaLight.Connector.SessionOwner

open Foundation

/-! ### The owner -/

/-- The future of a command. -/
inductive Outcome where
  | pending
  | returned
  | raised
  | cancelled
  deriving DecidableEq, Repr

/-- The task of `_execute` for one command. `marked` is a cancellation that was requested. -/
inductive Worker where
  | absent
  | created (marked : Bool)
  | running (marked : Bool)
  | done
  deriving DecidableEq, Repr

namespace Worker

/-- `Task.cancel`. -/
def cancel : Worker → Worker
  | created _ => created true
  | running _ => running true
  | worker => worker

/-- The worker is in the set `workers`. -/
def isLive : Worker → Bool
  | created _ | running _ => true
  | _ => false

end Worker

/-- Where `_run` is suspended: in the set-up of the session, in `_commands.get()`, in the `gather` of
its workers, or in the `aclose` of the session. -/
inductive Phase where
  | setup
  | waiting
  | gathering
  | closing
  | finished
  deriving DecidableEq, Repr

structure Owner where
  phase : Phase
  /-- `_commands`; `none` is the sentinel -/
  commands : List (Option Nat)
  /-- the number of commands so far -/
  issued : Nat
  results : Nat → Outcome
  workers : Nat → Worker

namespace Owner

def initial : Owner where
  phase := .setup
  commands := []
  issued := 0
  results := fun _ => .pending
  workers := fun _ => .absent

/-- `self._task.done()`. -/
def isDone (owner : Owner) : Bool := owner.phase = .finished

/-- The command is not completed. -/
def isOpen (owner : Owner) (id : Nat) : Bool := owner.results id = .pending

/-- `if not result.done()`, and then a result. -/
def settle (owner : Owner) (id : Nat) (outcome : Outcome) : Owner :=
  if owner.isOpen id then { owner with results := Function.update owner.results id outcome }
  else owner

def setWorker (owner : Owner) (id : Nat) (worker : Worker) : Owner :=
  { owner with workers := Function.update owner.workers id worker }

/-- Some worker has not ended. -/
def hasWorkers (owner : Owner) : Bool :=
  (List.range owner.issued).any fun id => (owner.workers id).isLive

/-- The way out of the loop: the workers are cancelled, and awaited if there are any. -/
def leave (owner : Owner) : Owner :=
  { owner with
    phase := if owner.hasWorkers then .gathering else .closing
    workers := fun id => (owner.workers id).cancel }

/-- The loop of `_run`: `get` suspends only while the queue is empty. -/
def serve (owner : Owner) : List (Option Nat) → Owner
  | [] => { owner with phase := .waiting, commands := [] }
  | some id :: rest => serve (owner.setWorker id (.created false)) rest
  | none :: rest => leave { owner with commands := rest }

/-- The last step of `_run`: the commands that are still queued fail. -/
def drain (owner : Owner) : List (Option Nat) → Owner
  | [] => { owner with phase := .finished, commands := [] }
  | some id :: rest => drain (owner.settle id .raised) rest
  | none :: rest => drain owner rest

end Owner

/-- What can happen: a call of `_submit` or `aclose`; a caller of `_submit` that is cancelled, and the
callback that then cancels the worker; the session is set up or not; the owner wakes with a command, or
is interrupted by an exception or a cancellation where it waits; a worker takes its first step, or its
action ends; the workers have ended; the session is closed. -/
inductive Label where
  | submit
  | aclose
  | cancelSubmit (id : Nat)
  | cancelWorker (id : Nat)
  | connected
  | setupFailed
  | wake
  | interrupt
  | begin (id : Nat)
  | complete (id : Nat) (outcome : Outcome)
  | gathered
  | closed
  deriving DecidableEq, Repr

/-- One step of the event loop. -/
def step (owner : Owner) : Label → Option Owner
  | .submit =>
    if owner.isDone then none
    else some
      { owner with
        commands := owner.commands ++ [some owner.issued]
        issued := owner.issued + 1 }
  | .aclose =>
    if owner.isDone then none else some { owner with commands := owner.commands ++ [none] }
  | .cancelSubmit id => if id < owner.issued then some (owner.settle id .cancelled) else none
  | .cancelWorker id =>
    if owner.results id = .cancelled then some (owner.setWorker id (owner.workers id).cancel)
    else none
  | .connected => if owner.phase = .setup then some (owner.serve owner.commands) else none
  | .setupFailed => if owner.phase = .setup then some owner.leave else none
  | .wake =>
    if owner.phase = .waiting ∧ owner.commands ≠ [] then some (owner.serve owner.commands)
    else none
  | .interrupt =>
    match owner.phase with
    | .waiting => some owner.leave
    -- an exception in the clean-up leaves the rest of it out
    | .gathering | .closing => some { owner with phase := .finished }
    | _ => none
  | .begin id =>
    match owner.workers id with
    -- a coroutine that is cancelled before its first step never enters its `try`
    | .created true => some (owner.setWorker id .done)
    | .created false => some (owner.setWorker id (.running false))
    | _ => none
  | .complete id outcome =>
    match owner.workers id with
    | .running _ =>
      if outcome = .returned ∨ outcome = .raised then
        some ((owner.settle id outcome).setWorker id .done)
      else none
    | _ => none
  | .gathered =>
    if owner.phase = .gathering ∧ owner.hasWorkers = false then
      some { owner with phase := .closing }
    else none
  | .closed => if owner.phase = .closing then some (owner.drain owner.commands) else none

/-! ### Attended runs -/

/-- No worker with an open command is still to take its first step. -/
def Begun (owner : Owner) : Prop :=
  ∀ id, owner.isOpen id = true → ∀ marked, owner.workers id ≠ .created marked

/-- No open command stands before the sentinel. -/
def Unhurried (owner : Owner) : Prop :=
  ∀ id, some id ∈ owner.commands.takeWhile Option.isSome → owner.isOpen id = false

/-- **The steps of a run in which the owner attends to its commands.** -/
def Attended (owner : Owner) : Label → Prop
  | .connected | .wake => none ∈ owner.commands → Begun owner ∧ Unhurried owner
  | .interrupt =>
    match owner.phase with
    | .waiting => Begun owner
    | _ => ∀ id < owner.issued, owner.isOpen id = false
  | _ => True

/-! ### Who completes a command -/

/-- A worker will complete the command: it runs, or nothing keeps it from its first step. -/
def Served (owner : Owner) (id : Nat) : Prop :=
  (∃ marked, owner.workers id = .running marked) ∨
    (owner.workers id = .created false ∧ owner.phase = .waiting)

/-- **Every open command is in the queue or with a worker.** -/
structure Covered (owner : Owner) : Prop where
  queued : ∀ id, some id ∈ owner.commands → id < owner.issued
  worked : ∀ id, (owner.workers id).isLive = true → id < owner.issued
  setup : owner.phase = .setup → ∀ id, owner.workers id = .absent
  served : ∀ id < owner.issued, owner.isOpen id = true →
    some id ∈ owner.commands ∨ Served owner id
  closing : owner.phase = .closing → ∀ id, (owner.workers id).isLive = false
  finished : owner.phase = .finished → ∀ id < owner.issued, owner.isOpen id = false

section Steps

variable {owner : Owner} {id : Nat}

theorem isLive_cancel (worker : Worker) : worker.cancel.isLive = worker.isLive := by
  cases worker <;> rfl

theorem not_live_of_hasWorkers (worked : ∀ id, (owner.workers id).isLive = true → id < owner.issued)
    (none_left : owner.hasWorkers = false) (id : Nat) : (owner.workers id).isLive = false := by
  by_contra live
  have live : (owner.workers id).isLive = true := by simpa using live
  have some_left : owner.hasWorkers = true :=
    List.any_eq_true.mpr ⟨id, List.mem_range.mpr (worked id live), live⟩
  rw [none_left] at some_left
  cases some_left

variable {outcome : Outcome}

/-- A command that is settled is not open, and no other one is opened. -/
theorem isOpen_settle (completes : outcome ≠ .pending) {other : Nat}
    (isOpen : (owner.settle id outcome).isOpen other = true) :
    other ≠ id ∧ owner.isOpen other = true := by
  unfold Owner.settle at isOpen
  split at isOpen
  · rename_i pending
    by_cases same : other = id
    · subst same
      simp [Owner.isOpen, completes] at isOpen
    · refine ⟨same, ?_⟩
      simpa [Owner.isOpen, Function.update_of_ne same] using isOpen
  · rename_i completed
    refine ⟨fun same => completed ?_, isOpen⟩
    rw [← same]
    exact isOpen

/-- What a settled command leaves alone. -/
theorem settle_same (owner : Owner) (id : Nat) (outcome : Outcome) :
    (owner.settle id outcome).phase = owner.phase ∧
      (owner.settle id outcome).commands = owner.commands ∧
      (owner.settle id outcome).issued = owner.issued ∧
      (owner.settle id outcome).workers = owner.workers := by
  unfold Owner.settle
  split <;> exact ⟨rfl, rfl, rfl, rfl⟩

/-- **The way out of the loop**, for an owner whose workers have all begun. -/
theorem covered_leave (queued : ∀ id, some id ∈ owner.commands → id < owner.issued)
    (worked : ∀ id, (owner.workers id).isLive = true → id < owner.issued)
    (served : ∀ id < owner.issued, owner.isOpen id = true →
      some id ∈ owner.commands ∨ ∃ marked, owner.workers id = .running marked) :
    Covered owner.leave := by
  have live : ∀ id, (owner.leave.workers id).isLive = (owner.workers id).isLive :=
    fun id => isLive_cancel _
  refine ⟨queued, fun id alive => worked id ((live id).symm.trans alive), ?_, ?_, ?_, ?_⟩
  · intro phase
    have phase : (if owner.hasWorkers then Phase.gathering else .closing) = .setup := phase
    split at phase <;> cases phase
  · intro id known isOpen
    refine (served id known isOpen).imp_right fun running => .inl ?_
    obtain ⟨marked, running⟩ := running
    exact ⟨true, by simp [Owner.leave, running, Worker.cancel]⟩
  · intro phase id
    have phase : (if owner.hasWorkers then Phase.gathering else .closing) = .closing := phase
    rw [live]
    refine not_live_of_hasWorkers worked ?_ id
    by_contra some_left
    rw [if_pos (by simpa using some_left)] at phase
    cases phase
  · intro phase
    have phase : (if owner.hasWorkers then Phase.gathering else .closing) = .finished := phase
    split at phase <;> cases phase

/-- **The loop.** Each command that is taken gets a worker, up to the sentinel. -/
theorem covered_serve (commands : List (Option Nat))
    (queued : ∀ id, some id ∈ commands → id < owner.issued)
    (worked : ∀ id, (owner.workers id).isLive = true → id < owner.issued)
    (served : ∀ id < owner.issued, owner.isOpen id = true → some id ∈ commands ∨
      (∃ marked, owner.workers id = .running marked) ∨ owner.workers id = .created false)
    (attended : none ∈ commands → Begun owner ∧
      ∀ id, some id ∈ commands.takeWhile Option.isSome → owner.isOpen id = false) :
    Covered (owner.serve commands) := by
  induction commands generalizing owner with
  | nil =>
    refine ⟨nofun, worked, nofun, fun id known isOpen => .inr ?_, nofun, nofun⟩
    rcases served id known isOpen with queued | running | created
    · cases queued
    · exact .inl running
    · exact .inr ⟨created, rfl⟩
  | cons command rest ih =>
    cases command with
    | none =>
      obtain ⟨begun, -⟩ := attended (.head _)
      refine covered_leave (fun id member => queued id (.tail _ member)) worked ?_
      intro id known isOpen
      rcases served id known isOpen with member | running | created
      · exact .inl (by simpa using member)
      · exact .inr running
      · exact absurd created (begun id isOpen false)
    | some id =>
      have known := queued id (.head _)
      refine ih (fun other member => queued other (.tail _ member)) ?_ ?_ ?_
      · intro other live
        by_cases same : other = id
        · rw [same]
          exact known
        · exact worked other (by simpa [Owner.setWorker, Function.update_of_ne same] using live)
      · intro other below isOpen
        by_cases same : other = id
        · subst same
          exact .inr (.inr (Function.update_self ..))
        · have kept : (owner.setWorker id (.created false)).workers other = owner.workers other :=
            Function.update_of_ne same ..
          rw [kept]
          refine (served other below isOpen).imp_left fun member => ?_
          simpa [same] using member
      · intro sentinel
        obtain ⟨begun, unhurried⟩ := attended (.tail _ sentinel)
        have first : owner.isOpen id = false := unhurried id (by simp)
        refine ⟨fun other isOpen marked => ?_, fun other member => unhurried other ?_⟩
        · have different : other ≠ id := by
            rintro rfl
            exact absurd (first.symm.trans isOpen) nofun
          rw [show (owner.setWorker id (.created false)).workers other = owner.workers other from
            Function.update_of_ne different ..]
          exact begun other isOpen marked
        · rw [List.takeWhile_cons_of_pos rfl]
          exact .tail _ member

/-- **The end.** Every command that is still queued fails. -/
theorem covered_drain (commands : List (Option Nat))
    (worked : ∀ id, (owner.workers id).isLive = true → id < owner.issued)
    (served : ∀ id < owner.issued, owner.isOpen id = true → some id ∈ commands) :
    Covered (owner.drain commands) := by
  induction commands generalizing owner with
  | nil =>
    have completed : ∀ id < owner.issued, owner.isOpen id = false := by
      intro id known
      by_contra isOpen
      cases served id known (by simpa using isOpen)
    exact ⟨nofun, worked, nofun, fun id known isOpen =>
      absurd ((completed id known).symm.trans isOpen) nofun, nofun, fun _ => completed⟩
  | cons command rest ih =>
    cases command with
    | none => exact ih worked fun id known isOpen => by simpa using served id known isOpen
    | some id =>
      obtain ⟨-, -, issued, workers⟩ := settle_same owner id .raised
      refine ih ?_ ?_
      · rw [issued, workers]
        exact worked
      · rw [issued]
        intro other known isOpen
        have raises : Outcome.raised ≠ .pending := nofun
        obtain ⟨different, isOpen⟩ := isOpen_settle raises isOpen
        simpa [different] using served other known isOpen

/-- A command that is settled is no longer to be covered. -/
theorem Covered.settle (covered : Covered owner) (completes : outcome ≠ .pending) :
    Covered (owner.settle id outcome) := by
  obtain ⟨phase, commands, issued, workers⟩ := settle_same owner id outcome
  refine ⟨?_, ?_, ?_, ?_, ?_, ?_⟩
  · rw [commands, issued]
    exact covered.queued
  · rw [workers, issued]
    exact covered.worked
  · rw [phase, workers]
    exact covered.setup
  · rw [issued, commands]
    intro other known isOpen
    unfold Served
    rw [workers, phase]
    exact covered.served other known (isOpen_settle completes isOpen).2
  · rw [phase, workers]
    exact covered.closing
  · rw [phase, issued]
    intro halted other known
    by_contra isOpen
    have isOpen := (isOpen_settle completes (by simpa using isOpen)).2
    exact absurd ((covered.finished halted other known).symm.trans isOpen) nofun

/-- A worker moves on. Its command stays with it, is in the queue, or is completed. -/
theorem Covered.setWorker (covered : Covered owner) {worker : Worker}
    (live : worker.isLive = true → (owner.workers id).isLive = true)
    (absent : owner.workers id = .absent → worker = .absent)
    (served : owner.isOpen id = true → Served owner id → ∃ marked, worker = .running marked) :
    Covered (owner.setWorker id worker) := by
  have other : ∀ {task}, task ≠ id → (owner.setWorker id worker).workers task = owner.workers task :=
    fun different => Function.update_of_ne different ..
  have self : (owner.setWorker id worker).workers id = worker := Function.update_self ..
  refine ⟨covered.queued, ?_, ?_, ?_, ?_, covered.finished⟩
  · intro task alive
    by_cases same : task = id
    · subst same
      rw [self] at alive
      exact covered.worked task (live alive)
    · rw [other same] at alive
      exact covered.worked task alive
  · intro phase task
    by_cases same : task = id
    · subst same
      rw [self]
      exact absent (covered.setup phase task)
    · rw [other same]
      exact covered.setup phase task
  · intro task known isOpen
    refine (covered.served task known isOpen).imp_right fun was => ?_
    by_cases same : task = id
    · subst same
      obtain ⟨marked, running⟩ := served isOpen was
      exact .inl ⟨marked, self.trans running⟩
    · unfold Served
      rw [other same]
      exact was
  · intro phase task
    by_cases same : task = id
    · subst same
      rw [self]
      by_contra alive
      exact absurd ((covered.closing phase task).symm.trans (live (by simpa using alive))) nofun
    · rw [other same]
      exact covered.closing phase task

/-- A new entry of the queue. -/
theorem Covered.put (covered : Covered owner) (running : owner.isDone = false)
    (commands : List (Option Nat)) (issued : Nat) (grows : owner.issued ≤ issued)
    (new : ∀ id, some id ∈ commands ↔ owner.issued ≤ id ∧ id < issued) :
    Covered { owner with commands := owner.commands ++ commands, issued := issued } := by
  refine ⟨fun id member => ?_, fun id live => Nat.lt_of_lt_of_le (covered.worked id live) grows,
    covered.setup, fun id known isOpen => ?_, covered.closing, fun halted => ?_⟩
  · rcases List.mem_append.mp member with old | fresh
    · exact Nat.lt_of_lt_of_le (covered.queued id old) grows
    · exact ((new id).mp fresh).2
  · by_cases old : id < owner.issued
    · exact (covered.served id old isOpen).imp_left fun member => List.mem_append_left _ member
    · exact .inl (List.mem_append_right _ ((new id).mpr ⟨by omega, known⟩))
  · have done : owner.isDone = true := by simpa [Owner.isDone] using halted
    exact absurd (running.symm.trans done) nofun

/-- A clean-up that is interrupted when nothing is left to complete. -/
theorem Covered.abandon (covered : Covered owner)
    (completed : ∀ id < owner.issued, owner.isOpen id = false) :
    Covered { owner with phase := .finished } :=
  ⟨covered.queued, covered.worked, nofun, fun id known isOpen =>
    absurd ((completed id known).symm.trans isOpen) nofun, nofun, fun _ => completed⟩

/-- **One step of an attended run.** -/
theorem covered_step {label : Label} {after : Owner} (covered : Covered owner)
    (attended : Attended owner label) (taken : step owner label = some after) : Covered after := by
  cases label with
  | submit =>
    obtain ⟨running, ⟨⟩⟩ := Option.ite_none_left_eq_some.mp taken
    refine covered.put (by simpa using running) _ _ (Nat.le_succ _) fun id => ?_
    simp only [List.mem_singleton, Option.some.injEq]
    omega
  | aclose =>
    obtain ⟨running, ⟨⟩⟩ := Option.ite_none_left_eq_some.mp taken
    refine covered.put (by simpa using running) [none] _ (Nat.le_refl _) fun id => ?_
    simp only [List.mem_singleton, reduceCtorEq, false_iff]
    omega
  | cancelSubmit id =>
    obtain ⟨-, ⟨⟩⟩ := Option.ite_none_right_eq_some.mp taken
    exact covered.settle (by simp)
  | cancelWorker id =>
    obtain ⟨cancelled, ⟨⟩⟩ := Option.ite_none_right_eq_some.mp taken
    refine covered.setWorker ?_ ?_ ?_
    · rw [isLive_cancel]
      exact fun live => live
    · intro absent
      rw [absent]
      rfl
    · intro isOpen
      simp [Owner.isOpen, cancelled] at isOpen
  | setupFailed =>
    obtain ⟨phase, ⟨⟩⟩ := Option.ite_none_right_eq_some.mp taken
    refine covered_leave covered.queued covered.worked fun id known isOpen => ?_
    refine (covered.served id known isOpen).imp_right fun served => served.resolve_right ?_
    rw [covered.setup phase id]
    rintro ⟨⟨⟩, _⟩
  | connected | wake =>
    obtain ⟨-, ⟨⟩⟩ := Option.ite_none_right_eq_some.mp taken
    refine covered_serve owner.commands covered.queued covered.worked ?_ attended
    intro id known isOpen
    refine (covered.served id known isOpen).imp_right fun served => served.imp_right ?_
    exact fun created => created.1
  | interrupt =>
    simp only [step] at taken
    split at taken
    · rename_i phase
      cases taken
      have begun : Begun owner := by simpa [Attended, phase] using attended
      refine covered_leave covered.queued covered.worked fun id known isOpen => ?_
      exact (covered.served id known isOpen).imp_right fun served =>
        served.resolve_right fun created => begun id isOpen false created.1
    · rename_i phase
      cases taken
      exact covered.abandon (by simpa [Attended, phase] using attended)
    · rename_i phase
      cases taken
      exact covered.abandon (by simpa [Attended, phase] using attended)
    · cases taken
  | begin id =>
    simp only [step] at taken
    split at taken
    · rename_i created
      cases taken
      refine covered.setWorker (fun live => by cases live) (fun absent => ?_) fun _ served => ?_
      · rw [created] at absent
        cases absent
      · rcases served with ⟨marked, running⟩ | ⟨unmarked, -⟩
        · rw [created] at running
          cases running
        · rw [created] at unmarked
          cases unmarked
    · rename_i created
      cases taken
      refine covered.setWorker (fun _ => by rw [created]; rfl) (fun absent => ?_)
        fun _ _ => ⟨false, rfl⟩
      rw [created] at absent
      cases absent
    · cases taken
  | complete id outcome =>
    simp only [step] at taken
    split at taken
    · rename_i marked running
      obtain ⟨ends, ⟨⟩⟩ := Option.ite_none_right_eq_some.mp taken
      have completes : outcome ≠ .pending := by rcases ends with rfl | rfl <;> simp
      refine (covered.settle completes).setWorker (fun live => by cases live) (fun absent => ?_)
        fun isOpen => ?_
      · rw [(settle_same owner id outcome).2.2.2, running] at absent
        cases absent
      · exact absurd rfl (isOpen_settle completes isOpen).1
    · cases taken
  | gathered =>
    obtain ⟨none_left, ⟨⟩⟩ := Option.ite_none_right_eq_some.mp taken
    have ended := not_live_of_hasWorkers covered.worked none_left.2
    refine ⟨covered.queued, covered.worked, by simp, fun id known isOpen => ?_, fun _ => ended, by simp⟩
    refine (covered.served id known isOpen).imp_right fun served => ?_
    rcases served with running | ⟨-, phase⟩
    · exact .inl running
    · exact absurd (phase.symm.trans none_left.1) (by simp)
  | closed =>
    obtain ⟨phase, ⟨⟩⟩ := Option.ite_none_right_eq_some.mp taken
    refine covered_drain owner.commands covered.worked fun id known isOpen => ?_
    refine (covered.served id known isOpen).resolve_right fun served => ?_
    have ended := covered.closing phase id
    rcases served with ⟨marked, running⟩ | ⟨created, -⟩
    · rw [running] at ended
      cases ended
    · rw [created] at ended
      cases ended

end Steps

variable {owner : Owner}

theorem covered_reached (reached : Reaches step Attended .initial owner) :
    Covered owner :=
  reached.invariant ⟨nofun, nofun, fun _ _ => rfl, nofun, nofun, nofun⟩ fun _ _ _ => covered_step

/-- **Every command is completed once the owner has finished.** -/
theorem commands_completed {owner : Owner}
    (reached : Reaches step Attended .initial owner) (done : owner.isDone = true) :
    ∀ id < owner.issued, owner.results id ≠ .pending := by
  intro id known pending
  have completed := (covered_reached reached).finished (by simpa [Owner.isDone] using done) id known
  simp [Owner.isOpen, pending] at completed

/-! ### Commands that nobody completes -/

/-- The owner has finished, and so has the worker of an open command, if it ever had one. -/
structure Lost (owner : Owner) (id : Nat) : Prop where
  done : owner.phase = .finished
  ended : (owner.workers id).isLive = false
  pending : owner.results id = .pending

variable {id : Nat}

section

variable (lost : Lost owner id)
include lost

theorem Lost.settle {other : Nat} {outcome : Outcome} (different : id ≠ other) :
    Lost (owner.settle other outcome) id := by
  obtain ⟨phase, -, -, workers⟩ := settle_same owner other outcome
  refine ⟨phase.trans lost.done, by rw [workers]; exact lost.ended, ?_⟩
  unfold Owner.settle
  split
  · exact (Function.update_of_ne different ..).trans lost.pending
  · exact lost.pending

theorem Lost.setWorker {other : Nat} {worker : Worker} (different : id ≠ other) :
    Lost (owner.setWorker other worker) id :=
  ⟨lost.done, by
    rw [show (owner.setWorker other worker).workers id = owner.workers id from
      Function.update_of_ne different ..]
    exact lost.ended, lost.pending⟩

/-- One step does not complete a lost command, unless its own caller gives up. -/
theorem Lost.step {after : Owner} {label : Label} (waits : label ≠ .cancelSubmit id)
    (taken : step owner label = some after) : Lost after id := by
  have done := lost.done
  have live : ∀ {other}, (owner.workers other).isLive = true → id ≠ other := by
    rintro other alive rfl
    exact absurd (lost.ended.symm.trans alive) nofun
  cases label with
  | cancelSubmit other =>
    obtain ⟨-, ⟨⟩⟩ := Option.ite_none_right_eq_some.mp taken
    exact lost.settle fun same => waits (by rw [same])
  | cancelWorker other =>
    obtain ⟨cancelled, ⟨⟩⟩ := Option.ite_none_right_eq_some.mp taken
    refine lost.setWorker fun same => ?_
    rw [← same, lost.pending] at cancelled
    cases cancelled
  | begin other =>
    simp only [SessionOwner.step] at taken
    split at taken
    · rename_i created
      cases taken
      exact lost.setWorker (live (by rw [created]; rfl))
    · rename_i created
      cases taken
      exact lost.setWorker (live (by rw [created]; rfl))
    · cases taken
  | complete other outcome =>
    simp only [SessionOwner.step] at taken
    split at taken
    · rename_i marked running
      have different := @live other (by rw [running]; rfl)
      obtain ⟨-, ⟨⟩⟩ := Option.ite_none_right_eq_some.mp taken
      exact (lost.settle different).setWorker different
    · cases taken
  | _ => simp [SessionOwner.step, Owner.isDone, done] at taken

/-- **A lost command stays open**: its caller waits for as long as it is not cancelled. -/
theorem lost_forever {later : Owner}
    (reached : Reaches step (fun _ label => label ≠ .cancelSubmit id) owner later) :
    later.results id = .pending := by
  have still : Lost later id := by
    induction reached with
    | start => exact lost
    | step _ waits taken ih => exact ih.step waits taken
  exact still.pending

end

/-! ### Runs -/

/-- Every worker with an open command has taken its first step. -/
def begun (owner : Owner) : Bool :=
  (List.range owner.issued).all fun id => !owner.isOpen id || owner.workers id ≠ .created false &&
    owner.workers id ≠ .created true

/-- A step that is attended, as far as the commands so far tell. -/
def attends (owner : Owner) : Label → Bool
  | .connected | .wake =>
    !owner.commands.contains none || begun owner &&
      (owner.commands.takeWhile Option.isSome).all fun command => command.any fun id =>
        !owner.isOpen id
  | .interrupt => false
  | _ => true

theorem begun_of_check (covered : Covered owner) (checked : begun owner = true) :
    Begun owner := by
  intro id isOpen marked created
  have known := covered.worked id (by rw [created]; rfl)
  have starts := List.all_eq_true.mp checked id (List.mem_range.mpr known)
  cases marked <;> simp [isOpen, created] at starts

theorem attended_of_check {label : Label} (reached : Reaches step Attended .initial owner)
    (checked : attends owner label = true) :
    Attended owner label := by
  have loop : (!owner.commands.contains none || begun owner &&
      (owner.commands.takeWhile Option.isSome).all fun command => command.any fun id =>
        !owner.isOpen id) = true → none ∈ owner.commands → Begun owner ∧ Unhurried owner := by
    intro checked sentinel
    simp only [Bool.or_eq_true, Bool.not_eq_true', List.contains_iff_mem, Bool.and_eq_true,
      Bool.eq_false_iff, ne_eq] at checked
    obtain ⟨starts, early⟩ := checked.resolve_left (fun absent => absent sentinel)
    refine ⟨begun_of_check (covered_reached reached) starts, fun id member => ?_⟩
    simpa using List.all_eq_true.mp early (some id) member
  cases label with
  | connected | wake => exact loop checked
  | interrupt => cases checked
  | _ => exact trivial

/-- A command that its worker completes, and one behind the sentinel. -/
def attendedRun : List Label :=
  [.connected, .submit, .wake, .begin 0, .complete 0 .returned, .aclose, .submit, .wake, .closed]

theorem commands_completed_attended : ∃ owner, Reaches step Attended .initial owner ∧
    owner.isDone = true ∧ owner.issued = 2 ∧ owner.results 0 ≠ .pending ∧
    owner.results 1 ≠ .pending := by
  obtain ⟨owner, reaches, done, issued⟩ := Reaches.of_run step
    (fun owner label => attends owner label = true) .initial attendedRun
    (fun owner => owner.isDone = true ∧ owner.issued = 2) (by decide)
  have reached := reaches.sharpen fun _ _ => attended_of_check
  have completed := commands_completed reached done
  exact ⟨owner, reached, done, issued, completed 0 (by omega), completed 1 (by omega)⟩

/-- A run that loses its first command. -/
theorem exists_lost (labels : List Label)
    (checked : (follow step (fun _ _ => decide True) .initial labels).any (fun owner =>
      decide (owner.phase = .finished ∧ 0 < owner.issued ∧ (owner.workers 0).isLive = false ∧
        owner.results 0 = .pending)) = true) :
    ∃ owner, Reaches step (fun _ _ => True) .initial owner ∧ owner.isDone = true ∧
      0 < owner.issued ∧ ∀ later,
        Reaches step (fun _ label => label ≠ .cancelSubmit 0) owner later →
          later.results 0 = .pending := by
  obtain ⟨owner, reached, done, issued, ended, pending⟩ := Reaches.of_run _ _ _ labels _ checked
  exact ⟨owner, reached, by simp [Owner.isDone, done], issued,
    fun _ => lost_forever ⟨done, ended, pending⟩⟩

/-- **A worker that is cancelled before its first step** leaves its command open: here the owner takes
the command and the sentinel behind it in one step. -/
theorem cancelled_before_first_step : ∃ owner, Reaches step (fun _ _ => True) .initial owner ∧
    owner.isDone = true ∧ 0 < owner.issued ∧ ∀ later,
      Reaches step (fun _ label => label ≠ .cancelSubmit 0) owner later →
        later.results 0 = .pending :=
  exists_lost [.connected, .submit, .aclose, .wake, .begin 0, .gathered, .closed] (by decide)

/-- **An exception in the clean-up** leaves what is queued open: here the session cannot be closed, and
a command has come in the meantime. -/
theorem interrupted_before_drain : ∃ owner, Reaches step (fun _ _ => True) .initial owner ∧
    owner.isDone = true ∧ 0 < owner.issued ∧ ∀ later,
      Reaches step (fun _ label => label ≠ .cancelSubmit 0) owner later →
        later.results 0 = .pending :=
  exists_lost [.connected, .aclose, .wake, .submit, .interrupt] (by decide)

end SerenaLight.Connector.SessionOwner
