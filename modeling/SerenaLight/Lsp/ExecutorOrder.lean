/-
**What the threads of a bounded executor keep.**

- `Counted`: a counter counts the items of its kind in the queue, and those that the worker or a
  closing thread has taken and not yet counted off. So a submission that is admitted finds room
  (`room_of_admits`).
- `Ordered`: items are taken in the order of their submission, so calls are begun in it.
- `Tracked`: a future that is not done is the future of an item in the queue or in a thread's hands.
- `Closed`: the stop sentinel comes last.
- `executor_keeps`: the four of them in every run. `taken_and_counted`: a counter still counts an
  item that the worker has taken from the queue.
-/

import SerenaLight.Lsp.ExecutorThreads
import Mathlib.Data.List.Basic

namespace SerenaLight.Lsp.ExecutorThreads

open Foundation

variable {Value Failure : Type} {capacity : Nat} {before after system : System Value Failure}
  {label : Label Value Failure}

/-! ### Items -/

/-- The items of the queue. -/
def System.queued (system : System Value Failure) : List WorkItem :=
  system.queue.filterMap Entry.item?

/-- The item that the worker has taken and not yet counted off. -/
def Worker.uncounted : Worker → Option WorkItem
  | taken item => some item
  | _ => none

def Closer.uncounted : Closer → Option WorkItem
  | taken item => some item
  | _ => none

/-- The items that were taken from the queue and not yet counted off. -/
def System.transit (system : System Value Failure) : List WorkItem :=
  system.worker.uncounted.toList ++ system.closer.uncounted.toList

/-- The items of a kind. -/
def countOf (cleanup : Bool) (items : List WorkItem) : Nat :=
  items.countP fun item => item.cleanup == cleanup

section Items

variable (cleanup : Bool)

@[grind =] theorem countOf_nil : countOf cleanup [] = 0 := rfl

@[grind =] theorem countOf_append (first second : List WorkItem) :
    countOf cleanup (first ++ second) = countOf cleanup first + countOf cleanup second :=
  List.countP_append

@[grind =] theorem countOf_cons (item : WorkItem) (rest : List WorkItem) :
    countOf cleanup (item :: rest) =
      (if item.cleanup = cleanup then 1 else 0) + countOf cleanup rest := by
  simp [countOf, List.countP_cons, Nat.add_comm]

theorem length_eq_countOf (items : List WorkItem) :
    items.length = countOf false items + countOf true items := by
  induction items with
  | nil => rfl
  | cons item rest ih => cases kind : item.cleanup <;> grind

section

variable (entries : List Entry)

@[grind =] theorem queued_work (item : WorkItem) :
    (Entry.work item :: entries).filterMap Entry.item? = item :: entries.filterMap Entry.item? :=
      rfl

@[grind =] theorem queued_stop :
    (Entry.stop :: entries).filterMap Entry.item? = entries.filterMap Entry.item? := rfl

@[grind =] theorem queued_append_work (item : WorkItem) :
    (entries ++ [Entry.work item]).filterMap Entry.item? =
      entries.filterMap Entry.item? ++ [item] := by
  simp [Entry.item?]

@[grind =] theorem queued_append_stop :
    (entries ++ [Entry.stop]).filterMap Entry.item? = entries.filterMap Entry.item? := by
  simp [Entry.item?]

end

end Items

section AddQueued

variable (system : System Value Failure) (kind : Bool) (amount : Int)

@[simp] theorem addQueued_queue : (system.addQueued kind amount).queue = system.queue := by
  cases kind <;> rfl

@[simp] theorem addQueued_futures : (system.addQueued kind amount).futures = system.futures := by
  cases kind <;> rfl

@[simp] theorem addQueued_worker : (system.addQueued kind amount).worker = system.worker := by
  cases kind <;> rfl

@[simp] theorem addQueued_log : (system.addQueued kind amount).log = system.log := by
  cases kind <;> rfl

end AddQueued

attribute [grind =] System.queued System.put System.admits System.addQueued System.setFuture
  System.queuedOf

/-! ### The stop sentinel -/

/-- **The stop sentinel comes last.** No item is put once the executor is stopping, and the worker
ends at the sentinel, with nothing left in the queue. -/
@[grind cases eager]
structure Closed (system : System Value Failure) : Prop where
  free : system.stopping = true → system.submitting = none
  outside : system.stopping = false → system.closer = .outside
  unstopped : system.closer ≠ .joins → .stop ∉ system.queue
  empty : system.closer = .stops → system.queue = []
  last : system.closer = .joins → system.queue = [] ∨ system.queue = [.stop]
  exited : system.worker = .exited → system.closer = .joins ∧ system.queue = []

theorem Closed.initial : Closed (System.initial : System Value Failure) := by
  constructor <;> simp [System.initial]

/-- The threads enter `stop` and the queue in the order of its flag. -/
theorem Closed.flag_step (closed : Closed before) (move : Move capacity before label after) :
    (after.stopping = true → after.submitting = none) ∧
      (after.stopping = false → after.closer = .outside) := by
  cases move <;> first
    | exact ⟨closed.free, closed.outside⟩
    | grind

/-- Nothing follows the sentinel in the queue. -/
theorem Closed.queue_step (closed : Closed before) (move : Move capacity before label after) :
    (after.closer ≠ .joins → .stop ∉ after.queue) ∧ (after.closer = .stops → after.queue = []) ∧
      (after.closer = .joins → after.queue = [] ∨ after.queue = [.stop]) := by
  cases move <;> first
    | exact { closed with }
    | grind

theorem Closed.step (closed : Closed before) (move : Move capacity before label after) :
    Closed after := by
  obtain ⟨free, outside⟩ := closed.flag_step move
  obtain ⟨unstopped, empty, last⟩ := closed.queue_step move
  refine ⟨free, outside, unstopped, empty, last, ?_⟩
  clear free outside unstopped empty last
  cases move <;> first
    | exact closed.exited
    | grind

/-! ### Counters -/

namespace System

variable (system : System Value Failure)

/-- The items of a kind that a submitter has put and not yet counted. -/
@[grind =] def pendingOf (cleanup : Bool) : Nat :=
  countOf cleanup system.submitting.toList

/-- The items of a kind that the executor has accepted and not yet counted off. -/
def tally (cleanup : Bool) : Nat :=
  countOf cleanup (system.queued ++ system.transit)

@[grind =] theorem tally_eq (cleanup : Bool) :
    system.tally cleanup =
      countOf cleanup system.queued + (countOf cleanup system.worker.uncounted.toList +
        countOf cleanup system.closer.uncounted.toList) := by
  rw [tally, transit, countOf_append, countOf_append]

end System

attribute [grind =] Worker.uncounted Closer.uncounted Option.toList_some Option.toList_none
  Option.isNone_iff_eq_none

/-- **A counter counts what is queued, and what was taken and not yet counted off.** The item that a
submitter has put is counted before the lock is free. -/
structure Counted (capacity : Nat) (system : System Value Failure) : Prop where
  total (cleanup : Bool) :
    system.queuedOf cleanup + system.pendingOf cleanup = system.tally cleanup
  bounded (cleanup : Bool) :
    system.queuedOf cleanup + system.pendingOf cleanup ≤ limit capacity cleanup

theorem Counted.initial : Counted capacity (System.initial : System Value Failure) := by
  constructor <;> intro cleanup <;> cases cleanup <;> simp [System.queuedOf, System.initial,
    System.pendingOf, System.tally, System.queued, System.transit, Worker.uncounted,
    Closer.uncounted, countOf]

theorem Counted.step (counted : Counted capacity before) (closed : Closed before)
    (move : Move capacity before label after) : Counted capacity after := by
  refine ⟨fun cleanup => ?_, fun cleanup => ?_⟩ <;> have total := counted.total cleanup <;>
    have bounded := counted.bounded cleanup <;> cases move
  all_goals grind

/-- **A submission that is admitted finds room in the queue.** -/
theorem Counted.room_of_admits (counted : Counted capacity system) (closed : Closed system)
    {cleanup : Bool} (admitted : system.admits capacity cleanup = true) :
    system.queue.length < maxsize capacity := by
  have unstopped : .stop ∉ system.queue := by grind
  have length : system.queue.length = system.queued.length := by
    rw [System.queued, List.length_filterMap_eq_countP, List.countP_eq_length.mpr]
    intro entry mem
    cases entry with
    | work item => rfl
    | stop => exact absurd mem unstopped
  have split := length_eq_countOf system.queued
  have ordinary := counted.total false
  have cleanups := counted.total true
  have ordinaryBound := counted.bounded false
  have cleanupBound := counted.bounded true
  cases cleanup <;> grind [limit, maxsize, cleanupReserve]

/-! ### Order -/

/-- The item that the worker has taken and whose call it has not begun. -/
def Worker.upcoming : Worker → Option WorkItem
  | taken item | counted item | started item | active item => some item
  | _ => none

/-- The calls that were begun, the one that may be next, and those of the queue. -/
def System.line (system : System Value Failure) : List Nat :=
  system.log ++ (system.worker.upcoming.toList ++ system.queued).map WorkItem.future

/-- **Items are begun and queued in the order of their submission.** -/
structure Ordered (system : System Value Failure) : Prop where
  increasing : system.line.Pairwise (· < ·)
  created : ∀ index ∈ system.line, index < system.futures.length

theorem Ordered.initial : Ordered (System.initial : System Value Failure) where
  increasing := .nil
  created := nofun

/-- A step that at most drops an item of the line. -/
theorem Ordered.of_sublist (ordered : Ordered before) (dropped : after.line.Sublist before.line)
    (futures : after.futures.length = before.futures.length) : Ordered after where
  increasing := ordered.increasing.sublist dropped
  created index mem := futures ▸ ordered.created index (dropped.subset mem)

theorem Ordered.put (ordered : Ordered before) (cleanup : Bool) :
    Ordered (before.put cleanup) := by
  have line : (before.put cleanup).line = before.line ++ [before.futures.length] := by
    simp [System.line, System.queued, System.put, Entry.item?]
  have futures : (before.put cleanup).futures.length = before.futures.length + 1 := by
    simp [System.put]
  refine ⟨?_, fun index mem => ?_⟩
  · rw [line, List.pairwise_append]
    refine ⟨ordered.increasing, List.pairwise_singleton _ _, fun first mem second last => ?_⟩
    rw [List.mem_singleton.mp last]
    exact ordered.created first mem
  · rw [line, List.mem_append, List.mem_singleton] at mem
    rw [futures]
    obtain old | new := mem
    · exact Nat.lt_succ_of_lt (ordered.created index old)
    · omega

theorem Ordered.step (ordered : Ordered before) (move : Move capacity before label after) :
    Ordered after := by
  cases move
  case put kind admitted room => exact ordered.put kind
  all_goals
    refine ordered.of_sublist ?_ (by simp [System.setFuture])
    simp_all [System.line, System.queued, System.setFuture, Worker.upcoming, Entry.item?,
      List.filterMap_cons]

/-! ### Futures -/

/-- The item whose future the worker has not yet set running. -/
def Worker.unstarted : Worker → Option WorkItem
  | taken item | counted item => some item
  | _ => none

/-- The item whose future is running. -/
def Worker.begun : Worker → Option WorkItem
  | started item | active item | calls item => some item
  | _ => none

/-- The item whose future a closing thread has not yet cancelled. -/
def Closer.held : Closer → Option WorkItem
  | taken item | counted item => some item
  | _ => none

/-- The items whose futures may be pending. -/
def System.waiting (system : System Value Failure) : List WorkItem :=
  system.queued ++ (system.worker.unstarted.toList ++ system.closer.held.toList)

/-- **A future that is not done is the future of an item in the queue or in a thread's hands.** -/
structure Tracked (system : System Value Failure) : Prop where
  pending : ∀ {index}, system.futures[index]? = some .pending →
    ∃ item ∈ system.waiting, item.future = index
  running : ∀ {index}, system.futures[index]? = some .running →
    ∃ item, system.worker.begun = some item ∧ item.future = index
  begun : ∀ {item}, system.worker.begun = some item → system.futures[item.future]? = some .running

theorem Tracked.initial : Tracked (System.initial : System Value Failure) where
  pending := nofun
  running := nofun
  begun := nofun

theorem getElem?_setFuture (system : System Value Failure) (index other : Nat)
    (change : Future Value Failure → Future Value Failure) :
    (system.setFuture index change).futures[other]? =
      system.futures[other]?.map fun future => if index = other then change future else future :=
  List.getElem?_modify change index system.futures other

theorem cancel_ne_pending (future : Future Value Failure) : future.cancel.1 ≠ .pending := by
  cases future <;> nofun

theorem cancel_running {future : Future Value Failure} :
    future.cancel.1 = .running ↔ future = .running := by
  cases future <;> simp [Future.cancel]

section

variable (tracked : Tracked before)

include tracked

/-- A step that cancels a future, after which its item may be dropped. -/
theorem Tracked.of_cancel {index : Nat}
    (futures : after.futures = (before.setFuture index fun future => future.cancel.1).futures)
    (waiting : ∀ item ∈ before.waiting, item.future ≠ index → item ∈ after.waiting)
    (begun : after.worker.begun = before.worker.begun) : Tracked after where
  pending {other} found := by
    rw [futures, getElem?_setFuture, Option.map_eq_some_iff] at found
    obtain ⟨future, found, pending⟩ := found
    split at pending
    · exact absurd pending (cancel_ne_pending future)
    · cases pending
      obtain ⟨item, mem, rfl⟩ := tracked.pending found
      exact ⟨item, waiting item mem fun same => ‹index ≠ item.future› same.symm, rfl⟩
  running {other} found := by
    rw [futures, getElem?_setFuture, Option.map_eq_some_iff] at found
    obtain ⟨future, found, running⟩ := found
    have same : future = .running := by
      split at running
      · exact cancel_running.mp running
      · exact running
    rw [begun]
    exact tracked.running (same ▸ found)
  begun {item} here := by
    rw [futures, getElem?_setFuture, tracked.begun (begun ▸ here)]
    simp [Future.cancel]

theorem Tracked.put (cleanup : Bool) : Tracked (before.put cleanup) := by
  have futures {index : Nat} {future : Future Value Failure}
      (found : (before.put cleanup).futures[index]? = some future) :
      before.futures[index]? = some future ∨
        index = before.futures.length ∧ future = .pending := by
    rw [System.put, List.getElem?_append] at found
    split at found
    · exact .inl found
    · have single := List.getElem?_eq_some_iff.mp found
      obtain ⟨bound, value⟩ := single
      rw [List.length_singleton] at bound
      refine .inr ⟨by omega, ?_⟩
      rw [← value, List.getElem_singleton]
  have waiting {item : WorkItem} : item ∈ (before.put cleanup).waiting ↔
      item ∈ before.waiting ∨ item = ⟨before.futures.length, cleanup⟩ := by
    simp only [System.waiting, System.queued, System.put, queued_append_work, List.mem_append,
      List.mem_singleton]
    tauto
  refine ⟨fun {index} found => ?_, fun {index} found => ?_, fun {item} here => ?_⟩
  · obtain old | ⟨rfl, -⟩ := futures found
    · obtain ⟨item, mem, same⟩ := tracked.pending old
      exact ⟨item, waiting.mpr (.inl mem), same⟩
    · exact ⟨⟨_, cleanup⟩, waiting.mpr (.inr rfl), rfl⟩
  · obtain old | ⟨-, new⟩ := futures found
    · exact tracked.running old
    · cases new
  · have old := tracked.begun here
    have bound := (List.getElem?_eq_some_iff.mp old).1
    rw [System.put, List.getElem?_append_left bound]
    exact old

theorem Tracked.setRunning
    {begun : Future Value Failure} (here : before.worker = .counted item)
    (pending : before.futures[item.future]?.bind Future.setRunning = some begun) :
    Tracked { before.setFuture item.future fun _ => begun with worker := .started item } := by
  obtain ⟨future, found, set⟩ := Option.bind_eq_some_iff.mp pending
  have running : begun = .running := by
    cases future with
    | pending => exact (Option.some.inj set).symm
    | _ => cases set
  subst running
  have idle : before.worker.begun = none := by
    rw [here]
    rfl
  refine ⟨fun {index} found => ?_, fun {index} found => ?_, fun {other} started => ?_⟩
  · obtain ⟨future, found, pending⟩ := Option.map_eq_some_iff.mp (getElem?_setFuture .. ▸ found)
    split at pending
    · cases pending
    · cases pending
      obtain ⟨other, mem, rfl⟩ := tracked.pending found
      refine ⟨other, ?_, rfl⟩
      simp only [System.waiting, System.queued, System.setFuture, here, Worker.unstarted,
        List.mem_append, Option.mem_toList, Option.some.injEq] at mem ⊢
      obtain queued | rfl | held := mem
      · exact .inl queued
      · exact absurd rfl ‹_›
      · exact .inr (.inr held)
  · obtain ⟨future, found, running⟩ := Option.map_eq_some_iff.mp (getElem?_setFuture .. ▸ found)
    split at running
    · exact ⟨item, rfl, ‹_›⟩
    · cases running
      obtain ⟨other, started, -⟩ := tracked.running found
      cases idle.symm.trans started
  · cases started
    show (before.setFuture item.future fun _ => .running).futures[item.future]? = _
    rw [getElem?_setFuture, found]
    simp

theorem Tracked.finish
    (result : Except Failure Value) (here : before.worker = .calls item) :
    Tracked { before.setFuture item.future fun _ => outcome result with
      worker := .ended item } := by
  refine ⟨fun {index} found => ?_, fun {index} found => ?_, nofun⟩
  · obtain ⟨future, found, pending⟩ := Option.map_eq_some_iff.mp (getElem?_setFuture .. ▸ found)
    split at pending
    · cases result <;> cases pending
    · cases pending
      obtain ⟨other, mem, rfl⟩ := tracked.pending found
      refine ⟨other, ?_, rfl⟩
      simpa [System.waiting, System.queued, System.setFuture, here, Worker.unstarted] using mem
  · obtain ⟨future, found, running⟩ := Option.map_eq_some_iff.mp (getElem?_setFuture .. ▸ found)
    split at running
    · cases result <;> cases running
    · cases running
      obtain ⟨other, begun, rfl⟩ := tracked.running found
      rw [here] at begun
      cases begun
      exact absurd rfl ‹_›

attribute [grind =] System.waiting Worker.unstarted Worker.begun Closer.held

theorem Tracked.step (closed : Closed before)
    (move : Move capacity before label after) : Tracked after := by
  cases move
  case put kind admitted room => exact tracked.put kind
  case cancel index => exact tracked.of_cancel rfl (fun _ mem _ => mem) rfl
  case setRunning here pending => exact tracked.setRunning here pending
  case finish result here => exact tracked.finish result here
  case drainCancel here => exact tracked.of_cancel rfl (by grind) rfl
  case skip here cancelled =>
    obtain ⟨pending, running, begun⟩ := tracked
    constructor <;> grind [Future.setRunning]
  all_goals
    -- the futures stay, and every item that may be pending is in the queue or in the same hands
    obtain ⟨pending, running, begun⟩ := tracked
    constructor <;> grind

end

/-- Once the worker has exited, every future is done. -/
theorem Tracked.done_of_exited (tracked : Tracked system) (closed : Closed system)
    (exited : system.worker = .exited) : ∀ future ∈ system.futures, future.done = true := by
  obtain ⟨joins, empty⟩ := closed.exited exited
  intro future mem
  obtain ⟨index, found⟩ := List.mem_iff_getElem?.mp mem
  cases future with
  | pending =>
    obtain ⟨item, waiting, -⟩ := tracked.pending found
    simp [System.waiting, System.queued, empty, exited, joins, Worker.unstarted, Closer.held]
      at waiting
  | running =>
    obtain ⟨item, begun, -⟩ := tracked.running found
    rw [exited] at begun
    cases begun
  | cancelled | returned value | raised failure => rfl

/-! ### Runs -/

/-- Every interleaving of the threads. -/
def Runs (capacity : Nat) (system : System Value Failure) : Prop :=
  Reaches (step capacity) (fun _ _ => True) System.initial system

theorem Runs.keeps (run : Runs capacity system) :
    Closed system ∧ Counted capacity system ∧ Ordered system ∧ Tracked system := by
  let Invariant (system : System Value Failure) : Prop :=
    Closed system ∧ Counted capacity system ∧ Ordered system ∧ Tracked system
  have start : Invariant System.initial :=
    ⟨Closed.initial, Counted.initial, Ordered.initial, Tracked.initial⟩
  have kept (before : System Value Failure) (label : Label Value Failure)
      (after : System Value Failure) (kept : Invariant before) (_ : True)
      (taken : step capacity before label = some after) : Invariant after := by
    obtain ⟨closed, counted, ordered, tracked⟩ := kept
    have move := move_of_step taken
    exact ⟨closed.step move, counted.step closed move, ordered.step move, tracked.step closed move⟩
  exact Reaches.invariant start kept run

/-- **In every interleaving of the threads of an executor**: while its lock is free, a counter
counts the items of its kind that are queued, or taken and not yet counted off, and is within its
bound; a submission that is admitted finds room in the queue; calls are begun in the order of their
submission, each at most once; a call is in progress only while its future is running, as at most
one future is; and once the worker has exited, every future is done. -/
theorem executor_keeps {capacity : Nat} {system : System Value Failure}
    (run : Runs capacity system) :
    (system.submitting = none → ∀ cleanup,
      system.queuedOf cleanup = countOf cleanup (system.queued ++ system.transit) ∧
        system.queuedOf cleanup ≤ limit capacity cleanup) ∧
    (∀ cleanup, system.admits capacity cleanup = true → system.queue.length < maxsize capacity) ∧
    system.log.Pairwise (· < ·) ∧ (∀ index ∈ system.log, index < system.futures.length) ∧
    (∀ item, system.worker = .calls item → system.futures[item.future]? = some .running) ∧
    (∀ first second : Nat, system.futures[first]? = some .running →
      system.futures[second]? = some .running → first = second) ∧
    (system.worker = .exited → ∀ future ∈ system.futures, future.done = true) := by
  obtain ⟨closed, counted, ordered, tracked⟩ := run.keeps
  refine ⟨fun free cleanup => ?_, fun cleanup => counted.room_of_admits closed, ?_, ?_, ?_, ?_,
    tracked.done_of_exited closed⟩
  · have total := counted.total cleanup
    have bounded := counted.bounded cleanup
    rw [System.pendingOf, free, Option.toList_none, countOf_nil] at total bounded
    exact ⟨by rw [System.tally] at total; omega, by omega⟩
  · exact (List.pairwise_append.mp ordered.increasing).1
  · exact fun index mem => ordered.created index (List.mem_append_left _ mem)
  · intro item here
    exact tracked.begun (by rw [here]; rfl)
  · intro first second runs also
    obtain ⟨item, begun, rfl⟩ := tracked.running runs
    obtain ⟨other, alsoBegun, rfl⟩ := tracked.running also
    rw [Option.mem_unique begun alsoBegun]

/-- One call is served while the executor closes, and a cleanup call behind it is cancelled. -/
def closingRun : List (Label Unit Unit) :=
  [.put false, .count, .put true, .count, .get, .countOff, .setRunning, .activate, .call, .close,
    .drain, .drainCount, .drainCancel, .drain, .putStop, .finish (.ok ()), .deactivate, .get]

theorem executor_keeps_closing : ∃ system : System Unit Unit, Runs 1 system ∧
    system.worker = .exited ∧ system.futures = [.returned (), .cancelled] ∧
    ∀ future ∈ system.futures, future.done = true := by
  obtain ⟨system, runs, exited, futures⟩ := Reaches.of_run (step 1) (fun _ _ => True) .initial
    closingRun (fun system => system.worker = .exited ∧ system.futures = [.returned (), .cancelled])
    (by decide +kernel)
  exact ⟨system, runs, exited, futures, (executor_keeps runs).2.2.2.2.2.2 exited⟩

/-- **A counter still counts an item that the worker has taken from the queue**, until the worker's
next section. -/
theorem taken_and_counted : ∃ system : System Unit Unit, Runs 1 system ∧
    system.submitting = none ∧ system.queuedOf false = 1 ∧ countOf false system.queued = 0 :=
  Reaches.of_run (step 1) (fun _ _ => True) .initial [.put false, .count, .get] _
    (by decide +kernel)

end SerenaLight.Lsp.ExecutorThreads
