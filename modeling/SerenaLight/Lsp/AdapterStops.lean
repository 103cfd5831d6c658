/-
**What a stop request settles.**

`stop()` seals the adapter for good and puts a cleanup on the executor. No ordinary item is to start a
runtime from then on, and once the cleanup has succeeded, the adapter is to stay without a runtime, in
the phase cold. Two things happen outside of the lock that seals: `provider.start` is called some time
after the check of the seal, and a terminal callback records its crash some time after it has looked at
the phase.

* `Indexed`: which futures belong to a stop.
* `Cold`: in the phase cold there is no runtime, no open document, and the worker has done nothing yet.
* `Settled`: what a stop request and the success of one leave behind.
* `stops_settle`: this is so in every run in which no stop is requested in the middle of a start, and in
  which no crash or incompatible scope is recorded once a stop has succeeded.
-/

import Mathlib.Data.Int.Order.Basic
import SerenaLight.Lsp.AdapterPlaces

set_option linter.unusedSectionVars false

namespace SerenaLight.Lsp.Adapter

open Foundation

variable {Time : Type} [LinearOrder Time] [Add Time] [Sub Time]
variable {policy : CrashPolicy Time} {capacity : Nat} {before after system : System Time}
  {label : Label Time}

/-! ### The futures of the stops -/

/-- The futures of the queued and of the running item, and which of them are stops. -/
structure Indexed (system : System Time) : Prop where
  known : ∀ future ∈ system.stops, future < system.futures.length
  queued : ∀ item ∈ system.queue, item.2 < system.futures.length ∧
    (item.2 ∈ system.stops ↔ item.1 = .stop)
  running : ∀ future, system.running = some future → future < system.futures.length ∧
    (future ∈ system.stops ↔ system.worker.stops = true)

theorem finish_length (system : System Time) (succeeded : Bool) :
    (system.finish succeeded).futures.length = system.futures.length := by
  unfold System.finish
  cases system.running with
  | none => rfl
  | some future => exact List.length_set

namespace Indexed

/-- A step that brings no item. -/
theorem same (indexed : Indexed before) (stops : after.stops = before.stops)
    (length : after.futures.length = before.futures.length)
    (queue : ∀ item ∈ after.queue, item ∈ before.queue)
    (running : after.running = none ∨
      after.running = before.running ∧ after.worker.stops = before.worker.stops) :
    Indexed after := by
  refine ⟨?_, ?_, ?_⟩
  · rw [stops, length]
    exact indexed.known
  · rw [stops, length]
    exact fun item member => indexed.queued item (queue item member)
  · intro future found
    obtain none_ | ⟨same, place⟩ := running
    · exact nomatch none_.symm.trans found
    · rw [stops, length, place]
      exact indexed.running future (same ▸ found)

/-- A new item, with the next future. -/
theorem append (indexed : Indexed before) {entry : Entry}
    (queue : after.queue = before.queue ++ [(entry, before.futures.length)])
    (futures : after.futures = before.futures ++ [.pending])
    (running : after.running = before.running) (worker : after.worker = before.worker)
    (known : ∀ future ∈ after.stops, future ∈ before.stops ∨ future = before.futures.length)
    (older : ∀ future ∈ before.stops, future ∈ after.stops)
    (newest : before.futures.length ∈ after.stops ↔ entry = .stop) : Indexed after := by
  have longer : after.futures.length = before.futures.length + 1 := by
    rw [futures, List.length_append, List.length_singleton]
  have stays : ∀ future, future < before.futures.length →
      (future ∈ after.stops ↔ future ∈ before.stops) := fun future bound =>
    ⟨fun member => (known future member).resolve_right (Nat.ne_of_lt bound), older future⟩
  refine ⟨fun future member => ?_, fun item member => ?_, fun future found => ?_⟩
  · rw [longer]
    obtain earlier | rfl := known future member
    · exact Nat.lt_succ_of_lt (indexed.known future earlier)
    · exact Nat.lt_succ_self _
  · rw [longer]
    rw [queue] at member
    obtain earlier | last := List.mem_append.mp member
    · obtain ⟨bound, stop⟩ := indexed.queued item earlier
      exact ⟨Nat.lt_succ_of_lt bound, (stays _ bound).trans stop⟩
    · rw [List.mem_singleton.mp last]
      exact ⟨Nat.lt_succ_self _, newest⟩
  · rw [longer, worker]
    obtain ⟨bound, stop⟩ := indexed.running future (running ▸ found)
    exact ⟨Nat.lt_succ_of_lt bound, (stays _ bound).trans stop⟩

/-- The worker takes an item. -/
theorem take (indexed : Indexed system) {entry : Entry} {future : Nat} {rest : List (Entry × Nat)}
    (head : system.queue = (entry, future) :: rest) : Indexed (system.take entry future rest) := by
  have length : (system.take entry future rest).futures.length = system.futures.length :=
    List.length_set
  refine ⟨?_, fun item member => ?_, fun running found => ?_⟩
  · rw [length]
    exact indexed.known
  · rw [length]
    exact indexed.queued item (head ▸ List.mem_cons_of_mem _ member)
  · obtain rfl := Option.some.inj found
    rw [length]
    obtain ⟨bound, stop⟩ := indexed.queued (entry, future) (head ▸ List.mem_cons_self)
    exact ⟨bound, stop.trans (begins_stops entry).symm⟩

theorem step (indexed : Indexed before) (move : Move policy before label after) :
    Indexed after := by
  have fresh : before.futures.length ∉ before.stops := fun member =>
    absurd (indexed.known _ member) (Nat.lt_irrefl _)
  cases turn_of_move move with
  | onward queue futures stops running place =>
    exact indexed.same stops (by rw [futures]) (fun _ member => queue ▸ member)
      (.inr ⟨running, place⟩)
  | finished succeeded queue futures stops running =>
    exact indexed.same stops (by rw [futures, finish_length]) (fun _ member => queue ▸ member)
      (.inl running)
  | submitted eq other =>
    subst eq
    exact indexed.append rfl rfl rfl rfl (fun _ => .inl) (fun _ => id)
      ⟨fun member => absurd member fresh, fun stop => absurd stop other⟩
  | requested eq =>
    subst eq
    refine indexed.append rfl rfl rfl rfl (fun _ member => ?_)
      (fun _ member => List.mem_append_left _ member)
      ⟨fun _ => rfl, fun _ => List.mem_append_right _ (List.mem_singleton_self _)⟩
    exact (List.mem_append.mp member).imp_right List.mem_singleton.mp
  | cancelled _ eq =>
    subst eq
    exact indexed.same rfl List.length_set (fun _ => id) (.inr ⟨rfl, rfl⟩)
  | closed eq =>
    subst eq
    exact indexed.same rfl List.length_mapIdx nofun (.inr ⟨rfl, rfl⟩)
  | dropped head eq =>
    subst eq
    exact indexed.same rfl rfl (fun _ member => head ▸ List.mem_cons_of_mem _ member)
      (.inr ⟨rfl, rfl⟩)
  | taken head eq => exact eq ▸ indexed.take head

end Indexed

/-- A cleanup of a stop request has succeeded. -/
def System.stopSucceeded (system : System Time) : Prop :=
  ∃ future ∈ system.stops, system.futures[future]? = some (.returned ())

/-- A cancelled future does not return. -/
theorem returned_of_cancel {status : Future Unit Unit} (returned : status.cancel.1 = .returned ()) :
    status = .returned () := by
  cases status <;> first | exact returned | cases returned

/-- A future that has been set to something else has not returned. -/
theorem returned_of_set {futures : List (Future Unit Unit)} {index future : Nat}
    {status : Future Unit Unit} (other : status ≠ .returned () ∨ futures[index]? = some status)
    (found : (futures.set index status)[future]? = some (.returned ())) :
    futures[future]? = some (.returned ()) := by
  rw [List.getElem?_set] at found
  split_ifs at found with same bound
  · subst same
    obtain differs | kept := other
    · exact absurd (Option.some.inj found) differs
    · rw [kept, found]
  · exact found

/-- A new future has not returned. -/
theorem returned_of_append {futures : List (Future Unit Unit)} {future : Nat}
    (found : (futures ++ [.pending])[future]? = some (.returned ())) :
    futures[future]? = some (.returned ()) := by
  by_cases bound : future < futures.length
  · rw [List.getElem?_append_left bound] at found
    exact found
  · rw [List.getElem?_append_right (Nat.le_of_not_lt bound), List.getElem?_singleton] at found
    split_ifs at found
    cases found

/-- **Only the end of `_stop_worker` makes a stop succeed**, and it leaves the phase cold. -/
theorem succeeded_of_step (indexed : Indexed before) (move : Move policy before label after)
    (done : after.stopSucceeded) : before.stopSucceeded ∨ after.adapter.phase = .cold := by
  obtain ⟨future, member, found⟩ := done
  cases turn_of_move move with
  | onward _ futures stops => exact .inl ⟨future, stops ▸ member, futures ▸ found⟩
  | finished succeeded _ futures stops _ _ cold =>
    rw [stops] at member
    rw [futures] at found
    unfold System.finish at found
    cases running : before.running with
    | none =>
      rw [running] at found
      exact .inl ⟨future, member, found⟩
    | some current =>
      rw [running] at found
      cases succeeded with
      | false =>
        have failed : Future.raised () ≠ (.returned () : Future Unit Unit) := nofun
        exact .inl ⟨future, member, returned_of_set (.inl failed) found⟩
      | true =>
        obtain ⟨_, stop⟩ := indexed.running current running
        by_cases same : current = future
        · exact .inr (cold rfl (stop.mp (same ▸ member)))
        · exact .inl ⟨future, member, (List.getElem?_set_ne same).symm.trans found⟩
  | submitted eq =>
    subst eq
    exact .inl ⟨future, member, returned_of_append found⟩
  | requested eq =>
    subst eq
    have returned := returned_of_append found
    obtain earlier | last := List.mem_append.mp member
    · exact .inl ⟨future, earlier, returned⟩
    · rw [List.mem_singleton.mp last, List.getElem?_eq_none (Nat.le_refl _)] at returned
      cases returned
  | @cancelled _ status current eq =>
    subst eq
    refine .inl ⟨future, member, returned_of_set ?_ found⟩
    by_cases returned : status.cancel.1 = .returned ()
    · rw [returned, ← returned_of_cancel returned]
      exact .inr current
    · exact .inl returned
  | closed eq =>
    subst eq
    refine .inl ⟨future, member, ?_⟩
    obtain ⟨status, at_, returned⟩ :=
      Option.map_eq_some_iff.mp (List.getElem?_mapIdx.symm.trans found)
    split_ifs at returned
    · rw [at_, returned_of_cancel returned]
    · rw [at_, returned]
  | dropped _ eq =>
    subst eq
    exact .inl ⟨future, member, found⟩
  | taken _ eq =>
    subst eq
    have running : Future.running ≠ (.returned () : Future Unit Unit) := nofun
    exact .inl ⟨future, member, returned_of_set (.inl running) found⟩

/-! ### The phase cold -/

/-- `_stop_worker` has forgotten the open documents. -/
def Place.clears : Place Time → Bool
  | .terminating _ => true
  | .ending _ => true
  | _ => false

/-- **In the phase cold, the adapter has nothing.** -/
structure Cold (system : System Time) : Prop where
  empty : system.adapter.phase = .cold → system.adapter.runtime = none ∧
    system.adapter.openDocuments = [] ∧ system.worker.resting = true
  cleared : system.worker.clears = true → system.adapter.openDocuments = []
  placed : Placed system.worker system.adapter.runtime

namespace Cold

/-- At a busy place, the phase is not cold. -/
theorem busy (cold : Cold system) {place : Place Time} (at_ : system.worker = place)
    (works : place.resting = false) : system.adapter.phase ≠ .cold := by
  intro phase
  have rests := (cold.empty phase).2.2
  rw [at_, works] at rests
  cases rests

/-- A step that leaves everything but the phase alone. -/
theorem moved (cold : Cold before) (rephased : Rephased before.adapter after.adapter)
    (rests : before.worker.resting = true → after.worker.resting = true)
    (clears : after.worker.clears = true → before.worker.clears = true)
    (placed : Placed after.worker after.adapter.runtime) : Cold after := by
  refine ⟨fun phase => ?_, fun cleared => ?_, placed⟩
  · obtain ⟨runtime, documents, resting⟩ := cold.empty (rephased.cold phase)
    exact ⟨rephased.runtime.trans runtime, rephased.openDocuments.trans documents, rests resting⟩
  · exact rephased.openDocuments.trans (cold.cleared (clears cleared))

/-- A step to another phase, or at a busy place. -/
theorem warm (phase : after.adapter.phase ≠ .cold)
    (cleared : after.worker.clears = true → after.adapter.openDocuments = [])
    (placed : Placed after.worker after.adapter.runtime) : Cold after :=
  ⟨fun cold => absurd cold phase, cleared, placed⟩

theorem step (cold : Cold before) (move : Move policy before label after) : Cold after := by
  have placed := placed_step cold.placed move
  have refreshed := refreshCooldown_rephased before.clock before.adapter
  cases move
  case taken entry _ _ _ _ _ =>
    refine cold.moved .refl (fun _ => ?_) (fun clears => ?_) placed
    · rcases entry with ⟨_, _ | _⟩ | _ | _ <;> rfl
    · rcases entry with ⟨_, _ | _⟩ | _ | _ <;> cases clears
  case notAdmitted | admitted | refused | replaceRaised | discardRaised | operated | retireRaised
    | retired | warmRefused | warmRaised | stopNothing | terminateRaised | foreignDone =>
      exact cold.moved .refl (fun _ => rfl) nofun placed
  case cooling | restartCooling => exact cold.moved refreshed (fun _ => rfl) nofun placed
  case running work at_ _ found =>
    -- there is a runtime, so the phase is not cold
    have warm : (before.adapter.refreshCooldown before.clock).phase ≠ .cold := by
      intro phase
      rw [refreshed.runtime, (cold.empty (refreshed.cold phase)).1] at found
      cases found
    cases work <;> exact .warm warm nofun placed
  case initialized work at_ => cases work <;> exact .warm (cold.busy at_ rfl) nofun placed
  case replaced at_ | launched at_ | bootRaised at_ | booted at_ | initializeRaised at_
    | discarded at_ | transportLost at_ => exact .warm (cold.busy at_ rfl) nofun placed
  case abandoned at_ _ | abandonedNothing at_ _ => exact .warm (cold.busy at_ rfl) nofun placed
  case touched at_ =>
    refine .warm (cold.busy at_ rfl) (fun clears => ?_) placed
    exact nomatch (congrArg Place.clears at_).symm.trans clears
  case terminated at_ =>
    exact .warm (cold.busy at_ rfl) (fun _ => cold.cleared (by rw [at_]; rfl)) placed
  case prepared | stopBegun => exact .warm nofun (fun _ => rfl) placed
  case warmBegun => exact .warm nofun nofun placed
  case warmReported other => exact .warm other.2 nofun placed
  case restarted =>
    refine .warm nofun ?_ placed
    show (Place.toRetire _ (before.adapter.refreshCooldown before.clock).runtime).clears = true → _
    cases (before.adapter.refreshCooldown before.clock).runtime <;> exact nofun
  case reported now at_ _ | lostLast now at_ _ | lost now at_ _ =>
    obtain ⟨_, _, _, crashed, _, _, _, _, phase⟩ :=
      crash_frame policy before.adapter.runtimeToken now before
    rw [crashed] at placed ⊢
    refine .warm ?_ nofun placed
    exact phase.elim (fun same => same.2 ▸ cold.busy at_ rfl) And.right
  case ended at_ =>
    have documents : before.adapter.openDocuments = [] := cold.cleared (by rw [at_]; rfl)
    have found : Placed before.worker before.adapter.runtime := cold.placed
    rw [at_] at found
    exact ⟨fun _ => ⟨if_pos found, documents, rfl⟩, nofun, placed⟩
  case recorded token since now _ =>
    obtain ⟨_, _, _, crashed, runtime, _, _, documents, phase⟩ := crash_frame policy token now
      { before with callbacks := before.callbacks.erase (token, since) }
    rw [crashed] at placed ⊢
    have cleared : before.worker.clears = true → _ := fun clears =>
      documents.elim (fun same => same.trans (cold.cleared clears)) id
    obtain ⟨_, same⟩ | ⟨_, warm⟩ := phase
    · refine ⟨fun phase => ?_, cleared, placed⟩
      obtain ⟨absent, empty, rests⟩ := cold.empty (same.symm.trans phase)
      exact ⟨runtime.trans absent, documents.elim (fun same => same.trans empty) id, rests⟩
    · exact .warm warm cleared placed
  case stopRejected | stopSubmitted => exact ⟨cold.empty, cold.cleared, placed⟩
  case documentReady => exact cold.moved (markDocumentReady_shifts _).rephased id id placed
  case snapshot => exact cold.moved (snapshot_rephased _ _ _) id id placed
  case waitGlobal => exact cold.moved (waitForGlobal_shifts _ _).rephased id id placed
  -- the steps of the other threads that leave the adapter alone
  all_goals exact cold.moved .refl id id placed

end Cold

/-! ### What a stop leaves behind -/

/-- **What a stop request, and the success of one, leave behind.** -/
structure Settled (system : System Time) : Prop where
  requested : system.stops ≠ [] → system.adapter.admissionSealed = true
  asked : system.adapter.stopFuture ≠ none → system.adapter.admissionSealed = true
  starts : system.adapter.admissionSealed = true → system.worker.starts = false
  cold : system.stopSucceeded → system.adapter.phase = .cold

/-- **The condition on a step.** -/
def Timely (system : System Time) : Label Time → Prop
  | .requestStop _ => system.worker.starts = false
  | .record token _ _ => token ∉ system.adapter.crashedRuntimeTokens → ¬system.stopSucceeded
  | .waitGlobal result => result = .scopeIncompatible → ¬system.stopSucceeded
  | _ => True

instance (system : System Time) (label : Label Time) : Decidable (Timely system label) := by
  apply label.casesOn (motive := fun label => Decidable (Timely system label)) <;> intros <;>
    dsimp only [Timely, System.stopSucceeded] <;> infer_instance

theorem Settled.succeeded_sealed (settled : Settled system) (done : system.stopSucceeded) :
    system.adapter.admissionSealed = true := by
  obtain ⟨future, member, _⟩ := done
  exact settled.requested (List.ne_nil_of_mem member)

/-- A step that leaves the requests alone. -/
theorem Settled.moved (settled : Settled before)
    (succeeds : after.stopSucceeded → before.stopSucceeded ∨ after.adapter.phase = .cold)
    (stops : after.stops = before.stops)
    (future : after.adapter.stopFuture = before.adapter.stopFuture)
    (isSealed : after.adapter.admissionSealed = before.adapter.admissionSealed)
    (starts : after.worker.starts = true → before.worker.starts = true ∨
      before.adapter.admissionSealed = false)
    (cold : before.stopSucceeded → after.adapter.phase = .cold) : Settled after := by
  refine ⟨?_, ?_, ?_, fun done => (succeeds done).elim cold id⟩
  · rw [stops, isSealed]
    exact settled.requested
  · rw [future, isSealed]
    exact settled.asked
  · intro closed
    rw [isSealed] at closed
    refine (Bool.not_eq_true _).mp fun starting => ?_
    obtain started | unsealed := starts starting
    · exact nomatch started.symm.trans (settled.starts closed)
    · exact nomatch unsealed.symm.trans closed

/-- A step of another thread that sets the phase. -/
theorem Settled.shift (settled : Settled before) {forced : Prop} {adapter : LanguageAdapter Time}
    (shifts : Shifts forced before.adapter adapter) (timely : forced → ¬before.stopSucceeded) :
    Settled (before.withAdapter adapter) := by
  refine settled.moved .inl rfl shifts.rephased.stopFuture shifts.rephased.admissionSealed .inl
    fun done => ?_
  obtain rfl | ⟨_, _, _, allowed | ⟨warm, _⟩⟩ := shifts
  · exact settled.cold done
  · exact absurd done (timely allowed)
  · exact absurd (settled.cold done) warm

theorem Settled.refresh (settled : Settled before) (now : Time) :
    Settled (before.withAdapter (before.adapter.refreshCooldown now)) :=
  settled.moved .inl rfl (refreshCooldown_rephased _ _).stopFuture
    (refreshCooldown_rephased _ _).admissionSealed .inl
    fun done => refreshCooldown_cold now (settled.cold done)

/-- **A timely step keeps what the stops have settled.** -/
theorem Settled.step (settled : Settled before) (indexed : Indexed before) (cold : Cold before)
    (move : Move policy before label after) (timely : Timely before label) : Settled after := by
  have succeeds := succeeded_of_step indexed move
  -- the worker is at a place that it does not reach once a stop has succeeded
  have never : ∀ {place : Place Time}, before.worker = place → place.resting = false →
      ¬before.stopSucceeded := fun at_ works done => cold.busy at_ works (settled.cold done)
  have refreshed := refreshCooldown_rephased before.clock before.adapter
  cases move
  case stopRejected | stopSubmitted =>
    exact ⟨fun _ => rfl, fun _ => rfl, fun _ => timely, fun done => (succeeds done).elim settled.cold id⟩
  case taken entry _ _ _ _ _ =>
    refine settled.moved succeeds rfl rfl rfl (fun starts => ?_) settled.cold
    rcases entry with ⟨_, _ | _⟩ | _ | _ <;> cases starts
  case notAdmitted | admitted | refused | operated | warmRefused | warmRaised | stopNothing
    | foreignDone => exact settled.moved succeeds rfl rfl rfl nofun settled.cold
  case cooling | restartCooling =>
    exact settled.moved succeeds rfl refreshed.stopFuture refreshed.admissionSealed nofun
      fun done => refreshCooldown_cold _ (settled.cold done)
  case running work at_ _ found =>
    have cold_ := fun done => refreshCooldown_cold before.clock (settled.cold done)
    cases work <;> exact settled.moved succeeds rfl refreshed.stopFuture refreshed.admissionSealed
      nofun cold_
  case initialized work at_ =>
    have never := never at_ rfl
    cases work <;>
      exact settled.moved succeeds rfl rfl rfl nofun fun done => absurd done never
  case prepared unsealed _ =>
    refine settled.moved succeeds rfl refreshed.stopFuture refreshed.admissionSealed
      (fun _ => .inr unsealed) fun done => ?_
    exact nomatch unsealed.symm.trans (settled.succeeded_sealed done)
  case replaceRaised at_ | launched at_ | bootRaised at_ | booted at_ | initializeRaised at_
    | discardRaised at_ | discarded at_ | transportLost at_ | retireRaised at_ | retired at_
    | terminateRaised at_ | terminated at_ =>
      exact settled.moved succeeds rfl rfl rfl nofun fun done => absurd done (never at_ rfl)
  case abandoned at_ _ | abandonedNothing at_ _ | warmBegun at_ _ =>
    exact settled.moved succeeds rfl rfl rfl nofun fun done => absurd done (never at_ rfl)
  case warmReported at_ _ _ =>
    exact settled.moved succeeds rfl rfl rfl nofun fun done => absurd done (never at_ rfl)
  case replaced at_ =>
    exact settled.moved succeeds rfl rfl rfl (fun _ => .inl (by rw [at_]; rfl))
      fun done => absurd done (never at_ rfl)
  case touched at_ =>
    exact settled.moved succeeds rfl rfl rfl .inl fun done => absurd done (never at_ rfl)
  case reported now at_ _ | lostLast now at_ _ | lost now at_ _ =>
    obtain ⟨_, _, _, crashed, _, isSealed, future, _⟩ :=
      crash_frame policy before.adapter.runtimeToken now before
    rw [crashed] at succeeds ⊢
    exact settled.moved succeeds rfl future isSealed nofun fun done => absurd done (never at_ rfl)
  case restarted at_ _ =>
    refine settled.moved succeeds rfl refreshed.stopFuture refreshed.admissionSealed ?_
      fun done => absurd done (never at_ rfl)
    show (Place.toRetire _ (before.adapter.refreshCooldown before.clock).runtime).starts = true → _
    cases (before.adapter.refreshCooldown before.clock).runtime <;> exact nofun
  case stopBegun something =>
    refine settled.moved succeeds rfl rfl rfl ?_ fun done => ?_
    · show (Place.toStop before.adapter.runtime).starts = true → _
      cases before.adapter.runtime <;> exact nofun
    · have phase := settled.cold done
      exact absurd ⟨(cold.empty phase).1, phase⟩ something
  case ended => exact settled.moved succeeds rfl rfl rfl nofun fun _ => rfl
  case recorded token since now _ =>
    obtain ⟨_, _, _, crashed, _, isSealed, future, _, phase⟩ := crash_frame policy token now
      { before with callbacks := before.callbacks.erase (token, since) }
    rw [crashed] at succeeds ⊢
    refine settled.moved succeeds rfl future isSealed .inl fun done => ?_
    obtain ⟨_, same⟩ | ⟨fresh, _⟩ := phase
    · exact same.trans (settled.cold done)
    · exact absurd done (timely fresh)
  case documentReady => exact settled.shift (markDocumentReady_shifts _) nofun
  case snapshot => exact (settled.refresh before.clock).shift (snapshot_shifts _ _ _) nofun
  case waitGlobal => exact settled.shift (waitForGlobal_shifts _ _) timely
  -- the steps of the other threads that leave the adapter alone
  all_goals exact settled.moved succeeds rfl rfl rfl .inl settled.cold

/-! ### Runs -/

/-- What callers rely on after `stop()`. -/
def System.staysStopped (system : System Time) : Prop :=
  (system.adapter.admissionSealed = true → system.worker.starts = false) ∧
  (system.stopSucceeded → system.adapter.runtime = none ∧ system.adapter.openDocuments = [] ∧
    system.adapter.phase = .cold)

theorem Settled.staysStopped (settled : Settled system) (cold : Cold system) : system.staysStopped := by
  refine ⟨settled.starts, fun done => ?_⟩
  have phase := settled.cold done
  exact ⟨(cold.empty phase).1, (cold.empty phase).2.1, phase⟩

/-- A step that is not timely breaks what callers rely on. -/
theorem timely_of_staysStopped (settled : Settled before) (move : Move policy before label after)
    (stays : after.staysStopped) : Timely before label := by
  cases move with
  | standing found =>
    refine settled.starts (settled.asked fun absent => ?_)
    rw [System.standingStop, absent] at found
    cases found
  | stopRejected => exact stays.1 rfl
  | stopSubmitted => exact stays.1 rfl
  | @recorded token since now =>
    intro fresh done
    obtain ⟨_, _, _, crashed, _, _, _, _, ⟨counted, _⟩ | ⟨_, warm⟩⟩ := crash_frame policy token now
      { before with callbacks := before.callbacks.erase (token, since) }
    · exact fresh counted
    · rw [crashed] at stays
      exact warm (stays.2 done).2.2
  | waitGlobal =>
    rintro rfl done
    exact nomatch (stays.2 done).2.2
  | _ => trivial

/-- **What a stop request settles.** In every run whose steps are timely: no item starts a runtime
after a stop request; once a cleanup has succeeded, the adapter stays cold and empty; and a stop request
whose predecessor was rejected, has failed or was cancelled puts a new cleanup on the executor. The
first step that breaks one of the first two is exactly a step that is not timely. -/
theorem stops_settle (policy : CrashPolicy Time) (capacity : Nat) (clock : Time)
    (system : System Time)
    (reached : Reaches (step policy capacity) Timely (.init clock) system) :
    (system.adapter.admissionSealed = true → step policy capacity system .launch = none) ∧
    (system.stopSucceeded → system.adapter.runtime = none ∧ system.adapter.openDocuments = [] ∧
      system.adapter.phase = .cold) ∧
    ((∀ future, system.adapter.stopFuture = some future →
        system.futures[future]? = some (.raised ()) ∨ system.futures[future]? = some .cancelled) →
      (system.requestStop true).1 = .submitted system.futures.length ∧
      (.stop, system.futures.length) ∈ (system.requestStop true).2.queue ∧
      (system.requestStop false).2.adapter.stopFuture = none) ∧
    ∀ label after, step policy capacity system label = some after →
      (after.staysStopped ↔ Timely system label) := by
  let Invariant : System Time → Prop := fun state => Indexed state ∧ Cold state ∧ Settled state
  have initial : Invariant (System.init clock) :=
    ⟨⟨nofun, nofun, nofun⟩, ⟨fun _ => ⟨rfl, rfl, rfl⟩, nofun, trivial⟩,
      ⟨fun some_ => absurd rfl some_, fun some_ => absurd rfl some_, nofun, fun _ => rfl⟩⟩
  have invariant : Invariant system := by
    refine reached.invariant initial ?_
    rintro current label next ⟨indexed, cold, settled⟩ timely taken
    have move := move_of_step taken
    exact ⟨indexed.step move, cold.step move, settled.step indexed cold move timely⟩
  obtain ⟨indexed, cold, settled⟩ := invariant
  have stays := settled.staysStopped cold
  refine ⟨fun closed => ?_, stays.2, fun passed => ?_, fun label after taken => ?_⟩
  · have quiet := stays.1 closed
    cases taken : step policy capacity system .launch with
    | none => rfl
    | some after =>
      cases move_of_step taken with
      | launched at_ =>
        rw [at_] at quiet
        cases quiet
  · have absent : system.standingStop = none := by
      unfold System.standingStop
      cases asked : system.adapter.stopFuture with
      | none => rfl
      | some future =>
        obtain failed | cancelled := passed future asked
        · simp only [failed]
        · simp only [cancelled]
    unfold System.requestStop
    rw [absent]
    exact ⟨rfl, List.mem_append_right _ (List.mem_singleton_self _), rfl⟩
  · have move := move_of_step taken
    refine ⟨timely_of_staysStopped settled move, fun timely => ?_⟩
    exact (settled.step indexed cold move timely).staysStopped (cold.step move)

/-- The steps that start a runtime and then stop it. -/
def stopSteps : List (Label Int) :=
  [.submit .start false, .next, .passSeal, .ensure false, .launch, .booted false, .initialized false,
    .terminal 1, .requestStop true, .next, .beginStop, .terminated false, .endStop]

/-- An adapter whose runtime was started and stopped. -/
theorem stops_settle_once :
    ∃ (policy : CrashPolicy Int) (system : System Int),
      Reaches (step policy 32) Timely (.init 0) system ∧ system.stops = [1] ∧
      system.adapter.admissionSealed = true ∧ step policy 32 system .launch = none ∧
      system.stopSucceeded ∧
      (system.adapter.runtime = none ∧ system.adapter.openDocuments = [] ∧
        system.adapter.phase = .cold) ∧
      ((∀ future, system.adapter.stopFuture = some future →
          system.futures[future]? = some (.raised ()) ∨ system.futures[future]? = some .cancelled) →
        (system.requestStop true).1 = .submitted system.futures.length ∧
        (.stop, system.futures.length) ∈ (system.requestStop true).2.queue ∧
        (system.requestStop false).2.adapter.stopFuture = none) ∧
      ∀ label after, step policy 32 system label = some after →
        (after.staysStopped ↔ Timely system label) := by
  let policy : CrashPolicy Int := ⟨3, 60, 30, by decide⟩
  obtain ⟨system, reached, stopped, closed, returned⟩ := Reaches.of_run (step policy 32) Timely
    (.init 0) stopSteps
    (fun system => system.stops = [1] ∧ system.adapter.admissionSealed = true ∧
      system.futures[1]? = some (.returned ())) (by decide +kernel)
  have succeeded : system.stopSucceeded := ⟨1, by simp [stopped], returned⟩
  obtain ⟨unlaunched, empty, later⟩ := stops_settle policy 32 0 system reached
  exact ⟨policy, system, reached, stopped, closed, unlaunched closed, succeeded, empty succeeded,
    later⟩

/-- **A start after a stop request, and a stopped adapter that is not cold.** A stop requested between
the check of the seal and `provider.start` does not keep the worker from calling it; and a terminal
callback that saw a running adapter records its crash after the stop has succeeded. -/
theorem start_after_stop :
    ∃ (policy : CrashPolicy Int) (started crashed : System Int),
      Reaches (step policy 32) (fun _ _ => True) (.init 0) started ∧
      started.adapter.admissionSealed = true ∧
      (∃ after, step policy 32 started .launch = some after) ∧
      Reaches (step policy 32) (fun _ _ => True) (.init 0) crashed ∧
      crashed.stopSucceeded ∧ crashed.adapter.phase = .degraded := by
  let policy : CrashPolicy Int := ⟨3, 60, 30, by decide⟩
  obtain ⟨started, early, closed, enabled⟩ := Reaches.of_run (step policy 32) (fun _ _ => True)
    (.init 0) [.submit .start false, .next, .passSeal, .ensure false, .requestStop true]
    (fun system => system.adapter.admissionSealed = true ∧
      (step policy 32 system .launch).isSome = true) (by decide +kernel)
  obtain ⟨crashed, late, stop, returned, degraded⟩ := Reaches.of_run (step policy 32)
    (fun _ _ => True) (.init 0) (stopSteps ++ [.record 1 0 0])
    (fun system => 1 ∈ system.stops ∧ system.futures[1]? = some (.returned ()) ∧
      system.adapter.phase = .degraded) (by decide +kernel)
  exact ⟨policy, started, crashed, early, closed, Option.isSome_iff_exists.mp enabled, late,
    ⟨1, stop, returned⟩, degraded⟩

end SerenaLight.Lsp.Adapter
