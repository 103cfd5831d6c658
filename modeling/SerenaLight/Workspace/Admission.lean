/-
**The admission queue of freshness scans** (`FreshnessCoordinator` of `workspace/runtime.py`).

Root scans and targeted scans take their tickets from one counter and wait on one condition variable.
The steps are what a thread does while it holds the condition's lock, and the end of a scan.

- `Queued`: what every interleaving keeps. The calls before the served ticket have left, and the call
  that has it is scanning or has been notified.
- `scans_in_order`: **one scan at a time, in the order of the tickets**; and where notified threads wake
  up, a ticket is served once all the calls before it have left.
-/

import SerenaLight.Foundation.FairPath

namespace SerenaLight.Workspace.Admission

open Foundation

/-- Where a call is: in `wait`, in its scan, or past `_leave_admission_queue`. -/
inductive Place where
  | asleep (notified : Bool)
  | scanning
  | left (raised : Bool)
  deriving DecidableEq

/-- The queue, the calls with their tickets in the order of their arrival, and the record of the scans
that have begun. -/
structure FreshnessCoordinator where
  nextTicket : Nat := 0
  servingTicket : Nat := 0
  calls : List (Nat × Place) := []
  begun : List Nat := []

inductive Label where
  | call
  | wake (call : Nat)
  | scanned (call : Nat) (raised : Bool)

/-- Only the wake-ups are owed to somebody. -/
def owner : Label → Option Nat
  | .wake call => some call
  | _ => none

def notify : Nat × Place → Nat × Place
  | (ticket, .asleep _) => (ticket, .asleep true)
  | call => call

namespace FreshnessCoordinator

/-- The test of the loop of `_enter_admission_queue`. -/
def turn (self : FreshnessCoordinator) (ticket : Nat) : Place :=
  if self.servingTicket = ticket then .scanning else .asleep false

/-- The record of the scan that begins when the test ends the loop. -/
def begins (self : FreshnessCoordinator) (ticket : Nat) : List Nat :=
  if self.servingTicket = ticket then self.begun ++ [ticket] else self.begun

/-- One step. A scan ends with a result or an exception, and leaves the queue with either. -/
def step (self : FreshnessCoordinator) : Label → Option FreshnessCoordinator
  | .call =>
    let ticket := self.nextTicket
    some { self with
      nextTicket := ticket + 1
      calls := self.calls.map notify ++ [(ticket, self.turn ticket)]
      begun := self.begins ticket }
  | .wake call =>
    match self.calls[call]? with
    | some (ticket, .asleep true) =>
      some { self with
        calls := self.calls.set call (ticket, self.turn ticket)
        begun := self.begins ticket }
    | _ => none
  | .scanned call raised =>
    match self.calls[call]? with
    | some (ticket, .scanning) =>
      some { self with
        servingTicket := ticket + 1
        calls := (self.calls.set call (ticket, .left raised)).map notify }
    | _ => none

/-- What the place of a call says about its ticket. -/
def Fits (serving ticket : Nat) : Place → Prop
  | .left _ => ticket < serving
  | .scanning => ticket = serving
  | .asleep notified => serving ≤ ticket ∧ (ticket = serving → notified = true)

def Placed (serving : Nat) (calls : List (Nat × Place)) : Prop :=
  ∀ index ticket place, calls[index]? = some (ticket, place) →
    ticket = index ∧ Fits serving ticket place

/-- **What every interleaving keeps.** -/
structure Queued (queue : FreshnessCoordinator) : Prop where
  numbered : queue.nextTicket = queue.calls.length
  placed : Placed queue.servingTicket queue.calls
  serving : queue.servingTicket ≤ queue.calls.length
  begun : queue.begun = List.range (queue.servingTicket +
    if queue.calls[queue.servingTicket]? = some (queue.servingTicket, .scanning) then 1 else 0)

variable {self after : FreshnessCoordinator} {label : Label} {serving index : Nat}
  {calls : List (Nat × Place)} {place : Place}

theorem Placed.notified (placed : Placed serving calls) : Placed serving (calls.map notify) := by
  intro index ticket place found
  rw [List.getElem?_map, Option.map_eq_some_iff] at found
  obtain ⟨⟨ticket', place'⟩, found, same⟩ := found
  have was := placed index ticket' place' found
  cases place' <;> cases same
  · exact ⟨was.1, was.2.1, fun _ => rfl⟩
  · exact was
  · exact was

theorem Placed.set (placed : Placed serving calls) (fits : Fits serving index place) :
    Placed serving (calls.set index (index, place)) := by
  intro other ticket now found
  rw [List.getElem?_set] at found
  split at found
  · split at found
    · cases found
      exact ⟨‹_›, fits⟩
    · cases found
  · exact placed other ticket now found

theorem Placed.concat (placed : Placed serving calls) (fits : Fits serving calls.length place) :
    Placed serving (calls ++ [(calls.length, place)]) := by
  intro index ticket now found
  rw [List.getElem?_append] at found
  split at found
  · exact placed index ticket now found
  · rw [List.getElem?_singleton] at found
    split at found
    · cases found
      exact ⟨by omega, fits⟩
    · cases found

/-- The scan of the served ticket ends: the next one is served, and everybody has been notified. -/
theorem Placed.served (placed : Placed serving calls) {raised : Bool} :
    Placed (serving + 1) ((calls.set serving (serving, .left raised)).map notify) := by
  intro index ticket place found
  rw [List.getElem?_map, Option.map_eq_some_iff] at found
  obtain ⟨⟨ticket', place'⟩, found, same⟩ := found
  rw [List.getElem?_set] at found
  split at found
  · split at found
    · cases found
      cases same
      exact ⟨‹_›, Nat.lt_succ_self _⟩
    · cases found
  · obtain ⟨rfl, fits⟩ := placed index ticket' place' found
    cases place' <;> cases same
    · exact ⟨rfl, Nat.lt_of_le_of_ne fits.1 ‹_›, fun _ => rfl⟩
    · exact absurd fits.symm ‹_›
    · exact ⟨rfl, Nat.lt_succ_of_lt fits⟩

theorem fits_turn (reached : self.servingTicket ≤ index) :
    Fits self.servingTicket index (self.turn index) := by
  unfold turn
  split
  · exact Eq.symm ‹_›
  · exact ⟨reached, fun same => absurd same.symm ‹_›⟩

theorem notify_eq_scanning {call : Nat × Place} {ticket : Nat} :
    notify call = (ticket, .scanning) ↔ call = (ticket, .scanning) := by
  rcases call with ⟨_, _ | _ | _⟩ <;> simp [notify]

theorem scanning_notified {index ticket : Nat} :
    (calls.map notify)[index]? = some (ticket, .scanning) ↔
      calls[index]? = some (ticket, .scanning) := by
  rw [List.getElem?_map, Option.map_eq_some_iff]
  simp [notify_eq_scanning]

theorem queued_initial : Queued {} := ⟨rfl, nofun, Nat.le_refl 0, rfl⟩

theorem Queued.step (queued : Queued self) (taken : self.step label = some after) :
    Queued after := by
  obtain ⟨numbered, placed, reached, begun⟩ := queued
  cases label with
  | call =>
    cases taken
    rw [numbered]
    have counted : (self.calls.map notify).length = self.calls.length := List.length_map _
    refine ⟨by simp, ?_, by simp; omega, ?_⟩
    · rw [← counted]
      exact placed.notified.concat (fits_turn (counted ▸ reached))
    · by_cases empty : self.servingTicket = self.calls.length
      · simp [begins, turn, begun, empty, List.range_succ]
      · have waits : self.servingTicket < (self.calls.map notify).length := by omega
        simp only [begins, turn, if_neg empty, begun, List.getElem?_append_left waits,
          scanning_notified]
  | wake call =>
    simp only [FreshnessCoordinator.step] at taken
    split at taken
    · rename_i ticket found
      cases taken
      obtain ⟨rfl, ahead, -⟩ := placed _ _ _ found
      refine ⟨by simp [numbered], placed.set (fits_turn ahead), by simpa using reached, ?_⟩
      by_cases turned : self.servingTicket = ticket
      · obtain ⟨inside, asleep⟩ := List.getElem?_eq_some_iff.mp found
        simp [begins, turn, begun, turned, inside, asleep, List.range_succ]
      · simp [begins, begun, turned, List.getElem?_set_ne (Ne.symm turned)]
    · cases taken
  | scanned call raised =>
    simp only [FreshnessCoordinator.step] at taken
    split at taken
    · rename_i ticket found
      cases taken
      obtain ⟨rfl, rfl⟩ := placed _ _ _ found
      refine ⟨by simp [numbered], placed.served, ?_, ?_⟩
      · simpa [Nat.succ_le_iff] using (List.getElem?_eq_some_iff.mp found).1
      · have rest : ((self.calls.set self.servingTicket (self.servingTicket, .left raised)).map
            notify)[self.servingTicket + 1]? ≠ some (self.servingTicket + 1, .scanning) := by
          rw [ne_eq, scanning_notified, List.getElem?_set_ne (by omega)]
          exact fun scanning => absurd (placed _ _ _ scanning).2 (Nat.succ_ne_self _)
        simp only [begun, found, rest, if_true, if_false, Nat.add_zero]
    · cases taken

theorem Queued.served (queued : Queued self) {ticket : Nat} (before : ticket < self.servingTicket) :
    ticket ∈ self.begun := by
  rw [queued.begun, List.mem_range]
  exact Nat.lt_add_right _ before

theorem Queued.scans (queued : Queued self)
    (scanning : self.calls[self.servingTicket]? = some (self.servingTicket, .scanning)) :
    self.servingTicket ∈ self.begun := by
  rw [queued.begun, if_pos scanning]
  exact List.mem_range.mpr (Nat.lt_succ_self _)

theorem Queued.issued (queued : Queued self) {ticket : Nat} (begun : ticket ∈ self.begun) :
    ticket < self.nextTicket := by
  rw [queued.begun, List.mem_range] at begun
  rw [queued.numbered]
  split at begun
  · exact Nat.lt_of_lt_of_le begun (List.getElem?_eq_some_iff.mp ‹_›).1
  · exact Nat.lt_of_lt_of_le begun queued.serving

/-- The served call is in `wait`, and has been notified. -/
def Roused (self : FreshnessCoordinator) (ticket : Nat) : Prop :=
  Queued self ∧ self.servingTicket = ticket ∧ self.calls[ticket]? = some (ticket, .asleep true)

/-- It stays so until it wakes up. -/
theorem Roused.kept {ticket : Nat} (roused : Roused self ticket)
    (taken : self.step label = some after) (other : owner label ≠ some ticket) :
    Roused after ticket := by
  obtain ⟨queued, rfl, waits⟩ := roused
  refine ⟨queued.step taken, ?_⟩
  cases label with
  | call =>
    cases taken
    obtain ⟨inside, asleep⟩ := List.getElem?_eq_some_iff.mp waits
    simp [List.getElem?_append_left, inside, asleep, notify]
  | wake call =>
    simp only [FreshnessCoordinator.step] at taken
    split at taken
    · cases taken
      exact ⟨rfl, (List.getElem?_set_ne fun same => other (congrArg some same)).trans waits⟩
    · cases taken
  | scanned call raised =>
    simp only [FreshnessCoordinator.step] at taken
    split at taken
    · rename_i found
      obtain ⟨rfl, rfl⟩ := queued.placed _ _ _ found
      cases found.symm.trans waits
    · cases taken

theorem Roused.moved {ticket : Nat} {label : Option Label} (roused : Roused self ticket)
    (moves : Moved FreshnessCoordinator.step self label after) (other : ¬Acts owner ticket label) :
    Roused after ticket := by
  cases label with
  | none => exact moves ▸ roused
  | some label => exact roused.kept moves fun owned => other ⟨label, rfl, owned⟩

theorem Roused.wakes {ticket : Nat} (roused : Roused self ticket)
    (taken : self.step label = some after) (owned : owner label = some ticket) :
    ticket ∈ after.begun := by
  obtain ⟨queued, rfl, waits⟩ := roused
  cases label with
  | wake call =>
    cases owned
    rw [FreshnessCoordinator.step, waits] at taken
    cases taken
    simp [begins]
  | call => cases owned
  | scanned call raised => cases owned

/-- A call whose predecessors have all left has been served, or is to be woken up. -/
theorem Queued.awaits (queued : Queued self) {ticket : Nat} (issued : ticket < self.nextTicket)
    (first : ∀ earlier, earlier < ticket → ∃ raised,
      self.calls[earlier]? = some (earlier, .left raised)) :
    ticket ∈ self.begun ∨ Roused self ticket := by
  rw [queued.numbered] at issued
  rcases Nat.lt_trichotomy ticket self.servingTicket with passed | rfl | ahead
  · exact .inl (queued.served passed)
  · obtain ⟨⟨own, place⟩, found⟩ : ∃ call, self.calls[self.servingTicket]? = some call :=
      ⟨_, List.getElem?_eq_getElem issued⟩
    obtain ⟨rfl, fits⟩ := queued.placed _ _ _ found
    cases place with
    | asleep notified => exact .inr ⟨queued, rfl, fits.2 rfl ▸ found⟩
    | scanning => exact .inl (queued.scans found)
    | left raised => exact absurd fits (Nat.lt_irrefl _)
  · obtain ⟨raised, found⟩ := first _ ahead
    exact absurd (queued.placed _ _ _ found).2 (Nat.lt_irrefl _)

/-- **One scan at a time, in the order of the tickets, each after its ticket was issued; and every
ticket is served once all the calls before it have left.** -/
theorem scans_in_order :
    (∀ self, Reaches step (fun _ _ => True) {} self →
      (∀ first second ticket other : Nat, self.calls[first]? = some (ticket, .scanning) →
        self.calls[second]? = some (other, .scanning) → first = second) ∧
      self.begun = List.range self.begun.length ∧
      ∀ ticket, ticket ∈ self.begun → ticket < self.nextTicket) ∧
    ∀ path : FairPath step owner, path.states 0 = {} →
      ∀ time ticket, ticket < (path.states time).nextTicket →
        (∀ earlier, earlier < ticket → ∃ raised,
          (path.states time).calls[earlier]? = some (earlier, .left raised)) →
        ∃ later, time ≤ later ∧ ticket ∈ (path.states later).begun := by
  constructor
  · intro self reached
    have queued : Queued self := reached.invariant queued_initial fun _ _ _ holds _ => holds.step
    refine ⟨fun first second ticket other one two => ?_, ?_, fun _ => queued.issued⟩
    · obtain ⟨rfl, rfl⟩ := queued.placed _ _ _ one
      obtain ⟨rfl, rfl⟩ := queued.placed _ _ _ two
      rfl
    · rw [queued.begun, List.length_range]
  · intro path initial time ticket issued first
    have queued : ∀ time, Queued (path.states time) :=
      path.invariant (initial ▸ queued_initial) fun _ _ _ holds => holds.step
    obtain begun | roused := (queued time).awaits issued first
    · exact ⟨time, Nat.le_refl time, begun⟩
    -- the served call is able to wake up until it does
    obtain ⟨later, since, ⟨label, labelled, owned⟩, roused⟩ := path.acts (Roused · ticket)
      (fun _ _ roused => ⟨.wake ticket, rfl, by simp [FreshnessCoordinator.step, roused.2.2]⟩)
      (fun time _ roused other => roused.moved (path.moves time) other) roused
    refine ⟨later + 1, Nat.le_succ_of_le since, ?_⟩
    have moves := path.moves later
    rw [labelled] at moves
    exact roused.wakes moves owned

end FreshnessCoordinator

end SerenaLight.Workspace.Admission
