/-
**Runs of the lease lifecycle.**

A `Journal` is a lifecycle together with the calls that led to it, newest first, and for each call
the decisions it returned or raised. A call that raises `ValueError` ends the run.

* `perform_accounts`: what one call owes, `Accounts`.
* `Journal.Consistent`: what the whole journal says, kept by every call (`record_consistent`).
* `leases_accounted`: the account of every run. A lease that leaves is named by one decision of that call,
  and before that only where it gave up a workspace and stayed (`lease_named_twice`).
* `LeaseLifecycle.clash_unchanged_iff`: what a call that raises `ValueError` leaves, from any state.
-/

import Mathlib
import SerenaLight.Foundation.Run
import SerenaLight.Daemon.LeaseMethods

set_option linter.unusedSectionVars false

namespace SerenaLight.Daemon

open Foundation Workspace
open EStateM (run_bind run_get run_modify run_pure run_set)

/-- A call on the lifecycle. -/
inductive LeaseCall (Identity Runtime : Type) where
  | issue (binding : Option (WorkspaceBinding Identity Runtime))
  | rebind (leaseId : Uuid) (binding : WorkspaceBinding Identity Runtime)
  | heartbeat (leaseId : Uuid)
  | release (leaseId : Uuid) (immediate : Bool)
  | releaseWorkspace (leaseId : Uuid) (immediate : Bool)
  | sweep

variable {Identity Runtime Time : Type}
variable [DecidableEq Identity] [DecidableEq Runtime] [LinearOrder Time] [Add Time] [Zero Time]
variable (settings : LeaseSettings Time)

/-- The call's method, with the decisions it returns. -/
def LeaseCall.perform (settings : LeaseSettings Time) (now : Time) :
    LeaseCall Identity Runtime →
      LeaseLifecycle.Method Identity Runtime Time
        (List (LeaseLifecycleDecision Identity Runtime Time))
  | .issue binding => do
    let _ ← LeaseLifecycle.issue settings binding now
    return []
  | .rebind leaseId binding => do
    let _ ← LeaseLifecycle.rebind settings leaseId binding now
    return []
  | .heartbeat leaseId => do
    let _ ← LeaseLifecycle.heartbeat settings leaseId now
    return []
  | .release leaseId immediate => do
    let result ← LeaseLifecycle.release settings leaseId immediate now
    return result.decision.toList
  | .releaseWorkspace leaseId immediate => do
    let result ← LeaseLifecycle.releaseWorkspace settings leaseId immediate now
    return result.decision.toList
  | .sweep => LeaseLifecycle.sweep settings now

/-- The decisions a call returned or raised, and the state it left; none after `ValueError`. -/
def answered {State : Type} :
    EStateM.Result (LeaseRaise Identity Runtime Time) State
        (List (LeaseLifecycleDecision Identity Runtime Time)) →
      Option (List (LeaseLifecycleDecision Identity Runtime Time) × State)
  | .ok decisions state => some (decisions, state)
  | .error (.leaseExpired _ decision) state => some (decision.toList, state)
  | .error .keyError state => some ([], state)
  | .error (.valueError _) _ => none

/-- One call of a run. -/
structure Entry (Identity Runtime Time : Type) where
  now : Time
  call : LeaseCall Identity Runtime
  before : LeaseLifecycle Identity Runtime Time
  decisions : List (LeaseLifecycleDecision Identity Runtime Time)
  after : LeaseLifecycle Identity Runtime Time

/-- A lifecycle and the calls that led to it, newest first. -/
structure Journal (Identity Runtime Time : Type) where
  lifecycle : LeaseLifecycle Identity Runtime Time
  log : List (Entry Identity Runtime Time)

namespace Journal

/-- A new lifecycle. -/
def start : Journal Identity Runtime Time := { lifecycle := .init, log := [] }

/-- One more call, with a clock reading that is not before the last one. -/
def record (settings : LeaseSettings Time) (journal : Journal Identity Runtime Time)
    (label : Time × LeaseCall Identity Runtime) : Option (Journal Identity Runtime Time) :=
  if journal.log.head?.all fun entry => decide (entry.now ≤ label.1) then
    (answered ((label.2.perform settings label.1).run journal.lifecycle)).map
      fun (decisions, after) =>
        { lifecycle := after
          log := ⟨label.1, label.2, journal.lifecycle, decisions, after⟩ :: journal.log }
  else none

end Journal

/-! ### One call -/

/-- What a call owes for the leases and workspaces that went away in it. -/
structure Accounts (before : LeaseLifecycle Identity Runtime Time)
    (decisions : List (LeaseLifecycleDecision Identity Runtime Time))
    (after : LeaseLifecycle Identity Runtime Time) : Prop where
  soundBefore : before.Sound
  sound : after.Sound
  uuid : before.nextUuid ≤ after.nextUuid
  gone : ∀ {id}, id < before.nextUuid → before.active.get id = none → after.active.get id = none
  leaving : ∀ {id lease}, before.active.get id = some lease → after.active.get id = none →
    ∃ decision, decisions.filter (fun decision => decision.leaseId = some id) = [decision] ∧
      decision.bindingToRelease = lease.binding
  named : ∀ {decision id}, decision ∈ decisions → decision.leaseId = some id →
    (∃ lease, before.active.get id = some lease) ∧
      ∀ rest, after.active.get id = some rest → rest.binding = none
  removed : ∀ {identity state}, before.workspaces.get identity = some state →
    after.workspaces.get identity = none →
    ∃ decision, decisions.filter (fun decision =>
        decision.identity = some identity ∧ decision.runtimeToStop ≠ none) = [decision] ∧
      decision.runtimeToStop = some state.runtime
  stops : ∀ {decision runtime}, decision ∈ decisions → decision.runtimeToStop = some runtime →
    ∃ identity state, decision.identity = some identity ∧
      before.workspaces.get identity = some state ∧ state.runtime = runtime ∧
      after.workspaces.get identity = none

variable {before after : LeaseLifecycle Identity Runtime Time}

variable {decisions : List (LeaseLifecycleDecision Identity Runtime Time)}

theorem Accounts.of_evolves (sound : before.Sound) (evolves : before.Evolves decisions after) :
    Accounts before decisions after where
  soundBefore := sound
  sound := evolves.sound
  uuid := evolves.uuid.ge
  gone := by
    intro id _ inactive
    cases found : after.active.get id with
    | none => rfl
    | some lease =>
      obtain ⟨origin, originFound, _⟩ := evolves.survivor found
      rw [inactive] at originFound
      cases originFound
  leaving := evolves.leaving
  named := by
    intro decision id member names
    obtain ⟨lease, found, _, unbound⟩ := evolves.named member names
    exact ⟨⟨lease, found⟩, unbound⟩
  removed := by
    intro identity state entry absent
    obtain ⟨decision, member, about, handed⟩ := evolves.removed entry absent
    have inside : decision ∈ decisions.filter (fun decision =>
        decision.identity = some identity ∧ decision.runtimeToStop ≠ none) := by
      simp [member, about, handed]
    have ordered := evolves.order.sublist (List.filter_sublist (p := fun decision =>
      decide (decision.identity = some identity ∧ decision.runtimeToStop ≠ none)))
    have all : ∀ other ∈ decisions.filter (fun decision =>
        decision.identity = some identity ∧ decision.runtimeToStop ≠ none),
        other.identity = some identity ∧ other.runtimeToStop ≠ none := by
      intro other otherMember
      simpa using (List.mem_filter.mp otherMember).2
    -- two hand-outs of one identity would be out of order
    match shape : decisions.filter (fun decision =>
        decision.identity = some identity ∧ decision.runtimeToStop ≠ none) with
    | [] => rw [shape] at inside; cases inside
    | [only] =>
      rw [shape] at inside
      obtain rfl := List.mem_singleton.mp inside
      exact ⟨decision, shape, handed⟩
    | first :: second :: rest =>
      rw [shape] at ordered all
      have apart := (List.pairwise_cons.mp ordered).1 second (by simp)
      have firstAll := all first (by simp)
      have secondAll := all second (by simp)
      exact absurd (secondAll.1.trans firstAll.1.symm) (apart firstAll.2)
  stops := evolves.stops

variable {id : Uuid}

theorem Accounts.of_binds {binding : Option (WorkspaceBinding Identity Runtime)}
    (sound : before.Sound) (binds : before.Binds id binding after)
    (uuid : before.nextUuid ≤ after.nextUuid)
    (usable : id = before.nextUuid ∨ ∃ lease, before.active.get id = some lease) :
    Accounts before [] after where
  soundBefore := sound
  sound := binds.sound
  uuid := uuid
  gone := by
    intro other old inactive
    have different : other ≠ id := by
      rintro rfl
      rcases usable with rfl | ⟨lease, found⟩
      · exact lt_irrefl _ old
      · rw [inactive] at found
        cases found
    rw [binds.others other different]
    exact inactive
  leaving := by
    intro other lease found absent
    by_cases same : other = id
    · subst same
      obtain ⟨held, heldFound, _⟩ := binds.here
      rw [absent] at heldFound
      cases heldFound
    · rw [binds.others other same, found] at absent
      cases absent
  named := by simp
  removed := by
    intro identity state entry absent
    obtain ⟨next, nextEntry, _⟩ := binds.kept entry
    rw [absent] at nextEntry
    cases nextEntry
  stops := by simp

/-- **One call accounts for itself.** -/
theorem perform_accounts (now : Time) (call : LeaseCall Identity Runtime) (sound : before.Sound)
    (outcome : answered ((call.perform settings now).run before) = some (decisions, after)) :
    Accounts before decisions after := by
  cases call with
  | issue binding =>
    rcases LeaseLifecycle.issue_cases settings sound binding now with
      ⟨bound, binds, grown, run⟩ | ⟨_, message, broken, _, _, run⟩
    · simp only [LeaseCall.perform, run_bind, run, run_pure, answered] at outcome
      cases outcome
      exact .of_binds sound binds (grown ▸ Nat.le_succ _) (.inl rfl)
    · simp only [LeaseCall.perform, run_bind, run, answered] at outcome
      cases outcome
  | rebind leaseId binding =>
    rcases LeaseLifecycle.rebind_cases settings sound leaseId binding now with
      ⟨lease, bound, found, _, binds, uuid, run⟩ | ⟨_, message, broken, _, _, _, run⟩ |
      ⟨decision, ended, lapses, _, run⟩
    · simp only [LeaseCall.perform, run_bind, run, run_pure, answered] at outcome
      cases outcome
      exact .of_binds sound binds uuid.ge (.inr ⟨lease, found⟩)
    · simp only [LeaseCall.perform, run_bind, run, answered] at outcome
      cases outcome
    · simp only [LeaseCall.perform, run_bind, run, answered] at outcome
      cases outcome
      exact .of_evolves sound (lapses.evolves sound)
  | heartbeat leaseId =>
    rcases LeaseLifecycle.heartbeat_cases settings sound leaseId now with
      ⟨lease, renewed, _, evolves, run⟩ | ⟨decision, ended, lapses, _, run⟩
    · simp only [LeaseCall.perform, run_bind, run, run_pure, answered] at outcome
      cases outcome
      exact .of_evolves sound evolves
    · simp only [LeaseCall.perform, run_bind, run, answered] at outcome
      cases outcome
      exact .of_evolves sound (lapses.evolves sound)
  | release leaseId immediate =>
    rcases LeaseLifecycle.release_run settings sound leaseId immediate now with
      ⟨_, run⟩ | ⟨lease, decision, ended, released, _, facts, _, run⟩
    · simp only [LeaseCall.perform, run_bind, run, run_pure, answered] at outcome
      cases outcome
      exact .of_evolves sound (.refl sound)
    · simp only [LeaseCall.perform, run_bind, run, run_pure, answered] at outcome
      cases outcome
      exact .of_evolves sound facts.evolves
  | releaseWorkspace leaseId immediate =>
    rcases LeaseLifecycle.releaseWorkspace_cases settings sound leaseId immediate now with
      ⟨_, _, _, run⟩ | ⟨lease, binding, decision, unbound, _, _, facts, _, run⟩ |
      ⟨decision, ended, lapses, _, run⟩
    · simp only [LeaseCall.perform, run_bind, run, run_pure, answered] at outcome
      cases outcome
      exact .of_evolves sound (.refl sound)
    · simp only [LeaseCall.perform, run_bind, run, run_pure, answered] at outcome
      cases outcome
      exact .of_evolves sound facts.evolves
    · simp only [LeaseCall.perform, run_bind, run, answered] at outcome
      cases outcome
      exact .of_evolves sound (lapses.evolves sound)
  | sweep =>
    obtain ⟨decided, swept, run, evolves, _⟩ := LeaseLifecycle.sweep_run settings sound now
    simp only [LeaseCall.perform, run, answered] at outcome
    cases outcome
    exact .of_evolves sound evolves

/-! ### A whole run -/

namespace Journal

/-- Every entry accounts for itself, and a lease that is gone after an entry is gone in every later
one. -/
structure Consistent (journal : Journal Identity Runtime Time) : Prop where
  sound : journal.lifecycle.Sound
  accounts : ∀ entry ∈ journal.log, Accounts entry.before entry.decisions entry.after
  later : ∀ entry ∈ journal.log, entry.after.nextUuid ≤ journal.lifecycle.nextUuid ∧
    ∀ id, id < entry.after.nextUuid → entry.after.active.get id = none →
      journal.lifecycle.active.get id = none
  ordered : journal.log.Pairwise fun newer older =>
    ∀ id, id < older.after.nextUuid → older.after.active.get id = none →
      newer.before.active.get id = none

theorem start_consistent : (start : Journal Identity Runtime Time).Consistent where
  sound := .init
  accounts := by simp [start]
  later := by simp [start]
  ordered := List.Pairwise.nil

/-- **One more call keeps the journal consistent.** -/
theorem record_consistent {journal next : Journal Identity Runtime Time}
    {label : Time × LeaseCall Identity Runtime} (consistent : journal.Consistent)
    (taken : journal.record settings label = some next) : next.Consistent := by
  unfold record at taken
  split at taken
  · obtain ⟨⟨decisions, after⟩, outcome, rfl⟩ := Option.map_eq_some_iff.mp taken
    have accounts := perform_accounts settings label.1 label.2 consistent.sound outcome
    refine ⟨accounts.sound, ?_, ?_, ?_⟩
    · intro entry member
      rcases List.mem_cons.mp member with rfl | old
      · exact accounts
      · exact consistent.accounts entry old
    · intro entry member
      rcases List.mem_cons.mp member with rfl | old
      · exact ⟨le_refl _, fun _ _ inactive => inactive⟩
      · obtain ⟨uuid, gone⟩ := consistent.later entry old
        refine ⟨uuid.trans accounts.uuid, fun id known inactive => ?_⟩
        exact accounts.gone (Nat.lt_of_lt_of_le known uuid) (gone id known inactive)
    · exact List.pairwise_cons.mpr ⟨fun entry member => (consistent.later entry member).2,
        consistent.ordered⟩
  · cases taken

variable {journal : Journal Identity Runtime Time}

theorem reached_consistent
    (reached : Reaches (record settings) (fun _ _ => True) start journal) : journal.Consistent :=
  reached.invariant start_consistent fun _ _ _ consistent _ taken =>
    record_consistent settings consistent taken

variable {newer older : List (Entry Identity Runtime Time)}

/-- A lease that was active before a later entry did not leave in an earlier one. -/
theorem Consistent.still_active (consistent : journal.Consistent)
    {entry earlier : Entry Identity Runtime Time} (split : journal.log = newer ++ entry :: older)
    (member : earlier ∈ older) {known lease : DaemonLease Identity Runtime Time}
    (found : earlier.before.active.get id = some known)
    (active : entry.before.active.get id = some lease) :
    ∃ rest, earlier.after.active.get id = some rest := by
  cases inactive : earlier.after.active.get id with
  | some rest => exact ⟨rest, rfl⟩
  | none =>
    have accounts := consistent.accounts earlier (by rw [split]; simp [member])
    have ordered := consistent.ordered
    rw [split] at ordered
    have apart := (List.pairwise_cons.mp (List.pairwise_append.mp ordered).2.1).1 earlier member
    have known := Nat.lt_of_lt_of_le (accounts.soundBefore.fresh found) accounts.uuid
    rw [apart id known inactive] at active
    cases active

/-- A lease that left in an entry is not active before a later one. -/
theorem Consistent.stays_away (consistent : journal.Consistent)
    {entry later : Entry Identity Runtime Time} (split : journal.log = newer ++ entry :: older)
    (member : later ∈ newer) {lease : DaemonLease Identity Runtime Time}
    (active : entry.before.active.get id = some lease) (left : entry.after.active.get id = none) :
    later.before.active.get id = none := by
  have accounts := consistent.accounts entry (by rw [split]; simp)
  have ordered := consistent.ordered
  rw [split] at ordered
  have apart := (List.pairwise_append.mp ordered).2.2 later member entry (by simp)
  exact apart id (Nat.lt_of_lt_of_le (accounts.soundBefore.fresh active) accounts.uuid) left

end Journal

/-- **The account of every run of the lease lifecycle.** In every state reached by calls that did
not raise `ValueError`, on a clock that does not go back:

* the holders of a workspace entry are the active leases bound to its identity, and a bound lease
  has an entry;
* its grace deadline is set exactly when it has no holder;
* a lease that left did so in one call, one decision of that call names it, with the binding it
  held, and any other decision of the run that names it was answered by an earlier call that took
  its binding and kept the lease (`release_workspace`);
* a lease that left is not active again;
* the decisions of a call that hand out a runtime are, one for each, the workspace entries that
  the call removed, and no active lease is bound to such an identity after the call. -/
theorem leases_accounted (journal : Journal Identity Runtime Time)
    (reached : Reaches (Journal.record settings) (fun _ _ => True) Journal.start journal) :
    (∀ identity state, journal.lifecycle.workspaces.get identity = some state →
      (∀ id, id ∈ state.holders ↔ ∃ lease, journal.lifecycle.active.get id = some lease ∧
        lease.identity = some identity) ∧
      (state.graceDeadline.isSome ↔ state.holders = ∅)) ∧
    (∀ id lease identity, journal.lifecycle.active.get id = some lease →
      lease.identity = some identity →
      ∃ state, journal.lifecycle.workspaces.get identity = some state) ∧
    (∀ newer entry older id lease, journal.log = newer ++ entry :: older →
      entry.before.active.get id = some lease → entry.after.active.get id = none →
      (∃ decision, entry.decisions.filter (fun decision => decision.leaseId = some id) =
          [decision] ∧ decision.bindingToRelease = lease.binding) ∧
      (∀ later ∈ newer, ∀ decision ∈ later.decisions, decision.leaseId ≠ some id) ∧
      (∀ earlier ∈ older, ∀ decision ∈ earlier.decisions, decision.leaseId = some id →
        ∃ rest, earlier.after.active.get id = some rest ∧ rest.binding = none) ∧
      journal.lifecycle.active.get id = none) ∧
    (∀ entry ∈ journal.log,
      (∀ identity state, entry.before.workspaces.get identity = some state →
        entry.after.workspaces.get identity = none →
        ∃ decision, entry.decisions.filter (fun decision =>
            decision.identity = some identity ∧ decision.runtimeToStop ≠ none) = [decision] ∧
          decision.runtimeToStop = some state.runtime) ∧
      (∀ decision ∈ entry.decisions, ∀ runtime, decision.runtimeToStop = some runtime →
        ∃ identity state, decision.identity = some identity ∧
          entry.before.workspaces.get identity = some state ∧ state.runtime = runtime ∧
          entry.after.workspaces.get identity = none ∧
          ∀ id lease, entry.after.active.get id = some lease →
            lease.identity ≠ some identity)) := by
  have consistent := Journal.reached_consistent settings reached
  have hostedBy : ∀ {lifecycle : LeaseLifecycle Identity Runtime Time}, lifecycle.Sound →
      ∀ id lease identity, lifecycle.active.get id = some lease → lease.identity = some identity →
      ∃ state, lifecycle.workspaces.get identity = some state := by
    intro lifecycle sound id lease identity found names
    obtain ⟨binding, bound, rfl⟩ := Option.map_eq_some_iff.mp names
    obtain ⟨state, entry, _⟩ := sound.hosted found bound
    exact ⟨state, entry⟩
  refine ⟨?_, hostedBy consistent.sound, ?_, ?_⟩
  · intro identity state entry
    exact ⟨consistent.sound.holders entry, consistent.sound.grace entry⟩
  · intro newer entry older id lease split active left
    have accounts := consistent.accounts entry (by rw [split]; simp)
    refine ⟨accounts.leaving active left, ?_, ?_, ?_⟩
    · intro later member decision decisionMember names
      have laterAccounts := consistent.accounts later (by rw [split]; simp [member])
      obtain ⟨⟨held, heldFound⟩, _⟩ := laterAccounts.named decisionMember names
      rw [consistent.stays_away split member active left] at heldFound
      cases heldFound
    · intro earlier member decision decisionMember names
      have earlierAccounts := consistent.accounts earlier (by rw [split]; simp [member])
      obtain ⟨⟨known, knownFound⟩, unbound⟩ := earlierAccounts.named decisionMember names
      obtain ⟨rest, restFound⟩ := consistent.still_active split member knownFound active
      exact ⟨rest, restFound, unbound rest restFound⟩
    · refine (consistent.later entry (by rw [split]; simp)).2 id ?_ left
      exact Nat.lt_of_lt_of_le (accounts.soundBefore.fresh active) accounts.uuid
  · intro entry member
    have accounts := consistent.accounts entry member
    refine ⟨fun identity state => accounts.removed, ?_⟩
    intro decision decisionMember runtime handed
    obtain ⟨identity, state, names, before, same, removed⟩ := accounts.stops decisionMember handed
    refine ⟨identity, state, names, before, same, removed, ?_⟩
    intro id lease found names
    obtain ⟨host, hostEntry⟩ := hostedBy accounts.sound id lease identity found names
    rw [removed] at hostEntry
    cases hostEntry

/-- A lease on one workspace, released at once. -/
def issueAndRelease : List (Nat × LeaseCall Nat Nat) :=
  [(0, .issue (some ⟨⟨0, 7, 70⟩, "/w"⟩)), (5, .release 0 true)]

/-- The journal of `issueAndRelease`. -/
def releasedJournal : Journal Nat Nat Nat :=
  (follow (Journal.record LeaseSettings.default) (fun _ _ => true) Journal.start
    issueAndRelease).get (by decide +kernel)

/-- The account of `issueAndRelease`: the runtime is handed out with the entry it removes, and the
lease is gone. -/
theorem leases_accounted_release :
    releasedJournal.log.length = 2 ∧
      (∃ entry decision, entry ∈ releasedJournal.log ∧
        entry.before.active.get 0 ≠ none ∧
        entry.decisions.filter (fun decision => decision.leaseId = some 0) = [decision] ∧
        decision.runtimeToStop = some 70) ∧
      releasedJournal.lifecycle.active.get 0 = none := by
  have reached : Reaches (Journal.record LeaseSettings.default) (fun _ _ => True) Journal.start
      releasedJournal :=
    (Reaches.of_follow issueAndRelease (Option.some_get _).symm).mono fun _ _ _ => trivial
  have account := (leases_accounted LeaseSettings.default releasedJournal reached).2.2.1
  obtain ⟨⟨decision, only, _⟩, _, _, gone⟩ := account [] (releasedJournal.log.get ⟨0, by decide +kernel⟩)
    [releasedJournal.log.get ⟨1, by decide +kernel⟩] 0 _ rfl rfl rfl
  refine ⟨by decide +kernel, ⟨_, decision, List.get_mem _ _, by decide +kernel, only, ?_⟩, gone⟩
  cases only
  rfl

/-- A lease that gives its workspace up, takes it again and is released. -/
def releasedTwice : Journal Nat Nat Nat :=
  (follow (Journal.record LeaseSettings.default) (fun _ _ => true) Journal.start
    [(0, .issue (some ⟨⟨0, 7, 70⟩, "/w"⟩)), (1, .releaseWorkspace 0 false),
      (2, .rebind 0 ⟨⟨0, 7, 70⟩, "/w"⟩), (3, .release 0 true)]).get (by decide +kernel)

/-- Both times a decision names it with the binding that it held. -/
theorem lease_named_twice :
    Reaches (Journal.record LeaseSettings.default) (fun _ _ => True) Journal.start releasedTwice ∧
    releasedTwice.lifecycle.active.get 0 = none ∧
    ((releasedTwice.log.flatMap Entry.decisions).filter fun decision =>
      decision.leaseId = some 0 ∧
        decision.bindingToRelease = some ⟨⟨0, 7, 70⟩, "/w"⟩).length = 2 := by
  refine ⟨(Reaches.of_follow _ (Option.some_get _).symm).mono fun _ _ _ => trivial, ?_, ?_⟩
  · decide +kernel
  · decide +kernel

/-! ### Refused bindings -/

namespace LeaseLifecycle

variable {self : LeaseLifecycle Identity Runtime Time} {message : String} {leaseId : Uuid}
  {now : Time}

/-- The active leases and the workspaces are the same, key by key. -/
def SameMaps (before after : LeaseLifecycle Identity Runtime Time) : Prop :=
  (∀ id, after.active.get id = before.active.get id) ∧
    ∀ identity, after.workspaces.get identity = before.workspaces.get identity

theorem SameMaps.refl (self : LeaseLifecycle Identity Runtime Time) : self.SameMaps self :=
  ⟨fun _ => rfl, fun _ => rfl⟩

/-- `detachHolder` answers from a holder, and raises `KeyError` otherwise. -/
theorem detachHolder_cases (self : LeaseLifecycle Identity Runtime Time) (leaseId : Uuid)
    (identity : Identity) (now : Time) (immediate : Bool) :
    (∃ state, self.workspaces.get identity = some state ∧ leaseId ∈ state.holders) ∨
      (detachHolder settings leaseId identity now immediate).run self = .error .keyError self := by
  simp only [detachHolder, run_bind, run_get]
  cases self.workspaces.get identity with
  | none => exact .inr rfl
  | some state =>
    by_cases holder : leaseId ∈ state.holders
    · exact .inl ⟨state, rfl, holder⟩
    · right
      simp only [holder, not_false_eq_true, if_true]
      rfl

/-- From any state, `_require_active_locked` returns an active lease and changes nothing, or raises
something else than `ValueError`. -/
theorem requireActiveLocked_any (self : LeaseLifecycle Identity Runtime Time) (leaseId : Uuid)
    (now : Time) :
    (∃ lease, self.active.get leaseId = some lease ∧
      (requireActiveLocked settings leaseId now).run self = .ok lease self) ∨
    ∃ raise after, (requireActiveLocked settings leaseId now).run self = .error raise after ∧
      ∀ message, raise ≠ .valueError message := by
  simp only [requireActiveLocked, run_bind, run_get, endLocked]
  cases self.active.get leaseId with
  | none => exact .inr ⟨_, _, rfl, by simp⟩
  | some lease =>
    by_cases live : now < lease.expiresAt
    · exact .inl ⟨lease, rfl, by simp [live]⟩
    · right
      simp only [live, if_false, run_bind, run_modify]
      cases lease.binding with
      | none => exact ⟨_, _, rfl, by simp⟩
      | some binding =>
        rcases detachHolder_cases settings { self with active := self.active.erase lease.id }
          lease.id binding.identity now false with ⟨state, entry, holder⟩ | missing
        · simp only [run_bind, detachHolder_run settings _ _ _ now false entry holder]
          exact ⟨_, _, rfl, by simp⟩
        · simp only [run_bind, missing]
          exact ⟨_, _, rfl, by simp⟩

variable {binding : WorkspaceBinding Identity Runtime}

theorem addHolderLocked_refused {raise : LeaseRaise Identity Runtime Time}
    (raised : (addHolderLocked leaseId binding).run self = .error raise after) : after = self := by
  rcases addHolderLocked_run self leaseId binding with ⟨_, run⟩ | ⟨_, run⟩
  · rw [run] at raised
    cases raised
    rfl
  · cases run.symm.trans raised

/-- A refused `issue` has entered its lease. -/
theorem issue_refused {binding : Option (WorkspaceBinding Identity Runtime)}
    (raised : (issue settings binding now).run self = .error (.valueError message) after) :
    SameMaps self after ↔
      self.active.get self.nextUuid = some (self.newLease settings binding now) := by
  cases binding with
  | none => cases raised
  | some bound =>
    have active : after.active =
          self.active.set self.nextUuid (self.newLease settings (some bound) now) ∧
        after.workspaces = self.workspaces := by
      simp only [issue, run_bind, run_get, run_set] at raised
      split at raised
      · cases raised
      · rename_i refused
        cases raised
        rw [addHolderLocked_refused refused]
        exact ⟨rfl, rfl⟩
    constructor
    · intro same
      rw [← same.1, active.1, Dict.get_set_self]
    · intro there
      exact ⟨fun id => by rw [active.1, Dict.set_of_get _ there], fun _ => by rw [active.2]⟩

/-- A refused `rebind` has given up the old workspace, if it is another one. -/
theorem rebind_refused
    (raised : (rebind settings leaseId binding now).run self = .error (.valueError message) after) :
    SameMaps self after ↔ ∀ lease old, self.active.get leaseId = some lease →
      lease.binding = some old → old.identity = binding.identity := by
  rcases requireActiveLocked_any settings self leaseId now with
    ⟨lease, found, run⟩ | ⟨raise, left, run, other⟩
  · rw [found]
    cases bound : lease.binding with
    | none =>
      have kept : after = self := by
        simp only [rebind, run_bind, run, bound] at raised
        split at raised
        · cases raised
        · rename_i refused
          cases raised
          exact addHolderLocked_refused refused
      subst kept
      refine iff_of_true (.refl _) fun _ old same eq => ?_
      cases same
      cases bound.symm.trans eq
    | some old =>
      by_cases moves : old.identity = binding.identity
      · have kept : after = self := by
          by_cases same : old.runtime = binding.runtime <;>
            simp only [rebind, run_bind, run, bound, moves, same, ne_eq, not_true_eq_false,
              not_false_eq_true, if_false, if_true] at raised
          · cases raised
          · cases raised
            rfl
        subst kept
        refine iff_of_true (.refl _) fun _ other same eq => ?_
        cases same
        cases bound.symm.trans eq
        exact moves
      · refine iff_of_false (fun same => ?_) fun all => moves (all lease old rfl bound)
        rcases detachHolder_cases settings self lease.id old.identity now false with
          ⟨state, entry, holder⟩ | missing
        · have detach := detachHolder_run settings self lease.id old.identity now false entry holder
          have left : after.workspaces = self.workspaces.update old.identity
              (state.afterLeave settings lease.id now false) := by
            simp only [rebind, removeHolderLocked, run_bind, run, bound, moves, ne_eq,
              not_false_eq_true, if_true, detach, run_pure] at raised
            split at raised
            · cases raised
            · rename_i refused
              cases raised
              rw [addHolderLocked_refused refused]
          -- the workspace that the lease held is still there, without it
          obtain ⟨kept, keeps, _⟩ := state.afterLeave_gently settings lease.id now
          have there := same.2 old.identity
          rw [left, Dict.get_update_self, entry, keeps] at there
          cases there
          rw [(WorkspaceState.afterLeave_some keeps).2.1] at holder
          exact Finset.notMem_erase _ _ holder
        · simp only [rebind, removeHolderLocked, run_bind, run, bound, moves, ne_eq,
            not_false_eq_true, if_true, missing] at raised
          cases raised
  · simp only [rebind, run_bind, run] at raised
    cases raised
    exact absurd rfl (other message)

/-- In a state that is reached by calls, the identifier of a new lease is new: a refused `issue` leaves
its lease behind. -/
theorem issue_clash_changes {journal : Journal Identity Runtime Time}
    (reached : Reaches (Journal.record settings) (fun _ _ => True) Journal.start journal)
    {binding : Option (WorkspaceBinding Identity Runtime)}
    (raised : (issue settings binding now).run journal.lifecycle =
      .error (.valueError message) after) : ¬SameMaps journal.lifecycle after := by
  rw [issue_refused settings raised]
  intro entered
  have fresh := (Journal.reached_consistent settings reached).sound.fresh entered
  exact Nat.lt_irrefl _ fresh

/-- **Refused bindings.** From every state, a call that is refused because its binding brings another
runtime for a known identity leaves the leases and the workspaces as they were in one case: the call
is `rebind`, and its lease has no binding or one of that identity. A refused `issue` changes nothing
only where the lease it makes is active already, which a new identifier rules out. -/
theorem clash_unchanged_iff (self : LeaseLifecycle Identity Runtime Time) (now : Time) :
    (∀ binding message after,
      (issue settings binding now).run self = .error (.valueError message) after →
      (SameMaps self after ↔
        self.active.get self.nextUuid = some (self.newLease settings binding now))) ∧
    ∀ leaseId binding message after,
      (rebind settings leaseId binding now).run self = .error (.valueError message) after →
      (SameMaps self after ↔ ∀ lease old, self.active.get leaseId = some lease →
        lease.binding = some old → old.identity = binding.identity) :=
  ⟨fun _ _ _ raised => issue_refused settings raised,
    fun _ _ _ _ raised => rebind_refused settings raised⟩

/-- Two leases on two workspaces. -/
def twoLeases : Journal Nat Nat Nat :=
  (follow (Journal.record .default) (fun _ _ => true) .start
    [(0, .issue (some ⟨⟨0, 7, 70⟩, "/w"⟩)), (0, .issue (some ⟨⟨1, 8, 80⟩, "/v"⟩))]).get
    (by decide +kernel)

/-- The first lease asks for another runtime of its own workspace. -/
theorem clash_unchanged_same_root : ∃ message,
    (rebind .default 0 ⟨⟨0, 7, 71⟩, "/w"⟩ 5).run twoLeases.lifecycle =
      .error (.valueError message) twoLeases.lifecycle ∧
    SameMaps twoLeases.lifecycle twoLeases.lifecycle := by
  refine ⟨_, rfl, ((clash_unchanged_iff .default twoLeases.lifecycle 5).2 0 ⟨⟨0, 7, 71⟩, "/w"⟩ _ _
    rfl).mpr ?_⟩
  rintro _ _ ⟨⟩ ⟨⟩
  rfl

/-- The first lease asks for another runtime of the second workspace: it is refused, and no longer
among the holders of the first one. -/
theorem clash_loses_holder :
    Reaches (Journal.record .default) (fun _ _ => True) .start twoLeases ∧
    ∃ message after, (rebind .default 0 ⟨⟨0, 8, 81⟩, "/v"⟩ 5).run twoLeases.lifecycle =
      .error (.valueError message) after ∧
    (twoLeases.lifecycle.workspaces.get 7).map WorkspaceState.holders = some {0} ∧
    (after.workspaces.get 7).map WorkspaceState.holders = some ∅ := by
  refine ⟨(Reaches.of_follow _ (Option.some_get _).symm).mono fun _ _ _ => trivial, _, _, rfl, ?_⟩
  decide +kernel

end LeaseLifecycle

end SerenaLight.Daemon
