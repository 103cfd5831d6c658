/-
**Activations that fail.**

Without cancellation, an activation that ends in an error other than lease expiry leaves the registry
as it found it and does not touch the lifecycle. Meanwhile other coroutines may find a lease expired,
the activation's own included; the cleanup of such a lease then waits for the lock.

* `KeepsBindings`: what other coroutines do to the bindings while the lock is held.
* `Stores.Moves.answerable`: the invariant that leads from an activation's entry to its failure.
* `failed_activations_undone`: the result for every run of the service.
-/

import SerenaLight.Daemon.Activations

set_option linter.unusedSectionVars false

namespace SerenaLight.Daemon

open Foundation Workspace

variable {Identity Time : Type}
variable [DecidableEq Identity] [LinearOrder Time] [Add Time] [Zero Time]

/-! ### The lifecycle while the lock is held -/

/-- Every lease of `entry` has the binding it had, or was found expired, and its cleanup waits. -/
def KeepsBindings (entry now : Lifecycle Identity Time)
    (waiters : List (Task × Section Identity Time)) : Prop :=
  ∀ id lease, entry.active.get id = some lease →
    (∃ rest, now.active.get id = some rest ∧ rest.binding = lease.binding) ∨
    (now.active.get id = none ∧ ∃ task decision,
      (task, Section.cleanExpired (some decision)) ∈ waiters ∧ decision.leaseId = some id)

/-- From an activation's entry to now. -/
structure Since (entry now : Lifecycle Identity Time)
    (waiters : List (Task × Section Identity Time)) : Prop where
  keeps : KeepsBindings entry now waiters
  known : ∀ {id lease}, entry.active.get id = some lease → id < now.nextUuid

namespace Since

variable {entry now next : Lifecycle Identity Time}
  {waiters : List (Task × Section Identity Time)}

theorem refl (sound : entry.Sound) : Since entry entry waiters where
  keeps := fun _ lease found => Or.inl ⟨lease, found, rfl⟩
  known := sound.fresh

section

variable (since : Since entry now waiters)

include since

/-- A new lease is nobody's of before. -/
theorem issued
    (binds : LeaseLifecycle.Binds now now.nextUuid none next)
    (uuid : next.nextUuid = now.nextUuid + 1) : Since entry next waiters where
  keeps := by
    intro id lease found
    have older := since.known found
    rw [binds.others id (Nat.ne_of_lt older)]
    exact since.keeps id lease found
  known := by
    intro id lease found
    rw [uuid]
    exact Nat.lt_succ_of_lt (since.known found)

/-- A check of a live lease changes no binding. -/
theorem checked
    (evolves : LeaseLifecycle.Evolves now [] next) : Since entry next waiters where
  keeps := by
    intro id lease found
    rcases since.keeps id lease found with ⟨rest, here, same⟩ | ⟨gone, queued⟩
    · refine .inl ?_
      cases there : next.active.get id with
      | none =>
        obtain ⟨decision, none_, _⟩ := evolves.leaving here there
        cases none_
      | some later =>
        obtain ⟨old, oldFound, kept | ⟨_, decision, member, _⟩⟩ := evolves.survivor there
        · rw [here] at oldFound
          cases oldFound
          exact ⟨later, rfl, kept.trans same⟩
        · cases member
    · refine .inr ⟨?_, queued⟩
      cases there : next.active.get id with
      | none => rfl
      | some later =>
        obtain ⟨old, oldFound, _⟩ := evolves.survivor there
        rw [gone] at oldFound
        cases oldFound
  known := fun found => evolves.uuid ▸ since.known found

/-- More coroutines wait. -/
theorem queue (more : List (Task × Section Identity Time)) :
    Since entry now (waiters ++ more) where
  keeps := by
    intro id lease found
    refine (since.keeps id lease found).imp_right ?_
    rintro ⟨gone, task, decision, member, names⟩
    exact ⟨gone, task, decision, List.mem_append_left _ member, names⟩
  known := since.known

/-- A check that finds a lease expired queues its cleanup. -/
theorem lapsed (sound : now.Sound) {leaseId : Uuid}
    {decision : Option (Decision Identity Time)} (task : Task)
    (lapses : Lapses now leaseId decision next) :
    Since entry next (waiters ++ [(task, .cleanExpired decision)]) := by
  have queued := since.queue [(task, .cleanExpired decision)]
  refine ⟨?_, fun found => (lapses.evolves sound).uuid ▸ since.known found⟩
  cases lapses with
  | gone _ => exact queued.keeps
  | @overdue lease made after found ended warm =>
    have key := sound.key found
    intro id held heldFound
    by_cases same : id = leaseId
    · refine .inr ⟨?_, task, made, by simp, ?_⟩
      · rw [same, ← key]
        exact ended.gone
      · rw [same, ← key]
        exact ended.names
    · rw [ended.others id fun equal => same (equal.trans key)]
      exact queued.keeps id held heldFound

end

end Since

/-! ### The invariant -/

/-- The registry is back to what the activation found, its own last step did not touch the lifecycle,
and the lease it was for, active at entry, has the binding it had, as every other lease. -/
structure Failure.Undone (failure : Failure Identity Time) : Prop where
  active : ∃ lease, failure.lifecycleAtEntry.active.get failure.leaseId = some lease
  untouched : failure.lifecycleAtExit = failure.lifecycleBefore
  bindings : KeepsBindings failure.lifecycleAtEntry failure.lifecycleAtExit failure.waitersAtExit
  registry : Restored failure.registryAtEntry failure.registryAtExit

namespace Stores

/-- What an activation will have to answer for when it fails. -/
structure Answerable (stores : Stores Identity Time) : Prop where
  undisturbed : stores.Undisturbed
  entered : ∀ {activation}, stores.holder = some activation →
    ∃ lease, activation.lifecycleAtEntry.active.get activation.leaseId = some lease
  since : ∀ {activation}, stores.holder = some activation →
    Since activation.lifecycleAtEntry stores.lifecycle stores.waiters
  failures : ∀ failure ∈ stores.failures, failure.Undone

variable {settings : LeaseSettings Time} {self after : Stores Identity Time}
  {label : StoresLabel Identity Time}
  {effect : Effect Identity Time} {activation : Activation Identity Time}
  {prepared : Prepared Identity}

theorem Answerable.init : (Stores.init : Stores Identity Time).Answerable :=
  ⟨.init, by simp [Stores.init], by simp [Stores.init], by simp [Stores.init]⟩

namespace Answerable

/-- The lock is free after the move. -/
theorem vacate (undisturbed : after.Undisturbed) (free : after.holder = none)
    (failures : ∀ failure ∈ after.failures, failure.Undone) : after.Answerable :=
  ⟨undisturbed, by simp [free], by simp [free], failures⟩

/-- Another coroutine's move. -/
theorem pass (answerable : self.Answerable) (undisturbed : after.Undisturbed)
    (holder : after.holder = self.holder) (failures : after.failures = self.failures)
    (since : ∀ {entry}, Since entry self.lifecycle self.waiters →
      Since entry after.lifecycle after.waiters) : after.Answerable :=
  ⟨undisturbed, fun holds => answerable.entered (holder ▸ holds),
    fun holds => since (answerable.since (holder ▸ holds)), failures ▸ answerable.failures⟩

/-- A move of the activation that keeps the lock. -/
theorem follow (answerable : self.Answerable) (undisturbed : after.Undisturbed)
    (holds : self.holder = some activation) {phase : Phase Identity}
    (holder : after.holder = some { activation with phase })
    (lifecycle : after.lifecycle = self.lifecycle) (waiters : after.waiters = self.waiters)
    (failures : after.failures = self.failures) : after.Answerable := by
  have entered := answerable.entered holds
  have since := answerable.since holds
  refine ⟨undisturbed, fun {other} found => ?_, fun {other} found => ?_,
    failures ▸ answerable.failures⟩ <;> obtain rfl := Option.mem_unique holder found
  · exact entered
  · rw [lifecycle, waiters]
    exact since

/-- An activation that fails now. -/
theorem fail (answerable : self.Answerable) (holds : self.holder = some activation)
    {registry : Registry Identity} (restored : Restored activation.registryAtEntry registry) :
    (activation.failure self.lifecycle registry self.waiters).Undone :=
  ⟨answerable.entered holds, rfl, (answerable.since holds).keeps, restored⟩

end Answerable

/-- **Every move of an uncancelled run keeps the activation answerable.** -/
theorem Moves.answerable (moves : Moves settings self label after effect) (base : self.Base)
    (quiet : label.cancels = false) (answerable : self.Answerable) : after.Answerable := by
  have undisturbed := moves.undisturbed base quiet answerable.undisturbed
  cases moves with
  | issued binds uuid =>
    exact answerable.pass undisturbed rfl rfl fun since => since.issued binds uuid
  | checked evolves _ => exact answerable.pass undisturbed rfl rfl fun since => since.checked evolves
  | lapsed lapses =>
    exact answerable.pass undisturbed rfl rfl fun since => since.lapsed base.lifecycle _ lapses
  | queued _ => exact answerable.pass undisturbed rfl rfl fun since => since.queue _
  | cleaned free _ _ | applied free _ _ _ _ _ _ => exact .vacate undisturbed free answerable.failures
  | entered free _ found =>
    refine ⟨undisturbed, ?_, ?_, answerable.failures⟩ <;> rintro _ ⟨⟩
    · exact ⟨_, found⟩
    · exact .refl base.lifecycle
  | preparedSame holds _ _ _ | preparedCross holds _ _ | preparedFault holds _ | resumed holds _
  | committing holds _ _ | committed holds _ _ | overtaken holds _ _ => exact answerable.follow undisturbed holds rfl rfl rfl rfl
  | @refused activation fault holds phase =>
    have tracks := answerable.undisturbed.tracked.tracks holds
    rw [phase] at tracks
    refine .vacate undisturbed rfl fun failure member => ?_
    rcases List.mem_cons.mp member with rfl | earlier
    · exact answerable.fail holds (tracks.of_faulted ▸ ⟨rfl, rfl, rfl, le_rfl⟩)
    · exact answerable.failures failure earlier
  | failed holds failing retires =>
    refine .vacate undisturbed rfl fun failure member => ?_
    rcases List.mem_cons.mp member with rfl | earlier
    · refine answerable.fail holds ?_
      exact (answerable.undisturbed.tracked.tracks holds).restores
        (answerable.undisturbed.tracked.sound holds)
        ((answerable.undisturbed.tracked.tracks holds).failing failing) retires
    · exact answerable.failures failure earlier
  | expired _ _ _ _ _ | rebound _ _ _ _ _ => exact .vacate undisturbed rfl answerable.failures
  | cancelledActivation _ | cancelledWaiting => cases quiet
  | orphanPrepared _ _ | orphanCommitted _ _ => exact answerable.pass undisturbed rfl rfl id

end Stores

/-! ### Runs of the service -/

/-- The steps of an activation before it asks for the lock: its start, and a resolver error. -/
def Label.beforeLock : Label Identity Time → Bool
  | .spawn (.activateWorkspace _ _) _ => true
  | .resolved _ (.error _) _ => true
  | _ => false

theorem beforeLock_stores {settings : LeaseSettings Time} {before after : Service Identity Time}
    {label : Label Identity Time} (early : label.beforeLock = true)
    (taken : Service.step settings before label = some after) : after.stores = before.stores := by
  rcases Service.step_turns settings taken with ⟨driven, drives, _⟩ | ⟨same, _⟩
  · cases label with
    | spawn call now =>
      cases call with
      | activateWorkspace _ _ => cases drives
      | _ => cases early
    | resolved task outcome now =>
      cases outcome with
      | error _ => cases drives
      | ok _ => cases early
    | _ => cases early
  · exact same

/-- **Failed activations leave no trace.** In every run without cancellation, an identity that both
stores hold has one runtime, the rebind of an activation never finds two, an activation that failed
inside the lock is undone, and one that fails before it touches neither store. -/
theorem failed_activations_undone (settings : LeaseSettings Time) {state : Service Identity Time}
    (reached : Service.Uncancelled settings state) :
    (∀ identity workspace entry,
      state.stores.lifecycle.workspaces.get identity = some workspace →
      state.stores.registry.runtimes.get identity = some entry →
      entry.runtime = workspace.runtime) ∧
    (∀ activation prepared binding now message after, state.stores.holder = some activation →
      activation.phase = .committed prepared (.ok binding) →
      (LeaseLifecycle.rebind settings activation.leaseId binding now).run state.stores.lifecycle ≠
        .error (.valueError message) after) ∧
    (∀ failure ∈ state.stores.failures, failure.Undone) ∧
    (∀ label after, label.beforeLock = true → Service.step settings state label = some after →
      after.stores = state.stores) := by
  obtain ⟨base, answerable⟩ := Service.invariant settings (fun stores _ => stores.Answerable)
    (fun _ _ label => label.cancels = false)
    (fun _ _ _ quiet drives => Service.storesLabel_cancels drives quiet) .init
    (fun base answerable quiet moves => moves.answerable base quiet answerable)
    (fun _ _ _ _ _ => rfl) (fun _ _ answerable _ => answerable) reached
  refine ⟨?_, ?_, answerable.failures, fun _ _ early taken => beforeLock_stores early taken⟩
  · intro identity workspace entry held retained
    obtain ⟨other, found, same⟩ := base.shared identity workspace held
    rw [retained] at found
    cases found
    exact same
  · intro activation prepared binding now message after holds phase raised
    obtain rfl := base.bound holds phase
    have fits := base.fits holds (by rw [phase]; rfl)
    rcases LeaseLifecycle.rebind_cases settings base.lifecycle activation.leaseId prepared.binding
      now with ⟨_, _, _, _, _, _, run⟩ | ⟨_, _, _, _, _, clashes, _⟩ | ⟨_, _, _, _, run⟩
    · rw [run] at raised
      cases raised
    · exact fits clashes
    · rw [run] at raised
      cases raised

/-- The first lease activates the root `7`; its refresh takes a minute and fails, and just before a
heartbeat of the lease arrives. -/
def failingRun : List (Label Nat Nat) :=
  [.spawn .acquireLease 0, .spawn (.activateWorkspace (some 0) true) 0,
    .resolved 1 (.ok ⟨7, ""⟩) 0, .stores (.threadPrepare none), .stores .resumePrepared,
    .spawn (.heartbeat (some 0)) 60, .stores (.resumeRefreshed (some .timeout) 60)]

/-- The hypothesis of the theorem is met by a run with a failure. -/
theorem failed_activation_undone : ∃ state : Service Nat Nat,
    Service.Uncancelled LeaseSettings.default state ∧ state.stores.failures ≠ [] ∧
      ∀ failure ∈ state.stores.failures, failure.Undone := by
  obtain ⟨state, reached, failed⟩ := Reaches.of_run (Service.step LeaseSettings.default)
    (fun _ label => label.cancels = false) Service.init failingRun
    (fun state => state.stores.failures ≠ []) (by decide +kernel)
  exact ⟨state, reached, failed, (failed_activations_undone LeaseSettings.default reached).2.2.1⟩

/-- **A failed activation's lease need not be active any more**: the heartbeat found it expired. -/
theorem failed_activation_lease_expired : ∃ state : Service Nat Nat,
    Service.Uncancelled LeaseSettings.default state ∧ ∃ failure ∈ state.stores.failures,
      (failure.lifecycleAtEntry.active.get failure.leaseId).isSome = true ∧
        failure.lifecycleAtExit.active.get failure.leaseId = none := by
  exact Reaches.of_run _ _ _ failingRun _ (by decide +kernel)

end SerenaLight.Daemon
