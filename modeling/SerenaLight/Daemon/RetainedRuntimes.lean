/-
**Runtimes that something can still retire.**

The registry lets go of a runtime only when the lifecycle hands it out for stopping, so a runtime
that nobody references and that the lifecycle has forgotten stays for ever. A lease that expires
outside the binding lock leaves the lifecycle before the registry: if a sweep or an immediate
release drops the workspace in between, the registry refuses to retire the runtime that the lease
still references, and nobody asks again.

* `Hosted`: the lifecycle knows every runtime of the ledger.
* `Stores.timely`: a section that drops a workspace leaves no such cleanup behind in the queue.
* `runtimes_retirable`: in a run where all sections are timely, every runtime can be retired.
* `swept_runtime_stranded`: a sweep that is not.
-/

import SerenaLight.Daemon.Links

set_option linter.unusedSectionVars false

namespace SerenaLight.Daemon

open Foundation Workspace

variable {Identity Time : Type}
variable [DecidableEq Identity] [LinearOrder Time] [Add Time] [Zero Time]

/-! ### Timely sections -/

/-- The section is the cleanup of an expired lease, and releases a live registry lease on the root
`identity`. -/
def Section.frees (registry : Registry Identity) (identity : Identity) :
    Section Identity Time → Bool
  | .cleanExpired (some decision) =>
    decision.bindingToRelease.any fun binding =>
      decide (binding.identity = identity) && registry.leases.contains binding.lease.id
  | _ => false

/-- The first section in the queue drops no workspace that a cleanup behind it still has a lease
on. -/
def Stores.timely (settings : LeaseSettings Time) (stores : Stores Identity Time) :
    StoresLabel Identity Time → Bool
  | .grantBinding now =>
    match stores.waiters with
    | [] => true
    | (_, body) :: rest =>
      stores.lifecycle.workspaces.items.all fun item =>
        decide (¬Drops settings stores.lifecycle now item.2 body) ||
          rest.all fun waiter => !waiter.2.frees stores.registry item.1
  | _ => true

/-- The step of the service cancels nothing and is timely. -/
def Service.timely (settings : LeaseSettings Time) (service : Service Identity Time)
    (label : Label Identity Time) : Bool :=
  !label.cancels && (service.storesLabel label).all (service.stores.timely settings)

variable {settings : LeaseSettings Time}

theorem Service.timely_storesLabel {service : Service Identity Time} {label : Label Identity Time}
    {driven : StoresLabel Identity Time} (timely : service.timely settings label = true)
    (drives : service.storesLabel label = some driven) :
    driven.cancels = false ∧ service.stores.timely settings driven = true := by
  simp only [Service.timely, drives, Option.all_some, Bool.and_eq_true, Bool.not_eq_true'] at timely
  exact ⟨Service.storesLabel_cancels drives timely.1, timely.2⟩

theorem Stores.timely_rest {stores : Stores Identity Time} {now : Time} {task : Task}
    {body : Section Identity Time} {rest : List (Task × Section Identity Time)}
    (timely : stores.timely settings (.grantBinding now) = true)
    (first : stores.waiters = (task, body) :: rest) {identity : Identity}
    {state : WorkspaceState RuntimeId Time}
    (entry : stores.lifecycle.workspaces.get identity = some state)
    (drops : Drops settings stores.lifecycle now state body) :
    ∀ waiter ∈ rest, waiter.2.frees stores.registry identity = false := by
  intro waiter member
  simp only [Stores.timely, first, List.all_eq_true, Bool.or_eq_true, decide_eq_true_eq,
    Bool.not_eq_true'] at timely
  exact (timely (identity, state) (Dict.mem_items.mpr entry)).resolve_left (fun never => never drops)
    waiter member

/-! ### Runtimes that the lifecycle knows -/

/-- The lifecycle knows every runtime of the ledger. -/
def Hosted (lifecycle : Lifecycle Identity Time) (ledger : Registry Identity) : Prop :=
  ∀ identity, ledger.runtimes.get identity ≠ none → lifecycle.workspaces.get identity ≠ none

namespace Hosted

variable {lifecycle next : Lifecycle Identity Time} {ledger after : Registry Identity}
  {decisions : List (Decision Identity Time)} {targets : List RuntimeId}
  {waiters : List (Task × Section Identity Time)}

section

variable (hosted : Hosted lifecycle ledger)

include hosted

/-- The ledger has no new runtimes. -/
theorem fewer
    (fewer : ∀ identity, after.runtimes.get identity ≠ none →
      ledger.runtimes.get identity ≠ none) : Hosted lifecycle after :=
  fun identity there => hosted identity (fewer identity there)

theorem applies
    (applies : Applies ledger decisions targets after) : Hosted lifecycle after :=
  hosted.fewer fun _ there absent => there (applies.absent absent)

theorem alike (alike : Alike after ledger) :
    Hosted lifecycle after := by
  refine hosted.fewer fun identity there absent => there ?_
  have same := alike.runtimes identity
  rw [absent, Option.map_none] at same
  exact Option.map_eq_none_iff.mp same

/-- The lifecycle forgets no workspace. -/
theorem more
    (more : ∀ {identity state}, lifecycle.workspaces.get identity = some state →
      next.workspaces.get identity ≠ none) : Hosted next ledger := by
  intro identity there
  obtain ⟨state, entry⟩ := Option.ne_none_iff_exists'.mp (hosted identity there)
  exact more entry

theorem lapse (sound : lifecycle.Sound) {leaseId : Uuid}
    {decision : Option (Decision Identity Time)} (lapses : Lapses lifecycle leaseId decision next) :
    Hosted next ledger :=
  hosted.more fun entry => Stores.kept_of_warm (lapses.evolves sound) lapses.warm entry

theorem binds {id : Uuid} {binding : Option (Binding Identity)}
    (binds : LeaseLifecycle.Binds lifecycle id binding next) : Hosted next ledger := by
  refine hosted.more fun entry => ?_
  obtain ⟨_, kept, _⟩ := binds.kept entry
  exact Option.ne_none_iff_exists'.mpr ⟨_, kept⟩

/-- **A section drops a workspace and the registry its runtime**, if no lease on it waits for its
cleanup. -/
theorem drop (shared : Shared lifecycle ledger)
    (linked : Linked lifecycle waiters ledger) (tidy : Tidy ledger)
    (evolves : LeaseLifecycle.Evolves lifecycle decisions next)
    (applies : Applies ledger decisions targets after)
    (timely : ∀ identity state, lifecycle.workspaces.get identity = some state →
      next.workspaces.get identity = none →
      ∀ waiter ∈ waiters, waiter.2.frees ledger identity = false) : Hosted next after := by
  intro identity there dropped
  have retained : ledger.runtimes.get identity ≠ none := fun absent => there (applies.absent absent)
  obtain ⟨state, entry⟩ := Option.ne_none_iff_exists'.mp (hosted identity retained)
  obtain ⟨old, found, same⟩ := shared identity state entry
  obtain ⟨decision, member, place, stops⟩ := evolves.removed entry dropped
  obtain ⟨earlier, later, rfl⟩ := List.append_of_mem member
  refine there (applies.retired found
    (retirement_eq_some.mpr ⟨place, stops.trans (congrArg some same.symm)⟩) ?_)
  rintro id lease live rfl
  obtain ⟨session, binding, bound, rfl⟩ := linked.bound live
  obtain rfl : binding.lease = lease := Option.some.inj ((tidy.live bound).symm.trans live)
  cases active : lifecycle.active.get session with
  | some holding =>
    -- the session is a holder, so its own decision comes no later
    obtain ⟨own, ownMember, _, releases⟩ :=
      evolves.holder_named active ((linked.active active).trans bound) dropped
    have ownPlace := (evolves.bound ownMember releases).1
    rcases List.mem_append.mp ownMember with early | late
    · exact ⟨own, List.mem_append_left _ early, binding, releases, rfl⟩
    rcases List.mem_cons.mp late with rfl | after
    · exact ⟨own, List.mem_append_right _ (by simp), binding, releases, rfl⟩
    · have ordered := List.rel_of_pairwise_cons
        (List.pairwise_append.mp evolves.order).2.1 after (by simp [stops])
      exact absurd (ownPlace.trans place.symm) ordered
  | none =>
    obtain ⟨task, owed, queued, _, releases⟩ := linked.owed active bound
    have frees := timely _ state entry dropped _ queued
    have held : ledger.leases.contains binding.lease.id = true := Dict.contains_iff.mpr ⟨_, live⟩
    simp [Section.frees, releases, WorkspaceBinding.identity, held] at frees

end

end Hosted

/-! ### The invariant -/

namespace Stores

variable {settings : LeaseSettings Time} {self after : Stores Identity Time}
  {label : StoresLabel Identity Time} {effect : Effect Identity Time}
  {activation : Activation Identity Time}

/-- The activation goes on: the ledger stays. -/
theorem hosted_follow (hosted : Hosted self.lifecycle self.ledger)
    (holds : self.holder = some activation) {phase : Phase Identity}
    (holder : after.holder = some { activation with phase })
    (lifecycle : after.lifecycle = self.lifecycle) : Hosted after.lifecycle after.ledger := by
  rw [ledger_of_holder holder, lifecycle]
  rw [ledger_of_holder holds] at hosted
  exact hosted

theorem hosted_vacate (free : after.holder = none)
    (hosted : Hosted after.lifecycle after.registry) : Hosted after.lifecycle after.ledger := by
  rw [ledger_of_free free]
  exact hosted

/-- **Timely moves keep every runtime known.** -/
theorem Moves.hosted (moves : Moves settings self label after effect) (base : self.Base)
    (quiet : label.cancels = false) (timely : self.timely settings label = true)
    (regular : self.Regular) (hosted : Hosted self.lifecycle self.ledger) :
    Hosted after.lifecycle after.ledger := by
  have tracked := regular.undisturbed.tracked
  cases moves with
  | issued binds _ => exact Hosted.binds hosted binds
  | checked evolves _ =>
    exact Hosted.more hosted fun entry => kept_of_warm evolves (by simp) entry
  | lapsed lapses _ => exact Hosted.lapse hosted base.lifecycle lapses
  | queued _ => exact hosted
  | cleaned free _ applies =>
    rw [ledger_of_free free] at hosted
    exact hosted_vacate free (hosted.applies applies)
  | applied free first plain evolves applies drops _ =>
    have linked := regular.joined
    rw [Joined, ledger_of_free free, first] at linked
    rw [ledger_of_free free] at hosted
    refine hosted_vacate free ?_
    exact hosted.drop base.shared (linked.pop plain) base.leased.tidy evolves applies
      fun _ _ entry dropped => timely_rest timely first entry (drops entry dropped)
  | entered free _ _ =>
    rw [ledger_of_free free] at hosted
    exact hosted
  | preparedSame holds _ _ _ | preparedCross holds _ _ | preparedFault holds _ | resumed holds _
  | committing holds _ _ | committed holds _ _ | overtaken holds _ _ => exact hosted_follow hosted holds rfl rfl
  | refused holds phase =>
    have tracks := tracked.tracks holds
    rw [phase] at tracks
    rw [ledger_of_holder holds, ← tracks.of_faulted] at hosted
    exact hosted
  | failed holds failing retires =>
    have tracks := tracked.tracks holds
    rw [ledger_of_holder holds] at hosted
    exact hosted.alike
      (tracks.restores (tracked.sound holds) (tracks.failing failing) retires).alike
  | expired holds checking lapses retires applies =>
    have tracks := tracked.tracks holds
    rw [ledger_of_holder holds] at hosted
    refine Hosted.applies ?_ applies
    rcases checking.moment with ⟨rfl, tentative⟩ | ⟨rfl, phase⟩
    · exact (hosted.lapse base.lifecycle lapses).alike
        (tracks.restores (tracked.sound holds) tentative retires).alike
    · rw [phase] at tracks
      refine ((hosted.lapse base.lifecycle lapses).fewer fun identity there absent => ?_).alike
        (tracks.withdraws (tracked.sound holds) retires)
      rw [Ne, ← Option.map_eq_none_iff, WorkspaceRuntimeRegistry.withoutSession_runtime, absent]
        at there
      exact there rfl
  | rebound holds phase found binds uuid =>
    have tracks := tracked.tracks holds
    rw [phase] at tracks
    rw [ledger_of_holder holds] at hosted
    intro identity there
    rcases tracks.commits.runtimes there with earlier | rfl
    · exact hosted.binds binds identity earlier
    · obtain ⟨lease, active, bound⟩ := binds.here
      obtain ⟨state, entry, _⟩ := binds.sound.hosted active bound
      exact Option.ne_none_iff_exists'.mpr ⟨state, entry⟩
  | cancelledActivation _ | cancelledWaiting => cases quiet
  | orphanPrepared orphan _ | orphanCommitted orphan _ =>
    rw [regular.undisturbed.orphans] at orphan
    cases orphan

/-- The registry's runtime for `identity` is referenced, or the lifecycle can hand it out. -/
def Retirable (stores : Stores Identity Time) (identity : Identity) : Prop :=
  (∃ id lease, stores.registry.leases.get id = some lease ∧ lease.identity = identity) ∨
    stores.lifecycle.workspaces.get identity ≠ none

end Stores

/-! ### Runs of the service -/

/-- **Every runtime can be retired.** In a run without cancellation whose sections are all timely,
whenever no coroutine is in progress, each runtime of the registry is referenced by a live lease or
has a workspace entry in the lifecycle. -/
theorem runtimes_retirable (settings : LeaseSettings Time) {state : Service Identity Time}
    (reached : Reaches (Service.step settings)
      (fun service label => service.timely settings label = true) Service.init state)
    (quiescent : state.Quiescent) :
    ∀ identity entry, state.stores.registry.runtimes.get identity = some entry →
      state.stores.Retirable identity := by
  obtain ⟨_, _, hosted⟩ := Service.invariant settings
    (fun stores _ => stores.Regular ∧ Hosted stores.lifecycle stores.ledger)
    (fun stores _ label => label.cancels = false ∧ stores.timely settings label = true)
    (fun _ _ _ permitted drives => Service.timely_storesLabel permitted drives)
    ⟨.init, by simp [Hosted, Stores.ledger, Stores.init, WorkspaceRuntimeRegistry.init]⟩
    (fun base kept permitted moves => ⟨moves.regular base permitted.1 kept.1,
      moves.hosted base permitted.1 permitted.2 kept.1 kept.2⟩)
    (fun _ _ _ waiters _ => ⟨rfl, by simp [Stores.timely, waiters]⟩)
    (fun _ _ kept _ => kept) reached
  intro identity entry found
  rw [Stores.ledger_of_free (Option.isNone_iff_eq_none.mp quiescent.2.1)] at hosted
  exact .inr (hosted identity (by simp [found]))

/-- A lease expires at a sweep, and its runtime is warm. -/
theorem runtimes_retirable_warm : ∃ state : Service Nat Nat,
    state.Quiescent ∧ state.stores.registry.leases.items = [] ∧ ∃ entry,
      state.stores.registry.runtimes.get 7 = some entry ∧ state.stores.Retirable 7 := by
  obtain ⟨state, reached, quiescent, unreferenced, warm⟩ := Reaches.of_run
    (Service.step LeaseSettings.default)
    (fun state label => Service.timely LeaseSettings.default state label = true) Service.init
    ([.spawn .acquireLease 0] ++ Service.activationRun 0 1 7 0 ++ [.spawn .sweep 60])
    (fun state => state.Quiescent ∧ state.stores.registry.leases.items = [] ∧
      (state.stores.registry.runtimes.get 7).isSome = true) (by decide +kernel)
  obtain ⟨entry, found⟩ := Option.isSome_iff_exists.mp warm
  exact ⟨state, quiescent, unreferenced, entry, found,
    runtimes_retirable LeaseSettings.default reached quiescent 7 entry found⟩

/-- **A swept runtime is stranded.** The lease on the root `7` expires at a heartbeat while an
activation holds the lock; the sweep that was queued before its cleanup runs ten minutes later and
drops the workspace, the registry refuses to retire the runtime, and the cleanup asks for no
retirement. -/
theorem swept_runtime_stranded : ∃ state : Service Nat Nat,
    Service.Uncancelled LeaseSettings.default state ∧ state.Quiescent ∧ ∃ entry,
      state.stores.registry.runtimes.get 7 = some entry ∧ ¬state.stores.Retirable 7 := by
  obtain ⟨state, reached, quiescent, known, unreferenced, forgotten⟩ := Reaches.of_run (Service.step LeaseSettings.default)
    (fun _ label => label.cancels = false) Service.init
    ([.spawn .acquireLease 0, .spawn .acquireLease 0] ++ Service.activationRun 0 2 7 0 ++
      [.spawn (.activateWorkspace (some 1) true) 50, .resolved 3 (.ok ⟨8, ""⟩) 50,
        .spawn .sweep 50, .spawn (.heartbeat (some 0)) 60,
        .stores (.threadPrepare (some .other)), .stores .resumePrepared,
        .stores (.grantBinding 700), .stores (.grantBinding 700)])
    (fun state => state.Quiescent ∧ (state.stores.registry.runtimes.get 7).isSome = true ∧
      state.stores.registry.leases.items = [] ∧ state.stores.lifecycle.workspaces.get 7 = none)
    (by decide +kernel)
  obtain ⟨entry, found⟩ := Option.isSome_iff_exists.mp known
  refine ⟨state, reached, quiescent, entry, found, ?_⟩
  rintro (⟨id, lease, live, _⟩ | known)
  · rw [Dict.get_of_empty unreferenced] at live
    cases live
  · exact known forgotten

end SerenaLight.Daemon
