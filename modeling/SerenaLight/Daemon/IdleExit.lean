/-
**The exit of an idle daemon.**

`_sweep_periodically` sweeps the service at intervals and returns once the service has been idle for
long enough. Then `_serve_with_lifecycle` tells the HTTP server to exit, the server closes its sockets
and ends. Requests are served until it has closed them.

- `Host`: the service of `Service`, the sweep loop and the server, with any client requests between
  their steps.
- `Service.stores_agree`: what the stores agree on in every interleaving of the service.
- `Moves.unleased`: only `acquire_lease` makes a lease active in a service that has none.
- `idle_exit_unleased`: if no `acquire_lease` is served once the sweep loop has returned, the daemon
  that stops idle has no active lease; `idle_exit_leased` is a run in which one is served.
-/

import SerenaLight.Daemon.ServiceSteps

set_option linter.unusedSectionVars false

namespace SerenaLight.Daemon

open Foundation Workspace

variable {Identity Time : Type}
variable [DecidableEq Identity] [LinearOrder Time] [Add Time] [Zero Time]
variable (settings : LeaseSettings Time)

/-! ### The host of the service -/

/-- `_sweep_periodically` between two of its steps. `idleSince` is its local variable. -/
inductive SweepLoop (Time : Type) where
  | sleeping (idleSince : Option Time)
  | sweeping (task : Task) (idleSince : Option Time)
  | returned
  | raised
  deriving DecidableEq

/-- The loop after a sweep, from what `daemon_idle` says and the reading of the clock. -/
def SweepLoop.afterSweep (idleExitSeconds : Time) (idle : Bool) (now : Time)
    (idleSince : Option Time) : SweepLoop Time :=
  if idle then
    match idleSince with
    | none => .sleeping (some now)
    | some since => if since + idleExitSeconds ≤ now then .returned else .sleeping (some since)
  else .sleeping none

/-- The HTTP server: it serves, is told to exit, has closed its sockets, has ended. -/
inductive Server where
  | serving
  | exiting
  | closed
  | stopped
  deriving DecidableEq

/-- A server that has been told to exit still takes requests until it closes its sockets. -/
def Server.accepts : Server → Bool
  | .serving => true
  | .exiting => true
  | .closed => false
  | .stopped => false

structure Host (Identity Time : Type) where
  service : Service Identity Time
  loop : SweepLoop Time
  server : Server

/-- A client request, a step of a coroutine of the service, the next sweep, and what
`_serve_with_lifecycle` and the server do after the loop has ended. `checkedAt` is the reading of the
clock after a sweep, if the step ends one. -/
inductive HostLabel (Identity Time : Type) where
  | request (call : Call) (now : Time)
  | progress (label : Label Identity Time) (checkedAt : Time)
  | wake (now checkedAt : Time)
  | exit
  | close
  | stop

namespace Host

def init : Host Identity Time := ⟨.init, .sleeping none, .serving⟩

/-- The sweep has ended: the loop goes on without a suspension. -/
def afterSweep (idleExitSeconds checkedAt : Time) (host : Host Identity Time) :
    Host Identity Time :=
  match host.loop with
  | .sweeping task idleSince =>
    match host.service.stops.returned.find? fun entry => entry.task = task with
    | none => host
    | some entry =>
      match entry.answer with
      | .swept _ => { host with
          loop := .afterSweep idleExitSeconds host.service.daemonIdle checkedAt idleSince }
      | _ => { host with loop := .raised }
  | _ => host

/-- The steps of the service that are no new coroutine. -/
def Label.isSpawn : Label Identity Time → Bool
  | .spawn _ _ => true
  | _ => false

def step (settings : LeaseSettings Time) (idleExitSeconds : Time) (host : Host Identity Time) :
    HostLabel Identity Time → Option (Host Identity Time)
  | .request call now =>
    if host.server.accepts && decide (call ≠ .sweep) then
      (host.service.step settings (.spawn call now)).map fun service =>
        { host with service := service }
    else none
  | .progress label checkedAt =>
    if Label.isSpawn label then none
    else (host.service.step settings label).map fun service =>
      afterSweep idleExitSeconds checkedAt { host with service := service }
  | .wake now checkedAt =>
    match host.loop with
    | .sleeping idleSince =>
      (host.service.step settings (.spawn .sweep now)).map fun service =>
        afterSweep idleExitSeconds checkedAt
          { host with
            service := service
            loop := .sweeping host.service.nextTask idleSince }
    | _ => none
  | .exit =>
    match host.loop, host.server with
    | .returned, .serving => some { host with server := .exiting }
    | .raised, .serving => some { host with server := .exiting }
    | _, _ => none
  | .close => if host.server = .exiting then some { host with server := .closed } else none
  | .stop => if host.server = .closed then some { host with server := .stopped } else none

/-- The daemon has stopped serving because the loop has found it idle. -/
def StoppedIdle (host : Host Identity Time) : Prop :=
  host.server = .stopped ∧ host.loop = .returned

/-- No lease is active. -/
def Unleased (host : Host Identity Time) : Prop :=
  ∀ id, host.service.stores.lifecycle.active.get id = none

end Host

/-! ### Where leases come from -/

/-- Where no lease is active, none lapses. -/
theorem Lapses.unleased {before after : Lifecycle Identity Time} {leaseId : Uuid}
    {decision : Option (Decision Identity Time)} (lapses : Lapses before leaseId decision after)
    (bare : ∀ id, before.active.get id = none) : after = before := by
  cases lapses with
  | overdue found ended warm =>
    rw [bare] at found
    cases found
  | gone absent => rfl

/-- **Only `acquire_lease` makes a lease active where there is none.** -/
theorem Stores.Moves.unleased {settings : LeaseSettings Time} {self after : Stores Identity Time}
    {label : StoresLabel Identity Time} {effect : Effect Identity Time}
    (moves : Moves settings self label after effect)
    (other : ∀ task now, label ≠ .acquireLease task now)
    (bare : ∀ id, self.lifecycle.active.get id = none) :
    ∀ id, after.lifecycle.active.get id = none := by
  have ends {decisions : List (Decision Identity Time)} {lifecycle : Lifecycle Identity Time}
      (evolves : LeaseLifecycle.Evolves self.lifecycle decisions lifecycle) :
      ∀ id, lifecycle.active.get id = none := by
    intro id
    by_contra there
    obtain ⟨rest, found⟩ := Option.ne_none_iff_exists'.mp there
    obtain ⟨lease, before, -⟩ := evolves.survivor found
    rw [bare id] at before
    cases before
  cases moves with
  | issued binds uuid => exact absurd rfl (other _ _)
  | checked evolves plain | applied free first plain evolves applies drops reports => exact ends evolves
  | lapsed lapses late | expired holds checking lapses retires applies => exact lapses.unleased bare ▸ bare
  | rebound holds phase found binds uuid =>
    rw [bare] at found
    cases found
  | _ => exact bare

variable {service : Service Identity Time} {label : Label Identity Time}

/-- The stores keep their base invariant however the service is used. -/
theorem Service.base_of_reached
    (reached : Reaches (Service.step settings) (fun _ _ => True) Service.init service) :
    service.stores.Base :=
  (Service.invariant settings (fun _ _ => True) (fun _ _ _ => True) (fun _ _ _ _ _ => trivial) trivial
    (fun _ _ _ _ => trivial) (fun _ _ _ _ _ => trivial) (fun _ _ _ _ => trivial) reached).1

/-- **The stores agree in every interleaving**, whatever is cancelled: the registry has the runtime that
a live lease is bound to, counts its references, and no two sessions share a lease of it. -/
theorem Service.stores_agree
    (reached : Reaches (Service.step settings) (fun _ _ => True) Service.init service) :
    (∀ id lease binding, service.stores.lifecycle.active.get id = some lease →
      lease.binding = some binding →
      Retains service.stores.registry binding.identity binding.runtime) ∧
    (∀ identity entry, service.stores.registry.runtimes.get identity = some entry →
      entry.referenceCount = service.stores.registry.references identity) ∧
    ∀ first second one other, service.stores.registry.bindings.get first = some one →
      service.stores.registry.bindings.get second = some other →
      one.lease.id = other.lease.id → first = second := by
  have base := Service.base_of_reached settings reached
  refine ⟨fun id lease binding active bound => ?_, fun _ _ => base.registry.counted,
    fun _ _ _ _ => base.leased.tidy.distinct⟩
  obtain ⟨state, held, same⟩ := base.lifecycle.hosted active bound
  rw [← same]
  exact base.shared _ state held

/-- After an activation the lease is bound, and the registry has its runtime. -/
theorem Service.stores_agree_activated : ∃ (service : Service Nat Nat) (lease : _) (binding : _),
    Reaches (Service.step LeaseSettings.default) (fun _ _ => True) Service.init service ∧
    service.stores.lifecycle.active.get 0 = some lease ∧ lease.binding = some binding ∧
    Retains service.stores.registry binding.identity binding.runtime := by
  obtain ⟨service, reached, bound⟩ := Reaches.of_run (Service.step LeaseSettings.default)
    (fun _ _ => True) Service.init ([.spawn .acquireLease 0] ++ Service.activationRun 0 1 7 0)
    (fun service => ((service.stores.lifecycle.active.get 0).bind (·.binding)).isSome = true)
    (by decide +kernel)
  obtain ⟨binding, found⟩ := Option.isSome_iff_exists.mp bound
  obtain ⟨lease, active, bound⟩ := Option.bind_eq_some_iff.mp found
  exact ⟨service, lease, binding, reached, active, bound,
    (Service.stores_agree _ reached).1 0 lease binding active bound⟩

/-- The stores issue a lease for an `acquire_lease` only. -/
theorem Service.acquire_of_storesLabel {task : Task} {now : Time}
    (other : ∀ now, label ≠ .spawn .acquireLease now)
    (drives : service.storesLabel label = some (.acquireLease task now)) : False := by
  unfold Service.storesLabel at drives
  split at drives
  case h_1 now => exact other now rfl
  case h_7 =>
    obtain ⟨waiting, -, eq⟩ := Option.map_eq_some_iff.mp drives
    cases eq
  case h_8 driven =>
    obtain ⟨scheduled, ⟨⟩⟩ := Option.ite_none_right_eq_some.mp drives
    cases scheduled
  all_goals cases drives

/-- A step of the service that is no `acquire_lease`. -/
theorem Service.step_unleased {before after : Service Identity Time} (base : before.stores.Base)
    (other : ∀ now, label ≠ .spawn .acquireLease now)
    (bare : ∀ id, before.stores.lifecycle.active.get id = none)
    (taken : before.step settings label = some after) :
    ∀ id, after.stores.lifecycle.active.get id = none := by
  rcases Service.step_turns settings taken with ⟨driven, drives, plain, effect, stepped, stops⟩ |
    ⟨stores, turns⟩
  · have notIssued : ∀ task now, driven ≠ .acquireLease task now := by
      rintro task now rfl
      exact acquire_of_storesLabel other drives
    rcases Stores.step_moves settings base plain stepped with moves |
      ⟨middle, now, arrives, queued, task, body, free, alone, served⟩
    · exact moves.unleased notIssued bare
    · exact served.unleased nofun (queued.unleased notIssued bare)
  · rw [stores]
    exact bare

/-! ### Runs of the host -/

namespace Host

variable {settings : LeaseSettings Time} {idleExitSeconds : Time} {host after : Host Identity Time}
  {label : HostLabel Identity Time}

/-- The step is no `acquire_lease` after the loop has returned. -/
def InTime (host : Host Identity Time) : HostLabel Identity Time → Prop
  | .request .acquireLease _ => host.loop ≠ .returned
  | _ => True

instance (host : Host Identity Time) (label : HostLabel Identity Time) :
    Decidable (InTime host label) := by
  unfold InTime
  split <;> infer_instance

instance (host : Host Identity Time) : Decidable host.StoppedIdle :=
  inferInstanceAs (Decidable (_ ∧ _))

/-- What the loop has found when it returned is still so. -/
structure Sound (settings : LeaseSettings Time) (host : Host Identity Time) : Prop where
  service : Reaches (Service.step settings) (fun _ _ => True) Service.init host.service
  unleased : host.loop = .returned → host.Unleased

theorem unleased_of_daemonIdle (idle : host.service.daemonIdle = true) : host.Unleased := by
  rw [Service.daemonIdle, LeaseLifecycle.daemonIdle, Bool.and_eq_true, Bool.and_eq_true,
    List.isEmpty_iff] at idle
  exact Dict.get_of_empty idle.1.1

/-- The loop returns only from a service without leases. -/
theorem afterSweep_sound (checkedAt : Time) (sound : Sound settings host) :
    Sound settings (afterSweep idleExitSeconds checkedAt host) := by
  unfold afterSweep
  split
  · split
    · exact sound
    · split
      · refine ⟨sound.service, fun returned => ?_⟩
        have returned : SweepLoop.afterSweep idleExitSeconds host.service.daemonIdle checkedAt _ =
            .returned := returned
        unfold SweepLoop.afterSweep at returned
        split at returned
        · rename_i idle
          exact unleased_of_daemonIdle idle
        · cases returned
      · exact ⟨sound.service, nofun⟩
  · exact sound

theorem sound_step (sound : Sound settings host) (quiet : InTime host label)
    (taken : step settings idleExitSeconds host label = some after) : Sound settings after := by
  have base := Service.base_of_reached settings sound.service
  cases label with
  | request call now =>
    obtain ⟨-, taken⟩ := Option.ite_none_right_eq_some.mp taken
    obtain ⟨service, stepped, rfl⟩ := Option.map_eq_some_iff.mp taken
    refine ⟨.step sound.service trivial stepped, fun returned => ?_⟩
    refine Service.step_unleased settings base (fun now eq => ?_) (sound.unleased returned) stepped
    cases eq
    exact quiet returned
  | progress label checkedAt =>
    obtain ⟨inner, taken⟩ := Option.ite_none_left_eq_some.mp taken
    obtain ⟨service, stepped, rfl⟩ := Option.map_eq_some_iff.mp taken
    refine afterSweep_sound checkedAt ⟨.step sound.service trivial stepped, fun returned => ?_⟩
    refine Service.step_unleased settings base (fun now eq => ?_) (sound.unleased returned) stepped
    cases eq
    exact inner rfl
  | wake now checkedAt =>
    simp only [step] at taken
    split at taken
    · obtain ⟨service, stepped, rfl⟩ := Option.map_eq_some_iff.mp taken
      exact afterSweep_sound checkedAt ⟨.step sound.service trivial stepped, nofun⟩
    · cases taken
  | exit =>
    simp only [step] at taken
    split at taken
    · cases taken
      exact ⟨sound.service, sound.unleased⟩
    · cases taken
      exact ⟨sound.service, sound.unleased⟩
    · cases taken
  | close | stop =>
    obtain ⟨-, ⟨⟩⟩ := Option.ite_none_right_eq_some.mp taken
    exact ⟨sound.service, sound.unleased⟩

theorem sound_init : Sound settings (init : Host Identity Time) :=
  ⟨.start, fun returned => nomatch (show SweepLoop.sleeping none = .returned from returned)⟩

theorem sound_reached (reached : Reaches (step settings idleExitSeconds) InTime init host) :
    Sound settings host := by
  induction reached with
  | start => exact sound_init
  | step _ quiet taken sound => exact sound_step sound quiet taken

end Host

/-- **A daemon that stops idle has no active lease**, in every run in which no `acquire_lease` is served
once the sweep loop has returned. -/
theorem idle_exit_unleased (idleExitSeconds : Time)
    {host : Host Identity Time}
    (reached : Reaches (Host.step settings idleExitSeconds) Host.InTime Host.init host)
    (stopped : host.StoppedIdle) : host.Unleased :=
  (Host.sound_reached reached).unleased stopped.2

/-- A lease is acquired and released, and the daemon stops after two sweeps. -/
theorem idle_exit_unleased_released : ∃ host : Host Nat Nat,
    Reaches (Host.step LeaseSettings.default 5) Host.InTime Host.init host ∧
      host.StoppedIdle ∧ host.Unleased := by
  obtain ⟨host, reached, stopped⟩ := Reaches.of_run (Host.step LeaseSettings.default 5)
    Host.InTime (Host.init : Host Nat Nat) [.request .acquireLease 0,
      .request (.releaseLease (some 0) true) 1, .wake 2 2, .wake 7 7, .exit, .close, .stop]
    Host.StoppedIdle (by decide +kernel)
  exact ⟨host, reached, stopped, idle_exit_unleased LeaseSettings.default 5 reached stopped⟩

/-- **A lease is acquired from a daemon that has decided to exit**: the sweep loop returns, the request
is served before the server closes its sockets, and the daemon stops with the lease active. -/
theorem idle_exit_leased : ∃ host : Host Nat Nat,
    Reaches (Host.step LeaseSettings.default 5) (fun _ _ => True) Host.init host ∧
      host.StoppedIdle ∧ ∃ entry ∈ host.service.stops.returned, ∃ lease, entry.answer = .lease lease ∧
        host.service.stores.lifecycle.active.get lease.id = some lease := by
  obtain ⟨host, reached, stopped, entry, member, active⟩ := Reaches.of_run
    (Host.step LeaseSettings.default 5) (fun _ _ => True) Host.init
    [.wake 2 2, .wake 7 7, .request .acquireLease 7, .exit, .close, .stop]
    (fun host : Host Nat Nat => host.StoppedIdle ∧
      ∃ entry ∈ host.service.stops.returned, (match entry.answer with
        | .lease lease => decide (host.service.stores.lifecycle.active.get lease.id = some lease)
        | _ => false) = true) (by decide +kernel)
  refine ⟨host, reached, stopped, entry, member, ?_⟩
  split at active
  · rename_i lease answer
    exact ⟨lease, answer, of_decide_eq_true active⟩
  · cases active

end SerenaLight.Daemon
