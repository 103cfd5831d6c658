/-
**Where the worker of an adapter can be.**

What the results about the life of an adapter share: which places of the worker belong to a start, to
a stop or to neither, what the pieces of a step leave alone (`Rephased`, `Shifts`, `crash_frame`), and
what the place of the worker says about the field `_runtime` (`Placed`).
-/

import SerenaLight.Lsp.AdapterSteps

set_option linter.unusedSectionVars false

namespace SerenaLight.Lsp.Adapter

open Foundation

variable {Time : Type} [LinearOrder Time] [Add Time] [Sub Time]
variable {policy : CrashPolicy Time} {capacity : Nat} {before after system : System Time}
  {label : Label Time}

/-! ### Places -/

namespace Place

/-- The worker has passed the checks of `_ensure_started_worker` and has not yet called
`provider.start`. -/
def starts : Place Time → Bool
  | .replacing _ _ => true
  | .launching _ => true
  | _ => false

/-- The worker runs a stop. -/
def stops : Place Time → Bool
  | .stopping => true
  | .terminating _ => true
  | .ending _ => true
  | _ => false

/-- The worker has not done anything for its item yet. -/
def resting : Place Time → Bool
  | .idle => true
  | .admitting _ => true
  | .ensuring _ => true
  | .stopping => true
  | .foreign => true
  | _ => false

end Place

theorem begins_stops (entry : Entry) :
    (System.begins entry : Place Time).stops = true ↔ entry = .stop := by
  cases entry with
  | ordinary work direct => cases direct <;> exact ⟨nofun, nofun⟩
  | stop => exact ⟨fun _ => rfl, fun _ => rfl⟩
  | foreign => exact ⟨nofun, nofun⟩

/-! ### What the pieces of a step leave alone -/

/-- **A change of the phase**, to one that is not cold, and perhaps of the crash times. -/
structure Rephased (before after : LanguageAdapter Time) : Prop where
  runtime : after.runtime = before.runtime
  admissionSealed : after.admissionSealed = before.admissionSealed
  stopFuture : after.stopFuture = before.stopFuture
  openDocuments : after.openDocuments = before.openDocuments
  tokens : after.crashedRuntimeTokens = before.crashedRuntimeTokens
  total : after.crashTotal = before.crashTotal
  times : after.crashTimes = before.crashTimes ∨ after.crashTimes = []
  cold : after.phase = .cold → before.phase = .cold

variable {adapter current : LanguageAdapter Time}

theorem Rephased.refl : Rephased adapter adapter :=
  ⟨rfl, rfl, rfl, rfl, rfl, rfl, .inl rfl, id⟩

theorem Rephased.trans (first : Rephased adapter current) {last : LanguageAdapter Time}
    (second : Rephased current last) : Rephased adapter last where
  runtime := second.runtime.trans first.runtime
  admissionSealed := second.admissionSealed.trans first.admissionSealed
  stopFuture := second.stopFuture.trans first.stopFuture
  openDocuments := second.openDocuments.trans first.openDocuments
  tokens := second.tokens.trans first.tokens
  total := second.total.trans first.total
  times := second.times.elim (fun same => same ▸ first.times) .inr
  cold := fun phase => first.cold (second.cold phase)

theorem refreshCooldown_cases (now : Time) (adapter : LanguageAdapter Time) :
    adapter.refreshCooldown now = adapter ∨
      ∃ deadline, adapter.cooldownUntil = some deadline ∧ adapter.phase = .cooldown ∧
        deadline ≤ now ∧ adapter.refreshCooldown now =
          { adapter with cooldownUntil := none, crashTimes := [], phase := .degraded } := by
  unfold LanguageAdapter.refreshCooldown
  cases until_ : adapter.cooldownUntil with
  | none => exact .inl rfl
  | some deadline =>
    by_cases waits : adapter.phase ≠ .cooldown ∨ now < deadline
    · exact .inl (if_pos waits)
    · obtain ⟨phase, passed⟩ := not_or.mp waits
      exact .inr ⟨deadline, rfl, not_not.mp phase, not_lt.mp passed, if_neg waits⟩

theorem refreshCooldown_rephased (now : Time) (adapter : LanguageAdapter Time) :
    Rephased adapter (adapter.refreshCooldown now) := by
  obtain same | ⟨_, _, _, _, refreshed⟩ := refreshCooldown_cases now adapter
  · rw [same]
    exact .refl
  · rw [refreshed]
    exact ⟨rfl, rfl, rfl, rfl, rfl, rfl, .inr rfl, nofun⟩

/-- Only a cooldown is left by looking at the clock. -/
theorem refreshCooldown_cold (now : Time) (cold : adapter.phase = .cold) :
    (adapter.refreshCooldown now).phase = .cold := by
  obtain same | ⟨_, _, cool, _⟩ := refreshCooldown_cases now adapter
  · rw [same, cold]
  · exact nomatch cool.symm.trans cold

/-- **What the threads beside the worker do to the phase**: nothing, or they set it, to a phase of an
adapter that has been started. Only where `forced` holds do they do so in any phase. -/
def Shifts (forced : Prop) (before after : LanguageAdapter Time) : Prop :=
  after = before ∨ ∃ phase, phase ≠ .cold ∧ after = { before with phase } ∧
    (forced ∨ before.phase ≠ .cold ∧ before.phase ≠ .cooldown)

theorem Shifts.rephased {forced : Prop} (shifts : Shifts forced adapter current) :
    Rephased adapter current := by
  obtain rfl | ⟨phase, warm, rfl, _⟩ := shifts
  · exact .refl
  · exact ⟨rfl, rfl, rfl, rfl, rfl, rfl, .inl rfl, fun cold => absurd cold warm⟩

theorem markDocumentReady_shifts (adapter : LanguageAdapter Time) :
    Shifts False adapter adapter.markDocumentReady := by
  unfold LanguageAdapter.markDocumentReady
  split
  · rename_i early
    refine .inr ⟨.documentReady, nofun, rfl, .inr ?_⟩
    obtain starting | degraded := early
    · rw [starting]
      exact ⟨nofun, nofun⟩
    · rw [degraded]
      exact ⟨nofun, nofun⟩
  · exact .inl rfl

theorem snapshot_shifts (now : Time) (stale : Bool) (adapter : LanguageAdapter Time) :
    Shifts False (adapter.refreshCooldown now) (adapter.snapshot now stale) := by
  unfold LanguageAdapter.snapshot
  dsimp only
  split
  · rename_i ready
    refine .inr ⟨.globalWarming, nofun, rfl, .inr ?_⟩
    rw [ready.1]
    exact ⟨nofun, nofun⟩
  · exact .inl rfl

theorem snapshot_rephased (now : Time) (stale : Bool) (adapter : LanguageAdapter Time) :
    Rephased adapter (adapter.snapshot now stale) :=
  (refreshCooldown_rephased now adapter).trans (snapshot_shifts now stale adapter).rephased

theorem waitForGlobal_shifts (result : LanguageAdapter.Readiness) (adapter : LanguageAdapter Time) :
    Shifts (result = .scopeIncompatible) adapter (adapter.waitForGlobal result) := by
  cases result with
  | ready => exact .inl rfl
  | scopeIncompatible => exact .inr ⟨.degraded, nofun, rfl, .inl rfl⟩
  | notReady =>
    unfold LanguageAdapter.waitForGlobal
    dsimp only
    split
    · rename_i ready
      refine .inr ⟨.globalWarming, nofun, rfl, .inr ?_⟩
      rw [ready]
      exact ⟨nofun, nofun⟩
    · exact .inl rfl

/-- A crash is an affair of the adapter and the records alone. -/
theorem crash_frame (policy : CrashPolicy Time) (token : Nat) (now : Time) (system : System Time) :
    ∃ adapter log deadlines,
      system.crash policy token now = { system with adapter, log, deadlines } ∧
      adapter.runtime = system.adapter.runtime ∧
      adapter.admissionSealed = system.adapter.admissionSealed ∧
      adapter.stopFuture = system.adapter.stopFuture ∧
      (adapter.openDocuments = system.adapter.openDocuments ∨ adapter.openDocuments = []) ∧
      (token ∈ system.adapter.crashedRuntimeTokens ∧ adapter.phase = system.adapter.phase ∨
        token ∉ system.adapter.crashedRuntimeTokens ∧ adapter.phase ≠ .cold) := by
  unfold System.crash
  by_cases counted : token ∈ system.adapter.crashedRuntimeTokens
  · rw [if_pos counted]
    exact ⟨_, _, _, rfl, rfl, rfl, rfl, .inl rfl, .inl ⟨counted, rfl⟩⟩
  · rw [if_neg counted]
    refine ⟨_, _, _, rfl, ?_⟩
    unfold LanguageAdapter.recordCrash
    rw [if_neg counted]
    dsimp only
    split
    all_goals
      refine ⟨rfl, rfl, rfl, ?_, .inr ⟨counted, nofun⟩⟩
      exact (ite_eq_or_eq _ _ _).symm

/-! ### The place of the worker and the runtime -/

/-- What the place of the worker says about the field `_runtime`. -/
def Placed : Place Time → Option Nat → Prop
  | .replacing _ _, runtime => runtime = none
  | .launching _, runtime => runtime = none
  | .booting _, runtime => runtime = none
  | .discarding _, runtime => runtime = none
  | .retiring _ _, runtime => runtime = none
  | .terminating stopped, runtime => runtime = some stopped
  | .ending stopped, runtime => runtime = stopped
  | _, _ => True

/-- **The place of the worker tells the runtime in the field**, whatever the provider does. -/
theorem placed_step (placed : Placed before.worker before.adapter.runtime)
    (move : Move policy before label after) : Placed after.worker after.adapter.runtime := by
  have aside : ∀ {adapter : LanguageAdapter Time}, Rephased before.adapter adapter →
      Placed before.worker adapter.runtime := fun rephased => rephased.runtime ▸ placed
  cases move
  case replaced at_ | launched at_ | terminated at_ =>
    rw [at_] at placed
    exact placed
  case taken entry _ _ _ _ _ => rcases entry with ⟨_, _ | _⟩ | _ | _ <;> trivial
  case running work _ _ _ => cases work <;> trivial
  case initialized work _ => cases work <;> trivial
  case prepared => cases (before.adapter.refreshCooldown before.clock).runtime <;> rfl
  case abandoned => rfl
  case restarted => cases (before.adapter.refreshCooldown before.clock).runtime <;> trivial
  case stopBegun =>
    show Placed (Place.toStop before.adapter.runtime) before.adapter.runtime
    cases before.adapter.runtime <;> rfl
  case recorded token since now _ =>
    obtain ⟨_, _, _, crashed, runtime, _⟩ := crash_frame policy token now
      { before with callbacks := before.callbacks.erase (token, since) }
    rw [crashed, runtime]
    exact placed
  case documentReady => exact aside (markDocumentReady_shifts _).rephased
  case snapshot => exact aside (snapshot_rephased _ _ _)
  case waitGlobal => exact aside (waitForGlobal_shifts _ _).rephased
  -- a step of another thread, or a place that says nothing about the field
  all_goals first | exact placed | trivial

/-! ### The queue, the futures and the stops -/

/-- **What a step does to the items**, and whether the worker is at one that stops. -/
inductive Turn (before after : System Time) : Prop
  | onward (queue : after.queue = before.queue) (futures : after.futures = before.futures)
      (stops : after.stops = before.stops) (running : after.running = before.running)
      (place : after.worker.stops = before.worker.stops)
  /-- The worker has finished its item; a stop that succeeds leaves the phase cold. -/
  | finished (succeeded : Bool) (queue : after.queue = before.queue)
      (futures : after.futures = (before.finish succeeded).futures)
      (stops : after.stops = before.stops) (running : after.running = none)
      (place : after.worker.stops = false)
      (cold : succeeded = true → before.worker.stops = true → after.adapter.phase = .cold)
  | submitted {entry : Entry} (eq : after = before.enqueue entry) (other : entry ≠ .stop)
  | requested (eq : after = before.submitStop)
  | cancelled {future : Nat} {status : Future Unit Unit}
      (found : before.futures[future]? = some status) (eq : after = before.cancelFuture future status)
  | closed (eq : after = before.closeExecutor)
  | dropped {item : Entry × Nat} {rest : List (Entry × Nat)} (head : before.queue = item :: rest)
      (eq : after = { before with queue := rest })
  | taken {entry : Entry} {future : Nat} {rest : List (Entry × Nat)}
      (head : before.queue = (entry, future) :: rest) (eq : after = before.take entry future rest)

theorem turn_of_move (move : Move policy before label after) : Turn before after := by
  -- the item is no stop, so that its end says nothing about the phase
  have finishes : ∀ {place : Place Time} {other : System Time} {succeeded : Bool},
      before.worker = place → place.stops = false → other.queue = before.queue →
      other.futures = before.futures → other.stops = before.stops → other.running = before.running →
      Turn before (other.finish succeeded) := by
    intro place other succeeded at_ plain queue futures stops running
    refine .finished succeeded queue ?_ stops rfl rfl fun _ stopping => ?_
    · simp only [System.finish, futures, running]
    · rw [at_, plain] at stopping
      cases stopping
  have proceeds : ∀ {place : Place Time} {other : System Time} (work : Work),
      before.worker = place → place.stops = false → other.queue = before.queue →
      other.futures = before.futures → other.stops = before.stops → other.running = before.running →
      Turn before (other.proceed work) := by
    intro place other work at_ plain queue futures stops running
    cases work with
    | start => exact finishes at_ plain queue futures stops running
    | execute | retry | documents | warm =>
      exact .onward queue futures stops running (by rw [at_, plain]; rfl)
  cases move
  case submitted => exact .submitted rfl nofun
  case submittedForeign => exact .submitted rfl nofun
  case stopSubmitted => exact .requested rfl
  case cancelled found => exact .cancelled found rfl
  case closed => exact .closed rfl
  case dropped head => exact .dropped head rfl
  case taken head _ => exact .taken head rfl
  case running at_ _ _ => exact proceeds _ at_ rfl rfl rfl rfl rfl
  case initialized at_ => exact proceeds _ at_ rfl rfl rfl rfl rfl
  case prepared at_ _ _ =>
    refine .onward rfl rfl rfl rfl ?_
    rw [at_]
    show (Place.toLaunch _ (before.adapter.refreshCooldown before.clock).runtime).stops = _
    cases (before.adapter.refreshCooldown before.clock).runtime <;> rfl
  case restarted at_ _ =>
    refine .onward rfl rfl rfl rfl ?_
    rw [at_]
    show (Place.toRetire _ (before.adapter.refreshCooldown before.clock).runtime).stops = _
    cases (before.adapter.refreshCooldown before.clock).runtime <;> rfl
  case stopBegun at_ _ =>
    refine .onward rfl rfl rfl rfl ?_
    rw [at_]
    show (Place.toStop before.adapter.runtime).stops = _
    cases before.adapter.runtime <;> rfl
  case stopNothing cold => exact .finished true rfl rfl rfl rfl rfl fun _ _ => cold
  case ended => exact .finished true rfl rfl rfl rfl rfl fun _ _ => rfl
  case terminateRaised => exact .finished false rfl rfl rfl rfl rfl nofun
  case reported now at_ _ | lostLast now at_ _ =>
    obtain ⟨_, _, _, crashed, _⟩ := crash_frame policy before.adapter.runtimeToken now before
    rw [crashed]
    exact finishes at_ rfl rfl rfl rfl rfl
  case lost now at_ _ =>
    obtain ⟨_, _, _, crashed, _⟩ := crash_frame policy before.adapter.runtimeToken now before
    rw [crashed]
    exact .onward rfl rfl rfl rfl (by rw [at_]; rfl)
  case recorded token since now _ =>
    obtain ⟨_, _, _, crashed, _⟩ := crash_frame policy token now
      { before with callbacks := before.callbacks.erase (token, since) }
    rw [crashed]
    exact .onward rfl rfl rfl rfl rfl
  case notAdmitted at_ | refused at_ | cooling at_ | replaceRaised at_ | discardRaised at_
    | operated at_ | restartCooling at_ | retireRaised at_ | warmRefused at_ | warmRaised at_
    | foreignDone at_ => exact finishes at_ rfl rfl rfl rfl rfl
  case warmReported at_ _ _ => exact finishes at_ rfl rfl rfl rfl rfl
  case admitted at_ _ | warmBegun at_ _ | abandoned at_ _ | abandonedNothing at_ _ =>
    exact .onward rfl rfl rfl rfl (by rw [at_]; rfl)
  case replaced at_ | launched at_ | bootRaised at_ | booted at_ | initializeRaised at_
    | discarded at_ | transportLost at_ | retired at_ | terminated at_ =>
      exact .onward rfl rfl rfl rfl (by rw [at_]; rfl)
  -- the steps of the other threads
  all_goals exact .onward rfl rfl rfl rfl rfl

end SerenaLight.Lsp.Adapter
