/-
**Every lease of a connector is accounted for.**

- `keeps_invokeWithRecovery`, `keeps_callTool`, `keeps_beat`, `keeps_aclose`: what the tasks do outside
  the lifecycle lock is neutral, and inside it they keep to the terms.
- `sound`: so the terms hold in every run.
- `recoveries`: a connector with recoveries that begin at any time, each with a generation that it has
  observed.
- `every_lease_accounted`: whenever the lifecycle lock is free, every lease that was granted is installed or
  has had one release; and a recovery that raises leaves what is installed unchanged.
-/

import SerenaLight.Connector.LeaseSections

namespace SerenaLight.Connector.Leases

open Foundation Coro Discipline

variable {Path : Type} {kind : Kind Path} {count id : Nat}

/-! ### Neutral programs -/

/-- What a task awaits outside the lifecycle lock. -/
def awaitsOutside (op : Op Path) : Prop := isPlain op = true ∧ op ≠ .birth ∧ op ≠ .sleep

/-- Outside the lifecycle lock, writes that the ledger does not show keep a task outside. -/
theorem outside_structural : @Structural (Scene Path) (Op Path) Answer Fault (Kind Path)
    (fun {_} program => Keeps audited (terms count) kind id (Outside count id)
      (program.observe ledger id))
    (fun update => ∀ scene, Neutral scene (update scene)) awaitsOutside := by
  refine (observe_structural fun start now outside =>
    outside.same (same_noted (.refl now.1))).mono ?_ ?_
  · exact fun update neutral start now outside => outside.same (same_noted (neutral now.1))
  · rintro op ⟨plain, waking, awake⟩ start now outside
    refine safe_observe_wait ?_ ?_
    · refine outside.suspends ⟨waking, awake, fun session eq => ?_⟩
      subst eq
      cases plain
    · exact fun later resumed answer relied inv _ ended => outside.answered plain relied inv ended

section Programs

theorem neutral_cancel (task : Nat) (scene : Scene Path) : Neutral scene (cancel task scene) := by
  unfold cancel
  split
  · exact .refl scene
  · exact ⟨rfl, rfl, Nat.le_refl _⟩

theorem neutral_requests (request : Request Path) :
    Requests awaitsOutside request where
  identity _ := ⟨rfl, nofun, nofun⟩
  sends _ := ⟨rfl, nofun, nofun⟩

/-! ### Tasks -/

theorem keeps_invokeWithRecovery (request : Request Path) (retryable uncertainOnLoss : Bool)
    (operation : String) :
    Keeps audited (terms count) kind id (Outside count id)
      ((invokeWithRecovery id request retryable uncertainOnLoss operation).observe ledger id) :=
  Structural.invokeWithRecovery outside_structural keeps_start keeps_recover
    (neutral_requests request) retryable uncertainOnLoss operation

theorem keeps_callTool (call : ToolCall Path) :
    Keeps audited (terms count) kind id (Outside count id)
      ((callTool id call).observe ledger id) := by
  refine Structural.callTool outside_structural call ?_
    (keeps_invokeWithRecovery _) ?_
  · refine Structural.prepareCall outside_structural call ?_
    exact Structural.ensureStartupBinding outside_structural keeps_start keeps_recover
      (fun _ _ => ⟨rfl, rfl, Nat.le_refl _⟩) ⟨rfl, nofun, nofun⟩
      (fun _ _ => ⟨rfl, rfl, Nat.le_refl _⟩) fun _ => neutral_requests _
  · exact Structural.rememberCall outside_structural (fun _ _ => ⟨rfl, rfl, Nat.le_refl _⟩) call

theorem keeps_beat :
    Keeps audited (terms count) kind id (Outside count id)
      ((beat id : Task Path Unit).observe ledger id) :=
  Structural.beat outside_structural keeps_recover (fun _ _ => ⟨rfl, rfl, Nat.le_refl _⟩)
    (fun _ => ⟨rfl, nofun, nofun⟩) fun _ => ⟨rfl, nofun, nofun⟩

theorem keeps_aclose :
    Keeps audited (terms count) kind id (Outside count id)
      ((aclose id : Task Path Unit).observe ledger id) := by
  refine outside_structural.binds ?_ fun _ => keeps_shutDown
  exact Structural.stopHeartbeat outside_structural (fun _ => ⟨rfl, rfl, Nat.le_refl _⟩)
    neutral_cancel fun _ => ⟨rfl, nofun, nofun⟩

theorem keeps_body (kind task : Kind Path) :
    Keeps audited (terms count) task id (Outside count id)
      ((connector.body kind id).observe ledger id) := by
  cases kind with
  | start => exact outside_structural.binds keeps_start fun _ => outside_structural.returns _
  | listTools =>
    exact outside_structural.binds (keeps_invokeWithRecovery _ _ _ _) fun _ => outside_structural.returns _
  | callTool call => exact outside_structural.binds (keeps_callTool call) fun _ => outside_structural.returns _
  | aclose => exact outside_structural.binds keeps_aclose fun _ => outside_structural.returns _
  | heartbeat => exact outside_structural.binds keeps_beat fun _ => outside_structural.returns _

end Programs

/-! ### Every run -/

section Runs

variable {start now : Books Path}

theorem same_ends : Same now (audited.ends kind id now) := by
  refine ⟨?_, rfl⟩
  show Neutral now.1 (Scene.ends kind id now.1)
  unfold Scene.ends
  split
  · exact ⟨rfl, rfl, Nat.le_refl _⟩
  · exact .refl _

variable {result : Except Fault (Option Reply)}

section

variable (outside : Outside count id start now)
include outside

/-- A task that has come to its end, or to the rest between two rounds. -/
theorem goal_of_outside
    (post : ∀ fault, result = .error fault → id < count → now.2.changed id = false)
    (rests : kind.isHeartbeat = true → count ≤ id) :
    Goal audited (terms count) kind id start result now := by
  have ended : Outside count id start (audited.ends kind id now) := outside.same same_ends
  unfold Goal
  split
  · rename_i op resting
    refine ⟨⟨outside.numbered, outside.free⟩, outside.guarantees,
      fun _ => ⟨outside.ready, rests⟩, fun session eq => ?_⟩
    cases kind with
    | heartbeat =>
      cases resting
      cases eq
    | _ => cases resting
  · exact ⟨⟨ended.numbered, ended.free⟩, ended.guarantees, post⟩

/-- Beyond the recoveries in question, a task has nothing to show at its end. -/
theorem goal_of_above (above : count ≤ id) :
    Goal audited (terms count) kind id start result now :=
  goal_of_outside outside (fun _ _ below => absurd below (Nat.not_lt_of_le above)) fun _ => above

theorem safe_body (above : count ≤ id) :
    Safe audited (terms count) kind id (Goal audited (terms count) kind id)
      (audited.body kind id) start now :=
  (keeps_body kind kind start now outside).mono fun _ _ _ outside => goal_of_above outside above

end

/-- A heartbeat task that is woken, or not. -/
theorem outside_of_rest {op : Op Path} {later resumed : Books Path} {answer : Except Fault Answer}
    (rests : op = .birth ∨ op = .sleep) (holds : (terms count).holdsAt .heartbeat id op later)
    (inv : (terms count).inv later)
    (ended : audited.answers .heartbeat id later op answer = some resumed) :
    Outside count id later resumed ∧ count ≤ id := by
  obtain ⟨ready, above⟩ := holds.1 rests
  have plain : isPlain op = true := by rcases rests with rfl | rfl <;> rfl
  have outside : Outside count id later later := ⟨inv.1, inv.2, ready, guarantees_refl⟩
  exact ⟨outside.same (same_of_answers plain ended), above rfl⟩

/-- One round of the heartbeat task. -/
theorem safe_round (outside : Outside count id start now) (above : count ≤ id) :
    Safe audited (terms count) .heartbeat id (Goal audited (terms count) .heartbeat id)
      (audited.round .heartbeat id) start now := by
  refine ⟨⟨⟨outside.numbered, outside.free⟩, outside.guarantees,
    fun _ => ⟨outside.ready, fun _ => above⟩, nofun⟩, ?_⟩
  intro later resumed answer relied inv _ answered
  have outside := outside.answered rfl relied inv answered
  cases answer with
  | ok value => exact safe_body outside above
  | error fault => exact goal_of_above outside above

theorem sound (count : Nat) : Sound audited (terms count : AuditTerms Path) where
  rely_refl id state := .refl state
  rely_trans id first second third before after := before.trans after
  environment_inv env := env.elim
  environment_rely env := env.elim
  post_stable kind id result start now relied post fault raised below :=
    relied.changed.trans (post fault raised below)
  holdsAt_stable kind id op start now relied holds := by
    refine ⟨fun rests => ⟨(holds.1 rests).1.relies relied, (holds.1 rests).2⟩, ?_⟩
    intro session releases
    have held := holds.2 session releases
    exact (relied.held held).holder.trans held
  fresh_stable id start now relied fresh := ⟨fresh.1.relies relied, fresh.2⟩
  begins kind id state admitted _ inv fresh := by
    have outside : Outside count id state state := ⟨inv.1, inv.2, fresh.1, guarantees_refl⟩
    cases kind with
    | heartbeat => cases admitted
    | _ => exact safe_body outside fresh.2
  bears kind id later resumed answer created holds inv _ answered := by
    cases kind with
    | heartbeat =>
      obtain ⟨outside, above⟩ := outside_of_rest (.inl rfl) holds inv answered
      cases answer with
      | ok value => exact safe_round outside above
      | error fault => exact goal_of_above outside above
    | _ => cases created
  rounds kind id op later resumed answer rests holds inv _ answered := by
    cases kind with
    | heartbeat =>
      cases rests
      obtain ⟨outside, above⟩ := outside_of_rest (.inr rfl) holds inv answered
      cases answer with
      | ok value => exact safe_body outside above
      | error fault => exact goal_of_above outside above
    | _ => cases rests

end Runs

/-! ### The connector with its recoveries -/

/-- A recovery before its first step, with the generation that it has observed. -/
def recovery (id generation : Nat) :
    Pause (Scene Path) (Op Path) Answer Fault (Kind Path) (Option Reply) :=
  .waits .birth fun
    | .ok _ => do
      recover id generation
      pure none
    | .error fault => .fail fault

/-- A new connector, whose first tasks are recoveries. As every task from outside they may be cancelled
wherever they wait. -/
def recoveries (startupCwd : Path) (generations : List Nat) : Net Path :=
  ⟨.initial startupCwd, generations.mapIdx fun id generation =>
    (.listTools, recovery id generation)⟩

abbrev Audit (Path : Type) := World (Books Path) (Op Path) Answer Fault (Kind Path) (Option Reply)

/-- The task is waiting for the release of a session's lease. -/
def isReleasing (session : Nat) :
    Kind Path × Pause (Books Path) (Op Path) Answer Fault (Kind Path) (Option Reply) → Bool
  | (_, .waits (.releaseLease other) _) => other == session
  | _ => false

/-- The attempts to release a session's lease, those that have ended and those that have not. -/
def attempts (audit : Audit Path) (session : Nat) : Nat :=
  audit.state.2.released.count session + audit.tasks.countP (isReleasing session)

variable {startupCwd : Path} {generations : List Nat} {audit : Audit Path}

/-- **A recovery keeps to the terms**, and shows at its end whether it has changed anything. -/
theorem stands_recovery (id generation : Nat) :
    Stands audited (terms count) .listTools id (Scene.initial startupCwd, Ledger.empty)
      ((recovery id generation).observe ledger id) := by
  have ready : Ready id (Scene.initial startupCwd, Ledger.empty) := nofun
  refine ⟨⟨fun _ => ⟨ready, nofun⟩, nofun⟩, ?_⟩
  intro later resumed answer relied inv _ answered
  have same := same_of_answers rfl answered
  have waiting : Outside count id later later :=
    ⟨inv.1, inv.2, ready.relies relied, guarantees_refl⟩
  have outside := waiting.same same
  have unchanged : resumed.2.changed id = false := by
    rw [same.ledger]
    exact relied.changed
  cases answer with
  | error fault => exact goal_of_outside outside (fun _ _ _ => unchanged) nofun
  | ok value =>
    refine safe_observe_bind (safe_recover outside) ?_ ?_
    · rintro start _ now ⟨outside, -⟩
      exact goal_of_outside outside nofun nofun
    · rintro start fault now ⟨outside, kept⟩
      exact goal_of_outside outside (fun _ _ _ => (kept fault rfl).trans unchanged) nofun

theorem ordered_recoveries :
    Ordered audited (terms generations.length)
      ((recoveries startupCwd generations).observe ledger .empty) := by
  have accounts : Accounts none (Scene.initial startupCwd, Ledger.empty) :=
    ⟨nofun, nofun, nofun⟩
  refine ⟨⟨⟨nofun, nofun⟩, fun _ => accounts⟩, ?_, ?_⟩
  · intro id kind pause found
    have found : ((generations.mapIdx fun id generation =>
        (Kind.listTools, recovery id generation)).mapIdx (observeTask ledger))[id]? =
          some (kind, pause) := found
    rw [List.getElem?_mapIdx, List.getElem?_mapIdx] at found
    obtain ⟨task, known, eq⟩ := Option.map_eq_some_iff.mp found
    obtain ⟨generation, -, rfl⟩ := Option.map_eq_some_iff.mp known
    cases eq
    exact stands_recovery id generation
  · intro id above
    have counted : ((recoveries startupCwd generations).observe ledger Ledger.empty).tasks.length =
        generations.length := by
      simp [World.observe, recoveries]
    exact ⟨fun _ => accounts, counted ▸ above⟩

theorem ordered_of_reached (reached : Reaches audited.step (fun _ _ => True)
      ((recoveries startupCwd generations).observe ledger .empty) audit) :
    Ordered audited (terms generations.length) audit := by
  refine reached.invariant ordered_recoveries fun before label after ordered _ taken => ?_
  refine ((sound generations.length).step ordered ?_ taken).1
  cases label with
  | spawn kind => exact trivial
  | resume id answer => exact fun _ _ _ _ => trivial
  | environment env => exact trivial

/-- No release is under way while the lifecycle lock is free. -/
theorem countP_isReleasing {count : Nat} (ordered : Ordered audited (terms count) audit)
    (free : Books.holder audit.state = none) (session : Nat) :
    audit.tasks.countP (isReleasing session) = 0 := by
  refine List.countP_eq_zero.mpr fun task member releasing => ?_
  obtain ⟨id, found⟩ := List.mem_iff_getElem?.mp member
  obtain ⟨kind, pause⟩ := task
  have stands := ordered.stands id kind pause found
  cases pause with
  | ended result => cases releasing
  | waits op next =>
    cases op with
    | releaseLease other =>
      have held := stands.1.2 other rfl
      cases free.symm.trans held
    | _ => cases releasing

/-- **Every lease is accounted for.** Whenever the lifecycle lock is free, a lease that was granted is
the installed one, and was not released, or it has had exactly one attempt to release it. And no
recovery that raised has changed the installed endpoint, session, lease or generation, nor has anyone
else while it held the lock. -/
theorem every_lease_accounted (reached : Reaches audited.step (fun _ _ => True)
      ((recoveries startupCwd generations).observe ledger .empty) audit) :
    (audit.state.1.connector.lifecycleLock.holder = none →
      ∀ session ∈ audit.state.2.granted,
        (audit.state.1.connector.session = some session ∧ attempts audit session = 0) ∨
        (audit.state.1.connector.session ≠ some session ∧ attempts audit session = 1)) ∧
    ∀ id kind fault, id < generations.length →
      audit.tasks[id]? = some (kind, .ended (.error fault)) → audit.state.2.changed id = false := by
  have ordered := ordered_of_reached reached
  refine ⟨fun free session granted => ?_, fun id kind fault below ended => ?_⟩
  · have accounts := ordered.inv.2 free
    unfold attempts
    rw [countP_isReleasing ordered free session]
    by_cases installed : audit.state.1.connector.session = some session
    · exact .inl ⟨installed, (accounts.installed session installed).2⟩
    · exact .inr ⟨installed, accounts.others session granted installed nofun⟩
  · exact ordered.stands id kind _ ended fault rfl below

/-- A first session; a recovery, cancelled while it releases the lease of that one; and a recovery that
is given the lease of another daemon. -/
def recoverySteps : List (Label Unit) :=
  [.spawn .start, .resume 2 (.ok (.endpoint 7)), .resume 2 (.ok (.session 0)),
    .resume 2 (.ok (.lease true)),
    .resume 0 (.ok .unit), .resume 0 (.ok (.endpoint 8)), .resume 0 (.ok (.session 1)),
    .resume 0 (.ok (.lease true)), .resume 0 (.error .cancelled), .resume 0 (.ok .unit),
    .resume 1 (.ok .unit), .resume 1 (.ok (.endpoint 9)), .resume 1 (.ok (.session 2)),
    .resume 1 (.ok (.lease false)), .resume 1 (.ok .unit), .resume 1 (.ok .unit)]

/-- The task has raised. -/
def hasRaised (audit : Audit Path) (id : Nat) : Bool :=
  match audit.tasks[id]? with
  | some (_, .ended (.error _)) => true
  | _ => false

theorem raised_of_hasRaised {id : Nat} (raised : hasRaised audit id = true) :
    ∃ kind fault, audit.tasks[id]? = some (kind, .ended (.error fault)) := by
  unfold hasRaised at raised
  split at raised
  · rename_i found
    exact ⟨_, _, found⟩
  · cases raised

theorem every_lease_accounted_recovered :
    ∃ audit : Audit Unit, audit.state.2.granted = [2, 1, 0] ∧
      audit.state.1.connector.session = some 1 ∧ attempts audit 0 = 1 ∧ attempts audit 1 = 0 ∧
      attempts audit 2 = 1 ∧ audit.state.2.changed 0 = true ∧ audit.state.2.changed 1 = false := by
  obtain ⟨audit, run, free, granted, installed, changed, raised⟩ := Reaches.of_run audited.step
    (fun _ _ => True) ((recoveries () [1, 2]).observe ledger .empty) recoverySteps (fun audit =>
      audit.state.1.connector.lifecycleLock.holder = none ∧ audit.state.2.granted = [2, 1, 0] ∧
      audit.state.1.connector.session = some 1 ∧ audit.state.2.changed 0 = true ∧
      hasRaised audit 1 = true) (by decide +kernel)
  obtain ⟨kind, fault, ended⟩ := raised_of_hasRaised raised
  obtain ⟨accounted, unchanged⟩ := every_lease_accounted run
  have leased := accounted free
  rw [granted, installed] at leased
  refine ⟨audit, granted, installed, ?_, ?_, ?_, changed, unchanged 1 kind fault (by decide) ended⟩
  · simpa using leased 0 (by decide)
  · simpa using leased 1 (by decide)
  · simpa using leased 2 (by decide)

end SerenaLight.Connector.Leases
