/-
**What the answers to a connector's operations can do.**

- `Answered`: an answer changes no attribute of the connector, and of the heartbeat tasks only the pending
  cancellation of the one that is answered.
- `Modest`: a write that cancels nothing, and replaces a session only with a new generation. Sessions are
  opened and recovered, and the heartbeat goes on, by such writes only.
-/

import SerenaLight.Connector.Programs

namespace SerenaLight.Connector

open Foundation Coro

variable {Path : Type}

/-! ### Answers -/

/-- What an answer to the task `id` leaves alone. -/
structure Answered (id : Nat) (before after : Scene Path) : Prop where
  connector : after.connector = before.connector
  numbers : before.nextSession ≤ after.nextSession
  beats : after.beats = before.beats
  recovering : after.recovering = before.recovering
  cancelling : ∀ other, other ≠ id → after.cancelling other = before.cancelling other
  halted : after.halted = before.halted

theorem Answered.refl {id : Nat} (scene : Scene Path) : Answered id scene scene :=
  ⟨rfl, Nat.le_refl _, rfl, rfl, fun _ _ => rfl, rfl⟩

theorem answered_connect (id : Nat) (scene : Scene Path) :
    Answered id scene { scene with nextSession := scene.nextSession + 1 } :=
  ⟨rfl, Nat.le_succ _, rfl, rfl, fun _ _ => rfl, rfl⟩

theorem answered_deliver (id : Nat) (scene : Scene Path) :
    Answered id scene
      { scene with cancelling := Function.update scene.cancelling id false } :=
  ⟨rfl, Nat.le_refl _, rfl, rfl, fun _ different => Function.update_of_ne different _ _, rfl⟩

section Answers

variable {scene resumed : Scene Path} {id : Nat} {op : Op Path}

theorem answered_of_succeed {answer : Answer} (ended : scene.succeed id op answer = some resumed) :
    Answered id scene resumed := by
  unfold Scene.succeed at ended
  split at ended <;> (try split at ended) <;> cases ended <;> first
    | exact .refl _
    | (subst_vars; exact answered_connect _ _)

variable {fault : Fault} {answer : Except Fault Answer} {kind : Kind Path}

theorem eq_of_raise (ended : scene.raise op = some resumed) : resumed = scene := by
  unfold Scene.raise at ended
  split at ended <;> cases ended
  rfl

theorem eq_of_interrupt (ended : scene.interrupt op = some resumed) : resumed = scene := by
  unfold Scene.interrupt at ended
  split at ended <;> cases ended
  rfl

theorem answered_of_deliver
    (ended : scene.deliver id op answer = some resumed) : Answered id scene resumed := by
  unfold Scene.deliver at ended
  split at ended <;> cases ended
  · exact answered_deliver _ _
  · exact answered_deliver _ _

/-- **What any answer leaves alone.** -/
theorem answered_of_answers (ended : Scene.answers kind id scene op answer = some resumed) :
    Answered id scene resumed := by
  unfold Scene.answers at ended
  split at ended
  · exact answered_of_deliver ended
  · split at ended
    · exact answered_of_succeed ended
    · split at ended
      · cases ended
      · exact eq_of_interrupt ended ▸ .refl _
    · exact eq_of_raise ended ▸ .refl _

/-- A value is the operation's own, but where a session's `aclose` suppresses a cancellation. -/
theorem succeed_of_answers {answer : Answer}
    (ended : Scene.answers kind id scene op (.ok answer) = some resumed)
    (other : ∀ session, op ≠ .closeSession session) :
    scene.succeed id op answer = some resumed := by
  unfold Scene.answers at ended
  split at ended
  · unfold Scene.deliver at ended
    split at ended
    · exact absurd rfl (other _)
    · rename_i eq
      cases eq
    · cases ended
  · exact ended

/-- A lock is granted to its holder. -/
theorem holder_of_answers {which : LockName} {answer : Answer}
    (ended : Scene.answers kind id scene (.lock which) (.ok answer) = some resumed) :
    (resumed.connector.lock which).holder = some id := by
  rw [(answered_of_answers ended).connector]
  have granted := succeed_of_answers ended (fun _ => nofun)
  cases answer <;> simp only [Scene.succeed, reduceCtorEq] at granted
  split at granted
  · rename_i held
    exact held
  · cases granted

end Answers

/-! ### What holds of every program outside the lifecycle lock -/

section Traversal

variable {holds : ∀ {Value : Type}, Task Path Value → Prop}
  {writes : (Scene Path → Scene Path) → Prop} {waits : Op Path → Prop} {self : Nat}

/-- The suspensions of a request. -/
structure Requests (waits : Op Path → Prop) (request : Request Path) : Prop where
  identity : ∀ generation, waits (.identity (some request) generation)
  sends : ∀ session, waits (.request session request)

namespace Structural

variable (structural : Structural holds writes waits)

include structural

theorem acquire {which : LockName} (locks : ∀ update, writes (setLock which update))
    (queues : waits (.lock which)) : holds (acquire self which) := by
  refine structural.binds structural.reads fun scene => ?_
  split
  · exact structural.updates (locks _)
  · refine structural.binds (structural.updates (locks _)) fun _ => ?_
    refine structural.binds (structural.handles (structural.awaits queues) fun fault => ?_)
      fun _ => structural.returns _
    exact structural.binds (structural.updates (locks _)) fun _ => structural.raises _

theorem withLock {Value : Type} {which : LockName} {body : Task Path Value}
    (locks : ∀ update, writes (setLock which update)) (queues : waits (.lock which))
    (inside : holds body) : holds (withLock self which body) :=
  structural.binds (acquire structural locks queues) fun _ => structural.ensures inside (locks _)

theorem snapshot : holds (snapshot : Task Path (Nat × Nat)) := by
  refine structural.binds structural.reads fun scene => ?_
  split
  · exact structural.raises _
  · split
    · exact structural.raises _
    · exact structural.returns _

theorem assertDaemonIdentity {request : Option (Request Path)} {generation : Nat}
    (asks : waits (.identity request generation)) :
    holds (assertDaemonIdentity request generation) := by
  refine structural.binds (structural.handles (structural.awaits asks) fun fault =>
    structural.raises _) fun discovered => ?_
  refine structural.binds structural.reads fun scene => ?_
  split
  · exact structural.returns _
  · exact structural.raises _

theorem concludeRequest (request : Request Path) (answer : Answer) :
    holds (concludeRequest request answer) := by
  unfold Connector.concludeRequest
  split
  · split
    · split
      · exact structural.returns _
      · exact structural.raises _
    · exact structural.returns _
  · exact structural.raises _

variable {request : Request Path} (requests : Requests waits request)

include requests

theorem attempt (session generation : Nat) : holds (attempt session generation request) := by
  refine structural.binds (assertDaemonIdentity structural (requests.identity generation))
    fun _ => ?_
  exact structural.binds (structural.awaits (requests.sends session))
    (concludeRequest structural request)

theorem firstAttempt (session generation : Nat) :
    holds (firstAttempt session generation request) := by
  refine structural.handles (structural.binds (attempt structural requests session generation)
    fun result => structural.binds structural.reads fun scene => ?_) fun fault => ?_
  · split <;> exact structural.returns _
  · split
    · exact structural.returns _
    · exact structural.raises _

theorem retryAttempt : holds (retryAttempt request) := by
  refine structural.binds (snapshot structural) fun taken => ?_
  refine structural.binds (attempt structural requests _ _) fun result => ?_
  refine structural.binds structural.reads fun scene => ?_
  split
  · exact structural.returns _
  · exact structural.raises _

omit requests

theorem recoverForUncertain (generation : Nat) (recovers : holds (recover self generation)) :
    holds (recoverForUncertain self generation) :=
  structural.handles (structural.binds recovers fun _ => structural.returns _)
    fun _ => structural.returns _

variable (starts : holds (Connector.start self))
  (recovers : ∀ generation, holds (recover self generation))

include starts recovers

theorem invokeWithRecovery (requests : Requests waits request)
    (retryable uncertainOnLoss : Bool) (operation : String) :
    holds (invokeWithRecovery self request retryable uncertainOnLoss operation) := by
  refine structural.binds starts fun _ => structural.binds (snapshot structural)
    fun taken => structural.binds (firstAttempt structural requests _ _) fun first => ?_
  split
  · exact structural.returns _
  · split
    · exact structural.binds (recoverForUncertain structural _ (recovers _))
        fun recovery => structural.returns _
    · split
      · exact structural.raises _
      · exact structural.binds (structural.handles (recovers _) fun _ => structural.raises _)
          fun _ => retryAttempt structural requests

/-- The writes of the start-up binding. -/
theorem ensureStartupBinding (locks : ∀ update, writes (setLock .binding update))
    (queues : waits (.lock .binding))
    (remembers : ∀ binding, writes fun scene =>
      { scene with connector := scene.connector.remember binding })
    (requests : ∀ path, Requests waits (.startup path)) :
    holds (ensureStartupBinding self) := by
  refine withLock structural locks queues (structural.binds structural.reads fun scene => ?_)
  split
  · exact structural.returns _
  · exact structural.binds (invokeWithRecovery structural starts recovers (requests _) _ _ _)
      fun _ => structural.updates (remembers _)

omit starts

theorem recoverBeat (marks : ∀ recovering, writes fun scene =>
    { scene with recovering := Function.update scene.recovering self recovering })
    (generation : Nat) : holds (recoverBeat self generation) :=
  structural.handles (structural.ensures (structural.binds (structural.updates (marks true))
    fun _ => recovers _) (marks false)) fun _ => structural.returns _

theorem beat (marks : ∀ recovering, writes fun scene =>
    { scene with recovering := Function.update scene.recovering self recovering })
    (asks : ∀ generation, waits (.identity none generation))
    (beats : ∀ session, waits (.heartbeat session)) :
    holds (beat self) := by
  refine structural.handles (structural.binds (snapshot structural) fun taken => ?_) fun fault => ?_
  · refine structural.handles (structural.binds (assertDaemonIdentity structural (asks _))
      fun _ => structural.binds (structural.awaits (beats _)) fun _ => structural.returns _)
      fun fault => ?_
    split
    · exact recoverBeat structural recovers marks _
    · exact structural.raises _
  · split
    · exact structural.raises _
    · exact structural.returns _

omit recovers

theorem stopHeartbeat (forgets : writes fun scene =>
    { scene with connector := { scene.connector with heartbeatTask := none } })
    (cancels : ∀ task, writes (cancel task)) (joins : ∀ task, waits (.join task)) :
    holds (stopHeartbeat : Task Path Unit) := by
  refine structural.binds structural.reads fun scene => ?_
  refine structural.binds (structural.updates forgets) fun _ => ?_
  split
  · exact structural.returns _
  · refine structural.binds (structural.updates (cancels _)) fun _ => ?_
    refine structural.binds (structural.handles (structural.awaits (joins _)) fun fault => ?_)
      fun _ => structural.returns _
    split
    · exact structural.returns _
    · exact structural.raises _

theorem prepareCall (call : ToolCall Path) (binds : holds (Connector.ensureStartupBinding self)) :
    holds (prepareCall self call) := by
  unfold Connector.prepareCall
  split
  · exact structural.returns _
  · exact binds

theorem rememberCall (remembers : ∀ binding, writes fun scene =>
    { scene with connector := scene.connector.remember binding })
    (call : ToolCall Path) (reply : Reply) : holds (rememberCall call reply) := by
  unfold Connector.rememberCall
  split
  · split
    · split
      · exact structural.raises _
      · exact structural.updates (remembers _)
    · split
      · exact structural.updates (remembers _)
      · exact structural.returns _
  · exact structural.returns _

theorem callTool (call : ToolCall Path) (prepares : holds (Connector.prepareCall self call))
    (invokes : ∀ retryable uncertainOnLoss operation, holds
      (Connector.invokeWithRecovery self (.tool call) retryable uncertainOnLoss operation))
    (remembers : ∀ reply, holds (Connector.rememberCall call reply)) :
    holds (callTool self call) := by
  unfold Connector.callTool
  split
  · exact structural.returns _
  · refine structural.binds prepares fun _ => structural.binds (invokes _ _ _) fun reply => ?_
    exact structural.binds (remembers reply) fun _ => structural.returns _

end Structural

end Traversal

/-! ### Programs that send no request of a tool and cancel nothing -/

/-- The operation is the identity check of a tool's request, or that request. -/
def Op.concernsTool : Op Path → Bool
  | .identity (some (.tool _)) _ | .request _ (.tool _) => true
  | _ => false

/-- What the methods that keep a session up leave alone. -/
structure Modest (before after : Scene Path) : Prop where
  grows : before.connector.generation ≤ after.connector.generation
  session : after.connector.generation = before.connector.generation →
    after.connector.session = before.connector.session
  cancelling : after.cancelling = before.cancelling

theorem Modest.refl (scene : Scene Path) : Modest scene scene :=
  ⟨Nat.le_refl _, fun _ => rfl, rfl⟩

/-- The generation and the session as they were. -/
theorem Modest.of_eq {before after : Scene Path}
    (generation : after.connector.generation = before.connector.generation)
    (session : after.connector.session = before.connector.session)
    (cancelling : after.cancelling = before.cancelling) : Modest before after :=
  ⟨Nat.le_of_eq generation.symm, fun _ => session, cancelling⟩

/-- A new session comes with a new generation. -/
theorem modest_installSession (opened : Nat × Nat) (scene : Scene Path) :
    Modest scene (installSession opened scene) :=
  ⟨Nat.le_succ _, fun same => absurd same (Nat.succ_ne_self _), rfl⟩

/-- A program of such writes. -/
abbrev OnlyModest {Value : Type} (program : Task Path Value) : Prop :=
  Only Modest (fun op => op.concernsTool = false) (fun kind => kind = .heartbeat) program

section Modest

variable (self : Nat)

theorem modest_setLock (which : LockName) (update : Lock → Lock) (scene : Scene Path) :
    Modest scene (setLock which update scene) := by
  cases which <;> exact .of_eq rfl rfl rfl

theorem modest_structural : @Structural (Scene Path) (Op Path) Answer Fault (Kind Path)
    OnlyModest (fun update => ∀ scene, Modest scene (update scene))
    (fun op => op.concernsTool = false) :=
  only_structural Modest.refl

theorem modest_get : OnlyModest (get : Task Path (Scene Path)) := only_get Modest.refl

theorem modest_withLock {Value : Type} {self : Nat} {which : LockName} {body : Task Path Value}
    (modest : OnlyModest body) : OnlyModest (withLock self which body) :=
  Structural.withLock modest_structural (modest_setLock which) rfl modest

theorem modest_suppress {op : Op Path} (other : op.concernsTool = false) :
    OnlyModest (suppress (wait op)) :=
  only_handle (only_wait other) fun _ => only_pure _

theorem modest_discardSession (session : Nat) :
    OnlyModest (discardSession session : Task Path Unit) :=
  only_bind (modest_suppress rfl) fun _ => only_bind (modest_suppress rfl) fun _ => only_pure _

theorem modest_connectSession : OnlyModest (connectSession : Task Path (Nat × Nat)) := by
  refine only_bind (only_wait rfl) fun found => ?_
  split
  · refine only_bind (only_wait rfl) fun connected => ?_
    split <;> exact trivial
  · exact trivial

theorem modest_leaseSession (session : Nat) :
    OnlyModest (leaseSession session : Task Path Answer) :=
  only_handle (only_wait rfl) fun _ => only_bind (modest_suppress rfl) fun _ => trivial

theorem modest_bindSession (session : Nat) (lease : Answer) (binding : Option (Binding Path)) :
    OnlyModest (bindSession session lease binding) := by
  refine only_handle ?_ fun fault => only_bind (modest_discardSession session) fun _ => trivial
  split
  · exact trivial
  · cases binding with
    | none => exact trivial
    | some binding => exact only_bind (only_wait rfl) fun _ => only_pure _

theorem modest_openSession (binding : Option (Binding Path)) : OnlyModest (openSession binding) :=
  only_bind modest_connectSession fun opened =>
    only_bind (modest_leaseSession opened.2) fun lease =>
      only_bind (modest_bindSession opened.2 lease binding) fun _ => only_pure _

theorem modest_openFirst : OnlyModest (openFirst : Task Path Unit) := by
  refine only_bind (modest_openSession none) fun opened => ?_
  refine only_bind (only_modify (modest_installSession opened)) fun _ => ?_
  exact only_bind (only_create rfl fun task scene => .of_eq rfl rfl rfl) fun task => trivial

theorem modest_start : OnlyModest (start self : Task Path Unit) := by
  refine modest_withLock (only_bind modest_get fun scene => ?_)
  split
  · exact trivial
  · split
    · exact trivial
    · exact modest_openFirst

theorem modest_replaceSession (binding : Option (Binding Path)) :
    OnlyModest (replaceSession binding) := by
  refine only_bind (modest_openSession _) fun opened => ?_
  refine only_bind modest_get fun scene => ?_
  refine only_bind (only_modify (modest_installSession opened)) fun _ => ?_
  split
  · exact trivial
  · exact modest_discardSession _

theorem modest_recover (generation : Nat) :
    OnlyModest (recover self generation : Task Path Unit) := by
  refine modest_withLock (only_bind modest_get fun scene => ?_)
  split
  · exact trivial
  · split
    · exact trivial
    · exact modest_replaceSession _

theorem modest_beat : OnlyModest (beat self : Task Path Unit) :=
  Structural.beat modest_structural (modest_recover self) (fun _ _ => .of_eq rfl rfl rfl)
    (fun _ => rfl) fun _ => rfl

end Modest

/-! ### Programs that do not suspend -/

section Segments

variable {terms : Terms Path}
  {kind : Kind Path} {id : Nat} {start now : Scene Path}

theorem safe_snapshot {goal : Scene Path → Except Fault (Nat × Nat) → Scene Path → Prop}
    (raises : goal start (.error .connectorError) now)
    (returns : ∀ session, now.connector.closed = false → now.connector.session = some session →
      goal start (.ok (session, now.connector.generation)) now) :
    Discipline.Safe connector terms kind id goal snapshot start now := by
  refine Discipline.safe_get_bind ?_
  split
  · exact raises
  · rename_i opened
    split
    · exact raises
    · rename_i session installed
      exact returns session (by simpa using opened) installed

end Segments

end SerenaLight.Connector
