/-
**A tool request is sent at most once, or twice where that is harmless.**

Sessions are lost and replaced while calls are in flight: by the call itself, by other calls, by the
heartbeat.

- `ledger`: the record of a run. It files the session of every generation when it is installed, and of
  every task the requests of tools that have ended, each with its session and its answer, whether its
  session was lost, and the generation at its return. `audited` is the connector that keeps it; the
  programs know nothing of it.
- `terms`: what every task keeps to. What the ledger has of a task is written by that task's own
  operations, generations only grow, and the session of a generation stays the one that was filed.
- `forwarded_calls`: in every run, a tool outside the read-only set is sent at most once and a
  read-only tool at most twice; a call that lost its session, or whose session was replaced, does not
  return the daemon's result but `uncertain`, unless it is read-only; and a result that is returned is
  the answer of the session of the generation that is current at the return.
-/

import SerenaLight.Connector.Steps
import SerenaLight.Foundation.Observed

namespace SerenaLight.Connector.Calls

open Foundation Coro Discipline

variable {Path : Type}

/-! ### The ledger -/

/-- What a run has seen of the calls. -/
structure Ledger where
  /-- the session that was installed for each generation -/
  sessions : Nat → Option Nat
  /-- the requests of a tool that have ended, by their task: the session and the answer, last one first -/
  requests : Nat → List (Nat × Except Fault Answer)
  /-- the tasks that have lost the session of their tool's request -/
  lost : Nat → Bool
  /-- the generation at the end of a task -/
  returned : Nat → Option Nat

def Ledger.empty : Ledger := ⟨fun _ => none, fun _ => [], fun _ => false, fun _ => none⟩

/-- The operation is the request of a tool. -/
def sendsTool : Op Path → Bool
  | .request _ (.tool _) => true
  | _ => false

/-- A tool's request loses its session: the identity check finds another daemon, another generation
or nothing at all, or the request itself ends so. -/
def loses (scene : Scene Path) : Op Path → Except Fault Answer → Bool
  | .identity (some (.tool _)) generation, .ok (.endpoint endpoint) =>
    !(scene.connector.generation = generation ∧ scene.connector.endpoint = some endpoint)
  | .identity (some (.tool _)) _, .error fault => fault.isException
  | .request _ (.tool _), .error fault => fault.isSessionLost
  | _, _ => false

def ledger : Observer (Scene Path) (Op Path) Answer Fault Ledger where
  writes := fun _ before after ledger =>
    if after.connector.generation = before.connector.generation then ledger
    else
      { ledger with
        sessions := Function.update ledger.sessions after.connector.generation
          after.connector.session }
  answers := fun id scene op answer ledger =>
    { ledger with
      requests :=
        match op with
        | .request session (.tool _) =>
          Function.update ledger.requests id ((session, answer) :: ledger.requests id)
        | _ => ledger.requests
      lost := Function.update ledger.lost id (ledger.lost id || loses scene op answer) }
  ends := fun id scene ledger =>
    { ledger with returned := Function.update ledger.returned id (some scene.connector.generation) }

/-- The connector with its ledger. -/
abbrev Audit (Path : Type) := Scene Path × Ledger

abbrev audited : Model (Audit Path) (Op Path) Answer Fault (Kind Path) (Option Reply) Empty :=
  connector.observe ledger

abbrev AuditTerms (Path : Type) :=
  Discipline (Audit Path) (Op Path) Answer Fault (Kind Path) (Option Reply)

/-- The generation in force. -/
abbrev current (audit : Audit Path) : Nat := audit.1.connector.generation

/-! ### Terms -/

/-- How often the request of a task may be sent. -/
def allowance : Kind Path → Nat
  | .callTool call => if call.name ∈ readOnlyTools then 2 else 1
  | _ => 0

/-- A request of the task went to a session that is not the one of the generation at its return. -/
def Ledger.Replaced (ledger : Ledger) (id : Nat) : Prop :=
  ∃ generation, ledger.returned id = some generation ∧
    ∃ sent ∈ ledger.requests id, ledger.sessions generation ≠ some sent.1

/-- What the ledger says of the reply that a call returned. -/
structure Accounted (call : ToolCall Path) (id : Nat) (ledger : Ledger) (reply : Reply) : Prop where
  uncertain : call.name ∉ readOnlyTools → ledger.lost id = true ∨ ledger.Replaced id →
    ∃ loss recovery, reply = .uncertain call.name loss recovery
  current : ∀ result, reply = .answered result → ∃ generation session older,
    ledger.returned id = some generation ∧ ledger.sessions generation = some session ∧
      ledger.requests id = (session, .ok (.result result)) :: older

/-- What the ledger says of the end of a task. -/
def Concluded : Kind Path → Nat → Ledger → Except Fault (Option Reply) → Prop
  | .callTool call, id, ledger, .ok (some reply) => Accounted call id ledger reply
  | _, _, _, _ => True

/-- The session that is installed is the one filed for its generation. -/
def Filed (audit : Audit Path) : Prop :=
  ∀ session, audit.1.connector.session = some session → audit.2.sessions (current audit) = some session

/-- What a suspended task relies on. -/
structure Relies (id : Nat) (before after : Audit Path) : Prop where
  requests : after.2.requests id = before.2.requests id
  lost : after.2.lost id = before.2.lost id
  returned : after.2.returned id = before.2.returned id
  grows : current before ≤ current after
  sessions : ∀ generation, generation ≤ current before →
    after.2.sessions generation = before.2.sessions generation

/-- What is known once a task has ended. -/
structure Ended (kind : Kind Path) (id : Nat) (result : Except Fault (Option Reply))
    (audit : Audit Path) : Prop where
  few : (audit.2.requests id).length ≤ allowance kind
  concluded : Concluded kind id audit.2 result
  past : ∀ generation, audit.2.returned id = some generation → generation ≤ current audit

/-- The terms between the tasks. -/
def terms : AuditTerms Path where
  starts := fun _ _ => True
  permits := fun _ _ _ _ _ => True
  inv := Filed
  rely := Relies
  holdsAt := fun kind id op audit =>
    (audit.2.requests id).length + (sendsTool op).toNat ≤ allowance kind
  post := Ended
  fresh := fun id audit => audit.2.requests id = [] ∧ audit.2.lost id = false

namespace Relies

variable {id : Nat} {first second third : Audit Path}

theorem refl (audit : Audit Path) : Relies id audit audit :=
  ⟨rfl, rfl, rfl, Nat.le_refl _, fun _ _ => rfl⟩

theorem trans (before : Relies id first second) (after : Relies id second third) :
    Relies id first third where
  requests := after.requests.trans before.requests
  lost := after.lost.trans before.lost
  returned := after.returned.trans before.returned
  grows := Nat.le_trans before.grows after.grows
  sessions generation below :=
    (after.sessions generation (Nat.le_trans below before.grows)).trans
      (before.sessions generation below)

/-- What has ended keeps its record: the generation at its return is a past one. -/
theorem ended {kind : Kind Path} {result : Except Fault (Option Reply)}
    (relies : Relies id first second) (ended : Ended kind id result first) :
    Ended kind id result second where
  few := by
    rw [relies.requests]
    exact ended.few
  concluded := by
    have concluded := ended.concluded
    unfold Concluded at concluded ⊢
    split
    · refine ⟨fun edits gone => concluded.uncertain edits (gone.imp ?_ ?_), fun result eq => ?_⟩
      · exact fun lost => relies.lost.symm.trans lost
      · rintro ⟨generation, returned, sent, member, other⟩
        rw [relies.returned] at returned
        rw [relies.requests] at member
        rw [relies.sessions generation (ended.past generation returned)] at other
        exact ⟨generation, returned, sent, member, other⟩
      · obtain ⟨generation, session, older, returned, filed, answered⟩ := concluded.current result eq
        refine ⟨generation, session, older, relies.returned.trans returned, ?_,
          relies.requests.trans answered⟩
        exact (relies.sessions generation (ended.past generation returned)).trans filed
    · exact trivial
  past generation returned :=
    Nat.le_trans (ended.past generation (relies.returned.symm.trans returned)) relies.grows

end Relies

/-! ### Segments -/

/-- A write that replaces the session only together with the generation. -/
structure Quiet (before after : Scene Path) : Prop where
  grows : before.connector.generation ≤ after.connector.generation
  session : after.connector.generation = before.connector.generation →
    after.connector.session = before.connector.session ∨ after.connector.session = none

namespace Quiet

variable {before after : Scene Path}

theorem of_modest (modest : Modest before after) : Quiet before after :=
  ⟨modest.grows, fun same => .inl (modest.session same)⟩

theorem of_eq (generation : after.connector.generation = before.connector.generation)
    (session : after.connector.session = before.connector.session) : Quiet before after :=
  ⟨Nat.le_of_eq generation.symm, fun _ => .inl session⟩

theorem refl (scene : Scene Path) : Quiet scene scene := .of_eq rfl rfl

end Quiet

/-- A segment of a task, with what the ledger has of its requests. -/
structure Sent (id : Nat) (requests : List (Nat × Except Fault Answer)) (lost : Bool)
    (start now : Audit Path) : Prop where
  filed : Filed now
  guarantees : Guarantees terms id start now
  requests : now.2.requests id = requests
  lost : now.2.lost id = lost

/-- A session, with the generation for which it was installed. -/
structure Taken (session generation : Nat) (audit : Audit Path) : Prop where
  filed : audit.2.sessions generation = some session
  past : generation ≤ current audit

theorem Taken.relies {id session generation : Nat} {before after : Audit Path}
    (taken : Taken session generation before) (relies : Relies id before after) :
    Taken session generation after :=
  ⟨(relies.sessions generation taken.past).trans taken.filed, Nat.le_trans taken.past relies.grows⟩

section Segments

variable {kind : Kind Path} {id session generation : Nat} {start now after later resumed : Audit Path}
  {requests : List (Nat × Except Fault Answer)} {lost : Bool} {op : Op Path}
  {answer : Except Fault Answer}

theorem guarantees_refl : Guarantees terms id now now := fun _ _ => .refl now

theorem guarantees_trans (first : Guarantees terms id start now)
    (second : Guarantees terms id now after) : Guarantees terms id start after :=
  fun other different => (first other different).trans (second other different)

/-- A write files the session of a new generation, and touches none that was filed. -/
theorem relies_write (other : Nat) (grows : current now ≤ current after)
    (written : after.2 = ledger.writes id now.1 after.1 now.2) : Relies other now after := by
  simp only [ledger] at written
  split at written
  · exact ⟨by rw [written], by rw [written], by rw [written], grows, fun _ _ => by rw [written]⟩
  · rename_i differs
    refine ⟨by rw [written], by rw [written], by rw [written], grows, fun generation below => ?_⟩
    have earlier : generation < current after :=
      Nat.lt_of_le_of_lt below (Nat.lt_of_le_of_ne grows (Ne.symm differs))
    rw [written]
    exact Function.update_of_ne (Nat.ne_of_lt earlier) _ _

theorem filed_write (filed : Filed now) (quiet : Quiet now.1 after.1)
    (written : after.2 = ledger.writes id now.1 after.1 now.2) : Filed after := by
  intro session installed
  simp only [ledger] at written
  split at written
  · rename_i same
    rcases quiet.session same with kept | none
    · rw [written, show current after = current now from same]
      exact filed session (kept.symm.trans installed)
    · cases none.symm.trans installed
  · rw [written]
    exact (Function.update_self _ _ _).trans installed

theorem Sent.write (sent : Sent id requests lost start now) (quiet : Quiet now.1 after.1)
    (written : after.2 = ledger.writes id now.1 after.1 now.2) :
    Sent id requests lost start after := by
  have own : Relies id now after := relies_write id quiet.grows written
  refine ⟨filed_write sent.filed quiet written, ?_, own.requests.trans sent.requests,
    own.lost.trans sent.lost⟩
  exact guarantees_trans sent.guarantees fun other _ => relies_write other quiet.grows written

/-- The others have gone on. -/
theorem Sent.relied (sent : Sent id requests lost start now) (relied : terms.rely id now later)
    (inv : terms.inv later) : Sent id requests lost later later :=
  ⟨inv, guarantees_refl, relied.requests.trans sent.requests, relied.lost.trans sent.lost⟩

theorem connector_of_answers (ended : audited.answers kind id later op answer = some resumed) :
    resumed.1.connector = later.1.connector :=
  (answered_of_answers (Model.answers_of_observe ended).1).connector

/-- What an answer leaves alone: the connector, and what the ledger has of the other tasks. -/
theorem relies_answer (ended : audited.answers kind id later op answer = some resumed)
    {other : Nat} (different : other ≠ id) : Relies other later resumed := by
  have recorded := (Model.answers_of_observe ended).2
  have same := connector_of_answers ended
  refine ⟨?_, ?_, by rw [recorded]; rfl, by simp [current, same], fun _ _ => by rw [recorded]; rfl⟩
  · rw [recorded]
    simp only [ledger]
    split
    · exact Function.update_of_ne different _ _
    · rfl
  · rw [recorded]
    exact Function.update_of_ne different _ _

/-- An answer, with what it adds to the record of its task. -/
theorem Sent.answered (sent : Sent id requests lost later later)
    (ended : audited.answers kind id later op answer = some resumed) :
    Sent id ((ledger.answers id later.1 op answer later.2).requests id)
      (lost || loses later.1 op answer) later resumed := by
  have recorded := (Model.answers_of_observe ended).2
  have same := connector_of_answers ended
  refine ⟨fun session installed => ?_, fun other different => relies_answer ended different, ?_, ?_⟩
  · have filed := sent.filed session (by rw [← same]; exact installed)
    rw [recorded, current, same]
    exact filed
  · rw [recorded]
  · rw [recorded, ← sent.lost]
    exact Function.update_self _ _ _

theorem taken_answer (taken : Taken session generation later)
    (ended : audited.answers kind id later op answer = some resumed) :
    Taken session generation resumed :=
  taken.relies (relies_answer ended (Nat.succ_ne_self id))

/-- An operation that is no tool's leaves the record as it was. -/
theorem Sent.other (sent : Sent id requests lost start now) (plain : op.concernsTool = false)
    (relied : terms.rely id now later) (inv : terms.inv later)
    (ended : audited.answers kind id later op answer = some resumed) :
    Sent id requests lost later resumed := by
  have still := sent.relied relied inv
  have answered := still.answered ended
  have kept : (ledger.answers id later.1 op answer later.2).requests id = requests := by
    rw [← still.requests]
    simp only [ledger]
    split
    · cases plain
    · rfl
  have safe : (lost || loses later.1 op answer) = lost := by
    unfold loses
    split <;> first | cases plain | exact Bool.or_false lost
  rw [kept, safe] at answered
  exact answered

theorem Sent.suspends (sent : Sent id requests lost start now)
    (allowed : requests.length + (sendsTool op).toNat ≤ allowance kind) :
    terms.inv now ∧ Guarantees terms id start now ∧ terms.holdsAt kind id op now := by
  refine ⟨sent.filed, sent.guarantees, ?_⟩
  show (now.2.requests id).length + _ ≤ _
  rw [sent.requests]
  exact allowed

/-- A read leaves the record alone. -/
theorem safe_observe_get {Value : Type} {rest : Scene Path → Task Path Value}
    {goal : Audit Path → Except Fault Value → Audit Path → Prop}
    (safe : Safe audited terms kind id goal ((rest now.1).observe ledger id) start now) :
    Safe audited terms kind id goal ((get >>= rest).observe ledger id) start now := by
  have same : noted ledger id (fun scene => scene) now = now := Prod.ext rfl (if_pos rfl)
  show Safe audited terms kind id goal ((rest now.1).observe ledger id) start
    (noted ledger id (fun scene => scene) now)
  rw [same]
  exact safe

end Segments

/-! ### Programs that send no request of a tool -/

/-- A program that sends no request of a tool. -/
abbrev Silent {Value : Type} (program : Task Path Value) : Prop :=
  Only Quiet (fun op => op.concernsTool = false) (fun kind => kind = .heartbeat) program

section Silent

theorem silent_of_modest {Value : Type} {program : Task Path Value} (modest : OnlyModest program) :
    Silent program :=
  modest.mono (fun _ _ => .of_modest) (fun _ other => other) fun _ created => created

theorem silent_structural : @Structural (Scene Path) (Op Path) Answer Fault (Kind Path)
    Silent (fun update => ∀ scene, Quiet scene (update scene)) (fun op => op.concernsTool = false) :=
  only_structural Quiet.refl

variable (id : Nat)

theorem silent_invokeWithRecovery {request : Request Path} (other : ∀ call, request ≠ .tool call)
    (retryable uncertainOnLoss : Bool) (operation : String) :
    Silent (invokeWithRecovery id request retryable uncertainOnLoss operation) := by
  refine Structural.invokeWithRecovery silent_structural (silent_of_modest (modest_start id))
    (fun generation => silent_of_modest (modest_recover id generation)) ?_
    retryable uncertainOnLoss operation
  cases request with
  | tool call => exact absurd rfl (other call)
  | _ => exact ⟨fun _ => rfl, fun _ => rfl⟩

theorem silent_recoverForUncertain (generation : Nat) :
    Silent (recoverForUncertain id generation : Task Path (Option Fault)) :=
  Structural.recoverForUncertain silent_structural generation
    (silent_of_modest (modest_recover id generation))

theorem silent_prepareCall (call : ToolCall Path) : Silent (prepareCall id call) := by
  refine Structural.prepareCall silent_structural call ?_
  exact Structural.ensureStartupBinding silent_structural (silent_of_modest (modest_start id))
    (fun generation => silent_of_modest (modest_recover id generation))
    (fun update scene => .of_modest (modest_setLock .binding update scene)) rfl
    (fun _ _ => .of_eq rfl rfl) fun _ => ⟨fun _ => rfl, fun _ => rfl⟩

theorem quiet_cancel (task : Nat) (scene : Scene Path) : Quiet scene (cancel task scene) := by
  unfold cancel
  split
  · exact .refl scene
  · exact .of_eq rfl rfl

/-- `aclose` takes the session away, and leaves its generation. -/
theorem silent_aclose : Silent (aclose id : Task Path Unit) := by
  refine only_bind (Structural.stopHeartbeat silent_structural
    (fun _ => .of_eq rfl rfl) quiet_cancel fun _ => rfl) fun _ => ?_
  refine Structural.withLock silent_structural
    (fun update scene => .of_modest (modest_setLock .lifecycle update scene)) rfl
    (only_bind (only_get Quiet.refl) fun scene => ?_)
  split
  · exact trivial
  · refine only_bind (only_modify fun scene => ⟨Nat.le_refl _, fun _ => .inr rfl⟩) fun _ => ?_
    split
    · exact trivial
    · exact silent_of_modest (modest_discardSession _)

variable {id} {kind : Kind Path} {start now : Audit Path}
  {requests : List (Nat × Except Fault Answer)} {lost : Bool}

/-- **A silent program sends nothing.** -/
theorem safe_silent {Value : Type} {program : Task Path Value} (silent : Silent program)
    (allowed : requests.length ≤ allowance kind) (sent : Sent id requests lost start now) :
    Safe audited terms kind id (fun start _ now => Sent id requests lost start now)
      (program.observe ledger id) start now := by
  refine Safe.of_only (only_observe silent) ?_ ?_ ?_ ?_ sent
  · exact fun start now after wrote sent => sent.write wrote.1 wrote.2
  · intro op start now plain sent
    refine sent.suspends ?_
    have none : sendsTool op = false := by
      unfold sendsTool
      split
      · cases plain
      · rfl
    rw [none]
    exact allowed
  · exact fun op start now later resumed answer plain sent relied inv _ ended =>
      sent.other plain relied inv ended
  · rintro child start now rfl sent
    refine ⟨rfl, fun new after different fresh wrote => ?_⟩
    have next := sent.write wrote.1 wrote.2
    refine ⟨⟨?_, fun other mine _ => next.guarantees other mine⟩,
      next.filed, guarantees_refl, next.requests, next.lost⟩
    show (after.2.requests new).length + 0 ≤ 0
    rw [(next.guarantees new different).requests, fresh.1]
    exact Nat.le_refl 0

end Silent

/-! ### The request of a tool -/

section Requests

variable {id session generation : Nat} {start now : Audit Path}
  {requests : List (Nat × Except Fault Answer)} {lost : Bool} {call : ToolCall Path}

/-- **The identity check** passes only where the session was not lost. -/
theorem safe_assertDaemonIdentity (allowed : requests.length ≤ allowance (.callTool call))
    (sent : Sent id requests lost start now) (taken : Taken session generation now) :
    Safe audited terms (.callTool call) id
      (fun start result now => ∃ gone, Sent id requests gone start now ∧
        (result = .ok () → gone = lost ∧ Taken session generation now))
      ((assertDaemonIdentity (some (.tool call)) generation).observe ledger id) start now := by
  have waits : Safe audited terms (.callTool call) id
      (fun start result now => ∃ gone, Sent id requests gone start now ∧
        Taken session generation now ∧
        ∀ discovered, result = .ok discovered → now.1.connector.generation = generation ∧
          now.1.connector.endpoint.map Answer.endpoint = some discovered → gone = lost)
      ((wait (.identity (some (.tool call)) generation)).observe ledger id) start now := by
    refine safe_observe_wait (sent.suspends allowed) fun later resumed answer relied inv _ ended => ?_
    have still := sent.relied relied inv
    have answered := still.answered ended
    have recorded : (ledger.answers id later.1 (.identity (some (.tool call)) generation) answer
        later.2).requests id = requests := still.requests
    rw [recorded] at answered
    refine ⟨_, answered, taken_answer (taken.relies relied) ended, ?_⟩
    rintro discovered rfl ⟨same, found⟩
    rw [connector_of_answers ended] at same found
    have kept : loses later.1 (.identity (some (.tool call)) generation) (.ok discovered) = false := by
      cases discovered with
      | endpoint endpoint =>
        have endpoint : later.1.connector.endpoint = some endpoint := by simpa using found
        simp [loses, same, endpoint]
      | _ => rfl
    rw [kept, Bool.or_false]
  unfold assertDaemonIdentity
  rw [observe_bind, observe_handle]
  refine Safe.bind (safe_handle waits ?_ ?_)
  · rintro start discovered now ⟨gone, sent, taken, kept⟩
    refine safe_observe_get ?_
    split
    · rename_i passes
      exact ⟨gone, sent, fun _ => ⟨kept discovered rfl passes, taken⟩⟩
    · exact ⟨gone, sent, nofun⟩
  · rintro start fault now ⟨gone, sent, -⟩
    exact ⟨gone, sent, nofun⟩

/-- What an attempt at a tool's request leaves: at most one request more, and with a result this is
the answer of the session. -/
def Attempted (id session generation : Nat) (requests : List (Nat × Except Fault Answer)) (lost : Bool)
    (start : Audit Path) (result : Except Fault Result) (now : Audit Path) : Prop :=
  ∃ later gone, Sent id later gone start now ∧ later.length ≤ requests.length + 1 ∧
    ∀ value, result = .ok value →
      later = (session, .ok (.result value)) :: requests ∧ gone = lost ∧
        Taken session generation now

/-- **One request of a tool.** -/
theorem safe_invoke (allowed : requests.length + 1 ≤ allowance (.callTool call))
    (sent : Sent id requests lost start now) (taken : Taken session generation now) :
    Safe audited terms (.callTool call) id (Attempted id session generation requests lost)
      ((invoke session (.tool call)).observe ledger id) start now := by
  have waits : Safe audited terms (.callTool call) id
      (fun start result now => ∃ gone, Sent id ((session, result) :: requests) gone start now ∧
        Taken session generation now ∧ ∀ value, result = .ok value → gone = lost)
      ((wait (.request session (.tool call))).observe ledger id) start now := by
    refine safe_observe_wait (sent.suspends allowed) fun later resumed answer relied inv _ ended => ?_
    have still := sent.relied relied inv
    have answered := still.answered ended
    have recorded : (ledger.answers id later.1 (.request session (.tool call)) answer later.2).requests
        id = (session, answer) :: requests := by
      rw [← still.requests]
      exact Function.update_self _ _ _
    rw [recorded] at answered
    refine ⟨_, answered, taken_answer (taken.relies relied) ended, ?_⟩
    rintro value rfl
    exact Bool.or_false lost
  refine safe_observe_bind waits ?_ ?_
  · rintro start answer now ⟨gone, sent, taken, kept⟩
    cases answer with
    | result value =>
      refine ⟨_, gone, sent, Nat.le_refl _, fun other eq => ?_⟩
      cases eq
      exact ⟨rfl, kept _ rfl, taken⟩
    | _ => exact ⟨_, gone, sent, Nat.le_refl _, nofun⟩
  · rintro start fault now ⟨gone, sent, -⟩
    exact ⟨_, gone, sent, Nat.le_refl _, nofun⟩

/-- One attempt at a tool's request, on a session that has just been taken. -/
theorem safe_attempt (allowed : requests.length + 1 ≤ allowance (.callTool call))
    (sent : Sent id requests lost start now) (taken : Taken session generation now) :
    Safe audited terms (.callTool call) id (Attempted id session generation requests lost)
      ((attempt session generation (.tool call)).observe ledger id) start now := by
  have checks := safe_assertDaemonIdentity (Nat.le_of_succ_le allowed) sent taken
  refine safe_observe_bind checks ?_ ?_
  · rintro start _ now ⟨gone, checked, passed⟩
    obtain ⟨kept, still⟩ := passed rfl
    exact safe_invoke allowed (kept ▸ checked) still
  · rintro start fault now ⟨gone, sent, -⟩
    exact ⟨requests, gone, sent, Nat.le_succ _, nofun⟩

/-- A session is taken with the generation for which it is filed. -/
theorem safe_snapshot {kind : Kind Path} (sent : Sent id requests lost start now) :
    Safe audited terms kind id
      (fun start result now => Sent id requests lost start now ∧
        ∀ taken, result = .ok taken → Taken taken.1 taken.2 now)
      (snapshot.observe ledger id) start now := by
  refine safe_observe_get ?_
  split
  · exact ⟨sent, nofun⟩
  · split
    · exact ⟨sent, nofun⟩
    · rename_i session installed
      refine ⟨sent, fun taken eq => ?_⟩
      cases eq
      exact ⟨sent.filed session installed, Nat.le_refl _⟩

/-- What the ledger says of a reply while its generation is in force. -/
def Replied (call : ToolCall Path) (requests : List (Nat × Except Fault Answer)) (lost : Bool)
    (now : Audit Path) : Reply → Prop
  | .answered value => ∃ session older, requests = (session, .ok (.result value)) :: older ∧
      now.2.sessions (current now) = some session ∧
      (call.name ∉ readOnlyTools → older = [] ∧ lost = false)
  | .uncertain operation _ _ => operation = call.name
  | .temporarilyDisabled _ => False

/-- What `_invoke_with_recovery` leaves for a tool. -/
def Invoked (call : ToolCall Path) (id : Nat) (start : Audit Path) (result : Except Fault Reply)
    (now : Audit Path) : Prop :=
  ∃ requests lost, Sent id requests lost start now ∧
    requests.length ≤ allowance (.callTool call) ∧
    ∀ reply, result = .ok reply → Replied call requests lost now reply

theorem invoked_of_fault {fault : Fault} (sent : Sent id requests lost start now)
    (allowed : requests.length ≤ allowance (.callTool call)) :
    Invoked call id start (.error fault) now :=
  ⟨requests, lost, sent, allowed, nofun⟩

/-- The end of an attempt: its result counts if the generation is still the same. -/
theorem invoked_of_current {value : Result}
    (attempted : Attempted id session generation requests lost start (.ok value) now)
    (allowed : requests.length + 1 ≤ allowance (.callTool call))
    (first : call.name ∉ readOnlyTools → requests = [] ∧ lost = false)
    (same : current now = generation) :
    Invoked call id start (.ok (.answered value)) now := by
  obtain ⟨later, gone, sent, few, answered⟩ := attempted
  obtain ⟨rfl, rfl, taken⟩ := answered value rfl
  refine ⟨_, _, sent, Nat.le_trans few allowed, fun reply eq => ?_⟩
  cases eq
  exact ⟨session, requests, rfl, same ▸ taken.filed, first⟩

/-- What the first attempt leaves: a result that counts, or at most one request. -/
def Tried (call : ToolCall Path) (id : Nat) (start : Audit Path)
    (result : Except Fault (Except Fault Result)) (now : Audit Path) : Prop :=
  (∀ value, result = .ok (.ok value) → Invoked call id start (.ok (.answered value)) now) ∧
    ∃ later gone, Sent id later gone start now ∧ later.length ≤ 1

/-- The first attempt: nothing was sent before, and nothing lost. -/
theorem safe_firstAttempt (once : 1 ≤ allowance (.callTool call)) (sent : Sent id [] false start now)
    (taken : Taken session generation now) :
    Safe audited terms (.callTool call) id (Tried call id)
      ((firstAttempt session generation (.tool call)).observe ledger id) start now := by
  have tries : Safe audited terms (.callTool call) id (Attempted id session generation [] false)
      ((attempt session generation (.tool call)).observe ledger id) start now :=
    safe_attempt once sent taken
  have compares : ∀ start value now, Attempted id session generation [] false start (.ok value) now →
      Safe audited terms (.callTool call) id (Tried call id)
        (Coro.observe ledger id (do
          let scene ← get
          if scene.connector.generation = generation then pure (.ok value)
          else pure (.error .identityChanged))) start now := by
    intro start value now attempted
    have few : ∃ later gone, Sent id later gone start now ∧ later.length ≤ 1 := by
      obtain ⟨later, gone, sent, few, -⟩ := attempted
      exact ⟨later, gone, sent, few⟩
    refine safe_observe_get ?_
    split
    · rename_i same
      refine ⟨fun other eq => ?_, few⟩
      cases eq
      exact invoked_of_current attempted once (fun _ => ⟨rfl, rfl⟩) same
    · exact ⟨nofun, few⟩
  refine safe_observe_handle (safe_observe_bind tries compares ?_) (fun _ _ _ tried => tried) ?_
  · rintro start fault now ⟨later, gone, sent, few, -⟩
    exact ⟨nofun, later, gone, sent, few⟩
  · rintro start fault now ⟨-, few⟩
    split
    · exact ⟨nofun, few⟩
    · exact ⟨nofun, few⟩

/-- The second attempt, of a read-only tool. -/
theorem safe_retryAttempt (reads : call.name ∈ readOnlyTools)
    (allowed : requests.length + 1 ≤ allowance (.callTool call))
    (sent : Sent id requests lost start now) :
    Safe audited terms (.callTool call) id (Invoked call id)
      ((retryAttempt (.tool call)).observe ledger id) start now := by
  refine safe_observe_bind (safe_snapshot sent) ?_ ?_
  · rintro start ⟨session, generation⟩ now ⟨sent, took⟩
    refine safe_observe_bind (safe_attempt allowed sent (took _ rfl)) ?_ ?_
    · intro start value now attempted
      refine safe_observe_get ?_
      split
      · rename_i same
        exact invoked_of_current attempted allowed (fun edits => absurd reads edits) same
      · obtain ⟨later, gone, sent, few, -⟩ := attempted
        exact invoked_of_fault sent (Nat.le_trans few allowed)
    · rintro start fault now ⟨later, gone, sent, few, -⟩
      exact invoked_of_fault sent (Nat.le_trans few allowed)
  · rintro start fault now ⟨sent, -⟩
    exact invoked_of_fault sent (Nat.le_of_succ_le allowed)

/-- **The request of a tool, with its recovery.** -/
theorem safe_invokeWithRecovery (retryable uncertainOnLoss : Bool)
    (once : 1 ≤ allowance (.callTool call))
    (reads : uncertainOnLoss = false → retryable = true → call.name ∈ readOnlyTools)
    (sent : Sent id [] false start now) :
    Safe audited terms (.callTool call) id (Invoked call id)
      ((invokeWithRecovery id (.tool call) retryable uncertainOnLoss call.name).observe ledger id)
      start now := by
  refine safe_observe_bind (safe_silent (silent_of_modest (modest_start id)) (Nat.zero_le _) sent) ?_
    fun start fault now sent => invoked_of_fault sent (Nat.zero_le _)
  intro start _ now sent
  refine safe_observe_bind (safe_snapshot sent) ?_
    fun start fault now reached => invoked_of_fault reached.1 (Nat.zero_le _)
  rintro start taken now ⟨sent, took⟩
  refine safe_observe_bind (safe_firstAttempt once sent (took taken rfl)) ?_ ?_
  case refine_2 =>
    rintro start fault now ⟨-, later, gone, sent, few⟩
    exact invoked_of_fault sent (Nat.le_trans few once)
  rintro start result now ⟨counts, later, gone, sent, few⟩
  have allowed := Nat.le_trans few once
  cases result with
  | ok value => exact counts value rfl
  | error loss =>
    show Safe audited terms _ id _ (Coro.observe ledger id (if uncertainOnLoss then _ else _)) start now
    split
    · refine safe_observe_bind (safe_silent (silent_recoverForUncertain id taken.2) allowed sent) ?_
        fun start fault now sent => invoked_of_fault sent allowed
      intro start recovery now sent
      refine ⟨later, gone, sent, allowed, fun reply eq => ?_⟩
      cases eq
      exact rfl
    · rename_i certain
      split
      · exact invoked_of_fault sent allowed
      · rename_i again
        have reading := reads (by simpa using certain) (by simpa using again)
        have twice : later.length + 1 ≤ allowance (.callTool call) := by
          rw [show allowance (.callTool call) = 2 from if_pos reading]
          exact Nat.succ_le_succ few
        have silent : Silent ((recover id taken.2).handle fun _ => throw .recoveryError :
            Task Path Unit) :=
          silent_of_modest (only_handle (modest_recover id _) fun _ => trivial)
        refine safe_observe_bind (safe_silent silent allowed sent) ?_
          fun start fault now sent => invoked_of_fault sent allowed
        exact fun start _ now sent => safe_retryAttempt reading twice sent

end Requests

/-! ### Calls -/

section Calls

variable {id : Nat} {start now : Audit Path} {call : ToolCall Path} {reply : Reply}

/-- The writes of `call_tool` after the reply do not suspend, and change no generation. -/
theorem Invoked.remember (invoked : Invoked call id start (.ok reply) now)
    (binding : Option (Binding Path)) :
    Invoked call id start (.ok reply) (noted ledger id
      (fun scene => { scene with connector := scene.connector.remember binding }) now) := by
  obtain ⟨requests, lost, sent, few, replied⟩ := invoked
  have written : (noted ledger id (fun scene : Scene Path =>
      { scene with connector := scene.connector.remember binding }) now).2 = now.2 := if_pos rfl
  refine ⟨requests, lost, sent.write (.of_eq rfl rfl) rfl, few, fun other eq => ?_⟩
  have replied := replied other eq
  cases other with
  | answered value =>
    obtain ⟨session, older, answered, filed, first⟩ := replied
    refine ⟨session, older, answered, ?_, first⟩
    rw [written]
    exact filed
  | uncertain operation loss recovery | temporarilyDisabled operation => exact replied

theorem safe_rememberCall {kind : Kind Path} (invoked : Invoked call id start (.ok reply) now) :
    Safe audited terms kind id
      (fun start result now => Invoked call id start (result.map fun _ => reply) now)
      ((rememberCall call reply).observe ledger id) start now := by
  have fails : ∀ fault, Invoked call id start (.error fault) now := by
    obtain ⟨requests, lost, sent, few, -⟩ := invoked
    exact fun fault => invoked_of_fault sent few
  cases reply with
  | answered value =>
    show Safe audited terms kind id _ (Coro.observe ledger id (if _ then _ else _)) start now
    split
    · split
      · exact fails _
      · exact invoked.remember _
    · split
      · exact invoked.remember none
      · exact invoked
  | uncertain operation loss recovery | temporarilyDisabled operation => exact invoked

/-- **A call of a tool.** -/
theorem safe_forward (sent : Sent id [] false start now) :
    Safe audited terms (.callTool call) id (Invoked call id) ((forward id call).observe ledger id)
      start now := by
  have once : 1 ≤ allowance (.callTool call) := by
    show 1 ≤ if call.name ∈ readOnlyTools then 2 else 1
    split <;> omega
  refine safe_observe_bind (safe_silent (silent_prepareCall id call) (Nat.zero_le _) sent) ?_
    fun start fault now sent => invoked_of_fault sent (Nat.zero_le _)
  intro start _ now sent
  refine safe_observe_bind (safe_invokeWithRecovery _ _ once
    (fun _ retries => of_decide_eq_true retries) sent) ?_ fun start fault now invoked => invoked
  intro start reply now invoked
  exact safe_observe_bind (safe_rememberCall invoked) (fun start _ now invoked => invoked)
    fun start fault now invoked => invoked

theorem safe_callTool (sent : Sent id [] false start now) :
    Safe audited terms (.callTool call) id (Invoked call id) ((callTool id call).observe ledger id)
      start now := by
  unfold callTool
  rw [if_neg (by simp [withheldTools])]
  exact safe_forward sent

theorem returned_ends (now : Audit Path) :
    (ledger.ends id now.1 now.2).returned id = some (current now) :=
  Function.update_self _ _ _

/-- A reply whose generation is still in force at the return. -/
theorem accounted_of_replied {requests : List (Nat × Except Fault Answer)} {lost : Bool}
    (sent : Sent id requests lost start now) (replied : Replied call requests lost now reply) :
    Accounted call id (ledger.ends id now.1 now.2) reply := by
  cases reply with
  | answered value =>
    obtain ⟨session, older, answered, filed, first⟩ := replied
    have requested : (ledger.ends id now.1 now.2).requests id = (session, .ok (.result value)) :: older :=
      sent.requests.trans answered
    refine ⟨fun edits gone => ?_, fun result eq => ?_⟩
    · obtain ⟨rfl, rfl⟩ := first edits
      rcases gone with lost | ⟨generation, left, other, member, moved⟩
      · cases sent.lost.symm.trans lost
      · rw [requested, List.mem_singleton] at member
        cases (returned_ends now).symm.trans left
        exact absurd (member ▸ filed) moved
    · cases eq
      exact ⟨current now, session, older, returned_ends now, filed, requested⟩
  | uncertain operation loss recovery =>
    obtain rfl : operation = call.name := replied
    exact ⟨fun _ _ => ⟨loss, recovery, rfl⟩, nofun⟩
  | temporarilyDisabled operation => exact replied.elim

end Calls

/-! ### Every run -/

section Runs

variable {id : Nat} {kind : Kind Path} {start now : Audit Path} {lost : Bool}
  {requests : List (Nat × Except Fault Answer)} {result : Except Fault (Option Reply)}

theorem ends_eq (now : Audit Path) :
    audited.ends kind id now = (Scene.ends kind id now.1, ledger.ends id now.1 now.2) := rfl

theorem connector_ends (scene : Scene Path) : (Scene.ends kind id scene).connector = scene.connector := by
  unfold Scene.ends
  split <;> rfl

/-- The end of a task adds the generation to its own record. -/
theorem guarantees_ends (guarantees : Guarantees terms id start now) :
    Guarantees terms id start (audited.ends kind id now) := by
  refine guarantees_trans guarantees fun other different => ⟨rfl, rfl, ?_, ?_, fun _ _ => rfl⟩
  · exact Function.update_of_ne different _ _
  · exact Nat.le_of_eq (congrArg Attributes.generation (connector_ends now.1).symm)

theorem filed_ends (filed : Filed now) : Filed (audited.ends kind id now) := by
  intro session installed
  rw [ends_eq, current, connector_ends]
  rw [ends_eq, connector_ends] at installed
  exact filed session installed

/-- Only the heartbeat task rests, and it sleeps then. -/
theorem sendsTool_rest {op : Op Path} (resting : connector.rest kind = some op) :
    sendsTool op = false := by
  cases kind with
  | heartbeat =>
    cases resting
    rfl
  | _ => cases resting

/-- The end of a task whose record is in order. -/
theorem goal_of_ends (sent : Sent id requests lost start now)
    (few : requests.length ≤ allowance kind)
    (concluded : Concluded kind id (ledger.ends id now.1 now.2) result) :
    Goal audited terms kind id start result now := by
  unfold Goal
  split
  · rename_i op resting
    refine sent.suspends ?_
    rw [sendsTool_rest resting]
    exact few
  · refine ⟨filed_ends sent.filed, guarantees_ends sent.guarantees, ?_, concluded, ?_⟩
    · show (now.2.requests id).length ≤ _
      rw [sent.requests]
      exact few
    · intro generation returned
      have same := (returned_ends now).symm.trans returned
      rw [ends_eq, current, connector_ends]
      exact Nat.le_of_eq (Option.some.inj same).symm

/-- A task that sends no request of a tool. -/
theorem goal_of_none (sent : Sent id [] lost start now) (other : ∀ call, kind ≠ .callTool call) :
    Goal audited terms kind id start result now := by
  refine goal_of_ends sent (Nat.zero_le _) ?_
  cases kind with
  | callTool call => exact absurd rfl (other call)
  | _ => exact trivial

/-- A silent program that returns nothing. -/
theorem safe_quietly {program : Task Path Unit} (silent : Silent program)
    (other : ∀ call, kind ≠ .callTool call) (sent : Sent id [] lost start now) :
    Safe audited terms kind id (Goal audited terms kind id)
      (Coro.observe ledger id (do
        program
        pure none)) start now :=
  safe_observe_bind (safe_silent silent (Nat.zero_le _) sent)
    (fun _ _ _ sent => goal_of_none sent other) fun _ _ _ sent => goal_of_none sent other

/-- Every task keeps to the terms. -/
theorem safe_body (sent : Sent id [] lost start now)
    (unlost : ∀ call, kind = .callTool call → lost = false) :
    Safe audited terms kind id (Goal audited terms kind id) (audited.body kind id) start now := by
  cases kind with
  | start => exact safe_quietly (silent_of_modest (modest_start id)) (fun _ => nofun) sent
  | aclose => exact safe_quietly (silent_aclose id) (fun _ => nofun) sent
  | heartbeat => exact safe_quietly (silent_of_modest (modest_beat id)) (fun _ => nofun) sent
  | listTools =>
    have silent : Silent (invokeWithRecovery id .listTools true false "tools/list" : Task Path _) :=
      silent_invokeWithRecovery id (by simp) _ _ _
    refine safe_observe_bind (safe_silent silent (Nat.zero_le _) sent) ?_ ?_
    · exact fun _ _ _ sent => goal_of_none sent fun _ => nofun
    · exact fun _ _ _ sent => goal_of_none sent fun _ => nofun
  | callTool call =>
    obtain rfl := unlost call rfl
    refine safe_observe_bind (safe_callTool sent) ?_ ?_
    · rintro start reply now ⟨requests, lost, sent, few, replied⟩
      exact goal_of_ends sent few (accounted_of_replied sent (replied reply rfl))
    · rintro start fault now ⟨requests, lost, sent, few, -⟩
      exact goal_of_ends sent few trivial

/-- The heartbeat task after a rest. -/
theorem sent_of_rest {later resumed : Audit Path} {op : Op Path} {answer : Except Fault Answer}
    (plain : op.concernsTool = false) (holds : terms.holdsAt .heartbeat id op later)
    (inv : terms.inv later) (ended : audited.answers .heartbeat id later op answer = some resumed) :
    Sent id [] (later.2.lost id) later resumed := by
  have none : later.2.requests id = [] :=
    List.eq_nil_of_length_eq_zero (Nat.eq_zero_of_add_eq_zero_right (Nat.le_zero.mp holds))
  have before : Sent id [] (later.2.lost id) later later := ⟨inv, guarantees_refl, none, rfl⟩
  exact before.other plain (.refl later) inv ended

/-- A round of the heartbeat task. -/
theorem safe_round (sent : Sent id [] lost start now) :
    Safe audited terms .heartbeat id (Goal audited terms .heartbeat id)
      (audited.round .heartbeat id) start now := by
  refine ⟨sent.suspends (Nat.zero_le _), ?_⟩
  intro later resumed answer relied inv _ answered
  have woken := sent.other rfl relied inv answered
  cases answer with
  | ok value => exact safe_body woken nofun
  | error fault => exact goal_of_none woken fun _ => nofun

/-- **Every task keeps to the terms.** -/
theorem sound : Sound audited (terms : AuditTerms Path) where
  rely_refl id state := .refl state
  rely_trans id first second third before after := before.trans after
  environment_inv env := env.elim
  environment_rely env := env.elim
  post_stable kind id result start now relied post := relied.ended post
  holdsAt_stable kind id op start now relied holds := by
    show (now.2.requests id).length + _ ≤ _
    rw [relied.requests]
    exact holds
  fresh_stable id start now relied fresh :=
    ⟨relied.requests.trans fresh.1, relied.lost.trans fresh.2⟩
  begins kind id state admitted _ inv fresh := by
    have sent : Sent id [] false state state := ⟨inv, guarantees_refl, fresh.1, fresh.2⟩
    cases kind with
    | heartbeat => cases admitted
    | _ => exact safe_body sent fun _ _ => rfl
  bears kind id later resumed answer created holds inv _ answered := by
    cases kind with
    | heartbeat =>
      have sent := sent_of_rest rfl holds inv answered
      cases answer with
      | ok value => exact safe_round sent
      | error fault => exact goal_of_none sent fun _ => nofun
    | _ => cases created
  rounds kind id op later resumed answer rests holds inv _ answered := by
    cases kind with
    | heartbeat =>
      cases rests
      have sent := sent_of_rest rfl holds inv answered
      cases answer with
      | ok value => exact safe_body sent nofun
      | error fault => exact goal_of_none sent fun _ => nofun
    | _ => cases rests

/-- The whole system, with its ledger. -/
abbrev AuditNet (Path : Type) := World (Audit Path) (Op Path) Answer Fault (Kind Path) (Option Reply)

/-- A run of the connector keeps its ledger from the beginning. -/
def AuditRun (startupCwd : Path) (net : AuditNet Path) : Prop :=
  Reaches audited.step (fun _ _ => True) ((init startupCwd).observe ledger .empty) net

/-- The system keeps to the terms in every run. -/
theorem ordered_of_run {startupCwd : Path} {net : AuditNet Path} (run : AuditRun startupCwd net) :
    Ordered audited terms net := by
  have permitted : Reaches audited.step (Allows terms)
      ((init startupCwd).observe ledger .empty) net := by
    refine run.mono fun before label _ => ?_
    cases label with
    | spawn kind | environment env => exact trivial
    | resume id answer => exact fun _ _ _ _ => trivial
  have filed : Filed ((Scene.initial startupCwd, .empty) : Audit Path) := fun session installed => by
    cases installed
  exact sound.reached filed (fun id => ⟨rfl, rfl⟩) permitted

/-- The requests of a tool that a task has sent: those that have ended, and the one it waits for. -/
def sends (ledger : Ledger) (id : Nat)
    (pause : Pause (Audit Path) (Op Path) Answer Fault (Kind Path) (Option Reply)) : Nat :=
  (ledger.requests id).length +
    match pause with
    | .waits op _ => (sendsTool op).toNat
    | .ended _ => 0

/-- **Forwarded tools.** In every run a request is sent at most once, or twice if it only reads; a call
that lost its session, or had it replaced, returns `uncertain` unless it only reads; and the result
that a call returns is the answer of the session that was installed for the generation that is current
at the return. -/
theorem forwarded_calls {startupCwd : Path} {net : AuditNet Path} (run : AuditRun startupCwd net)
    {id : Nat} {call : ToolCall Path}
    {pause : Pause (Audit Path) (Op Path) Answer Fault (Kind Path) (Option Reply)}
    (found : net.tasks[id]? = some (.callTool call, pause)) :
    sends net.state.2 id pause ≤ (if call.name ∈ readOnlyTools then 2 else 1) ∧
      ∀ reply, pause = .ended (.ok (some reply)) → Accounted call id net.state.2 reply := by
  have stands := (ordered_of_run run).stands id _ pause found
  cases pause with
  | waits op next => exact ⟨stands.1, nofun⟩
  | ended result =>
    refine ⟨stands.few, fun reply eq => ?_⟩
    cases eq
    exact stands.concluded

/-- What a call has returned. -/
def repliedTo (net : AuditNet Path) (id : Nat) : Option (ToolCall Path × Reply) :=
  match net.tasks[id]? with
  | some (.callTool call, .ended (.ok (some reply))) => some (call, reply)
  | _ => none

theorem tasks_of_repliedTo {net : AuditNet Path} {call : ToolCall Path} {reply : Reply}
    (replied : repliedTo net id = some (call, reply)) :
    net.tasks[id]? = some (.callTool call, .ended (.ok (some reply))) := by
  unfold repliedTo at replied
  split at replied
  · rename_i found
    cases replied
    exact found
  · cases replied

def editCall : ToolCall Nat := ⟨"replace_symbol_body", none⟩

/-- An edit whose session is lost: the connector opens another one, and does not send it again. -/
def lostEdit : List (Label Nat) :=
  [.spawn (.callTool editCall),
    .resume 0 (.ok (.endpoint 7)), .resume 0 (.ok (.session 0)), .resume 0 (.ok (.lease true)),
    .resume 0 (.ok (.endpoint 7)), .resume 0 (.ok (.result ⟨true, "bound"⟩)),
    .resume 0 (.ok (.endpoint 7)), .resume 0 (.error .sessionLost),
    .resume 0 (.ok (.endpoint 7)), .resume 0 (.ok (.session 1)), .resume 0 (.ok (.lease true)),
    .resume 0 (.ok .unit), .resume 0 (.ok .unit), .resume 0 (.ok .unit)]

theorem forwarded_calls_lost_edit : ∃ net : AuditNet Nat, AuditRun 3 net ∧
    net.state.2.lost 0 = true ∧ net.state.2.requests 0 = [(0, .error .sessionLost)] ∧
    Accounted editCall 0 net.state.2 (.uncertain "replace_symbol_body" .sessionLost none) := by
  obtain ⟨net, run, replied, lost, requests⟩ := Reaches.of_run audited.step (fun _ _ => True)
    ((init 3).observe ledger .empty) lostEdit (fun net =>
      repliedTo net 0 = some (editCall, .uncertain "replace_symbol_body" .sessionLost none) ∧
        net.state.2.lost 0 = true ∧ net.state.2.requests 0 = [(0, .error .sessionLost)])
    (by decide +kernel)
  obtain ⟨-, accounted⟩ := forwarded_calls run (tasks_of_repliedTo replied)
  exact ⟨net, run, lost, requests, accounted _ rfl⟩

end Runs

end SerenaLight.Connector.Calls
