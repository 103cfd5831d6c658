/-
**The stdio proxy's connector** (`connector.py`).

One connector owns one lease at the shared daemon. Its methods are coroutines of one event loop: they
are interrupted only where they await a lock, the discovery files, the daemon or another task.

- `Scene`: the attributes of a `Connector`, the numbers of its sessions and the state of its heartbeat
  tasks. What the daemon has bound to a lease is not part of it: no method reads that.
- `start`, `recover`, `openSession`, `invokeWithRecovery`, `callTool`, `ensureStartupBinding`, `beat`
  (one round of `_heartbeat_loop`) and `aclose`: the methods of the source, in its own order.
- `Scene.answers`: what each awaited operation may end with. A session and its lease are one number.
- `connector`: the system of all its tasks.
-/

import SerenaLight.Foundation.Coroutine
import Mathlib.Logic.Function.Basic

namespace SerenaLight.Connector

open Foundation Coro

/-! ### Tools, results and faults -/

def readOnlyTools : List String :=
  ["get_runtime_status", "get_symbols_overview", "find_symbol", "find_referencing_symbols",
    "find_declaration", "find_implementations", "get_diagnostics_for_file",
    "get_diagnostics_for_symbol"]

def editTools : List String := ["replace_symbol_body"]

def withheldTools : List String := []

def activateWorkspaceTool : String := "activate_workspace"

def releaseWorkspaceTool : String := "release_workspace"

/-- The exceptions that the connector tells apart: `ConnectorSessionLost` and its subclass
`DaemonIdentityChanged`, the other `ConnectorError`s, any other `Exception`, and `CancelledError`. -/
inductive Fault where
  | sessionLost
  | identityChanged
  | recoveryError
  | invalidResponse
  | connectorError
  | failure
  | cancelled
  deriving DecidableEq, Repr

namespace Fault

/-- `except ConnectorSessionLost`. -/
def isSessionLost : Fault → Bool
  | sessionLost | identityChanged => true
  | _ => false

/-- `except Exception`. -/
def isException : Fault → Bool
  | cancelled => false
  | _ => true

end Fault

/-- A `CallToolResult` of the daemon; `ok` is `_is_ok`. -/
structure Result where
  ok : Bool
  content : String
  deriving DecidableEq, Repr

/-- What a call returns: the daemon's result, `_uncertain_result` or `_temporarily_disabled_result`. -/
inductive Reply where
  | answered (result : Result)
  | uncertain (operation : String) (loss : Fault) (recovery : Option Fault)
  | temporarilyDisabled (operation : String)
  deriving DecidableEq, Repr

/-- A workspace as an activation names it. -/
structure Binding (Path : Type) where
  path : Path
  pythonEnvironment : Option String
  deriving DecidableEq, Repr

/-- A tool with its arguments. `target` is what an activation names, where its arguments are valid: an
absolute path, resolved, and an environment that is a string or absent. -/
structure ToolCall (Path : Type) where
  name : String
  target : Option (Binding Path)
  deriving DecidableEq, Repr

/-- What `_invoke_with_recovery` sends. -/
inductive Request (Path : Type) where
  | tool (call : ToolCall Path)
  | startup (path : Path)
  | listTools
  deriving DecidableEq, Repr

/-! ### The state -/

/-- An `asyncio.Lock`: its holder, and the tasks that wait for it in their order. A lock that is
released goes to the first of them. -/
structure Lock where
  holder : Option Nat
  waiters : List Nat
  deriving DecidableEq, Repr

namespace Lock

def enqueue (lock : Lock) (id : Nat) : Lock := { lock with waiters := lock.waiters ++ [id] }

def take (lock : Lock) (id : Nat) : Lock := { lock with holder := some id }

def release (lock : Lock) : Lock := ⟨lock.waiters.head?, lock.waiters.tail⟩

/-- A task that is cancelled while it waits; if the lock is already its own, the next one gets it. -/
def abandon (lock : Lock) (id : Nat) : Lock :=
  if lock.holder = some id then lock.release
  else { lock with waiters := lock.waiters.filter fun other => other ≠ id }

end Lock

inductive LockName where
  | lifecycle
  | binding
  deriving DecidableEq, Repr

/-- The attributes of a `Connector`. -/
structure Attributes (Path : Type) where
  endpoint : Option Nat
  session : Option Nat
  lastBinding : Option Path
  lastPythonEnvironment : Option String
  pendingStartupBinding : Option Path
  generation : Nat
  lifecycleLock : Lock
  bindingLock : Lock
  heartbeatTask : Option Nat
  closed : Bool

namespace Attributes

variable {Path : Type}

/-- The workspace that the connector remembers. -/
def remembered (connector : Attributes Path) : Option (Binding Path) :=
  connector.lastBinding.map fun path => ⟨path, connector.lastPythonEnvironment⟩

def remember (connector : Attributes Path) (binding : Option (Binding Path)) : Attributes Path :=
  { connector with
    lastBinding := binding.map Binding.path
    lastPythonEnvironment := binding.bind Binding.pythonEnvironment
    pendingStartupBinding := none }

def lock (connector : Attributes Path) : LockName → Lock
  | .lifecycle => connector.lifecycleLock
  | .binding => connector.bindingLock

def setLock (connector : Attributes Path) (which : LockName) (lock : Lock) : Attributes Path :=
  match which with
  | .lifecycle => { connector with lifecycleLock := lock }
  | .binding => { connector with bindingLock := lock }

/-- The attributes after `_install`. -/
def install (connector : Attributes Path) (endpoint session : Nat) : Attributes Path :=
  { connector with
    endpoint := some endpoint
    session := some session
    generation := connector.generation + 1 }

end Attributes

/-- The connector, with the sessions it has opened and its heartbeat tasks. -/
structure Scene (Path : Type) where
  connector : Attributes Path
  /-- the number of the next session -/
  nextSession : Nat
  /-- the heartbeat tasks created so far -/
  beats : List Nat
  /-- the heartbeat task is inside `_recover` -/
  recovering : Nat → Bool
  /-- a cancellation was requested and not yet delivered -/
  cancelling : Nat → Bool
  /-- the heartbeat task is done -/
  halted : Nat → Bool

/-- What a task can await. The identity check tells for which request and which generation it is made,
without a request for the heartbeat; `openDiscover` is the discovery of `_open_session`. -/
inductive Op (Path : Type) where
  | birth
  | lock (which : LockName)
  | openDiscover
  | identity (request : Option (Request Path)) (generation : Nat)
  | connect (endpoint : Nat)
  | acquireLease (session : Nat)
  | activate (session : Nat) (binding : Binding Path)
  | request (session : Nat) (request : Request Path)
  | heartbeat (session : Nat)
  | releaseLease (session : Nat)
  | closeSession (session : Nat)
  | sleep
  | join (task : Nat)
  deriving DecidableEq, Repr

inductive Answer where
  | unit
  | endpoint (endpoint : Nat)
  | session (session : Nat)
  | lease (sameDaemon : Bool)
  | result (result : Result)
  deriving DecidableEq, Repr

inductive Kind (Path : Type) where
  | start
  | listTools
  | callTool (call : ToolCall Path)
  | aclose
  | heartbeat
  deriving DecidableEq, Repr

variable {Path : Type}

def Kind.isHeartbeat : Kind Path → Bool
  | heartbeat => true
  | _ => false

/-- A coroutine of the connector. -/
abbrev Task (Path Value : Type) := Coro (Scene Path) (Op Path) Answer Fault (Kind Path) Value

/-! ### Programs -/

def throw {Value : Type} (fault : Fault) : Task Path Value := .fail fault

/-- A write to the attributes. -/
def set (update : Attributes Path → Attributes Path) : Task Path Unit :=
  modify fun scene => { scene with connector := update scene.connector }

/-- `suppress(Exception, asyncio.CancelledError)`. -/
def suppress (program : Task Path Answer) : Task Path Answer :=
  program.handle fun _ => pure .unit

def setLock (which : LockName) (update : Lock → Lock) (scene : Scene Path) : Scene Path :=
  { scene with
    connector := scene.connector.setLock which (update (scene.connector.lock which)) }

/-- `Lock.acquire`. -/
def acquire (id : Nat) (which : LockName) : Task Path Unit := do
  let scene ← get
  if (scene.connector.lock which).holder = none then
    modify (setLock which (·.take id))
  else do
    modify (setLock which (·.enqueue id))
    let _ ← (wait (.lock which)).handle fun fault => do
      modify (setLock which (·.abandon id))
      throw fault
    pure ()

/-- `async with lock`. -/
def withLock {Value : Type} (id : Nat) (which : LockName) (body : Task Path Value) :
    Task Path Value := do
  acquire id which
  body.ensuring (setLock which Lock.release)

/-- The clean-up of a session that was opened and is not installed, or no longer. -/
def discardSession (session : Nat) : Task Path Unit := do
  let _ ← suppress (wait (.releaseLease session))
  let _ ← suppress (wait (.closeSession session))
  pure ()

/-- The endpoint and the session that `_open_session` connects to. -/
def connectSession : Task Path (Nat × Nat) := do
  match ← wait .openDiscover with
  | .endpoint endpoint =>
    match ← wait (.connect endpoint) with
    | .session session => pure (endpoint, session)
    | _ => throw .failure
  | _ => throw .failure

/-- The lease of `_open_session`; without one there is none to release. -/
def leaseSession (session : Nat) : Task Path Answer :=
  (wait (.acquireLease session)).handle fun fault => do
    let _ ← suppress (wait (.closeSession session))
    throw fault

/-- The rest of `_open_session`: the identity of the lease, and the workspace. -/
def bindSession (session : Nat) (lease : Answer) (binding : Option (Binding Path)) :
    Task Path Unit :=
  Coro.handle
    (if lease = .lease false then throw .identityChanged
      else
        match binding with
        | none => pure ()
        | some binding => do
          let _ ← wait (.activate session binding)
          pure ())
    fun fault => do
      discardSession session
      throw fault

/-- `_open_session`: the endpoint and the session. -/
def openSession (binding : Option (Binding Path)) : Task Path (Nat × Nat) := do
  let opened ← connectSession
  let lease ← leaseSession opened.2
  bindSession opened.2 lease binding
  pure opened

/-- `_install`. -/
def installSession (opened : Nat × Nat) (scene : Scene Path) : Scene Path :=
  { scene with connector := scene.connector.install opened.1 opened.2 }

/-- The first session, with its heartbeat task. -/
def openFirst : Task Path Unit := do
  let opened ← openSession none
  modify (installSession opened)
  let _ ← create .heartbeat fun task scene =>
    { scene with
      connector := { scene.connector with heartbeatTask := some task }
      beats := task :: scene.beats }
  pure ()

/-- `start`. -/
def start (id : Nat) : Task Path Unit :=
  withLock id .lifecycle do
    let scene ← get
    if scene.connector.closed then throw .connectorError
    else if scene.connector.session.isSome then pure ()
    else openFirst

/-- The session of a recovery, in place of the one that was lost. -/
def replaceSession (binding : Option (Binding Path)) : Task Path Unit := do
  let opened ← openSession binding
  let scene ← get
  modify (installSession opened)
  match scene.connector.session with
  | none => pure ()
  | some old => discardSession old

/-- `_recover`. -/
def recover (id : Nat) (observedGeneration : Nat) : Task Path Unit :=
  withLock id .lifecycle do
    let scene ← get
    if scene.connector.closed then throw .connectorError
    else if scene.connector.generation ≠ observedGeneration then pure ()
    else replaceSession scene.connector.remembered

/-- `_snapshot`: the session and the generation. -/
def snapshot : Task Path (Nat × Nat) := do
  let scene ← get
  if scene.connector.closed then throw .connectorError
  else
    match scene.connector.session with
    | none => throw .connectorError
    | some session => pure (session, scene.connector.generation)

/-- `_assert_daemon_identity`. -/
def assertDaemonIdentity (request : Option (Request Path)) (generation : Nat) :
    Task Path Unit := do
  let discovered ← (wait (.identity request generation)).handle fun fault =>
    throw (if fault.isException then .sessionLost else fault)
  let scene ← get
  if scene.connector.generation = generation ∧
      scene.connector.endpoint.map Answer.endpoint = some discovered then pure ()
  else throw .identityChanged

/-- The result of a request; the start-up activation requires an ok one. -/
def concludeRequest (request : Request Path) : Answer → Task Path Result
  | .result result =>
    match request with
    | .startup _ => if result.ok then pure result else throw .invalidResponse
    | _ => pure result
  | _ => throw .failure

/-- The `invoke` of a request on a session. -/
def invoke (session : Nat) (request : Request Path) : Task Path Result := do
  let answer ← wait (.request session request)
  concludeRequest request answer

/-- The identity check, and the request right after it. -/
def attempt (session generation : Nat) (request : Request Path) : Task Path Result := do
  assertDaemonIdentity (some request) generation
  invoke session request

/-- The result of the first attempt, or the loss of its session. -/
def firstAttempt (session generation : Nat) (request : Request Path) :
    Task Path (Except Fault Result) :=
  Coro.handle
    (do
      let result ← attempt session generation request
      let scene ← get
      if scene.connector.generation = generation then pure (.ok result)
      else pure (.error .identityChanged))
    fun fault => if fault.isSessionLost then pure (.error fault) else throw fault

/-- The second attempt, on the session of a recovery. -/
def retryAttempt (request : Request Path) : Task Path Reply := do
  let taken ← snapshot
  let result ← attempt taken.1 taken.2 request
  let scene ← get
  if scene.connector.generation = taken.2 then pure (.answered result) else throw .sessionLost

/-- `_recover_for_uncertain`. -/
def recoverForUncertain (id generation : Nat) : Task Path (Option Fault) :=
  Coro.handle
    (do
      recover id generation
      pure none)
    fun fault => pure (some fault)

/-- `_invoke_with_recovery`. -/
def invokeWithRecovery (id : Nat) (request : Request Path) (retryable uncertainOnLoss : Bool)
    (operation : String) : Task Path Reply := do
  start id
  let taken ← snapshot
  match ← firstAttempt taken.1 taken.2 request with
  | .ok result => pure (.answered result)
  | .error loss =>
    if uncertainOnLoss then do
      let recovery ← recoverForUncertain id taken.2
      pure (.uncertain operation loss recovery)
    else if !retryable then throw loss
    else do
      (recover id taken.2).handle fun _ => throw .recoveryError
      retryAttempt request

/-- `_ensure_startup_binding`. -/
def ensureStartupBinding (id : Nat) : Task Path Unit :=
  withLock id .binding do
    let scene ← get
    match scene.connector.pendingStartupBinding with
    | none => pure ()
    | some path => do
      let _ ← invokeWithRecovery id (.startup path) true false "startup activate_workspace"
      set (·.remember (some ⟨path, none⟩))

/-- The first step of `call_tool`: every tool but an explicit activation or release needs a
workspace. -/
def prepareCall (id : Nat) (call : ToolCall Path) : Task Path Unit :=
  if call.name = activateWorkspaceTool ∨ call.name = releaseWorkspaceTool then pure ()
  else ensureStartupBinding id

/-- The last step of `call_tool`. -/
def rememberCall (call : ToolCall Path) : Reply → Task Path Unit
  | .answered result =>
    if call.name = activateWorkspaceTool ∧ result.ok then
      match call.target with
      | none => throw .invalidResponse
      | some binding => set (·.remember (some binding))
    else if call.name = releaseWorkspaceTool ∧ result.ok then set (·.remember none)
    else pure ()
  | _ => pure ()

/-- `call_tool` of a tool that is not withheld. -/
def forward (id : Nat) (call : ToolCall Path) : Task Path Reply := do
  prepareCall id call
  let retryable := call.name ∈ readOnlyTools
  let uncertainOnLoss := call.name ∈ editTools ∨ ¬retryable
  let reply ← invokeWithRecovery id (.tool call) (decide retryable) (decide uncertainOnLoss)
    call.name
  rememberCall call reply
  pure reply

/-- `call_tool`. -/
def callTool (id : Nat) (call : ToolCall Path) : Task Path Reply :=
  if call.name ∈ withheldTools then pure (.temporarilyDisabled call.name) else forward id call

/-- The recovery of the heartbeat task, whose failure is kept for the record only. -/
def recoverBeat (id generation : Nat) : Task Path Unit :=
  Coro.handle
    (Coro.ensuring
      (do
        modify fun scene => { scene with recovering := Function.update scene.recovering id true }
        recover id generation)
      fun scene => { scene with recovering := Function.update scene.recovering id false })
    fun _ => pure ()

/-- One heartbeat on a session. -/
def pulse (id session generation : Nat) : Task Path Unit :=
  Coro.handle
    (do
      assertDaemonIdentity none generation
      let _ ← wait (.heartbeat session)
      pure ())
    fun fault => if fault.isSessionLost then recoverBeat id generation else throw fault

/-- One round of `_heartbeat_loop`, after its sleep. -/
def beat (id : Nat) : Task Path Unit :=
  Coro.handle
    (do
      let taken ← snapshot
      pulse id taken.1 taken.2)
    fun fault => if fault = .cancelled then throw fault else pure ()

/-- `Task.cancel`. -/
def cancel (task : Nat) (scene : Scene Path) : Scene Path :=
  if scene.halted task then scene
  else { scene with cancelling := Function.update scene.cancelling task true }

/-- The first part of `aclose`. -/
def stopHeartbeat : Task Path Unit := do
  let scene ← get
  set fun connector => { connector with heartbeatTask := none }
  match scene.connector.heartbeatTask with
  | none => pure ()
  | some task => do
    modify (cancel task)
    let _ ← (wait (.join task)).handle fun fault =>
      if fault = .cancelled then pure .unit else throw fault
    pure ()

/-- The rest of it, under the lifecycle lock. -/
def shutDown : Task Path Unit := do
  let scene ← get
  if scene.connector.closed then pure ()
  else do
    set fun connector =>
      { connector with closed := true, session := none, endpoint := none }
    match scene.connector.session with
    | none => pure ()
    | some session => discardSession session

/-- `aclose`. -/
def aclose (id : Nat) : Task Path Unit := do
  stopHeartbeat
  withLock id .lifecycle shutDown

/-! ### Operations -/

namespace Scene

/-- An operation that ends with a value. -/
def succeed (scene : Scene Path) (id : Nat) : Op Path → Answer → Option (Scene Path)
  | .lock which, .unit =>
    if (scene.connector.lock which).holder = some id then some scene else none
  | .join task, .unit => if scene.halted task then some scene else none
  | .connect _, .session session =>
    if session = scene.nextSession then some { scene with nextSession := session + 1 } else none
  | .birth, .unit | .sleep, .unit | .heartbeat _, .unit | .activate _ _, .unit => some scene
  | .releaseLease _, .unit | .closeSession _, .unit => some scene
  | .openDiscover, .endpoint _ | .identity _ _, .endpoint _ => some scene
  | .acquireLease _, .lease _ | .request _ _, .result _ => some scene
  | _, _ => none

/-- An operation that ends with an exception. -/
def raise (scene : Scene Path) : Op Path → Option (Scene Path)
  | .birth | .sleep | .lock _ | .join _ => none
  | _ => some scene

/-- A cancellation that reaches a task where it waits. A task that waits for another one hands its
cancellation on to that one; no `aclose` is cancelled there in the runs modelled. -/
def interrupt (scene : Scene Path) : Op Path → Option (Scene Path)
  | .join _ => none
  | _ => some scene

/-- A cancelled heartbeat task goes on with `CancelledError` and nothing else, but for the session's
own `aclose`, which suppresses it. -/
def deliver (scene : Scene Path) (id : Nat) (op : Op Path) (answer : Except Fault Answer) :
    Option (Scene Path) :=
  let delivered := { scene with cancelling := Function.update scene.cancelling id false }
  match op, answer with
  | .closeSession _, .ok .unit => some delivered
  | _, .error .cancelled => some delivered
  | _, _ => none

/-- How an operation ends. The heartbeat task is cancelled by `aclose` only, every other task may be
cancelled at any time. -/
def answers (kind : Kind Path) (id : Nat) (scene : Scene Path) (op : Op Path)
    (answer : Except Fault Answer) : Option (Scene Path) :=
  if kind.isHeartbeat && scene.cancelling id then scene.deliver id op answer
  else
    match answer with
    | .ok answer => scene.succeed id op answer
    | .error .cancelled => if kind.isHeartbeat then none else scene.interrupt op
    | .error _ => scene.raise op

/-- The end of a task. -/
def ends (kind : Kind Path) (id : Nat) (scene : Scene Path) : Scene Path :=
  if kind.isHeartbeat then { scene with halted := Function.update scene.halted id true } else scene

/-- A new connector; `startupCwd` is resolved. -/
def initial (startupCwd : Path) : Scene Path where
  connector :=
    { endpoint := none
      session := none
      lastBinding := none
      lastPythonEnvironment := none
      pendingStartupBinding := some startupCwd
      generation := 0
      lifecycleLock := ⟨none, []⟩
      bindingLock := ⟨none, []⟩
      heartbeatTask := none
      closed := false }
  nextSession := 0
  beats := []
  recovering := fun _ => false
  cancelling := fun _ => false
  halted := fun _ => false

end Scene

/-- **The connector with all its tasks.** What its environment does are the answers. -/
def connector :
    Model (Scene Path) (Op Path) Answer Fault (Kind Path) (Option Reply) Empty where
  body := fun kind id =>
    match kind with
    | .start => do
      start id
      pure none
    | .listTools => do
      let reply ← invokeWithRecovery id .listTools true false "tools/list"
      pure (some reply)
    | .callTool call => do
      let reply ← callTool id call
      pure (some reply)
    | .aclose => do
      aclose id
      pure none
    | .heartbeat => do
      beat id
      pure none
  rest := fun kind => if kind.isHeartbeat then some .sleep else none
  birth := .birth
  admits := fun kind => !kind.isHeartbeat
  answers := Scene.answers
  ends := Scene.ends
  environment := fun env => env.elim

/-- The connector's runs begin here. -/
abbrev Net (Path : Type) := World (Scene Path) (Op Path) Answer Fault (Kind Path) (Option Reply)

abbrev Terms (Path : Type) :=
  Discipline (Scene Path) (Op Path) Answer Fault (Kind Path) (Option Reply)

abbrev Label (Path : Type) := WorldLabel Answer Fault (Kind Path) Empty

def init (startupCwd : Path) : Net Path := ⟨.initial startupCwd, []⟩

end SerenaLight.Connector
