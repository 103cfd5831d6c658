/-
**The life of a language-server runtime** (`lsp/adapter.py`, `lsp/executor.py`).

One adapter owns at most one server runtime at a time. All work on it, ordinary and cleanup, runs on
the single worker thread of an executor that the adapters of a workspace share; the transport reader
and the process observer call back from their own threads, and any thread may submit work, request a
stop or look at the adapter.

* `LanguageAdapter`: the fields that decide whether a runtime may be started. `ensureStarted`,
  `beginRestart`, `beginStop`, `endStop`, `recordCrash`, `refreshCooldown` are the critical sections
  of its lock.
* `Place`: where the worker thread is, between two critical sections or calls of the provider.
* `System`, `step`: the adapter, the executor and the callbacks, one step for a critical section, a
  call of the provider, or the return of one.

What an operation does to the documents is left open here: it may change the open documents at will
while it runs. The runtime that a call of the provider starts is named by its token. `launched`,
`alive`, `log`, `deadlines` and `stops` keep a record for the statements.
-/

import Mathlib
import SerenaLight.Foundation.Run
import SerenaLight.Lsp.Executor

namespace SerenaLight.Lsp.Adapter

open Foundation

variable {Time : Type} [LinearOrder Time] [Add Time] [Sub Time]

/-! ### The adapter -/

/-- `AdapterPhase`. -/
inductive Phase
  | cold
  | starting
  | documentReady
  | globalWarming
  | ready
  | degraded
  | cooldown
  | stopping
  deriving DecidableEq, Repr

structure CrashPolicy (Time : Type) where
  threshold : Nat
  windowSeconds : Time
  cooldownSeconds : Time
  positive : 0 < threshold

/-- The fields of an adapter that its life depends on. -/
structure LanguageAdapter (Time : Type) where
  phase : Phase := .cold
  runtime : Option Nat := none
  runtimeToken : Nat := 0
  crashedRuntimeTokens : List Nat := []
  crashTimes : List Time := []
  crashTotal : Nat := 0
  cooldownUntil : Option Time := none
  openDocuments : List Nat := []
  admissionSealed : Bool := false
  stopFuture : Option Nat := none

namespace LanguageAdapter

/-- `_refresh_cooldown_locked`. -/
def refreshCooldown (now : Time) (adapter : LanguageAdapter Time) : LanguageAdapter Time :=
  match adapter.cooldownUntil with
  | none => adapter
  | some deadline =>
    if adapter.phase ≠ .cooldown ∨ now < deadline then adapter
    else { adapter with cooldownUntil := none, crashTimes := [], phase := .degraded }

/-- `_record_crash`, for a crash whose time was read before. -/
def recordCrash (policy : CrashPolicy Time) (token : Nat) (now : Time)
    (adapter : LanguageAdapter Time) : LanguageAdapter Time :=
  if token ∈ adapter.crashedRuntimeTokens then adapter
  else
    let crashTimes :=
      adapter.crashTimes.dropWhile (fun time => time < now - policy.windowSeconds) ++ [now]
    let counted := { adapter with
      crashedRuntimeTokens := adapter.crashedRuntimeTokens ++ [token]
      openDocuments := if token = adapter.runtimeToken then [] else adapter.openDocuments
      crashTotal := adapter.crashTotal + 1
      crashTimes := crashTimes }
    if policy.threshold ≤ crashTimes.length then
      { counted with cooldownUntil := some (now + policy.cooldownSeconds), phase := .cooldown }
    else { counted with phase := .degraded }

/-- The adapter once a new runtime is to be started. -/
def prepareLaunch (adapter : LanguageAdapter Time) : LanguageAdapter Time :=
  { adapter with
    phase := .starting
    runtimeToken := adapter.runtimeToken + 1
    runtime := none
    openDocuments := [] }

/-- What the critical section of `_ensure_started_worker` decides. -/
inductive Ensured
  | refused
  | cooling
  | running
  | lost
  | launch (old : Option Nat)
  deriving DecidableEq

/-- The critical section of `_ensure_started_worker`. `lost` says whether the process of a runtime
without a recorded crash is found to have ended. -/
def ensureStarted (now : Time) (lost : Bool) (adapter : LanguageAdapter Time) :
    Ensured × LanguageAdapter Time :=
  if adapter.admissionSealed then (.refused, adapter)
  else
    let current := adapter.refreshCooldown now
    if current.phase = .cooldown then (.cooling, current)
    else if current.runtime.isSome ∧ current.runtimeToken ∉ current.crashedRuntimeTokens then
      (if lost then .lost else .running, current)
    else (.launch current.runtime, current.prepareLaunch)

/-- The critical section of `_restart_worker`: none in a cooldown, else the runtime to stop. -/
def beginRestart (now : Time) (adapter : LanguageAdapter Time) :
    Option (Option Nat) × LanguageAdapter Time :=
  let current := adapter.refreshCooldown now
  if current.phase = .cooldown then (none, current)
  else (some current.runtime, { current with runtime := none, phase := .starting })

/-- The first critical section of `_stop_worker`: none if there is nothing to stop. -/
def beginStop (adapter : LanguageAdapter Time) :
    Option (Option Nat) × LanguageAdapter Time :=
  if adapter.runtime = none ∧ adapter.phase = .cold then (none, adapter)
  else (some adapter.runtime, { adapter with phase := .stopping, openDocuments := [] })

/-- The last critical section of `_stop_worker`. -/
def endStop (runtime : Option Nat) (adapter : LanguageAdapter Time) : LanguageAdapter Time :=
  { adapter with
    runtime := if adapter.runtime = runtime then none else adapter.runtime
    phase := .cold }

/-- `_mark_document_ready`, once its witness has been found current. -/
def markDocumentReady (adapter : LanguageAdapter Time) : LanguageAdapter Time :=
  if adapter.phase = .starting ∨ adapter.phase = .degraded then
    { adapter with phase := .documentReady }
  else adapter

/-- `snapshot`; `stale` says whether the configured program has not been observed yet. -/
def snapshot (now : Time) (stale : Bool) (adapter : LanguageAdapter Time) :
    LanguageAdapter Time :=
  let current := adapter.refreshCooldown now
  if current.phase = .ready ∧ stale then { current with phase := .globalWarming } else current

/-- `ReadinessResult`, as far as `wait_for_global` looks at it. -/
inductive Readiness
  | ready
  | notReady
  | scopeIncompatible
  deriving DecidableEq, Repr

/-- The critical section of `wait_for_global`. -/
def waitForGlobal (result : Readiness) (adapter : LanguageAdapter Time) : LanguageAdapter Time :=
  match result with
  | .scopeIncompatible => { adapter with phase := .degraded }
  | .notReady =>
    if adapter.phase = .ready then { adapter with phase := .globalWarming } else adapter
  | .ready => adapter

/-- The phases from which `_warm_global_worker` goes on. -/
def warmable (adapter : LanguageAdapter Time) : Bool :=
  adapter.phase = .documentReady || adapter.phase = .globalWarming || adapter.phase = .ready

end LanguageAdapter

/-! ### The worker -/

/-- The ordinary work items, by what they do once a runtime is there. `open_document`,
`probe_document`, `reconcile_watched_files` and the loads that go to the executor directly are
`documents`; `retry` is the rest of an operation after `_restart_worker`. -/
inductive Work
  | start
  | execute (attempts : Nat)
  | retry (attempts : Nat)
  | documents
  | warm
  deriving DecidableEq, Repr

inductive Entry
  /-- Ordinary work, through `_submit_ordinary` or directly on the executor. -/
  | ordinary (work : Work) (direct : Bool)
  | stop
  /-- Work of another adapter of the workspace. -/
  | foreign (cleanup : Bool)
  deriving DecidableEq

/-- Whether the item counts against the cleanup reserve. -/
def Entry.cleanup : Entry → Bool
  | .ordinary _ _ => false
  | .stop => true
  | .foreign cleanup => cleanup

/-- Where the worker thread is: what it does next. -/
inductive Place (Time : Type)
  | idle
  /-- The second look at the seal, in `_run_admitted_ordinary_worker`. -/
  | admitting (work : Work)
  | ensuring (work : Work)
  /-- To stop the crashed predecessor of the runtime to be started. -/
  | replacing (old : Nat) (work : Work)
  /-- To call `provider.start`. -/
  | launching (work : Work)
  | booting (work : Work)
  | initializing (work : Work)
  /-- The start has failed. -/
  | abandoning
  | discarding (failed : Nat)
  | reporting (since : Time)
  | operating (work : Work)
  /-- The transport was lost under an operation. -/
  | losing (attempts : Nat) (since : Time)
  | restarting (attempts : Nat)
  | retiring (old : Nat) (attempts : Nat)
  | warmGate
  | warming
  | stopping
  | terminating (runtime : Nat)
  | ending (runtime : Option Nat)
  | foreign

namespace Place

/-- A crashed predecessor is stopped before a new runtime is started. -/
def toLaunch (work : Work) : Option Nat → Place Time
  | some old => .replacing old work
  | none => .launching work

def toRetire (attempts : Nat) : Option Nat → Place Time
  | some old => .retiring old attempts
  | none => .ensuring (.retry attempts)

def toStop : Option Nat → Place Time
  | some runtime => .terminating runtime
  | none => .ending none

end Place

structure System (Time : Type) where
  adapter : LanguageAdapter Time := {}
  clock : Time
  queue : List (Entry × Nat) := []
  futures : List (Future Unit Unit) := []
  executorStopping : Bool := false
  worker : Place Time := .idle
  running : Option Nat := none
  /-- The terminal callbacks that have seen a phase in which they count, with their time. -/
  callbacks : List (Nat × Time) := []
  /-- The tokens that were given to `provider.start`. -/
  launched : List Nat := []
  /-- The runtimes that the provider started and has not stopped without error. -/
  alive : List Nat := []
  /-- The crashes that were counted. -/
  log : List (Nat × Time) := []
  /-- The ends of the cooldowns that the count of crashes called for. -/
  deadlines : List Time := []
  /-- The futures of the stop requests that were admitted. -/
  stops : List Nat := []

/-- How `warm_global` reports. -/
inductive WarmReport
  | raised
  | missing
  | current
  | stale
  deriving DecidableEq, Repr

inductive Outcome
  | returned
  | transportClosed
  | raised
  deriving DecidableEq, Repr

/-- What `stop()` gives its caller. -/
inductive StopAnswer
  | existing (future : Nat)
  | submitted (future : Nat)
  | rejected
  deriving DecidableEq, Repr

namespace System

/-- An adapter that has just been registered. -/
def init (clock : Time) : System Time := { clock := clock }

def goto (system : System Time) (place : Place Time) : System Time := { system with worker := place }

/-- The worker has the result of its item. -/
def finish (system : System Time) (succeeded : Bool) : System Time :=
  { system with
    worker := .idle
    running := none
    futures :=
      match system.running with
      | none => system.futures
      | some future => system.futures.set future (if succeeded then .returned () else .raised ()) }

/-- What an item does once it has a client. -/
def proceed (system : System Time) : Work → System Time
  | .start => system.finish true
  | .execute attempts => system.goto (.operating (.execute attempts))
  | .retry attempts => system.goto (.ensuring (.execute attempts))
  | .documents => system.goto (.operating .documents)
  | .warm => system.goto .warmGate

/-- `_record_crash`, with its entry in the records. -/
def crash (policy : CrashPolicy Time) (token : Nat) (now : Time) (system : System Time) :
    System Time :=
  if token ∈ system.adapter.crashedRuntimeTokens then system
  else
    let adapter := system.adapter.recordCrash policy token now
    { system with
      adapter := adapter
      log := system.log ++ [(token, now)]
      deadlines :=
        if policy.threshold ≤ adapter.crashTimes.length then
          system.deadlines ++ [now + policy.cooldownSeconds]
        else system.deadlines }

/-- Items of one kind that wait in the queue. -/
def queued (system : System Time) (cleanup : Bool) : Nat :=
  system.queue.countP fun item => item.1.cleanup == cleanup

/-- `_CLEANUP_RESERVE`. -/
def cleanupReserve : Nat := 2

/-- A new item at the end of the queue. -/
def enqueue (system : System Time) (entry : Entry) : System Time :=
  { system with
    queue := system.queue ++ [(entry, system.futures.length)]
    futures := system.futures ++ [.pending] }

/-- Whether the executor takes an item. A rejected cleanup may also be due to an item that the worker
has taken and not yet counted off. -/
def takes (capacity : Nat) (system : System Time) (entry : Entry) : Bool :=
  !system.executorStopping &&
    if entry.cleanup then system.queued true < cleanupReserve else system.queued false < capacity

/-- The stop future that `stop()` returns without submitting. -/
def standingStop (system : System Time) : Option Nat :=
  match system.adapter.stopFuture with
  | none => none
  | some future =>
    match system.futures[future]? with
    | some .pending => some future
    | some .running => some future
    | some (.returned _) => some future
    | _ => none

/-- The seal that a stop request leaves whether or not its cleanup is taken. -/
def sealAdmission (system : System Time) : System Time :=
  { system with adapter := { system.adapter with admissionSealed := true, stopFuture := none } }

/-- The cleanup of a stop request. -/
def submitStop (system : System Time) : System Time :=
  { system with
    adapter := { system.adapter with
      admissionSealed := true
      stopFuture := some system.futures.length }
    queue := system.queue ++ [(.stop, system.futures.length)]
    futures := system.futures ++ [.pending]
    stops := system.stops ++ [system.futures.length] }

/-- `stop()`. `admitted` says whether the executor takes the cleanup. -/
def requestStop (system : System Time) (admitted : Bool) : StopAnswer × System Time :=
  match system.standingStop with
  | some future => (.existing future, system)
  | none =>
    if admitted then (.submitted system.futures.length, system.submitStop)
    else (.rejected, system.sealAdmission)

/-- `cancel()` on a future by whoever has it. -/
def cancelFuture (system : System Time) (future : Nat) (status : Future Unit Unit) : System Time :=
  { system with futures := system.futures.set future status.cancel.1 }

/-- `BoundedLspExecutor.close`. -/
def closeExecutor (system : System Time) : System Time :=
  { system with
    executorStopping := true
    queue := []
    futures := system.futures.mapIdx fun index status =>
      if system.queue.any (fun item => item.2 = index) then status.cancel.1 else status }

/-- The place an item begins at. -/
def begins : Entry → Place Time
  | .ordinary work direct => if direct then .ensuring work else .admitting work
  | .stop => .stopping
  | .foreign _ => .foreign

/-- The worker takes an item from the queue. -/
def take (system : System Time) (entry : Entry) (future : Nat) (rest : List (Entry × Nat)) :
    System Time :=
  { system with
    queue := rest
    futures := system.futures.set future .running
    running := some future
    worker := begins entry }

/-- The adapter after a critical section of its lock. -/
def withAdapter (system : System Time) (adapter : LanguageAdapter Time) : System Time :=
  { system with adapter := adapter }

def setPhase (system : System Time) (phase : Phase) : System Time :=
  { system with adapter := { system.adapter with phase := phase } }

/-- `provider.stop` has returned. -/
def bury (system : System Time) (runtime : Nat) : System Time :=
  { system with alive := system.alive.erase runtime }

/-- `provider.start` has been called. -/
def callStart (system : System Time) : System Time :=
  { system with launched := system.launched ++ [system.adapter.runtimeToken] }

/-- `provider.start` has returned. -/
def installRuntime (system : System Time) : System Time :=
  { system with
    adapter := { system.adapter with runtime := some system.adapter.runtimeToken }
    alive := system.alive ++ [system.adapter.runtimeToken] }

end System

/-! ### The steps -/

inductive Label (Time : Type)
  | tick (now : Time)
  | submit (work : Work) (direct : Bool)
  | submitForeign (cleanup : Bool)
  | requestStop (admitted : Bool)
  | cancel (future : Nat)
  | closeExecutor
  | next
  | passSeal
  | ensure (lost : Bool)
  | replaced (raised : Bool)
  | launch
  | booted (raised : Bool)
  | initialized (raised : Bool)
  | abandon
  | discarded (raised : Bool)
  | report (now : Time)
  | operated (outcome : Outcome)
  | touch (documents : List Nat)
  | lose (now : Time)
  | restart
  | retired (raised : Bool)
  | warm
  | warmed (report : WarmReport)
  | beginStop
  | terminated (raised : Bool)
  | endStop
  | foreignDone
  | terminal (token : Nat)
  | record (token : Nat) (since now : Time)
  | documentReady
  | snapshot (stale : Bool)
  | waitGlobal (result : LanguageAdapter.Readiness)

/-- The state after a step; none where the step is not enabled. -/
def step (policy : CrashPolicy Time) (capacity : Nat) (system : System Time) :
    Label Time → Option (System Time)
  | .tick now => if system.clock ≤ now then some { system with clock := now } else none
  | .submit work direct =>
    if (direct || !system.adapter.admissionSealed) && system.takes capacity (.ordinary work direct)
    then some (system.enqueue (.ordinary work direct)) else none
  | .submitForeign cleanup =>
    if system.takes capacity (.foreign cleanup) then some (system.enqueue (.foreign cleanup))
    else none
  | .requestStop admitted =>
    if !admitted || system.takes capacity .stop then some (system.requestStop admitted).2 else none
  | .cancel future =>
    match system.futures[future]? with
    | some status => some (system.cancelFuture future status)
    | none => none
  | .closeExecutor => some system.closeExecutor
  | .next =>
    match system.worker, system.queue with
    | .idle, (entry, future) :: rest =>
      match system.futures[future]? with
      | some .pending =>
        some (system.take entry future rest)
      | _ => some { system with queue := rest }
    | _, _ => none
  | .passSeal =>
    match system.worker with
    | .admitting work =>
      if system.adapter.admissionSealed then some (system.finish false)
      else some (system.goto (.ensuring work))
    | _ => none
  | .ensure lost =>
    match system.worker with
    | .ensuring work =>
      let decision := system.adapter.ensureStarted system.clock lost
      let decided := system.withAdapter decision.2
      match decision.1 with
      | .refused => some (decided.finish false)
      | .cooling => some (decided.finish false)
      | .lost => some (decided.finish false)
      | .running => some (decided.proceed work)
      | .launch old => some (decided.goto (Place.toLaunch work old))
    | _ => none
  | .replaced raised =>
    match system.worker with
    | .replacing old work =>
      if raised then some (system.finish false)
      else some ((system.bury old).goto (.launching work))
    | _ => none
  | .launch =>
    match system.worker with
    | .launching work => some (system.callStart.goto (.booting work))
    | _ => none
  | .booted raised =>
    match system.worker with
    | .booting work =>
      if raised then some (system.goto .abandoning)
      else some (system.installRuntime.goto (.initializing work))
    | _ => none
  | .initialized raised =>
    match system.worker with
    | .initializing work =>
      if raised then some (system.goto .abandoning) else some (system.proceed work)
    | _ => none
  | .abandon =>
    match system.worker with
    | .abandoning =>
      let dropped := system.withAdapter { system.adapter with runtime := none }
      match system.adapter.runtime with
      | some failed => some (dropped.goto (.discarding failed))
      | none => some (dropped.goto (.reporting system.clock))
    | _ => none
  | .discarded raised =>
    match system.worker with
    | .discarding failed =>
      if raised then some (system.finish false)
      else some ((system.bury failed).goto (.reporting system.clock))
    | _ => none
  | .report now =>
    match system.worker with
    | .reporting since =>
      if since ≤ now ∧ now ≤ system.clock then
        some ((system.crash policy system.adapter.runtimeToken now).finish false)
      else none
    | _ => none
  | .operated outcome =>
    match system.worker, outcome with
    | .operating _, .returned => some (system.finish true)
    | .operating (.execute attempts), .transportClosed =>
      some (system.goto (.losing attempts system.clock))
    | .operating _, _ => some (system.finish false)
    | _, _ => none
  | .touch documents =>
    match system.worker with
    | .operating _ =>
      some (system.withAdapter { system.adapter with openDocuments := documents })
    | _ => none
  | .lose now =>
    match system.worker with
    | .losing attempts since =>
      if since ≤ now ∧ now ≤ system.clock then
        let recorded := system.crash policy system.adapter.runtimeToken now
        if attempts ≤ 1 then some (recorded.finish false)
        else some (recorded.goto (.restarting (attempts - 1)))
      else none
    | _ => none
  | .restart =>
    match system.worker with
    | .restarting attempts =>
      let decision := system.adapter.beginRestart system.clock
      let decided := system.withAdapter decision.2
      match decision.1 with
      | none => some (decided.finish false)
      | some old => some (decided.goto (Place.toRetire attempts old))
    | _ => none
  | .retired raised =>
    match system.worker with
    | .retiring old attempts =>
      if raised then some (system.finish false)
      else some ((system.bury old).goto (.ensuring (.retry attempts)))
    | _ => none
  | .warm =>
    match system.worker with
    | .warmGate =>
      if system.adapter.warmable then
        some ((system.setPhase .globalWarming).goto .warming)
      else some (system.finish false)
    | _ => none
  | .warmed report =>
    match system.worker with
    | .warming =>
      match report with
      | .raised => some (system.finish false)
      | .missing => some ((system.setPhase .degraded).finish false)
      | .current => some ((system.setPhase .ready).finish true)
      | .stale => some ((system.setPhase .globalWarming).finish true)
    | _ => none
  | .beginStop =>
    match system.worker with
    | .stopping =>
      let decision := system.adapter.beginStop
      let decided := system.withAdapter decision.2
      match decision.1 with
      | none => some (decided.finish true)
      | some runtime => some (decided.goto (Place.toStop runtime))
    | _ => none
  | .terminated raised =>
    match system.worker with
    | .terminating runtime =>
      if raised then some (system.finish false)
      else some ((system.bury runtime).goto (.ending (some runtime)))
    | _ => none
  | .endStop =>
    match system.worker with
    | .ending runtime =>
      some ((system.withAdapter (system.adapter.endStop runtime)).finish true)
    | _ => none
  | .foreignDone =>
    match system.worker with
    | .foreign => some (system.finish true)
    | _ => none
  | .terminal token =>
    -- the first critical section of `_on_terminal`
    if token ∈ system.launched ∧ system.adapter.phase ≠ .cold ∧ system.adapter.phase ≠ .stopping
    then some { system with callbacks := system.callbacks ++ [(token, system.clock)] } else none
  | .record token since now =>
    if (token, since) ∈ system.callbacks ∧ since ≤ now ∧ now ≤ system.clock then
      some ({ system with callbacks := system.callbacks.erase (token, since) }.crash policy token
        now)
    else none
  | .documentReady => some (system.withAdapter system.adapter.markDocumentReady)
  | .snapshot stale => some (system.withAdapter (system.adapter.snapshot system.clock stale))
  | .waitGlobal result => some (system.withAdapter (system.adapter.waitForGlobal result))

end SerenaLight.Lsp.Adapter
