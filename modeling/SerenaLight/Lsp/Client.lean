/-
**The synchronous LSP client** (`lsp/client.py`).

Any number of threads send requests, one reader thread dispatches what the server writes, and any
thread may close the client or fail to write. A request waits on a queue with one slot: the reader
looks its queue up under the lock and puts the response in it outside the lock.

* `Client`: the pending requests, their slots and the place of every thread. `received` is what the
  reader has read so far.
* `beginRequest`, `failAll`, `dispatch`, `settle`: the pieces of the source, one critical section or
  one piece of sequential code each.
* `Label`, `step`: the interleavings. `owner` is the thread that takes a step.

The reading of digit strings and the conversions of the fields of an error object are left to
`Platform`; a handler of a message returns, raises, or fails to write its answer.
-/

import Mathlib.Logic.Function.Basic
import SerenaLight.Foundation.Json
import SerenaLight.Foundation.FairPath

namespace SerenaLight.Lsp.SyncClient

open Foundation

/-- What the client takes from the interpreter. -/
structure Platform where
  /-- `str.isdigit`. -/
  isDigit : String → Bool
  /-- `int(text)`; none when it raises. -/
  parseInt : String → Option Int
  /-- `int(value)`; none when it raises. -/
  intOf : Json → Option Int
  /-- `str(value)`. -/
  strOf : Json → String

/-- What is wrong with a message. -/
inductive ProtocolFault
  | badMethod
  | unknownShape
  | badId
  | errorNotObject
  | noResult
  | framing
  deriving DecidableEq, Repr

/-- The exceptions of the client's threads. -/
inductive Fault
  /-- `LspTransportClosed`, by its reason. -/
  | readerStopped
  | endOfStream
  | clientClosed
  | writeFailed
  /-- `LspProtocolError`. -/
  | protocol (fault : ProtocolFault)
  /-- Any other exception in the reader, such as one of a handler. -/
  | raised
  deriving DecidableEq, Repr

/-- How a request is refused before it has an id. -/
inductive Refusal
  | emptyMethod
  | terminal (error : Fault)
  | closing
  deriving DecidableEq, Repr

/-- How a request ends. -/
inductive Outcome
  | returned (value : Json)
  /-- `LspResponseError`. -/
  | responseError (code : Int) (message : String) (data : Json)
  /-- The error object's code cannot be read as a number. -/
  | badCode
  | failed (error : Fault)
  | timedOut
  /-- `ValueError`: the timeout is not positive. -/
  | badTimeout
  /-- The parameters cannot be encoded. -/
  | badParams

/-- What is put into the slot of a request. -/
inductive Reply
  | response (payload : Object)
  | fault (error : Fault)

/-- Where the thread of a request is, from its registration on. -/
inductive Requester
  /-- Before its message is written. -/
  | sending (waitSeconds : Rat)
  /-- Its write failed, and it is about to call `_fail_all`. -/
  | failing
  /-- In `get`. -/
  | waiting
  /-- Out of `get`, and about to remove itself from the pending requests. -/
  | taken (reply : Reply)
  | leaving (outcome : Outcome)
  | done (outcome : Outcome)

/-- Where the reader thread is. -/
inductive Reader
  | looping
  | reading
  /-- In the handler of a notification or of a request of the server. -/
  | handling
  | looking (id : Int) (payload : Object)
  | delivering (id : Nat) (payload : Object)
  | ending (error : Fault)
  | stopped

structure Client where
  pending : List Nat := []
  nextId : Nat := 1
  terminal : Option Fault := none
  closing : Bool := false
  /-- The one-slot queue of the request with this id. -/
  slots : Nat → Option Reply := fun _ => none
  requests : Nat → Option Requester := fun _ => none
  reader : Reader := .looping
  /-- The requests that the first `_fail_all` still has to wake. -/
  fanout : List Nat := []
  received : List Object := []

/-! ### The pieces of the source -/

/-- `_raise_if_terminal`. -/
def Client.raiseIfTerminal (client : Client) : Except Refusal Unit :=
  match client.terminal with
  | some error => .error (.terminal error)
  | none => if client.closing then .error .closing else .ok ()

/-- A new request with an empty queue. -/
def Client.register (client : Client) (waitSeconds : Rat) : Client :=
  { client with
    nextId := client.nextId + 1
    pending := client.pending ++ [client.nextId]
    slots := Function.update client.slots client.nextId none
    requests := Function.update client.requests client.nextId (some (.sending waitSeconds)) }

/-- `_request_once` up to the end of its first critical section. -/
def Client.beginRequest (client : Client) (method : String) (waitSeconds : Rat) :
    Except Refusal Client :=
  if method = "" then .error .emptyMethod
  else
    match client.raiseIfTerminal with
    | .error refusal => .error refusal
    | .ok () => .ok (client.register waitSeconds)

/-- The critical section of `_fail_all`. Only the first call finds pending requests to wake. -/
def Client.failAll (client : Client) (error : Fault) : Client :=
  { client with
    terminal := some (client.terminal.getD error)
    pending := []
    fanout := client.fanout ++ client.pending }

/-- The id of a response, as an integer. -/
def responseId (platform : Platform) (payload : Object) : Except Fault Int :=
  match payload.lookup "id" with
  | none => .error (.protocol .unknownShape)
  | some (.str text) =>
    if platform.isDigit text then
      match platform.parseInt text with
      | some id => .ok id
      | none => .error .raised
    else .error (.protocol .badId)
  | some (.int id) => .ok id
  -- a bool is an int of the host language
  | some (.bool value) => .ok (if value then 1 else 0)
  | some _ => .error (.protocol .badId)

/-- `_dispatch` up to the lookup of the request. -/
def dispatch (platform : Platform) (payload : Object) : Reader :=
  match payload.lookup "method" with
  | some (.str method) => if method = "" then .ending (.protocol .badMethod) else .handling
  | some _ => .ending (.protocol .badMethod)
  | none =>
    match responseId platform payload with
    | .ok id => .looking id payload
    | .error error => .ending error

/-- `_pending.get(response_id)`. -/
def Client.find (client : Client) (id : Int) : Option Nat :=
  client.pending.find? fun candidate => (candidate : Int) = id

/-- The end of `_request_once`: what it makes of the reply. -/
def settle (platform : Platform) : Reply → Outcome
  | .fault error => .failed error
  | .response payload =>
    match payload.lookup "error" with
    | some (.object fields) =>
      match platform.intOf ((fields.lookup "code").getD (.int (-32603))) with
      | none => .badCode
      | some code =>
        .responseError code (platform.strOf ((fields.lookup "message").getD (.str "")))
          (Object.get fields "data")
    | some _ => .failed (.protocol .errorNotObject)
    | none =>
      match payload.lookup "result" with
      | some value => .returned value
      | none => .failed (.protocol .noResult)

/-! ### The interleavings -/

inductive Label
  /-- A thread calls `request`. -/
  | request (method : String) (waitSeconds : Rat)
  | send (id : Nat)
  | sendRejected (id : Nat)
  | writeFails (id : Nat)
  | failRequest (id : Nat)
  | take (id : Nat)
  | timeout (id : Nat)
  | pop (id : Nat)
  /-- The write of a notification fails. -/
  | notifyFails
  | close
  | closeFails
  | loop
  | receive (payload : Object)
  | readFails (error : Fault)
  | handled
  | handlerRaises
  | handlerWriteFails
  | lookup
  | put
  | finish
  | wake

/-- A step of the thread of a request. -/
def Client.moveRequest (client : Client) (id : Nat) (requester : Requester) : Client :=
  { client with requests := Function.update client.requests id (some requester) }

def Client.moveReader (client : Client) (reader : Reader) : Client :=
  { client with reader := reader }

def Client.setSlot (client : Client) (id : Nat) (slot : Option Reply) : Client :=
  { client with slots := Function.update client.slots id slot }

/-- `_pending.pop(request_id, None)`. -/
def Client.popPending (client : Client) (id : Nat) : Client :=
  { client with pending := client.pending.erase id }

/-- The state after a step; none where the step is not enabled. -/
def step (platform : Platform) (client : Client) : Label → Option Client
  | .request method waitSeconds =>
    match client.beginRequest method waitSeconds with
    | .ok after => some after
    | .error _ => some client
  | .send id =>
    match client.requests id with
    | some (.sending waitSeconds) =>
      some (client.moveRequest id
        (if waitSeconds ≤ 0 then .leaving .badTimeout else .waiting))
    | _ => none
  | .sendRejected id =>
    match client.requests id with
    | some (.sending _) => some (client.moveRequest id (.leaving .badParams))
    | _ => none
  | .writeFails id =>
    match client.requests id with
    | some (.sending _) => some (client.moveRequest id .failing)
    | _ => none
  | .failRequest id =>
    match client.requests id with
    | some .failing =>
      some ((client.failAll .writeFailed).moveRequest id (.leaving (.failed .writeFailed)))
    | _ => none
  | .take id =>
    match client.requests id, client.slots id with
    | some .waiting, some reply =>
      some ((client.setSlot id none).moveRequest id (.taken reply))
    | _, _ => none
  | .timeout id =>
    -- `get` raises only when it finds the queue empty
    match client.requests id, client.slots id with
    | some .waiting, none => some (client.moveRequest id (.leaving .timedOut))
    | _, _ => none
  | .pop id =>
    match client.requests id with
    | some (.taken reply) =>
      some ((client.popPending id).moveRequest id (.done (settle platform reply)))
    | some (.leaving outcome) => some ((client.popPending id).moveRequest id (.done outcome))
    | _ => none
  | .notifyFails => some (client.failAll .writeFailed)
  | .close => some { client with closing := true }
  | .closeFails => if client.closing then some (client.failAll .clientClosed) else none
  | .loop =>
    match client.reader with
    | .looping =>
      some (client.moveReader (if client.closing then .ending .readerStopped else .reading))
    | _ => none
  | .receive payload =>
    match client.reader with
    | .reading =>
      some ({ client with received := client.received ++ [payload] }.moveReader
        (dispatch platform payload))
    | _ => none
  | .readFails error =>
    match client.reader with
    | .reading => some (client.moveReader (.ending error))
    | _ => none
  | .handled =>
    match client.reader with
    | .handling => some (client.moveReader .looping)
    | _ => none
  | .handlerRaises =>
    match client.reader with
    | .handling => some (client.moveReader (.ending .raised))
    | _ => none
  | .handlerWriteFails =>
    match client.reader with
    | .handling => some ((client.failAll .writeFailed).moveReader (.ending .writeFailed))
    | _ => none
  | .lookup =>
    match client.reader with
    | .looking id payload =>
      match client.find id with
      | some found => some (client.moveReader (.delivering found payload))
      | none => some (client.moveReader .looping)
    | _ => none
  | .put =>
    match client.reader with
    | .delivering id payload =>
      match client.slots id with
      | some _ => none
      | none =>
        some ((client.setSlot id (some (.response payload))).moveReader .looping)
    | _ => none
  | .finish =>
    match client.reader with
    | .ending error => some ((client.failAll error).moveReader .stopped)
    | _ => none
  | .wake =>
    match client.fanout, client.terminal with
    | id :: rest, some error =>
      -- `put_nowait`, with a full queue ignored
      some { client.setSlot id (some ((client.slots id).getD (.fault error))) with
        fanout := rest }
    | _, _ => none

/-- The threads that go on when they can. The reader is not obliged to end the reading of a message
or a handler, a request is obliged to end its write. -/
inductive Thread
  | request (id : Nat)
  | reader
  | waker
  deriving DecidableEq

def owner : Label → Option Thread
  | .send id => some (.request id)
  | .sendRejected id => some (.request id)
  | .writeFails id => some (.request id)
  | .failRequest id => some (.request id)
  | .take id => some (.request id)
  | .timeout id => some (.request id)
  | .pop id => some (.request id)
  | .loop => some .reader
  | .lookup => some .reader
  | .put => some .reader
  | .finish => some .reader
  | .wake => some .waker
  | _ => none

/-! ### The fields after a piece -/

section Fields

variable {client : Client} {id other : Nat} {requester : Requester} {waitSeconds : Rat}

theorem Client.moveRequest_self :
    (client.moveRequest id requester).requests id = some requester :=
  Function.update_self ..

theorem Client.moveRequest_other (different : other ≠ id) :
    (client.moveRequest id requester).requests other = client.requests other :=
  Function.update_of_ne different ..

variable {slot : Option Reply}

theorem Client.setSlot_self : (client.setSlot id slot).slots id = slot :=
  Function.update_self ..

theorem Client.setSlot_other (different : other ≠ id) :
    (client.setSlot id slot).slots other = client.slots other :=
  Function.update_of_ne different ..

theorem Client.register_self :
    (client.register waitSeconds).requests client.nextId = some (.sending waitSeconds) :=
  Function.update_self ..

theorem Client.register_other (different : other ≠ client.nextId) :
    (client.register waitSeconds).requests other = client.requests other :=
  Function.update_of_ne different ..

theorem Client.register_slot_self : (client.register waitSeconds).slots client.nextId = none :=
  Function.update_self ..

theorem Client.register_slot_other (different : other ≠ client.nextId) :
    (client.register waitSeconds).slots other = client.slots other :=
  Function.update_of_ne different ..

/-- Only a client that is not terminal registers a request. -/
theorem beginRequest_cases {after : Client} {method : String}
    (begun : client.beginRequest method waitSeconds = .ok after) :
    client.terminal = none ∧ after = client.register waitSeconds := by
  unfold Client.beginRequest Client.raiseIfTerminal at begun
  split at begun
  · cases begun
  · cases terminal : client.terminal with
    | some error =>
      rw [terminal] at begun
      cases begun
    | none =>
      rw [terminal] at begun
      by_cases closing : client.closing = true
      · rw [if_pos closing] at begun
        cases begun
      · rw [if_neg closing] at begun
        cases begun
        exact ⟨rfl, rfl⟩

/-- **A terminal client refuses every request.** -/
theorem refused_of_terminal (terminal : client.terminal.isSome = true) (method : String) :
    ∃ refusal, client.beginRequest method waitSeconds = .error refusal := by
  cases begun : client.beginRequest method waitSeconds with
  | error refusal => exact ⟨refusal, rfl⟩
  | ok after =>
    rw [(beginRequest_cases begun).1] at terminal
    cases terminal

end Fields

variable {platform : Platform}

theorem dispatch_not_delivering {payload other : Object} {id : Nat}
    (delivering : dispatch platform payload = .delivering id other) : False := by
  unfold dispatch at delivering
  split at delivering
  · split at delivering <;> cases delivering
  · cases delivering
  · split at delivering <;> cases delivering

/-! ### What one step can do -/

/-- The steps, one constructor for a branch of the code. -/
inductive Move (platform : Platform) (client : Client) : Label → Client → Prop
  | refused (method : String) (waitSeconds : Rat) :
      Move platform client (.request method waitSeconds) client
  | registered (method : String) (waitSeconds : Rat) (running : client.terminal = none) :
      Move platform client (.request method waitSeconds) (client.register waitSeconds)
  | sent {id : Nat} {waitSeconds : Rat} (found : client.requests id = some (.sending waitSeconds))
      (long : ¬waitSeconds ≤ 0) :
      Move platform client (.send id) (client.moveRequest id .waiting)
  | badTimeout {id : Nat} {waitSeconds : Rat} (found : client.requests id = some (.sending waitSeconds))
      (short : waitSeconds ≤ 0) :
      Move platform client (.send id) (client.moveRequest id (.leaving .badTimeout))
  | badParams {id : Nat} {waitSeconds : Rat} (found : client.requests id = some (.sending waitSeconds)) :
      Move platform client (.sendRejected id) (client.moveRequest id (.leaving .badParams))
  | writeFailed {id : Nat} {waitSeconds : Rat}
      (found : client.requests id = some (.sending waitSeconds)) :
      Move platform client (.writeFails id) (client.moveRequest id .failing)
  | failedRequest {id : Nat} (found : client.requests id = some .failing) :
      Move platform client (.failRequest id)
        ((client.failAll .writeFailed).moveRequest id (.leaving (.failed .writeFailed)))
  | took {id : Nat} {reply : Reply} (found : client.requests id = some .waiting)
      (full : client.slots id = some reply) :
      Move platform client (.take id) ((client.setSlot id none).moveRequest id (.taken reply))
  | timedOut {id : Nat} (found : client.requests id = some .waiting)
      (empty : client.slots id = none) :
      Move platform client (.timeout id) (client.moveRequest id (.leaving .timedOut))
  | popped {id : Nat} {reply : Reply} (found : client.requests id = some (.taken reply)) :
      Move platform client (.pop id)
        ((client.popPending id).moveRequest id (.done (settle platform reply)))
  | left {id : Nat} {outcome : Outcome} (found : client.requests id = some (.leaving outcome)) :
      Move platform client (.pop id) ((client.popPending id).moveRequest id (.done outcome))
  | notifyFailed : Move platform client .notifyFails (client.failAll .writeFailed)
  | closed : Move platform client .close { client with closing := true }
  | closeFailed : Move platform client .closeFails (client.failAll .clientClosed)
  | looped {reader : Reader} (at_ : client.reader = .looping)
      (onward : reader = .reading ∨ reader = .ending .readerStopped) :
      Move platform client .loop (client.moveReader reader)
  | received (payload : Object) (at_ : client.reader = .reading) :
      Move platform client (.receive payload)
        ({ client with received := client.received ++ [payload] }.moveReader
          (dispatch platform payload))
  | readFailed (error : Fault) (at_ : client.reader = .reading) :
      Move platform client (.readFails error) (client.moveReader (.ending error))
  | handled (at_ : client.reader = .handling) :
      Move platform client .handled (client.moveReader .looping)
  | handlerRaised (at_ : client.reader = .handling) :
      Move platform client .handlerRaises (client.moveReader (.ending .raised))
  | handlerWriteFailed (at_ : client.reader = .handling) :
      Move platform client .handlerWriteFails
        ((client.failAll .writeFailed).moveReader (.ending .writeFailed))
  | lookedUp {id : Int} {payload : Object} {found : Nat} (at_ : client.reader = .looking id payload)
      (hit : client.find id = some found) :
      Move platform client .lookup (client.moveReader (.delivering found payload))
  | missed {id : Int} {payload : Object} (at_ : client.reader = .looking id payload)
      (miss : client.find id = none) :
      Move platform client .lookup (client.moveReader .looping)
  | put {id : Nat} {payload : Object} (at_ : client.reader = .delivering id payload)
      (empty : client.slots id = none) :
      Move platform client .put
        ((client.setSlot id (some (.response payload))).moveReader .looping)
  | finished {error : Fault} (at_ : client.reader = .ending error) :
      Move platform client .finish ((client.failAll error).moveReader .stopped)
  | woke {id : Nat} {rest : List Nat} {error : Fault} (head : client.fanout = id :: rest)
      (terminal : client.terminal = some error) :
      Move platform client .wake
        { client.setSlot id (some ((client.slots id).getD (.fault error))) with fanout := rest }

/-- **The steps are moves.** -/
theorem move_of_step {before after : Client} {label : Label}
    (taken : step platform before label = some after) : Move platform before label after := by
  cases label with
  | request method waitSeconds =>
    simp only [step] at taken
    split at taken
    · rename_i begun
      cases taken
      obtain ⟨running, rfl⟩ := beginRequest_cases begun
      exact .registered method waitSeconds running
    · cases taken
      exact .refused method waitSeconds
  | send id =>
    simp only [step] at taken
    split at taken
    · rename_i found
      cases taken
      split
      · exact .badTimeout found ‹_›
      · exact .sent found ‹_›
    · cases taken
  | pop id =>
    simp only [step] at taken
    split at taken
    · cases taken
      exact .popped ‹_›
    · cases taken
      exact .left ‹_›
    · cases taken
  | notifyFails =>
    cases taken
    exact .notifyFailed
  | close =>
    cases taken
    exact .closed
  | loop =>
    simp only [step] at taken
    split at taken
    · rename_i at_
      cases taken
      split
      · exact .looped at_ (.inr rfl)
      · exact .looped at_ (.inl rfl)
    · cases taken
  | lookup =>
    simp only [step] at taken
    split at taken
    · rename_i at_
      split at taken
      · rename_i hit
        cases taken
        exact .lookedUp at_ hit
      · cases taken
        exact .missed at_ ‹_›
    · cases taken
  | put =>
    simp only [step] at taken
    split at taken
    · rename_i at_
      split at taken
      · cases taken
      · cases taken
        exact .put at_ ‹_›
    · cases taken
  | sendRejected | writeFails | failRequest | take | timeout | closeFails | receive | readFails
  | handled | handlerRaises | handlerWriteFails | finish | wake =>
    -- what the step checks is what the move assumes
    simp only [step] at taken
    split at taken
    · cases taken
      constructor <;> assumption
    · cases taken

end SerenaLight.Lsp.SyncClient
