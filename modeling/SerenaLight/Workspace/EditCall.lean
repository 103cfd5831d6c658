/-
**One call of `WorkspaceRuntime.replace_symbol_body`** (`workspace/runtime.py`).

The call is a caller, the transaction worker that runs `preflighted`, and the adapter worker that
runs the guarded edit. They share two futures and two commits, and take steps in any order; a stop
of the runtime cancels what is still queued. The guarded edit is a run of
`EditContext.replaceSymbolBody` against any other processes, whose events happen one by one.

- `EditCall.step`: the steps of the three threads.
- `EditCall.Moves`: what each step does (`moves_of_step`).
-/

import SerenaLight.Foundation.Run
import SerenaLight.Tools.EditMarks

namespace SerenaLight.Workspace

open Foundation Lsp Tools

/-! ### Envelopes -/

/-- The exceptions that the call tells apart; `fatal` is one that is not an `Exception`. -/
inductive Failure where
  | timeout
  | cancelled
  | workspace (code : String)
  | runtime (code : String)
  | input
  | other
  | fatal
  deriving DecidableEq, Repr

/-- The codes of `ErrorCode`. -/
def errorCodes : List String :=
  ["INVALID_PATH", "UNTRUSTED_ROOT", "INVALID_INPUT", "OUT_OF_WORKSPACE", "SCOPE_INCOMPATIBLE",
    "NOT_READY", "UNSUPPORTED", "SYMBOL_NOT_FOUND", "AMBIGUOUS_SYMBOL", "STALE_HASH",
    "READ_ONLY_ROOT", "LEASE_EXPIRED", "BUSY", "TIMED_OUT", "COOLDOWN", "UNCERTAIN"]

/-- The code under which `_tool_envelope` answers; the other exceptions propagate. -/
def Failure.code : Failure → Option String
  | .workspace code => some code
  | .runtime code => some (if code ∈ errorCodes then code else "UNSUPPORTED")
  | .timeout => some "TIMED_OUT"
  | .input => some "INVALID_INPUT"
  | .cancelled => none
  | .other => none
  | .fatal => none

/-- What the call returns: the edit's own answer, or an error of the call. -/
inductive Envelope where
  | answer (answer : EditAnswer)
  | error (code : String)
  deriving DecidableEq, Repr

/-- The code of an error envelope. -/
def Envelope.code : Envelope → Option String
  | .answer given => given.code
  | .error code => some code

/-! ### The threads -/

/-- Where the caller is. -/
inductive Caller where
  | ready
  | waiting
  | timedOut
  | returned (envelope : Envelope)
  | raised (failure : Failure)
  deriving DecidableEq, Repr

/-- The end of `_tool_envelope` after an exception. -/
def Caller.ofFailure (failure : Failure) : Caller :=
  match failure.code with
  | some code => .returned (.error code)
  | none => .raised failure

/-- The caller has its end. -/
def Caller.ended : Caller → Bool
  | .returned _ => true
  | .raised _ => true
  | _ => false

/-- Where the transaction worker is in `preflighted`. -/
inductive Worker where
  | idle
  | taken
  | marked
  | prepared
  | waiting
  | timedOut
  | done
  deriving DecidableEq, Repr

/-- Where the adapter worker is; in the edit, with the events to come and how it will end. -/
inductive EditWorker where
  | idle
  | taken
  | editing (rest : List Event) (ending : Ending)
  | done
  deriving DecidableEq

structure EditCall where
  caller : Caller
  transaction : Option (Future Envelope Failure)
  transactionCommit : EditCommitState
  worker : Worker
  edit : Option (Future Envelope Failure)
  commit : EditCommitState
  editor : EditWorker
  events : List Event
  runs : Nat
  deriving DecidableEq

namespace EditCall

def init : EditCall where
  caller := .ready
  transaction := none
  transactionCommit := .queued
  worker := .idle
  edit := none
  commit := .queued
  editor := .idle
  events := []
  runs := 0

/-- The steps. A failure in a label is the exception that the step meets. -/
inductive Label where
  | submit (refused : Option Failure)
  | giveUp
  | cancelTransaction
  | collect
  | stopTransactions
  | take
  | markTransaction
  | preflight (failed : Option Failure)
  | submitEdit (refused : Option Failure)
  | editTimeout
  | cancelEdit
  | collectEdit
  | stopEdits
  | takeEdit
  | enter (failed : Failure)
  | beginEdit (context : EditContext) (request : EditRequest) (fs : FileSystem) (script : List Turn)
  | event
  | endEdit (failure : Failure)

/-- `preflighted` ends. -/
def settle (self : EditCall) (result : Future Envelope Failure) : EditCall :=
  { self with worker := .done, transaction := some result }

/-- The adapter worker ends its item. -/
def settleEdit (self : EditCall) (result : Future Envelope Failure) : EditCall :=
  { self with editor := .done, edit := some result }

/-- `admitted` behind `future.result`. -/
def collect (self : EditCall) : Future Envelope Failure → Option EditCall
  | .returned envelope => some { self with caller := .returned envelope }
  | .raised .timeout => some { self with caller := .timedOut }
  | .raised .cancelled => some { self with caller := .ofFailure (.runtime "STOPPED") }
  | .raised failure => some { self with caller := .ofFailure failure }
  | .cancelled => some { self with caller := .ofFailure (.runtime "STOPPED") }
  | _ => none

/-- `operation` behind `future.result`: an exception after the rename is uncertain. -/
def collectEdit (self : EditCall) : Future Envelope Failure → Option EditCall
  | .returned envelope => some (self.settle (.returned envelope))
  | .raised .timeout => some { self with worker := .timedOut }
  | .raised .fatal => some (self.settle (.raised .fatal))
  | .raised failure => some (self.settle
      (if self.commit.reachedDisk then .returned (.error "UNCERTAIN") else .raised failure))
  | .cancelled => some (self.settle
      (if self.commit.reachedDisk then .returned (.error "UNCERTAIN") else .raised .cancelled))
  | _ => none

/-- One step of one thread, if it is enabled. -/
def step (self : EditCall) : Label → Option EditCall
  | .submit refused =>
    if self.caller = .ready then
      match refused with
      | none => some { self with caller := .waiting, transaction := some .pending }
      | some failure => some { self with caller := .ofFailure failure }
    else none
  | .giveUp =>
    if self.caller = .waiting ∧ self.transaction.all (!·.done) then
      some { self with caller := .timedOut }
    else none
  | .cancelTransaction =>
    match self.caller, self.transaction with
    | .timedOut, some future =>
      some { self with
        transaction := some future.cancel.1
        caller := .returned (.error
          (if future.cancel.2 ∧ self.transactionCommit = .queued then "TIMED_OUT"
          else "UNCERTAIN")) }
    | _, _ => none
  | .collect =>
    match self.caller, self.transaction with
    | .waiting, some future => self.collect future
    | _, _ => none
  | .stopTransactions =>
    match self.transaction with
    | some .pending => some { self with transaction := some .cancelled }
    | _ => none
  | .take =>
    match self.transaction.bind Future.setRunning with
    | some future => some { self with transaction := some future, worker := .taken }
    | none => none
  | .markTransaction =>
    if self.worker = .taken then
      match self.transactionCommit.advance .running with
      | some moved => some { self with transactionCommit := moved, worker := .marked }
      | none => some (self.settle (.raised .input))
    else none
  | .preflight failed =>
    if self.worker = .marked then
      match failed with
      | none => some { self with worker := .prepared }
      | some failure => some (self.settle (.raised failure))
    else none
  | .submitEdit refused =>
    if self.worker = .prepared then
      match refused with
      | none => some { self with worker := .waiting, edit := some .pending, commit := .queued }
      | some failure => some (self.settle (.raised failure))
    else none
  | .editTimeout =>
    if self.worker = .waiting ∧ self.edit.all (!·.done) then
      some { self with worker := .timedOut }
    else none
  | .cancelEdit =>
    match self.worker, self.edit with
    | .timedOut, some future =>
      some { self.settle (.returned (.error
          (if future.cancel.2 ∧ self.commit = .queued then "TIMED_OUT" else "UNCERTAIN")))
        with edit := some future.cancel.1 }
    | _, _ => none
  | .collectEdit =>
    match self.worker, self.edit with
    | .waiting, some future => self.collectEdit future
    | _, _ => none
  | .stopEdits =>
    match self.edit with
    | some .pending => some { self with edit := some .cancelled }
    | _ => none
  | .takeEdit =>
    match self.edit.bind Future.setRunning with
    | some future => some { self with edit := some future, editor := .taken }
    | none => none
  | .enter failed =>
    if self.editor = .taken then some (self.settleEdit (.raised failed)) else none
  | .beginEdit context request fs script =>
    if self.editor = .taken then
      match self.commit.advance .running with
      | some moved =>
        let run := ending (context.replaceSymbolBody request ⟨fs, script, [], some moved⟩)
        some { self with
          commit := moved, editor := .editing run.2 run.1, runs := self.runs + 1 }
      | none => some (self.settleEdit (.raised .input))
    else none
  | .event =>
    match self.editor with
    | .editing (event :: rest) ending =>
      some { self with
        editor := .editing rest ending
        events := self.events ++ [event]
        commit := committed self.commit [event] }
    | _ => none
  | .endEdit failure =>
    match self.editor with
    | .editing [] (.ok answer) => some (self.settleEdit (.returned (.answer answer)))
    | .editing [] (.error .cut) => none
    | .editing [] (.error _) => some (self.settleEdit (.raised failure))
    | _ => none

/-! ### What a step does -/

/-- The effect of a step, with the control point it is taken at. -/
inductive Moves (self : EditCall) : EditCall → Prop
  | submitted (ready : self.caller = .ready) :
      Moves self { self with caller := .waiting, transaction := some .pending }
  | refused (failure : Failure) (ready : self.caller = .ready) :
      Moves self { self with caller := .ofFailure failure }
  | gaveUp (waits : self.caller = .waiting) : Moves self { self with caller := .timedOut }
  | cancelsTransaction (future : Future Envelope Failure) (late : self.caller = .timedOut)
      (held : self.transaction = some future) :
      Moves self { self with
        transaction := some future.cancel.1
        caller := .returned (.error
          (if future.cancel.2 ∧ self.transactionCommit = .queued then "TIMED_OUT"
          else "UNCERTAIN")) }
  | collects (future : Future Envelope Failure) (after : EditCall) (waits : self.caller = .waiting)
      (held : self.transaction = some future) (done : self.collect future = some after) :
      Moves self after
  | stopsTransactions (queued : self.transaction = some .pending) :
      Moves self { self with transaction := some .cancelled }
  | takes (queued : self.transaction = some .pending) :
      Moves self { self with transaction := some .running, worker := .taken }
  | marks (moved : EditCommitState) (taken : self.worker = .taken)
      (advanced : self.transactionCommit.advance .running = some moved) :
      Moves self { self with transactionCommit := moved, worker := .marked }
  | prepares (marked : self.worker = .marked) : Moves self { self with worker := .prepared }
  | fails (failure : Failure)
      (early : self.worker = .taken ∨ self.worker = .marked ∨ self.worker = .prepared) :
      Moves self (self.settle (.raised failure))
  | submitsEdit (prepared : self.worker = .prepared) :
      Moves self { self with worker := .waiting, edit := some .pending, commit := .queued }
  | losesPatience (waits : self.worker = .waiting) : Moves self { self with worker := .timedOut }
  | cancelsEdit (future : Future Envelope Failure) (late : self.worker = .timedOut)
      (held : self.edit = some future) :
      Moves self { self.settle (.returned (.error
          (if future.cancel.2 ∧ self.commit = .queued then "TIMED_OUT" else "UNCERTAIN")))
        with edit := some future.cancel.1 }
  | collectsEdit (future : Future Envelope Failure) (after : EditCall)
      (waits : self.worker = .waiting) (held : self.edit = some future)
      (done : self.collectEdit future = some after) : Moves self after
  | stopsEdits (queued : self.edit = some .pending) :
      Moves self { self with edit := some .cancelled }
  | takesEdit (queued : self.edit = some .pending) :
      Moves self { self with edit := some .running, editor := .taken }
  | failsEdit (failure : Failure) (taken : self.editor = .taken) :
      Moves self (self.settleEdit (.raised failure))
  | begins (context : EditContext) (request : EditRequest) (fs : FileSystem) (script : List Turn)
      (taken : self.editor = .taken) (moved : EditCommitState)
      (advanced : self.commit.advance .running = some moved) :
      Moves self { self with
        commit := moved
        editor := .editing
          (ending (context.replaceSymbolBody request ⟨fs, script, [], some moved⟩)).2
          (ending (context.replaceSymbolBody request ⟨fs, script, [], some moved⟩)).1
        runs := self.runs + 1 }
  | happens (event : Event) (rest : List Event) (ending : Ending)
      (editing : self.editor = .editing (event :: rest) ending) :
      Moves self { self with
        editor := .editing rest ending
        events := self.events ++ [event]
        commit := committed self.commit [event] }
  | answers (answer : EditAnswer) (editing : self.editor = .editing [] (.ok answer)) :
      Moves self (self.settleEdit (.returned (.answer answer)))
  | raises (stop : Stop) (failure : Failure) (editing : self.editor = .editing [] (.error stop)) :
      Moves self (self.settleEdit (.raised failure))

theorem setRunning_eq_some {current : Option (Future Envelope Failure)}
    {future : Future Envelope Failure} (taken : current.bind Future.setRunning = some future) :
    current = some .pending ∧ future = .running := by
  obtain ⟨held, rfl, starts⟩ := Option.bind_eq_some_iff.mp taken
  cases held with
  | pending => exact ⟨rfl, (Option.some.inj starts).symm⟩
  | cancelled | running | returned value | raised failure => cases starts

theorem moves_of_step {self after : EditCall} {label : Label} (taken : self.step label = some after) :
    self.Moves after := by
  cases label with
  | submit refused =>
    obtain ⟨ready, taken⟩ := Option.ite_none_right_eq_some.mp taken
    cases refused with
    | none => cases taken; exact .submitted ready
    | some failure => cases taken; exact .refused failure ready
  | giveUp =>
    obtain ⟨waits, ⟨⟩⟩ := Option.ite_none_right_eq_some.mp taken
    exact .gaveUp waits.1
  | cancelTransaction =>
    simp only [step] at taken
    split at taken
    · next future late held => cases taken; exact .cancelsTransaction future late held
    · cases taken
  | collect =>
    simp only [step] at taken
    split at taken
    · next future waits held => exact .collects future after waits held taken
    · cases taken
  | stopTransactions =>
    simp only [step] at taken
    split at taken
    · next queued => cases taken; exact .stopsTransactions queued
    · cases taken
  | take =>
    simp only [step] at taken
    split at taken
    · next future starts =>
        obtain ⟨queued, rfl⟩ := setRunning_eq_some starts
        cases taken
        exact .takes queued
    · cases taken
  | markTransaction =>
    obtain ⟨begun, taken⟩ := Option.ite_none_right_eq_some.mp taken
    split at taken
    · next moved advanced => cases taken; exact .marks moved begun advanced
    · cases taken; exact .fails .input (.inl begun)
  | preflight failed =>
    obtain ⟨marked, taken⟩ := Option.ite_none_right_eq_some.mp taken
    cases failed with
    | none => cases taken; exact .prepares marked
    | some failure => cases taken; exact .fails failure (.inr (.inl marked))
  | submitEdit refused =>
    obtain ⟨prepared, taken⟩ := Option.ite_none_right_eq_some.mp taken
    cases refused with
    | none => cases taken; exact .submitsEdit prepared
    | some failure => cases taken; exact .fails failure (.inr (.inr prepared))
  | editTimeout =>
    obtain ⟨waits, ⟨⟩⟩ := Option.ite_none_right_eq_some.mp taken
    exact .losesPatience waits.1
  | cancelEdit =>
    simp only [step] at taken
    split at taken
    · next future late held => cases taken; exact .cancelsEdit future late held
    · cases taken
  | collectEdit =>
    simp only [step] at taken
    split at taken
    · next future waits held => exact .collectsEdit future after waits held taken
    · cases taken
  | stopEdits =>
    simp only [step] at taken
    split at taken
    · next queued => cases taken; exact .stopsEdits queued
    · cases taken
  | takeEdit =>
    simp only [step] at taken
    split at taken
    · next future starts =>
        obtain ⟨queued, rfl⟩ := setRunning_eq_some starts
        cases taken
        exact .takesEdit queued
    · cases taken
  | enter failed =>
    obtain ⟨begun, ⟨⟩⟩ := Option.ite_none_right_eq_some.mp taken
    exact .failsEdit failed begun
  | beginEdit context request fs script =>
    obtain ⟨begun, taken⟩ := Option.ite_none_right_eq_some.mp taken
    split at taken
    · next moved advanced =>
        cases taken
        exact .begins context request fs script begun moved advanced
    · cases taken; exact .failsEdit .input begun
  | event =>
    simp only [step] at taken
    split at taken
    · next event rest ending editing => cases taken; exact .happens event rest ending editing
    · cases taken
  | endEdit failure =>
    simp only [step] at taken
    split at taken
    · next answer editing => cases taken; exact .answers answer editing
    · cases taken
    · next stop _ editing => cases taken; exact .raises stop failure editing
    · cases taken

/-- The states of one call. -/
def Reached (state : EditCall) : Prop := Reaches step (fun _ _ => True) init state

end EditCall

end SerenaLight.Workspace
