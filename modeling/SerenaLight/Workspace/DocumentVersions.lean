/-
**The versions of open documents** (`workspace/runtime.py`, `lsp/adapter.py`).

The runtime counts the versions of a file in one map. A load and a watcher batch reserve the next
version there when they are submitted, and pass it when the adapter's worker gets to them; a semantic
target and the opening of a guarded edit reserve it in the worker. The adapter records every version it
takes and refuses one that is not newer. The notification of an installed edit passes the version after
the one it opened, and leaves the map alone.

* `Adapter.openDocument`: `_open_document_with_client`, as far as versions and open documents go.
* `Runtime`, `Call`, `call`: the calls on one runtime and the stages of its workers, interleaved. A
  caller that has timed out goes on, and its work stays in the queue.
* `Reservation.overtaken`: what has happened to a reservation that was not yet passed. It is set by the
  notification of an edit and by a version that is reserved in the worker, and by nothing else.

A document is named by its path: the inventory has no links, so that paths and URIs correspond. The
drain of recorded closes and the temporary documents of created files pass no version of the map.
-/

import Mathlib.Logic.Function.Basic
import SerenaLight.Lsp.State

namespace SerenaLight.Workspace.DocumentVersions

open Foundation Lsp

variable {Path Family : Type} [DecidableEq Path] [DecidableEq Family]

/-! ### The adapter -/

/-- `MAX_OPEN_DOCUMENTS`. -/
def maxOpenDocuments : Nat := 128

/-- What the server does to one opening: the barrier of the drain, the message itself or the close of
an evicted document may fail. -/
inductive Fate
  | drainFails
  | sendFails
  | evictionFails
  | sent
  deriving DecidableEq, Repr

/-- How `_open_document_with_client` ends. -/
inductive Opening
  | untrusted
  | stale
  | undrained
  | unsent
  | opened
  deriving DecidableEq, Repr

/-- The version was recorded, whether or not the server has got the text. -/
def Opening.records : Opening → Bool
  | opened | unsent => true
  | _ => false

/-- The documents of one adapter, the open ones with the oldest first. -/
structure Adapter (Path : Type) where
  lspState : LspState Path Path Unit := {}
  openDocuments : List Path := []

namespace Adapter

/-- The version recorded for a document in this server process. -/
def recorded (adapter : Adapter Path) (path : Path) : Option Int :=
  (adapter.lspState.document path).bind (·.version)

/-- `_drain_unversioned_diagnostics_before_change`: an engine without versions in its publications
gets the document closed first. -/
def disown (versioned : Bool) (adapter : Adapter Path) (path : Path) : Adapter Path :=
  if versioned then adapter
  else { adapter with openDocuments := adapter.openDocuments.erase path }

/-- `_send_document_open_or_change`: the document becomes the youngest, and the oldest ones beyond the
bound are closed. -/
def retain (adapter : Adapter Path) (path : Path) : Adapter Path :=
  { adapter with
    openDocuments :=
      if path ∈ adapter.openDocuments then adapter.openDocuments.erase path ++ [path]
      else (adapter.openDocuments ++ [path]).drop (adapter.openDocuments.length + 1 - maxOpenDocuments) }

/-- `_close_document_worker`. -/
def close (adapter : Adapter Path) (path : Path) : Adapter Path :=
  { adapter with openDocuments := adapter.openDocuments.erase path }

/-- `_open_document_with_client`. -/
def openDocument (versioned : Bool) (adapter : Adapter Path) (path : Path) (version : Int)
    (trusted : Bool) (fate : Fate) : Opening × Adapter Path :=
  if !trusted then (.untrusted, adapter)
  else if (adapter.recorded path).any (fun current => version ≤ current) then (.stale, adapter)
  else
    let drained := adapter.disown versioned path
    if !versioned && fate = .drainFails then (.undrained, drained)
    else
      match drained.lspState.updateDocument path path (some version) with
      | (none, lspState) => (.stale, { drained with lspState := lspState })
      | (some _, lspState) =>
        let updated := { drained with lspState := lspState.advanceSourceGeneration }
        if fate = .sendFails then (.unsent, updated)
        else if fate = .evictionFails then (.unsent, updated.retain path)
        else (.opened, updated.retain path)

end Adapter

/-! ### Reservations and jobs -/

/-- A version that was reserved and not yet passed. -/
structure Reservation where
  version : Int
  overtaken : Bool
  deriving DecidableEq, Repr

def Reservation.flag (mark : Int → Bool → Bool) (reservation : Reservation) : Reservation :=
  { reservation with overtaken := mark reservation.version reservation.overtaken }

inductive FileChangeType
  | created
  | changed
  | deleted
  deriving DecidableEq, Repr

/-- A watcher batch, with the versions that it has reserved. -/
structure Batch (Path : Type) where
  events : List (Path × FileChangeType)
  reserved : Path → Option Reservation

/-- What waits in the queue of an adapter's worker; the first one is under way. -/
inductive Job (Path : Type)
  | load (path : Path) (reservation : Reservation)
  | loadDiagnostics (path : Path) (reservation : Reservation)
  /-- the targets of a semantic result that are not yet opened -/
  | bindTargets (targets : List Path)
  /-- a guarded edit before the resolution of its symbols -/
  | edit (path : Path)
  /-- a guarded edit that has opened its document with this version -/
  | notifyEdit (path : Path) (version : Int)
  | watch (batch : Batch Path)
  /-- a batch in its loop over the documents that were open at its start -/
  | reconcile (batch : Batch Path) (documents : List Path)

namespace Job

/-- The reservations of a file that a job has yet to pass. -/
def reservations (path : Path) : Job Path → List Reservation
  | .load other reservation | .loadDiagnostics other reservation =>
    if other = path then [reservation] else []
  | .watch batch => (batch.reserved path).toList
  | .reconcile batch documents => if path ∈ documents then (batch.reserved path).toList else []
  | _ => []

/-- Change what is known of the reservations of a job. -/
def flag (mark : Path → Int → Bool → Bool) : Job Path → Job Path
  | .load path reservation => .load path (reservation.flag (mark path))
  | .loadDiagnostics path reservation => .loadDiagnostics path (reservation.flag (mark path))
  | .watch batch =>
    .watch { batch with reserved := fun path => (batch.reserved path).map (.flag (mark path)) }
  | .reconcile batch documents =>
    .reconcile { batch with reserved := fun path => (batch.reserved path).map (.flag (mark path)) }
      documents
  | job => job

/-- The server process is not replaced in the middle of these. -/
def underWay : Job Path → Bool
  | .notifyEdit _ _ | .reconcile _ _ => true
  | _ => false

end Job

/-! ### The runtime -/

/-- One version that was passed to an adapter, with the version recorded there before. -/
structure Pass (Path : Type) where
  path : Path
  version : Int
  recorded : Option Int
  overtaken : Bool
  opening : Opening
  deriving DecidableEq, Repr

structure Runtime (Path Family : Type) where
  /-- `_versions`; a file without an entry has version 0 -/
  versions : Path → Int := fun _ => 0
  adapters : Family → Adapter Path := fun _ => {}
  queues : Family → List (Job Path) := fun _ => []
  /-- an edit of the file was notified in this server process, and no version reserved since its own -/
  ahead : Path → Bool := fun _ => false
  passes : List (Pass Path) := []

/-- How an opening goes once it has been dispatched. -/
structure Arrival where
  trusted : Bool
  fate : Fate

/-- What a worker meets at one stage of a job. -/
structure Outcome where
  /-- whether the stage is reached, or the job fails before it -/
  begins : Bool := true
  arrival : Arrival := ⟨true, .sent⟩
  /-- whether the cached text of a document is the text of its file -/
  unchanged : Bool := false
  /-- whether the probe of a reused document succeeds while its caller waits -/
  probed : Bool := false
  readable : Bool := true
  /-- whether a `didClose`, if one is needed, can be sent -/
  closes : Bool := true

/-- The calls of a runtime that concern versions, the stages of its workers, and the replacement of a
server process. -/
inductive Call (Path Family : Type)
  | load (path : Path)
  | loadDiagnostics (path : Path)
  | bindTargets (family : Family) (targets : List Path)
  | edit (path : Path)
  | watch (family : Family) (events : List (Path × FileChangeType))
  | work (family : Family) (outcome : Outcome)
  | replaceProcess (family : Family)

namespace Runtime

variable (familyOf : Path → Family) (versioned : Family → Bool)

/-! #### Submission -/

/-- Reserve the next version of a file. -/
def reserve (runtime : Runtime Path Family) (path : Path) : Runtime Path Family :=
  { runtime with
    versions := Function.update runtime.versions path (runtime.versions path + 1)
    ahead := Function.update runtime.ahead path false }

/-- The reservation that `reserve` makes. -/
def reservation (runtime : Runtime Path Family) (path : Path) : Reservation :=
  ⟨runtime.versions path + 1, runtime.ahead path⟩

def enqueue (runtime : Runtime Path Family) (family : Family) (job : Job Path) :
    Runtime Path Family :=
  { runtime with queues := Function.update runtime.queues family (runtime.queues family ++ [job]) }

/-- The versions that a watcher batch reserves. -/
def reserveChanged : List (Path × FileChangeType) → (Path → Option Reservation) →
    Runtime Path Family → (Path → Option Reservation) × Runtime Path Family
  | [], reserved, runtime => (reserved, runtime)
  | (path, .changed) :: rest, reserved, runtime =>
    reserveChanged rest (Function.update reserved path (some (runtime.reservation path)))
      (runtime.reserve path)
  | (_, .created) :: rest, reserved, runtime | (_, .deleted) :: rest, reserved, runtime =>
    reserveChanged rest reserved runtime

/-- `notify_watched_files`. -/
def watch (runtime : Runtime Path Family) (family : Family) (events : List (Path × FileChangeType)) :
    Runtime Path Family :=
  let result := runtime.reserveChanged events fun _ => none
  result.2.enqueue family (.watch ⟨events, result.1⟩)

/-! #### The worker -/

/-- Put a job back at the head of its queue. -/
def resume (runtime : Runtime Path Family) (family : Family) (job : Job Path) : Runtime Path Family :=
  { runtime with queues := Function.update runtime.queues family (job :: runtime.queues family) }

/-- Pass a version to an adapter. Its inventory has only files of its own family. -/
def pass (runtime : Runtime Path Family) (family : Family) (path : Path) (version : Int)
    (overtaken : Bool) (arrival : Arrival) : Opening × Runtime Path Family :=
  let result := (runtime.adapters family).openDocument (versioned family) path version
    (arrival.trusted && familyOf path = family) arrival.fate
  (result.1,
    { runtime with
      adapters := Function.update runtime.adapters family result.2
      passes := runtime.passes ++
        [⟨path, version, (runtime.adapters family).recorded path, overtaken, result.1⟩] })

/-- Some reservations of a file are overtaken. -/
def overtake (runtime : Runtime Path Family) (family : Family) (path : Path) (which : Int → Bool) :
    Runtime Path Family :=
  { runtime with
    queues := Function.update runtime.queues family ((runtime.queues family).map
      (.flag fun other version overtaken => overtaken || (other = path && which version))) }

/-- Reserve a version in the worker and pass it: every reservation of the file that waits in the queue
is overtaken. -/
def openNext (runtime : Runtime Path Family) (family : Family) (path : Path) (arrival : Arrival) :
    Opening × Runtime Path Family :=
  let result := (runtime.reserve path).pass familyOf versioned family path (runtime.versions path + 1)
    (familyOf path = family && runtime.ahead path) arrival
  (result.1, if result.1.records then result.2.overtake family path fun _ => true else result.2)

/-- `notify_edit_with_client`: the reservation next to the edit's own is overtaken, or is yet to be
made. -/
def notifyEdit (runtime : Runtime Path Family) (family : Family) (path : Path) (version : Int)
    (arrival : Arrival) : Runtime Path Family :=
  let result := runtime.pass familyOf versioned family path (version + 1) false arrival
  if result.1.records then
    { result.2.overtake family path fun reserved => reserved = version + 1 with
      ahead := Function.update runtime.ahead path (runtime.versions path = version) }
  else result.2

def close (runtime : Runtime Path Family) (family : Family) (path : Path) : Runtime Path Family :=
  { runtime with
    adapters := Function.update runtime.adapters family ((runtime.adapters family).close path) }

/-- The reuse of an unchanged open document. Its caller rolls the reservation back, unless it has gone
on to submit something else. -/
def reuse (runtime : Runtime Path Family) (family : Family) (path : Path) (version current : Int)
    (probed : Bool) : Runtime Path Family :=
  let moved := { runtime with
    adapters := Function.update runtime.adapters family ((runtime.adapters family).retain path) }
  if probed && (runtime.queues family).isEmpty && runtime.versions path = version then
    { moved with
      versions := Function.update runtime.versions path current
      ahead := Function.update runtime.ahead path false }
  else moved

/-- The opening of a load for diagnostics. -/
def loadDiagnostics (runtime : Runtime Path Family) (family : Family) (path : Path)
    (reservation : Reservation) (outcome : Outcome) : Runtime Path Family :=
  match (runtime.adapters family).recorded path with
  | some current =>
    if outcome.unchanged && path ∈ (runtime.adapters family).openDocuments then
      runtime.reuse family path reservation.version current outcome.probed
    else (runtime.pass familyOf versioned family path reservation.version reservation.overtaken
      outcome.arrival).2
  | none => (runtime.pass familyOf versioned family path reservation.version reservation.overtaken
      outcome.arrival).2

/-- One document in the loop of `_reconcile_watched_files_worker`. -/
def reconcile (runtime : Runtime Path Family) (family : Family) (batch : Batch Path) (path : Path)
    (documents : List Path) (outcome : Outcome) : Runtime Path Family :=
  let goes (runtime : Runtime Path Family) := runtime.resume family (.reconcile batch documents)
  let closes (runtime : Runtime Path Family) :=
    if outcome.closes then goes (runtime.close family path) else runtime.close family path
  match (runtime.adapters family).lspState.document path with
  | none => goes (runtime.close family path)
  | some _ =>
    if (path, .deleted) ∈ batch.events then closes runtime
    else if (path, .changed) ∉ batch.events then goes runtime
    else
      match outcome.readable, batch.reserved path with
      | true, some reservation =>
        match runtime.pass familyOf versioned family path reservation.version reservation.overtaken
            outcome.arrival with
        | (.opened, next) => goes next
        | (.untrusted, next) | (.stale, next) => closes next
        | (.undrained, next) | (.unsent, next) => next
      | _, _ => closes runtime

/-- One stage of the job at the head of a queue, which is taken off and put back if it goes on. -/
def stage (runtime : Runtime Path Family) (family : Family) (outcome : Outcome) :
    Job Path → Runtime Path Family
  | .load path reservation =>
    (runtime.pass familyOf versioned family path reservation.version reservation.overtaken
      outcome.arrival).2
  | .loadDiagnostics path reservation =>
    runtime.loadDiagnostics familyOf versioned family path reservation outcome
  | .bindTargets [] => runtime
  | .bindTargets (path :: targets) =>
    match runtime.openNext familyOf versioned family path outcome.arrival with
    | (.opened, next) => next.resume family (.bindTargets targets)
    | (_, next) => next
  | .edit path =>
    match runtime.openNext familyOf versioned family path outcome.arrival with
    | (.opened, next) => next.resume family (.notifyEdit path (runtime.versions path + 1))
    | (_, next) => next
  | .notifyEdit path version =>
    runtime.notifyEdit familyOf versioned family path version outcome.arrival
  | .watch batch => runtime.resume family (.reconcile batch (runtime.adapters family).openDocuments)
  | .reconcile _ [] => runtime
  | .reconcile batch (path :: documents) =>
    runtime.reconcile familyOf versioned family batch path documents outcome

def work (runtime : Runtime Path Family) (family : Family) (outcome : Outcome) : Runtime Path Family :=
  match runtime.queues family with
  | [] => runtime
  | job :: rest =>
    let next := { runtime with queues := Function.update runtime.queues family rest }
    if outcome.begins then next.stage familyOf versioned family outcome job else next

/-- `_ensure_started_worker` for a new process, or a new adapter, before a job begins. -/
def replaceProcess (runtime : Runtime Path Family) (family : Family) : Runtime Path Family :=
  if (runtime.queues family).head?.any Job.underWay then runtime
  else
    { runtime with
      adapters := Function.update runtime.adapters family
        { lspState := (runtime.adapters family).lspState.resetDocuments, openDocuments := [] }
      queues := Function.update runtime.queues family
        ((runtime.queues family).map (.flag fun _ _ _ => false))
      ahead := fun path => if familyOf path = family then false else runtime.ahead path }

def call (runtime : Runtime Path Family) : Call Path Family → Runtime Path Family
  | .load path => (runtime.reserve path).enqueue (familyOf path) (.load path (runtime.reservation path))
  | .loadDiagnostics path =>
    (runtime.reserve path).enqueue (familyOf path) (.loadDiagnostics path (runtime.reservation path))
  | .bindTargets family targets => runtime.enqueue family (.bindTargets targets)
  | .edit path => runtime.enqueue (familyOf path) (.edit path)
  | .watch family events => runtime.watch family events
  | .work family outcome => runtime.work familyOf versioned family outcome
  | .replaceProcess family => runtime.replaceProcess familyOf family

/-- Any interleaving of calls and stages, on a new runtime. -/
def run (calls : List (Call Path Family)) : Runtime Path Family :=
  calls.foldl (call familyOf versioned) {}

end Runtime

end SerenaLight.Workspace.DocumentVersions
