/-
**Document versions and pushed diagnostics of one adapter.**

`LspState` records which document of a URI is live and the last diagnostics accepted for it. A
document is named by its generation, a counter that starts again at one when the documents are
reset for a replacement server process.

* `updateDocument`, `publishDiagnostics`, `resetDocuments`, `diagnosticsSnapshot`: the operations,
  each of them one critical section of the lock.
* `Recorded`: what every sequence of calls keeps.
* `Follows`: what the calls after an update keep about the document it returned, with and without a
  reset in between.
* `snapshot_of_update_iff`: **the generation of an update identifies its document exactly as long as
  the documents are not reset.**
-/

import Mathlib.Order.Nat
import SerenaLight.Foundation.Dict
import SerenaLight.Foundation.Run

set_option linter.unusedSectionVars false

namespace SerenaLight.Lsp

open Foundation

/-- How a publication relates to a document generation. -/
inductive DiagnosticsState
  | missing
  | clean
  | findings
  | stale
  deriving DecidableEq, Repr

structure Generations where
  source : Nat := 0
  index : Nat := 0
  diagnostics : Nat := 0
  deriving DecidableEq, Repr

/-- A document as one `update_document` call recorded it. The number of that call, `call`, stands
for the identity of the object: the other fields of two documents may agree. -/
structure DocumentSnapshot (Uri Path : Type) where
  uri : Uri
  path : Path
  version : Option Int
  generation : Nat
  call : Nat
  deriving DecidableEq, Repr

structure Publication (Uri Path Item : Type) where
  document : DocumentSnapshot Uri Path
  diagnosticsGeneration : Nat
  diagnostics : List Item
  deriving DecidableEq, Repr

structure DiagnosticsSnapshot (Uri Path Item : Type) where
  state : DiagnosticsState
  uri : Uri
  path : Option Path
  version : Option Int
  generation : Nat
  diagnosticsGeneration : Option Nat
  diagnostics : List Item
  deriving DecidableEq, Repr

/-- The exceptions the operations raise. -/
inductive StateFault
  | negativeGeneration
  | notFreezable
  deriving DecidableEq, Repr

/-- The state of the adapter's documents. `updates` and `resets` count the calls so far. -/
structure LspState (Uri Path Item : Type) where
  generations : Generations := {}
  documents : Dict Uri (DocumentSnapshot Uri Path) := .empty
  publications : Dict Uri (Publication Uri Path Item) := .empty
  updates : Nat := 0
  resets : Nat := 0
  deriving DecidableEq

namespace LspState

variable {Uri Path Diagnostic Item : Type} [DecidableEq Uri] [DecidableEq Path]

/-! ### The operations -/

def advanceSourceGeneration (state : LspState Uri Path Item) : LspState Uri Path Item :=
  { state with generations := { state.generations with source := state.generations.source + 1 } }

def advanceIndexGeneration (state : LspState Uri Path Item) : LspState Uri Path Item :=
  { state with generations := { state.generations with index := state.generations.index + 1 } }

/-- Record the newest configured-program generation indexed by the server. -/
def observeIndexGeneration (state : LspState Uri Path Item) (generation : Int) :
    Except StateFault (LspState Uri Path Item) :=
  if generation < 0 then .error .negativeGeneration
  else if (state.generations.index : Int) < generation then
    .ok { state with generations := { state.generations with index := generation.toNat } }
  else .ok state

def isNewerVersion (candidate current : Option Int) : Bool :=
  match current with
  | none => true
  | some current =>
    match candidate with
    | none => false
    | some candidate => candidate > current

/-- Record a newer document observation; none if it is old. -/
def updateDocument (state : LspState Uri Path Item) (uri : Uri) (path : Path)
    (version : Option Int) : Option (DocumentSnapshot Uri Path) × LspState Uri Path Item :=
  let record (generation : Nat) :=
    let document := ⟨uri, path, version, generation, state.updates⟩
    (some document,
      { state with
        documents := state.documents.set uri document
        updates := state.updates + 1 })
  match state.documents.get uri with
  | none => record 1
  | some previous =>
    if isNewerVersion version previous.version then record (previous.generation + 1)
    else (none, { state with updates := state.updates + 1 })

def document (state : LspState Uri Path Item) (uri : Uri) : Option (DocumentSnapshot Uri Path) :=
  state.documents.get uri

/-- Drop the documents and publications of a replaced server process. -/
def resetDocuments (state : LspState Uri Path Item) : LspState Uri Path Item :=
  { state with documents := .empty, publications := .empty, resets := state.resets + 1 }

/-- Whether a publication names the live document. -/
def matchesLive (document : DocumentSnapshot Uri Path) (path : Path) (version : Option Int)
    (generation : Nat) : Bool :=
  document.path = path && generation = document.generation &&
    match version, document.version with
    | some published, some live => published = live
    | _, _ => true

/-- Store a publication only when it matches the live document. `freeze` makes one diagnostic
immutable, or raises. -/
def publishDiagnostics (freeze : Diagnostic → Option Item) (state : LspState Uri Path Item)
    (uri : Uri) (path : Path) (version : Option Int) (generation : Nat)
    (diagnostics : List Diagnostic) : Except StateFault (Bool × LspState Uri Path Item) :=
  match state.documents.get uri with
  | none => .ok (false, state)
  | some document =>
    if matchesLive document path version generation then
      match diagnostics.mapM freeze with
      | none => .error .notFreezable
      | some frozen =>
        let diagnosticsGeneration := state.generations.diagnostics + 1
        .ok (true,
          { state with
            generations := { state.generations with diagnostics := diagnosticsGeneration }
            publications := state.publications.set uri
              ⟨document, diagnosticsGeneration, frozen⟩ })
    else .ok (false, state)

/-- Missing, current clean or findings, or explicitly stale. -/
def diagnosticsSnapshot (state : LspState Uri Path Item) (uri : Uri) (generation : Option Nat) :
    DiagnosticsSnapshot Uri Path Item :=
  let document := state.documents.get uri
  let expectedGeneration := generation.getD ((document.map (·.generation)).getD 0)
  match state.publications.get uri with
  | none =>
    ⟨.missing, uri, document.map (·.path), document.bind (·.version), expectedGeneration, none, []⟩
  | some publication =>
    let status : DiagnosticsState :=
      if publication.document.generation ≠ expectedGeneration then .stale
      else if publication.diagnostics.isEmpty then .clean else .findings
    ⟨status, uri, some publication.document.path, publication.document.version,
      publication.document.generation, some publication.diagnosticsGeneration,
      publication.diagnostics⟩

/-- One call of another thread or of the waiter itself. -/
inductive Call (Uri Path Diagnostic : Type)
  | update (uri : Uri) (path : Path) (version : Option Int)
  | publish (uri : Uri) (path : Path) (version : Option Int) (generation : Nat)
      (diagnostics : List Diagnostic)
  | reset
  | advanceSource
  | advanceIndex
  | observeIndex (generation : Int)

/-- The state after a call; a call that raises changes nothing. -/
def step (freeze : Diagnostic → Option Item) (state : LspState Uri Path Item) :
    Call Uri Path Diagnostic → Option (LspState Uri Path Item)
  | .update uri path version => some (state.updateDocument uri path version).2
  | .publish uri path version generation diagnostics =>
    match state.publishDiagnostics freeze uri path version generation diagnostics with
    | .ok (_, after) => some after
    | .error _ => some state
  | .reset => some state.resetDocuments
  | .advanceSource => some state.advanceSourceGeneration
  | .advanceIndex => some state.advanceIndexGeneration
  | .observeIndex generation =>
    match state.observeIndexGeneration generation with
    | .ok after => some after
    | .error _ => some state

/-- The states after any sequence of calls. -/
abbrev Called (freeze : Diagnostic → Option Item) (start state : LspState Uri Path Item) : Prop :=
  Reaches (step freeze) (fun _ _ => True) start state

/-- The publication was accepted, between `start` and `finish`, while `document` was the live
document of the URI, and is the one stored at `finish`. -/
def AcceptedFor (freeze : Diagnostic → Option Item) (start finish : LspState Uri Path Item)
    (uri : Uri) (document : DocumentSnapshot Uri Path) (publication : Publication Uri Path Item) :
    Prop :=
  ∃ live stored path version generation diagnostics,
    Called freeze start live ∧
    live.document uri = some document ∧
    live.publishDiagnostics freeze uri path version generation diagnostics = .ok (true, stored) ∧
    stored.publications.get uri = some publication ∧
    Called freeze stored finish ∧
    finish.publications.get uri = some publication

/-! ### What one call can do -/

/-- The effect of a call on the documents of one URI. -/
inductive Effect (uri : Uri) (before after : LspState Uri Path Item) : Prop
  | nothing (documents : after.documents.get uri = before.documents.get uri)
      (publications : after.publications.get uri = before.publications.get uri)
      (updates : before.updates ≤ after.updates) (resets : after.resets = before.resets)
  | updated (document : DocumentSnapshot Uri Path)
      (documents : after.documents.get uri = some document)
      (generation : document.generation =
        ((before.documents.get uri).map (·.generation)).getD 0 + 1)
      (call : document.call = before.updates)
      (publications : after.publications.get uri = before.publications.get uri)
      (updates : after.updates = before.updates + 1) (resets : after.resets = before.resets)
  | published (document : DocumentSnapshot Uri Path) (publication : Publication Uri Path Item)
      (live : before.documents.get uri = some document)
      (documents : after.documents.get uri = before.documents.get uri)
      (publications : after.publications.get uri = some publication)
      (names : publication.document = document)
      (updates : after.updates = before.updates) (resets : after.resets = before.resets)
  | reset (documents : after.documents.get uri = none)
      (publications : after.publications.get uri = none)
      (updates : after.updates = before.updates) (resets : after.resets = before.resets + 1)

theorem updateDocument_effect (state : LspState Uri Path Item) (uri other : Uri) (path : Path)
    (version : Option Int) : Effect other state (state.updateDocument uri path version).2 := by
  unfold updateDocument
  by_cases same : other = uri
  · subst same
    cases found : state.documents.get other with
    | none =>
      exact .updated _ (Dict.get_set_self _ _ _) (by simp [found]) rfl rfl rfl rfl
    | some previous =>
      dsimp only
      split
      · exact .updated _ (Dict.get_set_self _ _ _) (by simp [found]) rfl rfl rfl rfl
      · exact .nothing rfl rfl (Nat.le_succ _) rfl
  · have unchanged : ∀ document : DocumentSnapshot Uri Path,
        (state.documents.set uri document).get other = state.documents.get other :=
      fun document => Dict.get_set_of_ne _ document same
    cases state.documents.get uri with
    | none => exact .nothing (unchanged _) rfl (Nat.le_succ _) rfl
    | some previous =>
      dsimp only
      split
      · exact .nothing (unchanged _) rfl (Nat.le_succ _) rfl
      · exact .nothing rfl rfl (Nat.le_succ _) rfl

variable {freeze : Diagnostic → Option Item} {generation : Nat} {path : Path} {uri : Uri}
  {version : Option Int} {before after : LspState Uri Path Item}
  {document : DocumentSnapshot Uri Path} {publication : Publication Uri Path Item}

variable {state after before middle start : LspState Uri Path Item} {diagnostics : List Diagnostic}
  {accepted : Bool} {call : Call Uri Path Diagnostic}

/-- A publication is refused without a trace, or stored for the live document. -/
theorem publishDiagnostics_cases
    (published : state.publishDiagnostics freeze uri path version generation diagnostics =
      .ok (accepted, after)) :
    (accepted = false ∧ after = state) ∨
      ∃ document items, accepted = true ∧ state.documents.get uri = some document ∧
        after = { state with
          generations := { state.generations with
            diagnostics := state.generations.diagnostics + 1 }
          publications := state.publications.set uri
            ⟨document, state.generations.diagnostics + 1, items⟩ } := by
  unfold publishDiagnostics at published
  cases found : state.documents.get uri with
  | none =>
    rw [found] at published
    cases published
    exact .inl ⟨rfl, rfl⟩
  | some document =>
    rw [found] at published
    dsimp only at published
    split at published
    · cases frozen : diagnostics.mapM freeze with
      | none =>
        rw [frozen] at published
        cases published
      | some items =>
        rw [frozen] at published
        cases published
        exact .inr ⟨document, items, rfl, rfl, rfl⟩
    · cases published
      exact .inl ⟨rfl, rfl⟩

theorem publishDiagnostics_effect (other : Uri)
    (published : state.publishDiagnostics freeze uri path version generation diagnostics =
      .ok (accepted, after)) : Effect other state after := by
  obtain ⟨-, rfl⟩ | ⟨document, items, -, found, rfl⟩ := publishDiagnostics_cases published
  · exact .nothing rfl rfl le_rfl rfl
  · by_cases same : other = uri
    · subst same
      exact .published document _ found rfl (Dict.get_set_self _ _ _) rfl rfl rfl
    · exact .nothing rfl (Dict.get_set_of_ne _ _ same) le_rfl rfl

/-- **One call**, seen from one URI. -/
theorem step_effect (uri : Uri) (taken : step freeze before call = some after) :
    Effect uri before after := by
  cases call with
  | update other path version =>
    cases taken
    exact updateDocument_effect before other uri path version
  | publish other path version generation diagnostics =>
    rw [step] at taken
    split at taken
    · rename_i accepted result published
      cases taken
      exact publishDiagnostics_effect uri published
    · cases taken
      exact .nothing rfl rfl le_rfl rfl
  | reset =>
    cases taken
    exact .reset (Dict.get_empty uri) (Dict.get_empty uri) rfl rfl
  | advanceSource | advanceIndex =>
    cases taken
    exact .nothing rfl rfl le_rfl rfl
  | observeIndex generation =>
    rw [step] at taken
    unfold observeIndexGeneration at taken
    split_ifs at taken <;> cases taken <;> exact .nothing rfl rfl le_rfl rfl

/-! ### Every sequence of calls -/

/-- The document and the publication of one URI in any state of a run. -/
structure Recorded (uri : Uri) (state : LspState Uri Path Item) : Prop where
  older : ∀ document, state.documents.get uri = some document → document.call < state.updates
  covered : ∀ publication, state.publications.get uri = some publication →
    ∃ document, state.documents.get uri = some document ∧
      publication.document.generation ≤ document.generation

theorem Recorded.step
    (recorded : Recorded uri before) (effect : Effect uri before after) : Recorded uri after := by
  cases effect with
  | nothing documents publications updates _ =>
    refine ⟨fun document found => ?_, fun publication found => ?_⟩
    · exact lt_of_lt_of_le (recorded.older document (documents ▸ found)) updates
    · rw [documents]
      exact recorded.covered publication (publications ▸ found)
  | updated document documents generation call publications updates _ =>
    refine ⟨fun other found => ?_, fun publication found => ?_⟩
    · obtain rfl : document = other := Option.mem_unique documents found
      omega
    · obtain ⟨previous, live, bound⟩ := recorded.covered publication (publications ▸ found)
      rw [live] at generation
      refine ⟨document, documents, bound.trans ?_⟩
      simp only [Option.map_some, Option.getD_some] at generation
      omega
  | published document publication live documents publications names updates _ =>
    refine ⟨fun other found => ?_, fun other found => ?_⟩
    · rw [updates]
      exact recorded.older other (documents ▸ found)
    · obtain rfl : publication = other := Option.mem_unique publications found
      exact ⟨document, documents.trans live, names ▸ le_rfl⟩
  | reset documents publications _ _ =>
    refine ⟨fun document found => ?_, fun publication found => ?_⟩
    · rw [documents] at found
      cases found
    · rw [publications] at found
      cases found

theorem Called.recorded (called : Called freeze {} state) (uri : Uri) : Recorded uri state := by
  have initial : Recorded uri ({} : LspState Uri Path Item) :=
    ⟨nofun, nofun⟩
  exact called.invariant initial fun _ _ _ holds _ taken => holds.step (step_effect uri taken)

/-- What the state says about a document that was live when `resets` resets had been made: as long
as there was no other reset, its generation names nothing else; after one, it is gone. -/
structure Follows (uri : Uri) (document : DocumentSnapshot Uri Path) (resets : Nat)
    (state : LspState Uri Path Item) : Prop where
  older : document.call < state.updates
  counted : resets ≤ state.resets
  live : state.resets = resets → ∃ current, state.documents.get uri = some current ∧
    document.generation ≤ current.generation ∧
    (current.generation = document.generation → current = document)
  named : state.resets = resets → ∀ publication, state.publications.get uri = some publication →
    publication.document.generation = document.generation → publication.document = document
  goneLive : state.resets ≠ resets → ∀ current, state.documents.get uri = some current →
    current.call ≠ document.call
  gonePublished : state.resets ≠ resets → ∀ publication,
    state.publications.get uri = some publication → publication.document.call ≠ document.call

variable {resets : Nat}

theorem Follows.step (follows : Follows uri document resets before)
    (effect : Effect uri before after) : Follows uri document resets after := by
  cases effect with
  | nothing documents publications updates unreset =>
    refine ⟨lt_of_lt_of_le follows.older updates, unreset ▸ follows.counted, ?_, ?_, ?_, ?_⟩
    · rw [unreset, documents]
      exact follows.live
    · rw [unreset, publications]
      exact follows.named
    · rw [unreset, documents]
      exact follows.goneLive
    · rw [unreset, publications]
      exact follows.gonePublished
  | updated newer documents generation call publications updates unreset =>
    have olderCall := follows.older
    refine ⟨by omega, unreset ▸ follows.counted, ?_, ?_, ?_, ?_⟩
    · rw [unreset]
      intro same
      -- the generation of the URI only grows, so it is past that of the followed document
      obtain ⟨current, found, bound, _⟩ := follows.live same
      rw [found, Option.map_some, Option.getD_some] at generation
      exact ⟨newer, documents, by omega, fun equal => absurd equal (by omega)⟩
    · rw [unreset, publications]
      exact follows.named
    · intro _ current found
      obtain rfl : newer = current := Option.mem_unique documents found
      omega
    · rw [unreset, publications]
      exact follows.gonePublished
  | published current publication live documents publications names updates unreset =>
    have only : ∀ other, after.publications.get uri = some other → other = publication :=
      fun other found => (Option.mem_unique publications found).symm
    refine ⟨updates ▸ follows.older, unreset ▸ follows.counted, ?_, ?_, ?_, ?_⟩
    · rw [unreset, documents]
      exact follows.live
    · rw [unreset]
      intro same other found generation
      obtain rfl := only other found
      obtain ⟨known, knownLive, _, unique⟩ := follows.live same
      obtain rfl : current = known := Option.mem_unique live knownLive
      rw [names] at generation ⊢
      exact unique generation
    · rw [unreset, documents]
      exact follows.goneLive
    · rw [unreset]
      intro changed other found
      obtain rfl := only other found
      rw [names]
      exact follows.goneLive changed current live
  | reset documents publications updates again =>
    have counted := follows.counted
    refine ⟨updates ▸ follows.older, by omega, ?_, ?_, ?_, ?_⟩
    · exact fun same => absurd same (by omega)
    · exact fun same => absurd same (by omega)
    · intro _ current found
      rw [documents] at found
      cases found
    · intro _ publication found
      rw [publications] at found
      cases found

/-- A successful update stores a document of the next generation and nothing else. -/
theorem updateDocument_cases
    (updated : before.updateDocument uri path version = (some document, middle)) :
    document.generation = ((before.documents.get uri).map (·.generation)).getD 0 + 1 ∧
      document.call = before.updates ∧
      middle = { before with
        documents := before.documents.set uri document
        updates := before.updates + 1 } := by
  unfold updateDocument at updated
  cases found : before.documents.get uri with
  | none =>
    rw [found] at updated
    cases updated
    exact ⟨rfl, rfl, rfl⟩
  | some previous =>
    rw [found] at updated
    dsimp only at updated
    split at updated
    · cases updated
      exact ⟨rfl, rfl, rfl⟩
    · cases updated

/-- Whatever is published at an update is of an older generation. -/
theorem superseded_by_update (recorded : Recorded uri before)
    (updated : before.updateDocument uri path version = (some document, middle))
    (stored : middle.publications.get uri = some publication) :
    publication.document.generation < document.generation := by
  obtain ⟨generation, -, rfl⟩ := updateDocument_cases updated
  obtain ⟨current, live, bound⟩ := recorded.covered publication stored
  rw [live, Option.map_some, Option.getD_some] at generation
  omega

theorem follows_of_update (recorded : Recorded uri before)
    (updated : before.updateDocument uri path version = (some document, middle)) :
    Follows uri document middle.resets middle := by
  have superseded : ∀ publication, middle.publications.get uri = some publication →
      publication.document.generation < document.generation :=
    fun _ stored => superseded_by_update recorded updated stored
  obtain ⟨-, call, rfl⟩ := updateDocument_cases updated
  refine ⟨call ▸ Nat.lt_succ_self _, le_rfl, fun _ => ?_, fun _ publication stored equal => ?_,
    fun changed => absurd rfl changed, fun changed => absurd rfl changed⟩
  · exact ⟨document, Dict.get_set_self _ _ _, le_rfl, fun _ => rfl⟩
  · exact absurd equal (superseded publication stored).ne

theorem Follows.called (follows : Follows uri document resets start)
    (called : Called freeze start state) :
    Follows uri document resets state :=
  called.invariant follows fun _ _ _ holds _ taken => holds.step (step_effect uri taken)

/-! ### The publications of a run -/

theorem updateDocument_publications (state : LspState Uri Path Item) (uri : Uri) (path : Path)
    (version : Option Int) :
    (state.updateDocument uri path version).2.publications = state.publications := by
  unfold updateDocument
  split
  · rfl
  · dsimp only
    split <;> rfl

/-- A publication that a call stored was accepted for the document that was live then. -/
theorem accepted_by_step (taken : step freeze before call = some after)
    (stored : after.publications.get uri = some publication)
    (absent : before.publications.get uri ≠ some publication) :
    ∃ path version generation diagnostics, before.document uri = some publication.document ∧
      before.publishDiagnostics freeze uri path version generation diagnostics =
        .ok (true, after) := by
  cases call with
  | publish other path version generation diagnostics =>
    have published : ∃ accepted, before.publishDiagnostics freeze other path version generation
        diagnostics = .ok (accepted, after) := by
      rw [step] at taken
      split at taken
      · rename_i accepted result published
        cases taken
        exact ⟨accepted, published⟩
      · cases taken
        exact absurd stored absent
    obtain ⟨accepted, published⟩ := published
    obtain ⟨-, rfl⟩ | ⟨document, items, rfl, found, after_eq⟩ := publishDiagnostics_cases published
    · exact absurd stored absent
    · rw [after_eq] at stored
      by_cases same : uri = other
      · subst same
        obtain rfl := Option.some.inj ((Dict.get_set_self _ _ _).symm.trans stored)
        exact ⟨path, version, generation, diagnostics, found, published⟩
      · exact absurd ((Dict.get_set_of_ne _ _ same).symm.trans stored) absent
  | update other path version =>
    cases taken
    rw [updateDocument_publications] at stored
    exact absurd stored absent
  | reset =>
    cases taken
    exact absurd stored (by simp [resetDocuments])
  | advanceSource | advanceIndex =>
    cases taken
    exact absurd stored absent
  | observeIndex generation =>
    rw [step] at taken
    unfold observeIndexGeneration at taken
    split_ifs at taken <;> cases taken <;> exact absurd stored absent

/-- A stored publication was accepted earlier in the run, while its document was live, unless it is
older than the run. -/
theorem accepted_of_stored {finish : LspState Uri Path Item} (called : Called freeze start finish)
    (stored : finish.publications.get uri = some publication) :
    start.publications.get uri = some publication ∨
      AcceptedFor freeze start finish uri publication.document publication := by
  induction called with
  | start => exact .inl stored
  | @step before after call reached permitted taken ih =>
    by_cases earlier : before.publications.get uri = some publication
    · refine (ih earlier).imp id fun accepted => ?_
      obtain ⟨live, result, path, version, generation, diagnostics, first, found, published, held,
        rest, _⟩ := accepted
      exact ⟨live, result, path, version, generation, diagnostics, first, found, published, held,
        .step rest permitted taken, stored⟩
    · obtain ⟨path, version, generation, diagnostics, live, published⟩ :=
        accepted_by_step taken stored earlier
      exact .inr ⟨before, after, path, version, generation, diagnostics, reached, live, published,
        stored, .start, stored⟩

/-- A document accepted for is not one from before a reset. -/
theorem not_accepted_after_reset (follows : Follows uri document middle.resets middle)
    (later : Called freeze middle after) (reset : after.resets ≠ middle.resets)
    (publication : Publication Uri Path Item) :
    ¬ AcceptedFor freeze middle after uri document publication := by
  rintro ⟨live, stored, path, version, generation, diagnostics, _, found, published, held, _, kept⟩
  have names : publication.document = document := by
    obtain ⟨refused, -⟩ | ⟨current, items, -, current_live, rfl⟩ := publishDiagnostics_cases published
    · cases refused
    · obtain rfl := Option.some.inj ((Dict.get_set_self _ _ _).symm.trans held)
      exact Option.mem_unique current_live found
  exact (follows.called later).gonePublished reset publication kept (names ▸ rfl)

/-- The snapshot that answers for a generation is a publication of that generation. -/
theorem stored_of_answered
    (answered : (state.diagnosticsSnapshot uri (some generation)).state = .clean ∨
      (state.diagnosticsSnapshot uri (some generation)).state = .findings) :
    ∃ publication, state.publications.get uri = some publication ∧
      publication.document.generation = generation := by
  unfold diagnosticsSnapshot at answered
  cases stored : state.publications.get uri with
  | none => simp [stored] at answered
  | some publication =>
    refine ⟨publication, rfl, ?_⟩
    by_contra other
    simp [stored, other] at answered

/-- A publication of the generation of an update was accepted for its document, unless the documents
were reset. -/
theorem accepted_of_update {version : Option Int} {document : DocumentSnapshot Uri Path}
    {publication : Publication Uri Path Item} (reached : Called freeze {} before)
    (updated : before.updateDocument uri path version = (some document, middle))
    (later : Called freeze middle after) (unreset : after.resets = middle.resets)
    (stored : after.publications.get uri = some publication)
    (generation : publication.document.generation = document.generation) :
    AcceptedFor freeze middle after uri document publication := by
  have follows := follows_of_update (reached.recorded uri) updated
  have names := (follows.called later).named unreset publication stored generation
  obtain earlier | accepted := accepted_of_stored later stored
  · exact absurd generation (superseded_by_update (reached.recorded uri) updated earlier).ne
  · exact names ▸ accepted

/-- What the waiter gets is that publication: its path, its version and its diagnostics. -/
theorem snapshot_of_accepted {version : Option Int} {document : DocumentSnapshot Uri Path}
    (reached : Called freeze {} before)
    (updated : before.updateDocument uri path version = (some document, middle))
    (later : Called freeze middle after) (unreset : after.resets = middle.resets)
    (answered : (after.diagnosticsSnapshot uri (some document.generation)).state = .clean ∨
      (after.diagnosticsSnapshot uri (some document.generation)).state = .findings) :
    ∃ publication, AcceptedFor freeze middle after uri document publication ∧
      (after.diagnosticsSnapshot uri (some document.generation)).path =
        some publication.document.path ∧
      (after.diagnosticsSnapshot uri (some document.generation)).version =
        publication.document.version ∧
      (after.diagnosticsSnapshot uri (some document.generation)).diagnostics =
        publication.diagnostics := by
  obtain ⟨publication, stored, generation⟩ := stored_of_answered answered
  refine ⟨publication, accepted_of_update reached updated later unreset stored generation, ?_⟩
  unfold diagnosticsSnapshot
  rw [stored]
  exact ⟨rfl, rfl, rfl⟩

/-- **The generation of an update identifies its document until the documents are reset.** If a
later snapshot at that generation answers, the publication it returns was accepted while the
document of the update was live, exactly if no reset lies between the update and the snapshot. -/
theorem snapshot_of_update_iff (freeze : Diagnostic → Option Item) (uri : Uri) (path : Path)
    (version : Option Int) (document : DocumentSnapshot Uri Path)
    (before middle after : LspState Uri Path Item) (reached : Called freeze {} before)
    (updated : before.updateDocument uri path version = (some document, middle))
    (later : Called freeze middle after)
    (answered : (after.diagnosticsSnapshot uri (some document.generation)).state = .clean ∨
      (after.diagnosticsSnapshot uri (some document.generation)).state = .findings) :
    (∃ publication, after.publications.get uri = some publication ∧
      AcceptedFor freeze middle after uri document publication) ↔ after.resets = middle.resets := by
  have follows := follows_of_update (reached.recorded uri) updated
  constructor
  · rintro ⟨publication, _, accepted⟩
    by_contra reset
    exact not_accepted_after_reset follows later reset publication accepted
  · intro unreset
    obtain ⟨publication, stored, generation⟩ := stored_of_answered answered
    exact ⟨publication, stored, accepted_of_update reached updated later unreset stored generation⟩

/-- A document, its publication and the answer for its generation. -/
theorem snapshot_of_update_clean :
    ∃ (document : DocumentSnapshot String String) (middle after : LspState String String String),
      ({} : LspState String String String).updateDocument "file:///a.py" "/a.py" (some 1) =
        (some document, middle) ∧
      (after.diagnosticsSnapshot "file:///a.py" (some document.generation)).state = .clean ∧
      after.resets = middle.resets ∧
      ∃ publication, after.publications.get "file:///a.py" = some publication ∧
        AcceptedFor (some : String → Option String) middle after "file:///a.py" document
          publication := by
  let freeze : String → Option String := some
  let updated := ({} : LspState String String String).updateDocument "file:///a.py" "/a.py" (some 1)
  obtain ⟨after, later, answered, same⟩ := Reaches.of_run (step freeze) (fun _ _ => True) updated.2
    [.publish "file:///a.py" "/a.py" (some 1) 1 []]
    (fun after => (after.diagnosticsSnapshot "file:///a.py" (some 1)).state = .clean ∧
      after.resets = updated.2.resets)
    (by decide +kernel)
  exact ⟨⟨"file:///a.py", "/a.py", some 1, 1, 0⟩, updated.2, after, rfl, answered, same,
    (snapshot_of_update_iff freeze "file:///a.py" "/a.py" (some 1) _ {} updated.2 after .start rfl
      later (.inl answered)).mpr same⟩

/-- **After a reset the same generation names another document.** The first document of a URI is
opened at version 1; the server is replaced; the document that is opened then has generation 1
again, and its empty publication answers clean to whoever waits for the first one. -/
theorem snapshot_of_reset_document :
    ∃ (document : DocumentSnapshot String String) (middle after : LspState String String String),
      ({} : LspState String String String).updateDocument "file:///a.py" "/a.py" (some 1) =
        (some document, middle) ∧
      Called (some : String → Option String) middle after ∧
      (after.diagnosticsSnapshot "file:///a.py" (some document.generation)).state = .clean ∧
      ∀ publication,
        ¬ AcceptedFor (some : String → Option String) middle after "file:///a.py" document
          publication := by
  let freeze : String → Option String := some
  let updated := ({} : LspState String String String).updateDocument "file:///a.py" "/a.py" (some 1)
  obtain ⟨after, later, answered, reset⟩ := Reaches.of_run (step freeze) (fun _ _ => True) updated.2
    [.reset, .update "file:///a.py" "/a.py" (some 2), .publish "file:///a.py" "/a.py" (some 2) 1 []]
    (fun after => (after.diagnosticsSnapshot "file:///a.py" (some 1)).state = .clean ∧
      after.resets ≠ updated.2.resets) (by decide +kernel)
  have empty : Called freeze {} ({} : LspState String String String) := .start
  have follows : Follows "file:///a.py" ⟨"file:///a.py", "/a.py", some 1, 1, 0⟩ updated.2.resets
      updated.2 :=
    follows_of_update (empty.recorded _) rfl
  exact ⟨⟨"file:///a.py", "/a.py", some 1, 1, 0⟩, updated.2, after, rfl, later, answered,
    not_accepted_after_reset follows later reset⟩

end LspState

end SerenaLight.Lsp
