/-
**The two ways a document's symbols are loaded** (`workspace/runtime.py`).

Both ask the language server for the document's symbols, and a TypeScript server for the selection
ranges of the recovery candidates. `DocumentResponse` is what the server answers; it is one value so
that both ways can be given the same one.

- `loadDocument` is the read path (`_load_document` with its `_DocumentSymbolCapture`): it keeps the
  symbols whose range could not be recovered.
- `resolveDocumentSymbols` is the edit path (`_EditBridge.resolve_document_symbols`): it leaves them
  out before the symbols are normalized.
-/

import SerenaLight.Lsp.AssignmentRecovery
import SerenaLight.Tools.Editing

namespace SerenaLight.Workspace

open Foundation Lsp Tools

inductive LanguageFamily where
  | python
  | typescript
  deriving DecidableEq, Repr

/-- What one server answers about one document. `selectionRanges` is the answer to the request for
selection ranges, none when the server refuses it. -/
structure DocumentResponse where
  relativePath : String
  uri : String
  snapshot : FileSnapshot
  positionEncoding : PositionEncoding
  family : LanguageFamily
  symbols : Json
  selectionRanges : Option Json

/-- How a document fails to load. -/
inductive LoadFault where
  | notReady
  | notSequence
  | recovery (error : RecoveryError)
  | invalidInput
  deriving DecidableEq, Repr

/-- The symbol objects of a response: none, or a sequence of objects. -/
def readSymbols (symbols : Json) : Option (Option (List Object)) :=
  match symbols with
  | .null => some none
  | value => value.objects?.map some

/-- The selection ranges that count: those of a request that was made and answered by a sequence of
objects. -/
def readSelectionRanges (positions : List LspPosition) (selectionRanges : Option Json) :
    Option (List Object) :=
  if positions = [] then none else selectionRanges.bind Json.objects?

/-- The recovery of either language for the symbols of a response. -/
def recoverSymbols (moduleLevelCandidates : Text → Except ParseFault (List AssignmentStatement))
    (response : DocumentResponse) (raw : Option (List Object)) :
    Except RecoveryError AssignmentRecoveryResult :=
  let mapper := ⟨response.snapshot, response.positionEncoding⟩
  match response.family with
  | .python => Python.recover moduleLevelCandidates raw mapper
  | .typescript => do
    let positions ← Typescript.assignmentRecoveryPositions raw
    Typescript.recover raw (readSelectionRanges positions response.selectionRanges) mapper

/-- The document a path hands on, once its symbols are chosen. -/
def documentInput (response : DocumentResponse) (recovered : AssignmentRecoveryResult)
    (raw : List Object) : Except LoadFault DocumentSymbolInput :=
  match DocumentSymbolInput.make response.relativePath response.uri response.snapshot (some raw)
      response.positionEncoding recovered.bodyIncompleteReason with
  | some input => .ok input
  | none => .error .invalidInput

/-- `_load_document`: every symbol of the recovery. A response of another shape is no proof that the
document is ready. -/
def loadDocument (moduleLevelCandidates : Text → Except ParseFault (List AssignmentStatement))
    (response : DocumentResponse) : Except LoadFault DocumentSymbolInput :=
  match readSymbols response.symbols with
  | none => .error .notReady
  | some raw => do
    let recovered ← (recoverSymbols moduleLevelCandidates response raw).mapError .recovery
    documentInput response recovered recovered.rawSymbols

/-- `_EditBridge.resolve_document_symbols`: an unresolved assignment is no candidate for a
replacement. -/
def resolveDocumentSymbols
    (moduleLevelCandidates : Text → Except ParseFault (List AssignmentStatement))
    (response : DocumentResponse) : Except LoadFault DocumentSymbolInput :=
  match readSymbols response.symbols with
  | none => .error .notSequence
  | some raw => do
    let recovered ← (recoverSymbols moduleLevelCandidates response raw).mapError .recovery
    documentInput response recovered (recovered.rawSymbols.filter fun symbol =>
      (recovered.bodyIncompleteReason symbol).isNone)

end SerenaLight.Workspace
