/-
**The pure steps of a guarded edit** (`tools/editing.py`).

- `AuthorizedEdit` is the authorizer's target.
- `resolveUniqueSymbol` looks the name path up in a document-symbol response that describes the
  snapshot; its answer is the byte range that the edit replaces.
- `replacementBytes` is the new content: the old bytes around the range, and between them the body
  in the file's own line endings.
-/

import SerenaLight.Tools.Navigation

namespace SerenaLight.Tools

open Foundation Fallible Lsp

/-- `_valid_normalized_relative_path`. -/
def validNormalizedRelativePath (value : String) : Bool :=
  value ≠ "" && value.toList.head? != some '/' && !value.toList.contains '\\' &&
    !value.toList.contains '\x00' &&
      (value.toList.splitOn '/').all fun part => part ≠ [] && part ≠ ['.'] && part ≠ ['.', '.']

/-- `AuthorizedEdit`: the target with its URI and the name of its entry in the parent directory. -/
structure AuthorizedEdit where
  relativePath : String
  uri : String
  entryName : String
  normalized : validNormalizedRelativePath relativePath

/-! ### The symbol -/

/-- What `_resolve_unique_symbol` raises; the caller answers all of them alike. -/
inductive ResolutionFault where
  | otherDocument
  | normalization (error : NormalizationError)
  | position (error : PositionError)
  deriving DecidableEq, Repr

structure SymbolIdentity where
  name : String
  namePath : String
  kind : Int
  deriving DecidableEq, Repr

/-- The resolved symbol, its bytes in the file and the document it was found in. -/
structure ResolvedSymbol where
  identity : SymbolIdentity
  startByte : Nat
  endByte : Nat
  document : DocumentNavigation

/-- The edit's view of a found symbol. -/
def ResolvedSymbol.ofFound (document : DocumentNavigation) (found : FoundSymbol) : ResolvedSymbol where
  identity := ⟨found.symbol.name, found.symbol.namePath, found.symbol.kind⟩
  startByte := found.symbol.range.start.byteOffset
  endByte := found.symbol.range.stop.byteOffset
  document := document

/-- `_resolve_unique_symbol`. -/
def resolveUniqueSymbol (library : Library) (target : AuthorizedEdit) (snapshot : FileSnapshot)
    (supplied : DocumentSymbolInput) (namePath : NamePath) :
    Except ResolutionFault (Except FindError ResolvedSymbol) :=
  if supplied.relativePath ≠ target.relativePath ∨ supplied.uri ≠ target.uri ∨
      supplied.snapshot.rawBytes ≠ snapshot.rawBytes then .error .otherDocument
  else
    match DocumentNavigation.fromInput library supplied with
    | .error error => .error (.normalization error)
    | .ok document =>
      match findSymbol library document namePath false false false 64000 none with
      | .error error => .error (.position error)
      | .ok (.error error) => .ok (.error error)
      | .ok (.ok found) => .ok (.ok (.ofFound document found))

variable {snapshot : FileSnapshot}

/-- A resolution that succeeds is a lookup that succeeds in the supplied document. -/
theorem resolveUniqueSymbol_eq_ok {library : Library} {target : AuthorizedEdit}
    {supplied : DocumentSymbolInput} {namePath : NamePath} {resolved : ResolvedSymbol}
    (done : resolveUniqueSymbol library target snapshot supplied namePath = .ok (.ok resolved)) :
    supplied.snapshot.rawBytes = snapshot.rawBytes ∧
      ∃ document found, DocumentNavigation.fromInput library supplied = .ok document ∧
        findSymbol library document namePath false false false 64000 none = .ok (.ok found) ∧
        resolved = .ofFound document found := by
  unfold resolveUniqueSymbol at done
  by_cases other : supplied.relativePath ≠ target.relativePath ∨ supplied.uri ≠ target.uri ∨
      supplied.snapshot.rawBytes ≠ snapshot.rawBytes
  · rw [if_pos other] at done
    cases done
  · rw [if_neg other] at done
    have same : supplied.snapshot.rawBytes = snapshot.rawBytes := by
      by_contra different
      exact other (.inr (.inr different))
    cases loaded : DocumentNavigation.fromInput library supplied with
    | error fault =>
      rw [loaded] at done
      cases done
    | ok document =>
      rw [loaded] at done
      dsimp only at done
      split at done
      · cases done
      · cases done
      · next found answered =>
          cases done
          exact ⟨same, document, found, rfl, answered, rfl⟩

/-! ### The new content -/

/-- A body as a caller gives it: a Python string, in which a surrogate may stand alone (`none`). -/
abbrev Body := List (Option Char)

/-- `body.replace("\r\n", "\n")`. -/
def joinCrLf : Body → Body
  | some '\r' :: some '\n' :: rest => some '\n' :: joinCrLf rest
  | character :: rest => character :: joinCrLf rest
  | [] => []

/-- The body in the file's line endings. -/
def normalizeBody (newline : Text) (body : Body) : Body :=
  ((joinCrLf body).map fun character =>
      if character = some '\r' then some '\n' else character).flatMap fun character =>
    if character = some '\n' then newline.map some else [character]

/-- `_newline_contract`; mixed and bare-CR files raise. -/
def newlineContract (snapshot : FileSnapshot) : Option Text :=
  if snapshot.lineEndings.all (· = ['\n']) then some ['\n']
  else if snapshot.lineEndings.all (· = ['\r', '\n']) then some ['\r', '\n']
  else none

/-- `str.encode("utf-8")`; a lone surrogate raises. -/
def encodeBody (body : Body) : Option Bytes := (body.mapM id).map encode

/-- `_replacement_bytes`. -/
def replacementBytes (snapshot : FileSnapshot) (body : Body) (start stop : Nat) : Option Bytes := do
  let newline ← newlineContract snapshot
  let encoded ← encodeBody (normalizeBody newline body)
  return snapshot.rawBytes.take start ++ encoded ++ snapshot.rawBytes.drop stop

/-- The new content is the old bytes around the range, with the encoded body between them. -/
theorem replacementBytes_eq_some {body : Body} {start stop : Nat} {replacement : Bytes}
    (built : replacementBytes snapshot body start stop = some replacement) :
    ∃ newline encoded, newlineContract snapshot = some newline ∧
      encodeBody (normalizeBody newline body) = some encoded ∧
      replacement = snapshot.rawBytes.take start ++ encoded ++ snapshot.rawBytes.drop stop := by
  obtain ⟨newline, contract, built⟩ := Option.bind_eq_some_iff.mp built
  obtain ⟨encoded, encodes, built⟩ := Option.bind_eq_some_iff.mp built
  exact ⟨newline, encoded, contract, encodes, (Option.some.inj built).symm⟩

end SerenaLight.Tools
