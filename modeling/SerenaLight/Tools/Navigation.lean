/-
**Name-path lookup in one document** (`tools/navigation.py`).

- `DocumentSymbolInput` is one document-symbol response with its snapshot; `DocumentNavigation` is the
  normalized form that both lookups read.
- `NamePathPattern` is a parsed name path: a non-empty list of non-empty segments, matched against
  the end of a symbol's name path, or against all of it when absolute.
- `findSymbol` answers with the one symbol that matches. `findSymbol_eq_ok` says when.
-/

import Mathlib
import SerenaLight.Lsp.Normalize

namespace SerenaLight.Tools

open Foundation Fallible Lsp

/-- One document-symbol response and its source snapshot. -/
structure DocumentSymbolInput where
  relativePath : String
  uri : String
  snapshot : FileSnapshot
  rawSymbols : Option (List Object)
  positionEncoding : PositionEncoding
  bodyCompleteness : Object → Option String
  relative : relativePath ≠ "" ∧ relativePath.toList.head? ≠ some '/'
  named : uri ≠ ""

/-- `DocumentSymbolInput.__post_init__`; a refused input raises. -/
def DocumentSymbolInput.make (relativePath uri : String) (snapshot : FileSnapshot)
    (rawSymbols : Option (List Object)) (positionEncoding : PositionEncoding)
    (bodyCompleteness : Object → Option String) : Option DocumentSymbolInput :=
  if relative : relativePath ≠ "" ∧ relativePath.toList.head? ≠ some '/' then
    if named : uri ≠ "" then
      some ⟨relativePath, uri, snapshot, rawSymbols, positionEncoding, bodyCompleteness, relative,
        named⟩
    else none
  else none

/-- The normalized tree of one document. -/
structure DocumentNavigation where
  relativePath : String
  uri : String
  mapper : PositionMapper
  symbols : List NormalizedSymbol

/-- The functions of the standard library that normalization and the answers call. -/
structure Library where
  fileUriPath : String → Except NormalizationError (Option String)
  str : Json → String
  sha256 : Bytes → String

/-- The normalizer of a document: names stay as they are. -/
def Library.normalizer (library : Library) (uri : String)
    (bodyCompleteness : Object → Option String) : Normalizer where
  documentUri := uri
  nameFn := id
  bodyCompleteness := bodyCompleteness
  fileUriPath := library.fileUriPath
  str := library.str

/-- `DocumentNavigation.from_input`. -/
def DocumentNavigation.fromInput (library : Library) (value : DocumentSymbolInput) :
    Except NormalizationError DocumentNavigation := do
  let symbols ← normalizeDocumentSymbols (library.normalizer value.uri value.bodyCompleteness)
    value.rawSymbols
  return ⟨value.relativePath, value.uri, ⟨value.snapshot, value.positionEncoding⟩, symbols⟩

/-! ### Name paths -/

/-- A name path as a caller gives it: a text, a sequence whose items may not be texts, or neither. -/
inductive NamePath where
  | text (value : String)
  | parts (values : List (Option String))
  | other
  deriving DecidableEq, Repr

/-- `_NamePathPattern`. -/
structure NamePathPattern where
  components : List String
  absolute : Bool
  filled : components ≠ [] ∧ "" ∉ components
  deriving DecidableEq

namespace NamePathPattern

/-- The last check of `_parse_name_path`. -/
def make (components : List String) (absolute : Bool) : Option NamePathPattern :=
  if filled : components ≠ [] ∧ "" ∉ components then some ⟨components, absolute, filled⟩ else none

/-- `_parse_name_path`. -/
def parse : NamePath → Option NamePathPattern
  | .text value =>
    let stripped := ((value.toList.dropWhile (· == '/')).reverse.dropWhile (· == '/')).reverse
    make ((stripped.splitOn '/').map String.ofList) (value.toList.head? == some '/')
  | .parts values => do make (← values.mapM id) false
  | .other => none

/-- `expression`. -/
def expression (self : NamePathPattern) : String :=
  (if self.absolute then "/" else "") ++ "/".intercalate self.components

/-- `expected in actual`. -/
def isWithin (expected actual : String) : Bool :=
  actual.toList.tails.any fun tail => expected.toList.isPrefixOf tail

/-- The comparison segment by segment; substring matching is for the last one only. -/
def agree (substringMatching : Bool) : List String → List String → Bool
  | [], [] => true
  | [expected], [actual] =>
    if substringMatching then isWithin expected actual else expected == actual
  | expected :: more, actual :: rest => expected == actual && agree substringMatching more rest
  | _, _ => false

/-- `_matches_name_path`, on the symbol's name path. -/
def admits (self : NamePathPattern) (substringMatching : Bool) (path : List String) : Bool :=
  if path.length < self.components.length then false
  else if self.absolute && path.length != self.components.length then false
  else agree substringMatching self.components (path.drop (path.length - self.components.length))

end NamePathPattern

/-! ### Answers -/

structure SymbolInfo where
  detail : Option String
  selectionRange : SourceRange
  deriving DecidableEq, Repr

structure SymbolBody where
  body : Text
  hasChildren : Bool
  deriving DecidableEq, Repr

/-- The public record of a symbol. -/
structure SymbolData where
  name : String
  namePath : String
  kind : Int
  range : SourceRange
  info : Option SymbolInfo
  body : Option SymbolBody
  deriving DecidableEq, Repr

namespace SymbolData

def positionJson (position : SourcePosition) : Json :=
  .object [("line", .int position.line), ("column", .int position.column),
    ("text_offset", .int position.textOffset), ("byte_offset", .int position.byteOffset)]

def rangeJson (range : SourceRange) : Json :=
  .object [("start", positionJson range.start), ("end", positionJson range.stop)]

def infoJson (info : SymbolInfo) : Json :=
  .object [("detail", match info.detail with | some detail => .str detail | none => .null),
    ("selection_range", rangeJson info.selectionRange)]

def toJson (self : SymbolData) : Json :=
  .object ([("name", .str self.name), ("name_path", .str self.namePath), ("kind", .int self.kind),
      ("range", rangeJson self.range)] ++
    (match self.info with
      | some info => [("info", infoJson info)]
      | none => []) ++
    match self.body with
      | some body => [("body", .str (String.ofList body.body)),
          ("has_children", .bool body.hasChildren)]
      | none => [])

/-- `len(_canonical_json(data))`. -/
def size (self : SymbolData) : Nat := self.toJson.canonical.length

end SymbolData

/-- `_source_range`. -/
def sourceRange (mapper : PositionMapper) (range : Range) : Except PositionError SourceRange :=
  PublicPositionRenderer.range mapper range.start range.stop

/-- `_name_path_text`. -/
def namePathText (symbol : NormalizedSymbol) : String := "/".intercalate symbol.namePath

/-- `_symbol_data`. -/
def symbolData (mapper : PositionMapper) (includeBody includeInfo : Bool)
    (symbol : NormalizedSymbol) : Except PositionError SymbolData := do
  let range ← sourceRange mapper symbol.location.range
  let info ← if includeInfo then do
      let selection ← sourceRange mapper symbol.selectionRange
      pure (some ⟨symbol.detail, selection⟩)
    else pure none
  let body ← if includeBody then do
      let text ← PublicPositionRenderer.text mapper symbol.location.range.start
        symbol.location.range.stop
      pure (some ⟨text, !symbol.children.isEmpty⟩)
    else pure none
  return ⟨symbol.name, namePathText symbol, symbol.kind, range, info, body⟩

variable {symbol : NormalizedSymbol} {library : Library}

/-- The plain record of a symbol whose range is in the snapshot. -/
theorem symbolData_eq_ok {mapper : PositionMapper} {data : SymbolData} :
    symbolData mapper false false symbol = .ok data ↔
      ∃ range, sourceRange mapper symbol.location.range = .ok range ∧
        data = ⟨symbol.name, namePathText symbol, symbol.kind, range, none, none⟩ := by
  unfold symbolData
  rw [bind_eq_ok]
  constructor
  · rintro ⟨range, rendered, done⟩
    exact ⟨range, rendered, (Except.ok.inj done).symm⟩
  · rintro ⟨range, rendered, rfl⟩
    exact ⟨range, rendered, rfl⟩

/-- The error answers of `find_symbol`. -/
inductive FindError where
  | invalidBounds
  | symbolNotFound (namePath : String)
  | ambiguousSymbol (namePath : String) (candidates : List SymbolData) (omitted : Nat)
  | incompleteBody (namePath : String) (recoveryReason : String)
  | answerTooLarge (minimumRequired : Nat)
  deriving DecidableEq, Repr

/-- The data of a successful `find_symbol`. -/
structure FoundSymbol where
  relativePath : String
  sha256 : String
  symbol : SymbolData
  deriving DecidableEq, Repr

/-- `_bounded_candidates` after the candidates in `kept`. -/
def boundedCandidates (maxAnswerChars : Int) (kept : List SymbolData) :
    List SymbolData → List SymbolData
  | [] => kept
  | candidate :: rest =>
    let shown := Json.object [("candidates", .list ((kept ++ [candidate]).map SymbolData.toJson))]
    if shown.canonical.length > maxAnswerChars then kept
    else boundedCandidates maxAnswerChars (kept ++ [candidate]) rest

/-- `_symbol_order_key` of one symbol is not after that of the other. -/
def notAfter (first second : NormalizedSymbol) : Bool :=
  let start := first.location.range.start
  let other := second.location.range.start
  if start.line ≠ other.line then start.line < other.line
  else if start.character ≠ other.character then start.character < other.character
  else first.namePath ≤ second.namePath

/-- The symbols of a document in depth-first order. -/
def DocumentNavigation.listing (self : DocumentNavigation) : List NormalizedSymbol :=
  self.symbols.flatMap NormalizedSymbol.depthFirst

/-- The symbols of a document that a pattern admits, in depth-first order. -/
def DocumentNavigation.admitted (self : DocumentNavigation) (pattern : NamePathPattern)
    (substringMatching : Bool) : List NormalizedSymbol :=
  self.listing.filter fun symbol => pattern.admits substringMatching symbol.namePath

/-- The answer when one symbol matches. -/
def answerOne (library : Library) (document : DocumentNavigation) (includeBody includeInfo : Bool)
    (maxAnswerChars : Int) (symbol : NormalizedSymbol) :
    Except PositionError (Except FindError FoundSymbol) :=
  match includeBody, symbol.bodyIncompleteReason with
  | true, some reason => .ok (.error (.incompleteBody (namePathText symbol) reason))
  | _, _ => do
    let selected ← symbolData document.mapper includeBody includeInfo symbol
    if selected.size > maxAnswerChars then return .error (.answerTooLarge selected.size)
    else return .ok ⟨document.relativePath, library.sha256 document.mapper.snapshot.rawBytes,
      selected⟩

/-- The answer when several symbols match: as many candidates as the budget holds. -/
def answerSeveral (document : DocumentNavigation) (pattern : NamePathPattern)
    (maxAnswerChars : Int) (several : List NormalizedSymbol) :
    Except PositionError (Except FindError FoundSymbol) := do
  let shown ← several.mapM (symbolData document.mapper false false)
  let kept := boundedCandidates maxAnswerChars [] shown
  return .error (.ambiguousSymbol pattern.expression kept (shown.length - kept.length))

/-- `find_symbol`; a range outside the snapshot raises. -/
def findSymbol (library : Library) (document : DocumentNavigation) (namePath : NamePath)
    (substringMatching includeBody includeInfo : Bool) (maxAnswerChars : Int)
    (errorMaxAnswerChars : Option Int) : Except PositionError (Except FindError FoundSymbol) :=
  match NamePathPattern.parse namePath with
  | none => .ok (.error .invalidBounds)
  | some pattern =>
    if maxAnswerChars ≤ 0 ∨ errorMaxAnswerChars.any (· ≤ 0) then .ok (.error .invalidBounds)
    else
      match (document.admitted pattern substringMatching).insertionSort (notAfter · ·) with
      | [] => .ok (.error (.symbolNotFound pattern.expression))
      | [symbol] => answerOne library document includeBody includeInfo maxAnswerChars symbol
      | several =>
        answerSeveral document pattern (errorMaxAnswerChars.getD maxAnswerChars) several

/-! ### When a lookup succeeds -/

variable {document : DocumentNavigation} {found : FoundSymbol} {maxAnswerChars : Int}

theorem answerOne_eq_ok :
    answerOne library document false false maxAnswerChars symbol = .ok (.ok found) ↔
      symbolData document.mapper false false symbol = .ok found.symbol ∧
        (found.symbol.size : Int) ≤ maxAnswerChars ∧
        found.relativePath = document.relativePath ∧
        found.sha256 = library.sha256 document.mapper.snapshot.rawBytes := by
  unfold answerOne
  simp only [bind_eq_ok]
  constructor
  · rintro ⟨selected, rendered, done⟩
    by_cases large : (selected.size : Int) > maxAnswerChars
    · rw [if_pos large] at done
      cases done
    · rw [if_neg large] at done
      cases done
      exact ⟨rendered, not_lt.mp large, rfl, rfl⟩
  · rintro ⟨rendered, small, path, hash⟩
    refine ⟨found.symbol, rendered, ?_⟩
    rw [if_neg (by omega), ← path, ← hash]
    rfl

theorem answerSeveral_ne_ok {pattern : NamePathPattern} {several : List NormalizedSymbol} :
    answerSeveral document pattern maxAnswerChars several ≠ .ok (.ok found) := by
  intro done
  obtain ⟨_, _, done⟩ := bind_eq_ok.mp done
  cases done

/-- **A lookup succeeds** exactly when one symbol of the document matches, its range is in the
snapshot and its record fits the budget. -/
theorem findSymbol_eq_ok {namePath : NamePath} {substringMatching : Bool} :
    findSymbol library document namePath substringMatching false false maxAnswerChars none =
        .ok (.ok found) ↔
      ∃ pattern symbol, NamePathPattern.parse namePath = some pattern ∧ 0 < maxAnswerChars ∧
        document.admitted pattern substringMatching = [symbol] ∧
        answerOne library document false false maxAnswerChars symbol = .ok (.ok found) := by
  unfold findSymbol
  cases parsed : NamePathPattern.parse namePath with
  | none =>
    refine ⟨fun done => ?_, fun ⟨_, _, same, _⟩ => ?_⟩
    · cases done
    · cases same
  | some pattern =>
    have sorted := List.perm_insertionSort (notAfter · ·)
      (document.admitted pattern substringMatching)
    by_cases bounds : maxAnswerChars ≤ 0
    · simp only [bounds, true_or, if_true]
      refine ⟨fun done => ?_, fun ⟨_, _, _, positive, _⟩ => ?_⟩
      · cases done
      · omega
    · simp only [bounds, Option.any_none, Bool.false_eq_true, or_self, if_false]
      constructor
      · intro done
        split at done
        · cases done
        · next symbol alone =>
            rw [alone] at sorted
            exact ⟨pattern, symbol, rfl, by omega, List.singleton_perm.mp sorted |>.symm, done⟩
        · exact absurd done answerSeveral_ne_ok
      · rintro ⟨_, symbol, same, _, alone, done⟩
        cases same
        rw [alone]
        exact done

end SerenaLight.Tools
