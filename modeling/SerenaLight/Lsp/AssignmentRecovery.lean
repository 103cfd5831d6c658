/-
**Recovery of assignment ranges** (`lsp/python_assignment_recovery.py`,
`lsp/typescript_assignment_recovery.py`).

A language server may report a module variable with the range of its identifier only. Both recoveries
expand the range of a top-level symbol to its statement where the evidence is unique, and list the
other candidates in `unresolved`.

- `Python.recover` takes the evidence from Python's own parser, a parameter here.
- `Typescript.recover` takes it from the server's `selectionRange` chains.
- `AssignmentRecoveryResult.bodyIncompleteReason` classifies a raw symbol by its name and its
  `selectionRange`.
-/

import SerenaLight.Lsp.Positions

namespace SerenaLight.Lsp

open Foundation

/-- The reason codes of both recoveries. -/
inductive RecoveryReason where
  | syntaxInvalid
  | selectionRangeUnavailable
  | noEnclosingAssignment
  | ambiguous
  deriving DecidableEq, Repr

def RecoveryReason.text : RecoveryReason → String
  | .syntaxInvalid => "syntax_invalid"
  | .selectionRangeUnavailable => "selection_range_unavailable"
  | .noEnclosingAssignment => "no_enclosing_assignment"
  | .ambiguous => "ambiguous"

/-- A candidate whose range could not be recovered, with its identifier range. -/
structure UnresolvedAssignmentSymbol where
  name : String
  range : Object
  reason : RecoveryReason

structure AssignmentRecoveryResult where
  rawSymbols : List Object
  unresolved : List UnresolvedAssignmentSymbol

namespace AssignmentRecoveryResult

/-- `incomplete_range_reason`: the first entry of that name and range. -/
def incompleteRangeReason (self : AssignmentRecoveryResult) (name : String)
    (selectionRange : Object) : Option String :=
  (self.unresolved.find? fun item =>
    item.name = name && (Json.object item.range).pyEq (.object selectionRange)).map
      fun item => item.reason.text

/-- `body_incomplete_reason`. -/
def bodyIncompleteReason (self : AssignmentRecoveryResult) (raw : Object) : Option String :=
  match (raw.get "name").str?, (raw.get "selectionRange").object? with
  | some name, some selection => self.incompleteRangeReason name selection
  | _, _ => none

end AssignmentRecoveryResult

/-- What a recovery raises. -/
inductive RecoveryError where
  | unhashableKind
  | parser
  | position (error : PositionError)
  deriving DecidableEq, Repr

/-- `kind in _RECOVERABLE_KINDS`: a list or an object cannot be looked up in a set. -/
def recoverableKind : Json → Except RecoveryError Bool
  | .list _ => .error .unhashableKind
  | .object _ => .error .unhashableKind
  | kind => .ok (kind.number? == some 13 || kind.number? == some 14)

/-- An LSP position as an object of the protocol. -/
def lspDict (position : LspPosition) : Json :=
  .object [("line", .int position.line), ("character", .int position.character)]

/-- `{**raw, "range": {"start": start, "end": end}}`. -/
def withRange (raw : Object) (start stop : LspPosition) : Object :=
  raw.set "range" (.object [("start", lspDict start), ("end", lspDict stop)])

/-! ### Python -/

/-- A module-level assignment: its range and its target names with their ranges. -/
structure AssignmentStatement where
  startOffset : Nat
  endOffset : Nat
  targetNames : List (String × Nat × Nat)

/-- How Python's parser fails on a text. -/
inductive ParseFault where
  | syntaxError
  | raised
  deriving DecidableEq, Repr

namespace Python

/-- `_lsp_position`; the exceptions it raises are all caught by the caller. -/
def lspPosition? (raw : Json) : Option LspPosition := do
  let fields ← raw.object?
  return ⟨← (fields.get "line").int?, ← (fields.get "character").int?⟩

/-- `_identifier_only_candidate_target`: the name and the range, which is the selection range. -/
def candidateTarget (raw : Object) : Except RecoveryError (Option (String × Object)) := do
  if ← recoverableKind (raw.get "kind") then
    match (raw.get "range").object?, (raw.get "selectionRange").object?, (raw.get "name").str? with
    | some range, some selection, some name =>
      if (Json.object range).pyEq (.object selection) && name ≠ "" then
        return some (name, range)
      else return none
    | _, _, _ => return none
  else return none

/-- `_select_enclosing_statement`. -/
def selectEnclosingStatement (candidates : List AssignmentStatement) (name : String)
    (idStart idEnd : Nat) : Except RecoveryReason AssignmentStatement :=
  match candidates.filter fun candidate => candidate.targetNames.any fun target =>
      target.1 = name && idStart < idEnd && target.2.1 ≤ idStart && idEnd ≤ target.2.2 with
  | [statement] => .ok statement
  | _ :: _ :: _ => .error .ambiguous
  | [] =>
    let sameName := candidates.filter fun candidate =>
      candidate.targetNames.any fun target => target.1 = name
    .error (if sameName.length > 1 then .ambiguous else .noEnclosingAssignment)

/-- The offsets of the identifier, if the selection range has them. -/
def identifier? (mapper : PositionMapper) (raw : Object) : Option (Nat × Nat) := do
  let selection ← (raw.get "selectionRange").object?
  let start ← lspPosition? (selection.get "start")
  let stop ← lspPosition? (selection.get "end")
  match mapper.lspToTextOffset start, mapper.lspToTextOffset stop with
  | .ok first, .ok last => return (first, last)
  | _, _ => none

/-- One candidate: its recovered symbol, or why it stays as it is. -/
def recoverOne (mapper : PositionMapper) (candidates : Option (List AssignmentStatement))
    (raw : Object) (name : String) : Except RecoveryError (Except RecoveryReason Object) :=
  match candidates with
  | none => .ok (.error .syntaxInvalid)
  | some statements =>
    match identifier? mapper raw with
    | none => .ok (.error .noEnclosingAssignment)
    | some (idStart, idEnd) =>
      match selectEnclosingStatement statements name idStart idEnd with
      | .error reason => .ok (.error reason)
      | .ok statement => do
        let start ← (mapper.textOffsetToLsp statement.startOffset).mapError .position
        let stop ← (mapper.textOffsetToLsp statement.endOffset).mapError .position
        return .ok (withRange raw start stop)

/-- The loop over the raw symbols; there are no candidates when the text does not parse. -/
def recoverEach (mapper : PositionMapper) (candidates : Option (List AssignmentStatement)) :
    List Object → Except RecoveryError AssignmentRecoveryResult
  | [] => .ok ⟨[], []⟩
  | raw :: rest => do
    match ← candidateTarget raw with
    | none =>
      let others ← recoverEach mapper candidates rest
      return ⟨raw :: others.rawSymbols, others.unresolved⟩
    | some (name, range) =>
      match ← recoverOne mapper candidates raw name with
      | .ok recovered =>
        let others ← recoverEach mapper candidates rest
        return ⟨recovered :: others.rawSymbols, others.unresolved⟩
      | .error reason =>
        let others ← recoverEach mapper candidates rest
        return ⟨raw :: others.rawSymbols, ⟨name, range, reason⟩ :: others.unresolved⟩

/-- `recover_python_module_assignment_symbols`; `moduleLevelCandidates` is what Python's parser and
the walk over its tree give for a text. -/
def recover (moduleLevelCandidates : Text → Except ParseFault (List AssignmentStatement))
    (rawSymbols : Option (List Object)) (mapper : PositionMapper) :
    Except RecoveryError AssignmentRecoveryResult :=
  match rawSymbols.getD [] with
  | [] => .ok ⟨[], []⟩
  | raw :: rest =>
    match moduleLevelCandidates mapper.snapshot.text with
    | .error .raised => .error .parser
    | .error .syntaxError => recoverEach mapper none (raw :: rest)
    | .ok candidates => recoverEach mapper (some candidates) (raw :: rest)

end Python

/-! ### TypeScript -/

/-- `str.isspace` of one character, which is also `\s` of a pattern. -/
def isSpace (character : Char) : Bool :=
  let code := character.toNat
  (0x09 ≤ code && code ≤ 0x0D) || (0x1C ≤ code && code ≤ 0x20) || code == 0x85 || code == 0xA0 ||
    code == 0x1680 || (0x2000 ≤ code && code ≤ 0x200A) || code == 0x2028 || code == 0x2029 ||
    code == 0x202F || code == 0x205F || code == 0x3000

namespace Typescript

/-- A word followed by at least one space, and the text after the spaces. -/
def dropWord (word : String) (text : Text) : Option Text :=
  if word.toList.isPrefixOf text then
    match text.drop word.length with
    | next :: rest => if isSpace next then some (rest.dropWhile isSpace) else none
    | [] => none
  else none

/-- `_DECLARATION_PREFIX.fullmatch`. -/
def isDeclarationPrefix (text : Text) : Bool :=
  let afterExport := (dropWord "export" text).getD text
  let afterDeclare := (dropWord "declare" afterExport).getD afterExport
  ["const", "let", "var"].any fun keyword => dropWord keyword afterDeclare == some []

/-- `_position_mapping` and `_position_key`: non-negative integer coordinates. -/
def position? (raw : Json) : Option LspPosition := do
  let fields ← raw.object?
  let line ← (fields.get "line").int?
  let character ← (fields.get "character").int?
  if 0 ≤ line ∧ 0 ≤ character then some ⟨line, character⟩ else none

/-- `_Candidate`; `index` is the place of the symbol in the response, which stands for its object
identity. -/
structure Candidate where
  index : Nat
  name : String
  raw : Object
  rawRange : Object
  selection : Object
  start : LspPosition

/-- One symbol as a candidate: its range starts where its selection range does. -/
def candidate? (index : Nat) (raw : Object) : Except RecoveryError (Option Candidate) := do
  if ← recoverableKind (raw.get "kind") then
    match (raw.get "range").object?, (raw.get "selectionRange").object?, (raw.get "name").str? with
    | some range, some selection, some name =>
      match position? (range.get "start"), position? (selection.get "start") with
      | some rangeStart, some start =>
        if name ≠ "" ∧ rangeStart = start then
          return some ⟨index, name, raw, range, selection, start⟩
        else return none
      | _, _ => return none
    | _, _, _ => return none
  else return none

/-- `_candidates`. -/
def candidates (index : Nat) : List Object → Except RecoveryError (List Candidate)
  | [] => .ok []
  | raw :: rest => do
    let found ← candidate? index raw
    let others ← candidates (index + 1) rest
    return found.toList ++ others

/-- `assignment_recovery_positions`. -/
def assignmentRecoveryPositions (rawSymbols : Option (List Object)) :
    Except RecoveryError (List LspPosition) :=
  (candidates 0 (rawSymbols.getD [])).map (·.map Candidate.start)

/-- The links of a selection-range chain, and whether the last one has no parent. -/
structure SelectionChain where
  links : List Object
  closed : Bool

mutual

/-- The chain from a `parent` value on. -/
def chainOf : Json → SelectionChain
  | .null => ⟨[], true⟩
  | .object fields => ⟨fields :: (parentOf fields).links, (parentOf fields).closed⟩
  | _ => ⟨[], false⟩

/-- The chain from the `parent` of a link on. -/
def parentOf : List (String × Json) → SelectionChain
  | [] => ⟨[], true⟩
  | (key, value) :: rest => if key = "parent" then chainOf value else parentOf rest

end

/-- How `_offsets` fails: the endpoints are malformed, or they are not positions of the text. -/
inductive OffsetFault where
  | malformed
  | position
  deriving DecidableEq, Repr

/-- `_offsets`. -/
def offsets (mapper : PositionMapper) (rawRange : Object) : Except OffsetFault (Nat × Nat) :=
  match (rawRange.get "start").object?, (rawRange.get "end").object? with
  | some _, some _ =>
    match position? (rawRange.get "start") with
    | none => .error .malformed
    | some start =>
      match mapper.lspToTextOffset start with
      | .error _ => .error .position
      | .ok first =>
        match position? (rawRange.get "end") with
        | none => .error .malformed
        | some stop =>
          match mapper.lspToTextOffset stop with
          | .error _ => .error .position
          | .ok last => .ok (first, last)
  | _, _ => .error .malformed

/-- The loop of `_syntax_chain` from the ranges found so far, the last one first. A link that does
not contain the previous one ends the chain; the exceptions are all caught by the caller. -/
def syntaxRanges (mapper : PositionMapper) (closed : Bool) :
    List (Nat × Nat) → List Object → Option (List (Nat × Nat))
  | found, [] => if closed then some found.reverse else none
  | found, link :: parents =>
    match (link.get "range").object? with
    | none => none
    | some rawRange =>
      match offsets mapper rawRange, found with
      | .error .malformed, _ => none
      | .error .position, [] => none
      | .error .position, _ :: _ => some found.reverse
      | .ok range, [] => syntaxRanges mapper closed [range] parents
      | .ok range, last :: earlier =>
        if range.1 > last.1 ∨ range.2 < last.2 then some found.reverse
        else syntaxRanges mapper closed (range :: last :: earlier) parents

/-- `_syntax_chain`. -/
def syntaxChain (mapper : PositionMapper) (chain : Object) : Option (List (Nat × Nat)) :=
  let links := chainOf (.object chain)
  syntaxRanges mapper links.closed [] links.links

/-- `_is_binding_pattern`. -/
def isBindingPattern (text : Text) : Bool :=
  text.length ≥ 2 &&
    ((text.head? == some '[' && text.getLast? == some ']') ||
      (text.head? == some '\x7b' && text.getLast? == some '\x7d'))

/-- The test on the text after a declaration's binding, which must be an initializer, or after a plain
identifier, which may only be a semicolon. -/
def endsStatement (snapshot : FileSnapshot) (binding : Option (Nat × Nat)) (rawEnd stop : Nat) :
    Bool :=
  match binding with
  | some range => ((snapshot.slice range.2 stop).dropWhile isSpace).head? == some '='
  | none =>
    let rest := ((snapshot.slice rawEnd stop).dropWhile isSpace).reverse.dropWhile isSpace
    rest == [] || rest == [';']

/-- The ranges of the chain that are a whole variable statement around the candidate. -/
def statements (snapshot : FileSnapshot) (binding : Option (Nat × Nat))
    (selectionStart rawEnd : Nat) (ranges : List (Nat × Nat)) : List (Nat × Nat) :=
  let bindingStart := (binding.map Prod.fst).getD selectionStart
  ranges.filter fun range =>
    range.1 < bindingStart && rawEnd ≤ range.2 &&
      isDeclarationPrefix (snapshot.slice range.1 bindingStart) &&
      endsStatement snapshot binding rawEnd range.2

/-- `_recover_range`, with its exceptions turned into the reason the caller gives them. -/
def recoverRange (mapper : PositionMapper) (candidate : Candidate) (chain : Object) :
    Except RecoveryReason (LspPosition × LspPosition) :=
  match offsets mapper candidate.rawRange, offsets mapper candidate.selection with
  | .ok (rawStart, rawEnd), .ok (selectionStart, selectionEnd) =>
    if mapper.snapshot.slice selectionStart selectionEnd ≠ candidate.name.toList then
      .error .noEnclosingAssignment
    else
      match syntaxChain mapper chain with
      | some (first :: outer) =>
        if rawStart ≠ selectionStart ∨ rawEnd < selectionEnd ∨ first.1 ≠ selectionStart ∨
            first.2 < selectionEnd then .error .noEnclosingAssignment
        else
          let bindings := outer.filter fun range =>
            range.1 ≤ selectionStart && selectionEnd ≤ range.2 &&
              isBindingPattern (mapper.snapshot.slice range.1 range.2)
          if bindings.length > 1 then .error .ambiguous
          else
            match statements mapper.snapshot bindings.head? selectionStart rawEnd
                (first :: outer) with
            | [statement] =>
              match mapper.textOffsetToLsp statement.1, mapper.textOffsetToLsp statement.2 with
              | .ok start, .ok stop => .ok (start, stop)
              | _, _ => .error .noEnclosingAssignment
            | _ :: _ :: _ => .error .ambiguous
            | [] => .error .noEnclosingAssignment
      | _ => .error .noEnclosingAssignment
  | _, _ => .error .noEnclosingAssignment

/-- The candidates with the evidence of their positions: what each recovered, and what stays. -/
def recoverCandidates (mapper : PositionMapper) :
    List (Candidate × Object) → List (Nat × Object) × List UnresolvedAssignmentSymbol
  | [] => ([], [])
  | (candidate, chain) :: rest =>
    let others := recoverCandidates mapper rest
    match recoverRange mapper candidate chain with
    | .ok (start, stop) =>
      ((candidate.index, withRange candidate.raw start stop) :: others.1, others.2)
    | .error reason => (others.1, ⟨candidate.name, candidate.selection, reason⟩ :: others.2)

/-- `recover_typescript_top_level_variable_symbols`. -/
def recover (rawSymbols selectionRanges : Option (List Object)) (mapper : PositionMapper) :
    Except RecoveryError AssignmentRecoveryResult := do
  let symbols := rawSymbols.getD []
  let found ← candidates 0 symbols
  let evidence := selectionRanges.getD []
  let shared (candidate : Candidate) := (found.map Candidate.start).count candidate.start > 1
  if found.any shared then
    return ⟨symbols, found.map fun candidate =>
      ⟨candidate.name, candidate.selection,
        if shared candidate then .ambiguous else .selectionRangeUnavailable⟩⟩
  else if evidence.length ≠ found.length then
    return ⟨symbols, found.map fun candidate =>
      ⟨candidate.name, candidate.selection, .selectionRangeUnavailable⟩⟩
  else
    let (recovered, unresolved) := recoverCandidates mapper (found.zip evidence)
    return ⟨symbols.mapIdx fun index raw => (recovered.lookup index).getD raw, unresolved⟩

end Typescript

end SerenaLight.Lsp
