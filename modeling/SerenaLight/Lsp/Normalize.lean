/-
**Document symbols in their normalized form** (`lsp/normalize.py`).

- `Range` is a range of non-negative coordinates that does not end before it starts.
- `RawSymbol` is a symbol object of the response with its children read as symbol objects;
  `RawSymbol.ofObject` reads it off the decoded JSON.
- `RawSymbol.normalize` and `normalizeSiblings` build the `NormalizedSymbol` trees. A name that
  several siblings share is numbered in order of appearance (`segments`).
- `RawSymbol.normalize_alike`: the number a symbol gets changes its name path and the paths below
  it, and nothing else.
-/

import SerenaLight.Foundation.Except
import SerenaLight.Lsp.Positions

namespace SerenaLight.Lsp

open Foundation Fallible

/-- Why a symbol of the response is refused; all of them are one exception class. -/
inductive NormalizationError where
  | emptyName
  | emptyNormalizedName
  | locationFields
  | rangeFields
  | positionFields
  | negativeRange
  | reversedRange
  | noLocation (name : String)
  | invalidKind (name : String)
  | childrenNotSequence (name : String)
  | childNotObject (name : String)
  | invalidUri
  deriving DecidableEq, Repr

abbrev Position := LspPosition

/-- The order of the dataclass: by line, then by character. -/
instance : LT Position where
  lt first second := first.line < second.line ∨
    first.line = second.line ∧ first.character < second.character

instance (first second : Position) : Decidable (first < second) :=
  inferInstanceAs (Decidable (_ ∨ _))

/-- A range of the document. -/
structure Range where
  start : Position
  stop : Position
  natural : 0 ≤ start.line ∧ 0 ≤ start.character ∧ 0 ≤ stop.line ∧ 0 ≤ stop.character
  ordered : ¬stop < start
  deriving DecidableEq

namespace Range

/-- `Range.__post_init__`. -/
def make (start stop : Position) : Except NormalizationError Range :=
  if natural : 0 ≤ start.line ∧ 0 ≤ start.character ∧ 0 ≤ stop.line ∧ 0 ≤ stop.character then
    if ordered : stop < start then .error .reversedRange
    else .ok ⟨start, stop, natural, ordered⟩
  else .error .negativeRange

end Range

/-- `_position`. -/
def readPosition (raw : Object) : Except NormalizationError Position :=
  match (raw.get "line").int?, (raw.get "character").int? with
  | some line, some character => .ok ⟨line, character⟩
  | _, _ => .error .positionFields

/-- `_range`. -/
def readRange (raw : Object) : Except NormalizationError Range :=
  match (raw.get "start").object?, (raw.get "end").object? with
  | some start, some stop => do Range.make (← readPosition start) (← readPosition stop)
  | _, _ => .error .rangeFields

structure Location where
  uri : String
  range : Range
  path : Option String
  deriving DecidableEq

/-! ### The symbols of a response -/

/-- What is wrong with the children of a symbol object. -/
inductive ChildFault where
  | notSequence
  | notObject
  deriving DecidableEq, Repr

/-- A symbol object with its children read as symbol objects. -/
structure RawSymbol where
  fields : Object
  fault : Option ChildFault
  children : List RawSymbol

namespace RawSymbol

mutual

/-- A value of the children list, if it is an object. -/
def ofJson : Json → Option RawSymbol
  | .object fields => some ⟨fields, (childrenOf fields).1, (childrenOf fields).2⟩
  | _ => none

/-- `raw.get("children", ())`. -/
def childrenOf : List (String × Json) → Option ChildFault × List RawSymbol
  | [] => (none, [])
  | (key, value) :: rest => if key = "children" then sequenceOf value else childrenOf rest

def sequenceOf : Json → Option ChildFault × List RawSymbol
  | .list items => itemsOf items
  | _ => (some .notSequence, [])

def itemsOf : List Json → Option ChildFault × List RawSymbol
  | [] => (none, [])
  | item :: rest =>
    match ofJson item, itemsOf rest with
    | some raw, (none, others) => (none, raw :: others)
    | _, _ => (some .notObject, [])

end

/-- A symbol object of the response. -/
def ofObject (fields : Object) : RawSymbol :=
  ⟨fields, (childrenOf fields).1, (childrenOf fields).2⟩

end RawSymbol

/-- A symbol as the tools see it. -/
structure NormalizedSymbol where
  name : String
  nameSegment : String
  namePath : List String
  kind : Int
  location : Location
  selectionRange : Range
  detail : Option String
  children : List NormalizedSymbol
  bodyIncompleteReason : Option String

namespace NormalizedSymbol

mutual

/-- `iter_depth_first`. -/
def depthFirst : NormalizedSymbol → List NormalizedSymbol
  | ⟨name, segment, path, kind, location, selection, detail, children, reason⟩ =>
    ⟨name, segment, path, kind, location, selection, detail, children, reason⟩ ::
      depthFirstAll children

def depthFirstAll : List NormalizedSymbol → List NormalizedSymbol
  | [] => []
  | child :: rest => depthFirst child ++ depthFirstAll rest

end

theorem depthFirstAll_eq (symbols : List NormalizedSymbol) :
    depthFirstAll symbols = symbols.flatMap depthFirst := by
  induction symbols with
  | nil => rfl
  | cons child rest ih => rw [depthFirstAll, ih, List.flatMap_cons]

end NormalizedSymbol

/-! ### Normalization -/

/-- What normalization is given besides the symbols. `fileUriPath` is the path of a `file:` URI
(`urlparse` and `unquote`; an invalid URI raises) and `str` is Python's `str` on a detail. -/
structure Normalizer where
  documentUri : String
  nameFn : String → String
  bodyCompleteness : Object → Option String
  fileUriPath : String → Except NormalizationError (Option String)
  str : Json → String

/-- The normalized name of a symbol object. -/
def Normalizer.nameOf (self : Normalizer) (raw : RawSymbol) : Except NormalizationError String :=
  match (raw.fields.get "name").str? with
  | some name =>
    if name = "" then .error .emptyName
    else if self.nameFn name = "" then .error .emptyNormalizedName
    else .ok (self.nameFn name)
  | none => .error .emptyName

/-- The segment of one symbol: its name, numbered when a sibling has the same name. -/
def segment (all seen : List String) (name : String) : String :=
  if all.count name > 1 then name ++ "[" ++ toString (seen.count name) ++ "]" else name

/-- The segments of the names that follow `seen` among `all`. -/
def number (all seen : List String) : List String → List String
  | [] => []
  | name :: rest => segment all seen name :: number all (name :: seen) rest

/-- The segments of a list of siblings. -/
def segments (names : List String) : List String := number names [] names

/-- `normalize_location`. -/
def Normalizer.location (self : Normalizer) (raw : Object) : Except NormalizationError Location :=
  match (raw.get "uri").str?, (raw.get "range").object? with
  | some uri, some range => do
    let range ← readRange range
    return ⟨uri, range, ← self.fileUriPath uri⟩
  | _, _ => .error .locationFields

/-- The location of a symbol object: its own, or its range in the document. -/
def Normalizer.locate (self : Normalizer) (name : String) (raw : Object) :
    Except NormalizationError Location :=
  match raw.get "location", raw.get "range" with
  | .object location, _ => self.location location
  | _, .object range => do
    let range ← readRange range
    return ⟨self.documentUri, range, ← self.fileUriPath self.documentUri⟩
  | _, _ => .error (.noLocation name)

def selectionOf (location : Location) (raw : Object) : Except NormalizationError Range :=
  match (raw.get "selectionRange").object? with
  | some selection => readRange selection
  | none => .ok location.range

def kindOf (name : String) (raw : Object) : Except NormalizationError Int :=
  match (raw.get "kind").int? with
  | some kind => .ok kind
  | none => .error (.invalidKind name)

def checkChildren (name : String) : Option ChildFault → Except NormalizationError Unit
  | none => .ok ()
  | some .notSequence => .error (.childrenNotSequence name)
  | some .notObject => .error (.childNotObject name)

def Normalizer.detailOf (self : Normalizer) (raw : Object) : Option String :=
  match raw.get "detail" with
  | .null => none
  | detail => some (self.str detail)

mutual

/-- One turn of the loop of `_normalize_siblings`. -/
def RawSymbol.normalize (self : Normalizer) (parent : List String) (name segment : String) :
    RawSymbol → Except NormalizationError NormalizedSymbol
  | ⟨fields, fault, children⟩ => do
    let location ← self.locate name fields
    let selection ← selectionOf location fields
    let kind ← kindOf name fields
    checkChildren name fault
    let names ← children.mapM self.nameOf
    let below ← normalizeEach self (parent ++ [segment]) (names.zip (segments names)) children
    return ⟨name, segment, parent ++ [segment], kind, location, selection, self.detailOf fields,
      below, self.bodyCompleteness fields⟩

/-- The loop over the siblings with their names and segments. -/
def normalizeEach (self : Normalizer) (parent : List String) :
    List (String × String) → List RawSymbol → Except NormalizationError (List NormalizedSymbol)
  | (name, segment) :: titles, raw :: rest => do
    let symbol ← raw.normalize self parent name segment
    return symbol :: (← normalizeEach self parent titles rest)
  | _, _ => .ok []

end

theorem normalizeEach_nil (self : Normalizer) (parent : List String)
    (titles : List (String × String)) : normalizeEach self parent titles [] = .ok [] := by
  cases titles <;> rw [normalizeEach]
  all_goals simp

theorem normalizeEach_untitled (self : Normalizer) (parent : List String) (raws : List RawSymbol) :
    normalizeEach self parent [] raws = .ok [] := by
  cases raws <;> rw [normalizeEach]
  all_goals simp

/-- The loop ends well exactly when each turn does. -/
theorem normalizeEach_eq_ok (self : Normalizer) (parent : List String) :
    ∀ (titles : List (String × String)) (raws : List RawSymbol) (symbols : List NormalizedSymbol),
    normalizeEach self parent titles raws = .ok symbols ↔
      List.Forall₂ (fun (item : (String × String) × RawSymbol) symbol =>
        item.2.normalize self parent item.1.1 item.1.2 = .ok symbol) (titles.zip raws) symbols
  | titles, [], symbols => by
    rw [normalizeEach_nil, List.zip_nil_right, List.forall₂_nil_left_iff]
    exact ⟨fun done => (Except.ok.inj done).symm, fun empty => by rw [empty]⟩
  | [], raw :: rest, symbols => by
    rw [normalizeEach_untitled, List.zip_nil_left, List.forall₂_nil_left_iff]
    exact ⟨fun done => (Except.ok.inj done).symm, fun empty => by rw [empty]⟩
  | (name, segment) :: titles, raw :: rest, symbols => by
    rw [normalizeEach, List.zip_cons_cons, bind_eq_ok]
    constructor
    · rintro ⟨symbol, first, done⟩
      obtain ⟨others, later, done⟩ := bind_eq_ok.mp done
      cases done
      exact .cons first ((normalizeEach_eq_ok self parent titles rest others).mp later)
    · intro each
      cases each with
      | @cons _ symbol _ others first later =>
        have done := (normalizeEach_eq_ok self parent titles rest others).mpr later
        exact ⟨symbol, first, bind_eq_ok.mpr ⟨others, done, rfl⟩⟩

/-- `_normalize_siblings`. -/
def normalizeSiblings (self : Normalizer) (parent : List String) (raws : List RawSymbol) :
    Except NormalizationError (List NormalizedSymbol) := do
  let names ← raws.mapM self.nameOf
  normalizeEach self parent (names.zip (segments names)) raws

/-- `normalize_document_symbols`, for callers that recover no containment. -/
def normalizeDocumentSymbols (self : Normalizer) (raws : Option (List Object)) :
    Except NormalizationError (List NormalizedSymbol) :=
  normalizeSiblings self [] ((raws.getD []).map RawSymbol.ofObject)

/-! ### The same symbols under another path -/

/-- Two symbols that differ in their name paths only: one is below `path`, the other below `path'`. -/
structure Alike (path path' : List String) (symbol symbol' : NormalizedSymbol) : Prop where
  name : symbol'.name = symbol.name
  kind : symbol'.kind = symbol.kind
  location : symbol'.location = symbol.location
  reason : symbol'.bodyIncompleteReason = symbol.bodyIncompleteReason
  paths : ∃ rest, symbol.namePath = path ++ rest ∧ symbol'.namePath = path' ++ rest

theorem Alike.up {path path' : List String} {segment : String} {symbol symbol' : NormalizedSymbol}
    (alike : Alike (path ++ [segment]) (path' ++ [segment]) symbol symbol') :
    Alike path path' symbol symbol' := by
  obtain ⟨rest, left, right⟩ := alike.paths
  refine ⟨alike.name, alike.kind, alike.location, alike.reason, segment :: rest, ?_, ?_⟩
  · rw [left, List.append_assoc, List.singleton_append]
  · rw [right, List.append_assoc, List.singleton_append]

mutual

/-- **A symbol under another number** is the same tree of symbols under another path. -/
theorem RawSymbol.normalize_alike (self : Normalizer) (path path' : List String)
    (name segment segment' : String) : ∀ (raw : RawSymbol) (symbol : NormalizedSymbol),
    raw.normalize self path name segment = .ok symbol →
    ∃ symbol', raw.normalize self path' name segment' = .ok symbol' ∧
      List.Forall₂ (Alike (path ++ [segment]) (path' ++ [segment']))
        symbol.depthFirst symbol'.depthFirst
  | ⟨fields, fault, children⟩, symbol, done => by
    unfold RawSymbol.normalize at done ⊢
    obtain ⟨location, located, done⟩ := bind_eq_ok.mp done
    obtain ⟨selection, selected, done⟩ := bind_eq_ok.mp done
    obtain ⟨kind, kindRead, done⟩ := bind_eq_ok.mp done
    obtain ⟨_, shaped, done⟩ := bind_eq_ok.mp done
    obtain ⟨names, named, done⟩ := bind_eq_ok.mp done
    obtain ⟨below, belowDone, done⟩ := bind_eq_ok.mp done
    cases done
    obtain ⟨below', belowDone', alike⟩ := normalizeEach_alike self (path ++ [segment])
      (path' ++ [segment']) (names.zip (segments names)) children below belowDone
    refine ⟨_, bind_eq_ok.mpr ⟨location, located, bind_eq_ok.mpr ⟨selection, selected,
      bind_eq_ok.mpr ⟨kind, kindRead, bind_eq_ok.mpr ⟨_, shaped, bind_eq_ok.mpr ⟨names, named,
        bind_eq_ok.mpr ⟨below', belowDone', rfl⟩⟩⟩⟩⟩⟩, ?_⟩
    rw [NormalizedSymbol.depthFirst, NormalizedSymbol.depthFirst]
    refine .cons ⟨rfl, rfl, rfl, rfl, [], ?_, ?_⟩ alike
    · rw [List.append_nil]
    · rw [List.append_nil]

theorem normalizeEach_alike (self : Normalizer) (path path' : List String) :
    ∀ (titles : List (String × String)) (raws : List RawSymbol) (symbols : List NormalizedSymbol),
    normalizeEach self path titles raws = .ok symbols →
    ∃ symbols', normalizeEach self path' titles raws = .ok symbols' ∧
      List.Forall₂ (Alike path path') (NormalizedSymbol.depthFirstAll symbols)
        (NormalizedSymbol.depthFirstAll symbols')
  | titles, [], symbols, done => by
    rw [normalizeEach_nil] at done
    cases done
    exact ⟨[], normalizeEach_nil self path' titles, .nil⟩
  | [], raw :: rest, symbols, done => by
    rw [normalizeEach_untitled] at done
    cases done
    exact ⟨[], normalizeEach_untitled self path' (raw :: rest), .nil⟩
  | (name, segment) :: titles, raw :: rest, symbols, done => by
    rw [normalizeEach] at done
    obtain ⟨symbol, first, done⟩ := bind_eq_ok.mp done
    obtain ⟨others, later, done⟩ := bind_eq_ok.mp done
    cases done
    obtain ⟨symbol', first', alike⟩ :=
      RawSymbol.normalize_alike self path path' name segment segment raw symbol first
    obtain ⟨others', later', others_alike⟩ :=
      normalizeEach_alike self path path' titles rest others later
    refine ⟨symbol' :: others', ?_, ?_⟩
    · rw [normalizeEach]
      exact bind_eq_ok.mpr ⟨symbol', first', bind_eq_ok.mpr ⟨others', later', rfl⟩⟩
    · rw [NormalizedSymbol.depthFirstAll, NormalizedSymbol.depthFirstAll]
      exact List.rel_append (alike.imp fun _ _ same => same.up) others_alike

end

end SerenaLight.Lsp
