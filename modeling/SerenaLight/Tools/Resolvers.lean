/-
**The four lookups of a name path in one document.**

`find_symbol` (which also picks the target of an edit) and `_selected_symbol` of the references
compare segments literally. `_resolve_symbol` of the declarations and of the diagnostics also accept
a segment whose overload index is left out.

* `Verdict`: what a lookup comes to, apart from how it is answered.
* `selectedSymbol`, `Declarations.resolveSymbol`, `Diagnostics.resolveSymbol`: the other lookups.
* `resolvers_agree_iff`: they agree exactly when leaving out indices finds nothing more, or the
  literal comparison already finds several symbols.
-/

import SerenaLight.Tools.Navigation

namespace SerenaLight.Tools

open Foundation Fallible Lsp

/-! ### Verdicts -/

/-- What a lookup comes to. -/
inductive Verdict where
  | invalid
  | notFound
  | ambiguous
  | selected (symbol : NormalizedSymbol)

/-- The verdict on the matching symbols. -/
def Verdict.on : List NormalizedSymbol → Verdict
  | [] => .notFound
  | [symbol] => .selected symbol
  | _ => .ambiguous

/-- The verdict of `find_symbol`. -/
def findVerdict (document : DocumentNavigation) (pattern : NamePathPattern)
    (substringMatching : Bool) : Verdict :=
  .on ((document.admitted pattern substringMatching).insertionSort (notAfter · ·))

/-- How `find_symbol` answers its verdict. -/
def Verdict.answer (library : Library) (document : DocumentNavigation) (pattern : NamePathPattern)
    (substringMatching includeBody includeInfo : Bool) (maxAnswerChars errorMaxAnswerChars : Int) :
    Verdict → Except PositionError (Except FindError FoundSymbol)
  | .invalid => .ok (.error .invalidBounds)
  | .notFound => .ok (.error (.symbolNotFound pattern.expression))
  | .selected symbol => answerOne library document includeBody includeInfo maxAnswerChars symbol
  | .ambiguous => answerSeveral document pattern errorMaxAnswerChars
    ((document.admitted pattern substringMatching).insertionSort (notAfter · ·))

/-- `find_symbol` answers its verdict. -/
theorem findSymbol_eq_answer (library : Library) (document : DocumentNavigation)
    {namePath : NamePath} {pattern : NamePathPattern}
    (parsed : NamePathPattern.parse namePath = some pattern)
    (substringMatching includeBody includeInfo : Bool) {maxAnswerChars : Int}
    (positive : 0 < maxAnswerChars) :
    findSymbol library document namePath substringMatching includeBody includeInfo maxAnswerChars
        none =
      (findVerdict document pattern substringMatching).answer library document pattern
        substringMatching includeBody includeInfo maxAnswerChars maxAnswerChars := by
  unfold findSymbol findVerdict
  simp only [parsed, Option.any_none, Bool.false_eq_true, or_false, if_neg (not_le.mpr positive),
    Option.getD_none]
  split
  · next none_ => rw [none_]; rfl
  · next symbol one => rw [one]; rfl
  · next none_ one =>
    match found : (document.admitted pattern substringMatching).insertionSort (notAfter · ·) with
    | [] => exact absurd found none_
    | [symbol] => exact absurd found (one symbol)
    | _ :: _ :: _ =>
      show _ = answerSeveral _ _ _ _
      rw [found]

/-! ### The other lookups -/

/-- The error answers of the other lookups, with their details. -/
inductive ResolveError where
  | invalidNamePath
  | symbolNotFound (relativePath namePath : String)
  | ambiguousSymbol (relativePath namePath : String) (candidates : List String)
  deriving DecidableEq, Repr

/-- `name_path.lstrip("/").rstrip("/").split("/")`. -/
def nameComponents (namePath : String) : List String :=
  let stripped := ((namePath.toList.dropWhile (· == '/')).reverse.dropWhile (· == '/')).reverse
  (stripped.splitOn '/').map String.ofList

def isAbsolute (namePath : String) : Bool := namePath.toList.head? == some '/'

/-- The last segments of a name path, as many as there are components, pass a comparison. -/
def endsWith (compare : String → String → Bool) (absolute : Bool) (components path : List String) :
    Bool :=
  if path.length < components.length || (absolute && path.length != components.length) then false
  else (List.zipWith compare (path.drop (path.length - components.length)) components).all id

/-- `_selected_symbol`. -/
def selectedSymbol (document : DocumentNavigation) (namePath : String) :
    Except ResolveError NormalizedSymbol :=
  let parts := nameComponents namePath
  if parts.isEmpty || parts.any (·.isEmpty) then .error .invalidNamePath
  else
    match document.listing.filter fun symbol =>
        decide (parts.length ≤ symbol.namePath.length) &&
          (!isAbsolute namePath || symbol.namePath.length == parts.length) &&
          symbol.namePath.drop (symbol.namePath.length - parts.length) == parts with
    | [] => .error (.symbolNotFound document.relativePath namePath)
    | [symbol] => .ok symbol
    | _ => .error (.ambiguousSymbol document.relativePath namePath [])

/-- `_segment_matches`; `digit` is `str.isdigit` of one character. -/
def segmentMatches (digit : Char → Bool) (actual expected : String) : Bool :=
  if actual == expected then true
  else
    let opened := expected.toList ++ ['[']
    let index := (actual.toList.drop opened.length).dropLast
    opened.isPrefixOf actual.toList && actual.toList.getLast? == some ']' && !index.isEmpty &&
      index.all digit

/-- The body that the two `_resolve_symbol` share; `wrap` completes the details of an error. -/
def resolveIndexed {Error : Type} (wrap : ResolveError → Error) (digit : Char → Bool)
    (document : DocumentNavigation) (namePath : String) : Except Error NormalizedSymbol :=
  let components := nameComponents namePath
  match List.insertionSort (notAfter · ·) (document.listing.filter fun symbol =>
      endsWith (segmentMatches digit) (isAbsolute namePath) components symbol.namePath) with
  | [] => .error (wrap (.symbolNotFound document.relativePath namePath))
  | [symbol] => .ok symbol
  | several => .error (wrap (.ambiguousSymbol document.relativePath namePath
      (several.map namePathText)))

/-- `_resolve_symbol` of `tools/declarations.py`. -/
def Declarations.resolveSymbol := @resolveIndexed ResolveError id

/-- `_resolve_symbol` of `tools/diagnostics.py`; the details hold the facts of the engine. -/
def Diagnostics.resolveSymbol {Engine : Type} (engine : Engine) :=
  resolveIndexed fun error => (engine, error)

/-- The verdict of a lookup that returns a symbol or an error. -/
def Verdict.of {Error : Type} (read : Error → ResolveError) :
    Except Error NormalizedSymbol → Verdict
  | .ok symbol => .selected symbol
  | .error fault => match read fault with
    | .invalidNamePath => .invalid
    | .symbolNotFound _ _ => .notFound
    | .ambiguousSymbol _ _ _ => .ambiguous

/-! ### Literal and indexed matches -/

variable {document : DocumentNavigation} {namePath : String} {pattern : NamePathPattern}
  {digit : Char → Bool}

/-- The symbols that match literally. -/
def exactMatches (document : DocumentNavigation) (namePath : String) : List NormalizedSymbol :=
  document.listing.filter fun symbol =>
    endsWith (· == ·) (isAbsolute namePath) (nameComponents namePath) symbol.namePath

/-- The symbols that match when overload indices may be left out. -/
def indexedMatches (digit : Char → Bool) (document : DocumentNavigation) (namePath : String) :
    List NormalizedSymbol :=
  document.listing.filter fun symbol =>
    endsWith (segmentMatches digit) (isAbsolute namePath) (nameComponents namePath) symbol.namePath

theorem zipWith_beq_all {first second : List String} (same : first.length = second.length) :
    (List.zipWith (· == ·) first second).all id = (first == second) := by
  induction first generalizing second with
  | nil => cases second <;> simp_all
  | cons head rest ih =>
    cases second with
    | nil => simp at same
    | cons other more =>
      have := ih (Nat.succ.inj same)
      simp_all

theorem agree_eq (components path : List String) (same : path.length = components.length) :
    NamePathPattern.agree false components path = (path == components) := by
  induction components generalizing path with
  | nil => cases path <;> simp_all [NamePathPattern.agree]
  | cons expected more ih =>
    cases path with
    | nil => simp at same
    | cons actual rest =>
      have := ih rest (Nat.succ.inj same)
      cases more <;> cases rest <;> simp_all [NamePathPattern.agree, Bool.beq_comm]

theorem parse_text (parsed : NamePathPattern.parse (.text namePath) = some pattern) :
    pattern.components = nameComponents namePath ∧ pattern.absolute = isAbsolute namePath := by
  have made : NamePathPattern.make (nameComponents namePath) (isAbsolute namePath) = some pattern :=
    parsed
  unfold NamePathPattern.make at made
  split at made
  · cases made
    exact ⟨rfl, rfl⟩
  · cases made

/-- A literal comparison of the last segments. -/
theorem endsWith_beq (absolute : Bool) (components path : List String) :
    endsWith (· == ·) absolute components path =
      (decide (components.length ≤ path.length) &&
        (!absolute || path.length == components.length) &&
        path.drop (path.length - components.length) == components) := by
  unfold endsWith
  by_cases short : path.length < components.length
  · simp [short, Nat.not_le.mpr short]
  · have suffix : (path.drop (path.length - components.length)).length = components.length := by
      rw [List.length_drop]
      omega
    rw [zipWith_beq_all suffix]
    cases absolute <;> by_cases same : path.length = components.length <;>
      simp [short, same, Nat.not_lt.mp short]

theorem admitted_eq (parsed : NamePathPattern.parse (.text namePath) = some pattern) :
    document.admitted pattern false = exactMatches document namePath := by
  obtain ⟨components, absolute⟩ := parse_text parsed
  refine List.filter_congr fun symbol _ => ?_
  rw [endsWith_beq, ← components, ← absolute]
  unfold NamePathPattern.admits
  by_cases short : symbol.namePath.length < pattern.components.length
  · simp [short, Nat.not_le.mpr short]
  · have suffix : (symbol.namePath.drop
        (symbol.namePath.length - pattern.components.length)).length =
        pattern.components.length := by
      rw [List.length_drop]
      omega
    rw [agree_eq _ _ suffix]
    by_cases same : symbol.namePath.length = pattern.components.length <;>
      cases pattern.absolute <;> simp [short, same, Nat.not_lt.mp short]

/-- The order of the matches does not change the verdict. -/
theorem Verdict.on_perm {first second : List NormalizedSymbol} (same : first.Perm second) :
    Verdict.on first = Verdict.on second := by
  match first, second, same with
  | [], second, same => rw [List.nil_perm.mp same]
  | [symbol], second, same => rw [List.singleton_perm.mp same]
  | _ :: _ :: _, [], same => exact absurd same.length_eq (by simp)
  | _ :: _ :: _, [_], same => exact absurd same.length_eq (by simp)
  | _ :: _ :: _, _ :: _ :: _, _ => rfl

theorem findVerdict_eq (parsed : NamePathPattern.parse (.text namePath) = some pattern) :
    findVerdict document pattern false = .on (exactMatches document namePath) := by
  unfold findVerdict
  rw [admitted_eq parsed]
  exact Verdict.on_perm (List.perm_insertionSort _ _)

theorem selectedSymbol_verdict (parsed : NamePathPattern.parse (.text namePath) = some pattern) :
    Verdict.of id (selectedSymbol document namePath) = .on (exactMatches document namePath) := by
  have filled := pattern.filled
  rw [(parse_text parsed).1] at filled
  have valid : ((nameComponents namePath).isEmpty ||
      (nameComponents namePath).any (·.isEmpty)) = false := by
    have each : ∀ part ∈ nameComponents namePath, part ≠ "" :=
      fun part member empty => filled.2 (empty ▸ member)
    simpa [String.isEmpty_iff] using ⟨filled.1, each⟩
  unfold selectedSymbol exactMatches
  simp only [valid, Bool.false_eq_true, if_false, endsWith_beq]
  split
  · next found => rw [found]; rfl
  · next symbol found => rw [found]; rfl
  · next none_ one =>
    generalize List.filter _ document.listing = found at none_ one
    match found with
    | [] => exact absurd rfl none_
    | [symbol] => exact absurd rfl (one symbol)
    | _ :: _ :: _ => rfl

theorem resolveIndexed_verdict {Error : Type} (wrap : ResolveError → Error)
    (read : Error → ResolveError) (inverse : ∀ error, read (wrap error) = error) :
    Verdict.of read (resolveIndexed wrap digit document namePath) =
      .on (indexedMatches digit document namePath) := by
  rw [← Verdict.on_perm (List.perm_insertionSort (notAfter · ·)
    (indexedMatches digit document namePath))]
  unfold resolveIndexed indexedMatches
  dsimp only
  split
  · next found => rw [found]; simp [Verdict.of, inverse, Verdict.on]
  · next symbol found => rw [found]; rfl
  · next none_ one =>
    generalize List.insertionSort (notAfter · ·) _ = found at none_ one
    match found with
    | [] => exact absurd rfl none_
    | [symbol] => exact absurd rfl (one symbol)
    | _ :: _ :: _ => simp [Verdict.of, inverse, Verdict.on]

/-- A literal match is one where nothing is left out. -/
theorem endsWith_indexed {absolute : Bool} {components path : List String}
    (literal : endsWith (· == ·) absolute components path = true) :
    endsWith (segmentMatches digit) absolute components path = true := by
  unfold endsWith at literal ⊢
  split at literal
  · cases literal
  · next fits =>
    rw [if_neg fits]
    rw [zipWith_beq_all (by
      simp only [Bool.or_eq_true, decide_eq_true_eq, not_or] at fits
      rw [List.length_drop]
      omega), beq_iff_eq] at literal
    rw [literal]
    refine List.all_eq_true.mpr fun answer member => ?_
    simp only [List.zipWith_self, List.mem_map] at member
    obtain ⟨segment, _, rfl⟩ := member
    simp [segmentMatches]

/-- Fewer matches come to the same verdict only if they are as many, or several. -/
theorem Verdict.on_eq_iff {fewer more : List NormalizedSymbol} (sublist : fewer.Sublist more) :
    Verdict.on fewer = Verdict.on more ↔ fewer = more ∨ 2 ≤ fewer.length := by
  have shorter := sublist.length_le
  match fewer, more with
  | [], [] => simp
  | [], [_] => simp [Verdict.on]
  | [], _ :: _ :: _ => simp [Verdict.on]
  | [symbol], [] => simp at shorter
  | [symbol], [other] => simp [Verdict.on]
  | [symbol], _ :: _ :: _ => simp [Verdict.on]
  | _ :: _ :: _, [] => simp at shorter
  | _ :: _ :: _, [_] => simp at shorter
  | _ :: _ :: _, _ :: _ :: _ => simp [Verdict.on]

/-- **When the lookups agree.** `find_symbol` answers its verdict, and the four verdicts are the
same exactly when every symbol that matches with overload indices left out also matches literally,
or at least two symbols match literally. -/
theorem resolvers_agree_iff {Engine : Type} (engine : Engine) (digit : Char → Bool)
    (library : Library) (document : DocumentNavigation) (namePath : String)
    (pattern : NamePathPattern)
    (parsed : NamePathPattern.parse (.text namePath) = some pattern) :
    (∀ includeBody includeInfo maxAnswerChars, 0 < maxAnswerChars →
      findSymbol library document (.text namePath) false includeBody includeInfo maxAnswerChars
          none =
        (findVerdict document pattern false).answer library document pattern false includeBody
          includeInfo maxAnswerChars maxAnswerChars) ∧
    ((∃ verdict, findVerdict document pattern false = verdict ∧
        Verdict.of id (selectedSymbol document namePath) = verdict ∧
        Verdict.of id (Declarations.resolveSymbol digit document namePath) = verdict ∧
        Verdict.of Prod.snd (Diagnostics.resolveSymbol engine digit document namePath) = verdict) ↔
      (∀ symbol ∈ document.listing,
        endsWith (segmentMatches digit) (isAbsolute namePath) (nameComponents namePath)
          symbol.namePath = true →
        endsWith (· == ·) (isAbsolute namePath) (nameComponents namePath) symbol.namePath = true) ∨
      2 ≤ (exactMatches document namePath).length) := by
  refine ⟨fun includeBody includeInfo _ positive =>
    findSymbol_eq_answer library document parsed false includeBody includeInfo positive, ?_⟩
  have declared : Verdict.of id (Declarations.resolveSymbol digit document namePath) =
      .on (indexedMatches digit document namePath) := resolveIndexed_verdict id id fun _ => rfl
  have diagnosed : Verdict.of Prod.snd (Diagnostics.resolveSymbol engine digit document namePath) =
      .on (indexedMatches digit document namePath) := resolveIndexed_verdict _ _ fun _ => rfl
  rw [declared, diagnosed, findVerdict_eq parsed, selectedSymbol_verdict parsed]
  have sublist :
      (exactMatches document namePath).Sublist (indexedMatches digit document namePath) :=
    List.monotone_filter_right _ fun _ => endsWith_indexed
  have same : exactMatches document namePath = indexedMatches digit document namePath ↔
      ∀ symbol ∈ document.listing,
        endsWith (segmentMatches digit) (isAbsolute namePath) (nameComponents namePath)
          symbol.namePath = true →
        endsWith (· == ·) (isAbsolute namePath) (nameComponents namePath) symbol.namePath =
          true := by
    refine ⟨fun same symbol member matched => ?_, fun literal =>
      List.filter_congr fun symbol member =>
        Bool.eq_iff_iff.mpr ⟨endsWith_indexed, literal symbol member⟩⟩
    have kept : symbol ∈ exactMatches document namePath :=
      same ▸ List.mem_filter.mpr ⟨member, matched⟩
    exact (List.mem_filter.mp kept).2
  rw [← same, ← Verdict.on_eq_iff sublist]
  constructor
  · rintro ⟨_, rfl, _, indexed, _⟩
    exact indexed.symm
  · intro agreed
    exact ⟨_, rfl, rfl, agreed.symm, agreed.symm⟩

/-! ### A function that is defined twice -/

/-- A symbol object with a name and children. -/
def symbolObject (name : String) (children : List Json) : Object :=
  let zero : Json := .object [("line", .int 0), ("character", .int 0)]
  [("name", .str name), ("kind", .int 12), ("range", .object [("start", zero), ("end", zero)]),
    ("children", .list children)]

/-- The input of a document with these symbol objects, and a library that is not asked. -/
def namedInput (objects : List Object) : DocumentSymbolInput :=
  ⟨"module.py", "file:///module.py", ⟨[], [], [], rfl⟩, some objects, .utf16, fun _ => none,
    by decide, by decide⟩

def bareLibrary : Library := ⟨fun _ => .ok none, fun _ => "", fun _ => ""⟩

/-- The documents of two functions of one name, and of two functions of different names. -/
def twice (first second : String) : Except NormalizationError DocumentNavigation :=
  DocumentNavigation.fromInput bareLibrary
    (namedInput [symbolObject first [], symbolObject second []])

theorem resolvers_agree_iff_apart : ∃ document pattern, twice "run" "stop" = .ok document ∧
    NamePathPattern.parse (.text "run") = some pattern ∧
    (∃ verdict, findVerdict document pattern false = verdict ∧
        Verdict.of id (selectedSymbol document "run") = verdict ∧
        Verdict.of id (Declarations.resolveSymbol Char.isDigit document "run") = verdict ∧
        Verdict.of Prod.snd (Diagnostics.resolveSymbol () Char.isDigit document "run") =
          verdict) := by
  have made : (match twice "run" "stop" with
    | .ok document => decide (∀ symbol ∈ document.listing,
        endsWith (segmentMatches Char.isDigit) (isAbsolute "run") (nameComponents "run")
          symbol.namePath = true →
        endsWith (· == ·) (isAbsolute "run") (nameComponents "run") symbol.namePath = true)
    | .error _ => false) = true := by decide +kernel
  have valid : (NamePathPattern.parse (.text "run")).isSome = true := by decide +kernel
  obtain ⟨pattern, parsed⟩ := Option.isSome_iff_exists.mp valid
  split at made
  · next document built =>
    exact ⟨document, pattern, built, parsed, (resolvers_agree_iff () Char.isDigit bareLibrary
      document "run" pattern parsed).2.mpr (.inl (of_decide_eq_true made))⟩
  · cases made

/-- **A function that is defined twice** is not found by the literal lookups and ambiguous for the
others. -/
theorem resolvers_disagree : ∃ document pattern, twice "run" "run" = .ok document ∧
    NamePathPattern.parse (.text "run") = some pattern ∧
    findVerdict document pattern false = .notFound ∧
    Verdict.of id (selectedSymbol document "run") = .notFound ∧
    Verdict.of id (Declarations.resolveSymbol Char.isDigit document "run") = .ambiguous ∧
    Verdict.of Prod.snd (Diagnostics.resolveSymbol () Char.isDigit document "run") =
      .ambiguous := by
  have made : (match twice "run" "run" with
    | .ok document => (exactMatches document "run").length == 0 &&
        (indexedMatches Char.isDigit document "run").length == 2
    | .error _ => false) = true := by decide +kernel
  have valid : (NamePathPattern.parse (.text "run")).isSome = true := by decide +kernel
  obtain ⟨pattern, parsed⟩ := Option.isSome_iff_exists.mp valid
  split at made
  · next document built =>
    rw [Bool.and_eq_true, beq_iff_eq, beq_iff_eq] at made
    have several : Verdict.on (indexedMatches Char.isDigit document "run") = .ambiguous := by
      match indexedMatches Char.isDigit document "run", made.2 with
      | [_, _], _ => rfl
    refine ⟨document, pattern, built, parsed, ?_, ?_, ?_, ?_⟩
    · rw [findVerdict_eq parsed, List.length_eq_zero_iff.mp made.1]
      rfl
    · rw [selectedSymbol_verdict parsed, List.length_eq_zero_iff.mp made.1]
      rfl
    · exact (resolveIndexed_verdict id id fun _ => rfl).trans several
    · exact (resolveIndexed_verdict _ _ fun _ => rfl).trans several
  · cases made

end SerenaLight.Tools
