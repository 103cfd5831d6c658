/-
**The symbol an edit replaces and the symbol a read finds.**

The edit path leaves out the top-level symbols whose range could not be recovered, and numbers the
names that several of the others share. The read path numbers all of them. `Undisturbed` says that
the symbols left out change neither the normalization nor which symbols the name path matches;
`edit_lookup_agrees` proves that a name path that an edit resolves is then resolved by a read to the
same symbol, and, where the symbols of the document are told apart, only then.

- `Numbering` is a top-level symbol with its number on either path.
- `twins_of_numberings` lists the symbols of the read path, each with its twin on the edit path.
- `edit_lookup_disagrees` is a Python file in which `x[0]` is another symbol for an edit than for a
  read.
-/

import SerenaLight.Workspace.Documents

namespace SerenaLight.Workspace

open Foundation Fallible Lsp Tools

/-! ### The two lookups -/

section Lookups

variable (library : Library)
  (moduleLevelCandidates : Text → Except ParseFault (List AssignmentStatement))
  (response : DocumentResponse) (namePath : NamePath)

/-- The document of the read path. -/
def readDocument : Option DocumentNavigation :=
  match loadDocument moduleLevelCandidates response with
  | .ok input => (DocumentNavigation.fromInput library input).toOption
  | .error _ => none

/-- The read path: `_load_document`, then `find_symbol`. -/
def readLookup (maxAnswerChars : Int) : Option FoundSymbol :=
  match readDocument library moduleLevelCandidates response with
  | some document =>
    match findSymbol library document namePath false false false maxAnswerChars none with
    | .ok (.ok found) => some found
    | _ => none
  | none => none

/-- The edit path: `resolve_document_symbols`, then `_resolve_unique_symbol`. -/
def editLookup (target : AuthorizedEdit) : Option ResolvedSymbol :=
  match resolveDocumentSymbols moduleLevelCandidates response with
  | .ok supplied =>
    match resolveUniqueSymbol library target response.snapshot supplied namePath with
    | .ok (.ok resolved) => some resolved
    | _ => none
  | .error _ => none

/-- The read path finds a symbol of the same name, kind and range. -/
def Agrees (maxAnswerChars : Int) (resolved : ResolvedSymbol) : Prop :=
  ∃ found, readLookup library moduleLevelCandidates response namePath maxAnswerChars = some found ∧
    found.symbol.name = resolved.identity.name ∧ found.symbol.kind = resolved.identity.kind ∧
    found.symbol.range.start.byteOffset = resolved.startByte ∧
    found.symbol.range.stop.byteOffset = resolved.endByte

end Lookups

/-! ### Numbers on either path -/

/-- A top-level symbol with its number among all symbols, and among the kept ones if it is kept. -/
structure Numbering where
  raw : RawSymbol
  name : String
  number : String
  keptNumber : Option String

/-- The name a symbol is numbered under. -/
def titleOf (self : Normalizer) (raw : RawSymbol) : String :=
  match self.nameOf raw with
  | .ok name => name
  | .error _ => ""

/-- The numbers of the symbols that follow `seen` among `all` and `seenKept` among `kept`. -/
def numberFrom (self : Normalizer) (keep : RawSymbol → Bool) (all kept seen seenKept : List String) :
    List RawSymbol → List Numbering
  | [] => []
  | raw :: rest =>
    let name := titleOf self raw
    ⟨raw, name, segment all seen name,
        if keep raw then some (segment kept seenKept name) else none⟩ ::
      numberFrom self keep all kept (name :: seen)
        (if keep raw then name :: seenKept else seenKept) rest

/-- The numbers of the top-level symbols. -/
def numberings (self : Normalizer) (keep : RawSymbol → Bool) (raws : List RawSymbol) :
    List Numbering :=
  numberFrom self keep (raws.map (titleOf self)) ((raws.filter keep).map (titleOf self)) [] [] raws

/-- Which symbols at and below a top-level symbol the name path matches when it has this number. -/
def matchesUnder (self : Normalizer) (pattern : NamePathPattern) (raw : RawSymbol)
    (name number : String) : Except NormalizationError (List Bool) :=
  (raw.normalize self [] name number).map fun symbol =>
    symbol.depthFirst.map fun below => pattern.admits false below.namePath

/-- The number on the read path changes no match: nothing at or below a symbol that is left out
matches, and what matches at and below a kept symbol is what matches on the edit path. -/
def Numbering.Steady (self : Normalizer) (pattern : NamePathPattern) (entry : Numbering) : Prop :=
  match entry.keptNumber with
  | none => ∀ found, matchesUnder self pattern entry.raw entry.name entry.number = .ok found →
      true ∉ found
  | some number => matchesUnder self pattern entry.raw entry.name entry.number =
      matchesUnder self pattern entry.raw entry.name number

/-- A symbol that normalization accepts. -/
def Accepted (self : Normalizer) (raw : RawSymbol) : Prop :=
  ∃ name symbol, self.nameOf raw = .ok name ∧ raw.normalize self [] name name = .ok symbol

/-! ### Normalization by numbers -/

section Numbers

variable {self : Normalizer} {keep : RawSymbol → Bool}

theorem titleOf_eq {raw : RawSymbol} {name : String} (named : self.nameOf raw = .ok name) :
    titleOf self raw = name := by
  rw [titleOf, named]

/-- The symbols with their numbers among all. -/
theorem numberFrom_numbers (all kept : List String) : ∀ (raws : List RawSymbol)
    (seen seenKept : List String),
    (numberFrom self keep all kept seen seenKept raws).map (fun entry =>
        ((entry.name, entry.number), entry.raw)) =
      ((raws.map (titleOf self)).zip (number all seen (raws.map (titleOf self)))).zip raws
  | [], _, _ => rfl
  | raw :: rest, seen, seenKept => by
    rw [numberFrom, List.map_cons, numberFrom_numbers all kept rest]
    rfl

/-- The kept symbols with their numbers among the kept. -/
theorem numberFrom_kept (all kept : List String) : ∀ (raws : List RawSymbol)
    (seen seenKept : List String),
    (numberFrom self keep all kept seen seenKept raws).filterMap (fun entry =>
        entry.keptNumber.map fun number => ((entry.name, number), entry.raw)) =
      (((raws.filter keep).map (titleOf self)).zip
        (number kept seenKept ((raws.filter keep).map (titleOf self)))).zip (raws.filter keep)
  | [], _, _ => rfl
  | raw :: rest, seen, seenKept => by
    rw [numberFrom]
    by_cases stays : keep raw = true
    · rw [List.filter_cons_of_pos stays]
      simp only [stays, if_true, List.filterMap_cons, Option.map_some]
      rw [numberFrom_kept all kept rest]
      rfl
    · rw [List.filter_cons_of_neg stays]
      simp only [stays, if_false, List.filterMap_cons, Option.map_none, Bool.false_eq_true]
      exact numberFrom_kept all kept rest _ _

variable {raws : List RawSymbol} {symbols : List NormalizedSymbol}

/-- Siblings are accepted exactly when each has a name and each is accepted under its number. -/
theorem normalizeSiblings_eq_ok :
    normalizeSiblings self [] raws = .ok symbols ↔
      (∀ raw ∈ raws, self.nameOf raw = .ok (titleOf self raw)) ∧
        List.Forall₂ (fun (item : (String × String) × RawSymbol) symbol =>
          item.2.normalize self [] item.1.1 item.1.2 = .ok symbol)
          (((raws.map (titleOf self)).zip (segments (raws.map (titleOf self)))).zip raws)
          symbols := by
  have names : ∀ names, raws.mapM self.nameOf = .ok names ↔
      names = raws.map (titleOf self) ∧
        ∀ raw ∈ raws, self.nameOf raw = .ok (titleOf self raw) := by
    intro names
    rw [mapM_eq_ok]
    constructor
    · intro each
      have both : List.Forall₂ (fun raw name => self.nameOf raw = .ok (titleOf self raw) ∧
          titleOf self raw = name) raws names :=
        each.imp fun _ _ named => by
          rw [titleOf_eq named]
          exact ⟨named, rfl⟩
      obtain ⟨named, same⟩ := (List.forall₂_and_left _ _).mp both
      rw [← List.forall₂_map_left_iff, List.forall₂_eq_eq_eq] at same
      exact ⟨same.symm, named⟩
    · rintro ⟨rfl, named⟩
      rw [List.forall₂_map_right_iff, List.forall₂_same]
      exact named
  unfold normalizeSiblings
  rw [bind_eq_ok]
  simp only [names, normalizeEach_eq_ok]
  constructor
  · rintro ⟨_, ⟨rfl, named⟩, each⟩
    exact ⟨named, each⟩
  · rintro ⟨named, each⟩
    exact ⟨_, ⟨rfl, named⟩, each⟩

/-- The read path's symbols, number by number. -/
theorem normalizeSiblings_numbers (keep : RawSymbol → Bool) :
    normalizeSiblings self [] raws = .ok symbols ↔
      (∀ raw ∈ raws, self.nameOf raw = .ok (titleOf self raw)) ∧
        List.Forall₂ (fun (entry : Numbering) symbol =>
          entry.raw.normalize self [] entry.name entry.number = .ok symbol)
          (numberings self keep raws) symbols := by
  rw [normalizeSiblings_eq_ok, segments, ← numberFrom_numbers _ _ raws [] [],
    List.forall₂_map_left_iff]
  rfl

/-- The edit path's symbols, number by number. -/
theorem normalizeSiblings_kept :
    normalizeSiblings self [] (raws.filter keep) = .ok symbols ↔
      (∀ raw ∈ raws.filter keep, self.nameOf raw = .ok (titleOf self raw)) ∧
        List.Forall₂ (fun (item : (String × String) × RawSymbol) symbol =>
          item.2.normalize self [] item.1.1 item.1.2 = .ok symbol)
          ((numberings self keep raws).filterMap fun entry =>
            entry.keptNumber.map fun number => ((entry.name, number), entry.raw)) symbols := by
  rw [normalizeSiblings_eq_ok, segments, numberings, numberFrom_kept]

theorem numberFrom_mem (all kept : List String) : ∀ (raws : List RawSymbol)
    (seen seenKept : List String),
    ∀ entry ∈ numberFrom self keep all kept seen seenKept raws,
      entry.raw ∈ raws ∧ entry.name = titleOf self entry.raw ∧
        entry.keptNumber.isSome = keep entry.raw
  | [], _, _, entry, member => nomatch member
  | raw :: rest, seen, seenKept, entry, member => by
    rw [numberFrom] at member
    rcases List.mem_cons.mp member with rfl | later
    · refine ⟨List.mem_cons_self, rfl, ?_⟩
      by_cases stays : keep raw = true
      · simp [stays]
      · simp [stays]
    · obtain ⟨inside, named, flag⟩ := numberFrom_mem all kept rest _ _ entry later
      exact ⟨List.mem_cons_of_mem _ inside, named, flag⟩

theorem numberFrom_raws (all kept : List String) : ∀ (raws : List RawSymbol)
    (seen seenKept : List String),
    (numberFrom self keep all kept seen seenKept raws).map Numbering.raw = raws
  | [], _, _ => rfl
  | raw :: rest, seen, seenKept => by
    rw [numberFrom, List.map_cons, numberFrom_raws all kept rest]

end Numbers

/-! ### Twins -/

/-- Two lists of symbols side by side: the symbols of the read path, each with its twin on the edit
path if its top-level symbol is kept there. -/
structure Twins (full kept : List NormalizedSymbol)
    (pairs : List (NormalizedSymbol × Option NormalizedSymbol)) : Prop where
  left : pairs.map Prod.fst = full
  right : pairs.filterMap Prod.snd = kept
  alike : ∀ pair ∈ pairs, ∀ twin, pair.2 = some twin →
    twin.name = pair.1.name ∧ twin.kind = pair.1.kind ∧ twin.location = pair.1.location

variable {pattern : NamePathPattern}

theorem matchesUnder_of_ok {self : Normalizer} {raw : RawSymbol} {name number : String}
    {symbol : NormalizedSymbol} (done : raw.normalize self [] name number = .ok symbol) :
    matchesUnder self pattern raw name number =
      .ok (symbol.depthFirst.map fun below => pattern.admits false below.namePath) := by
  rw [matchesUnder, done]
  rfl

/-- A symbol matches the name path on both paths or on neither. -/
def SameMatch (pattern : NamePathPattern)
    (pair : NormalizedSymbol × Option NormalizedSymbol) : Prop :=
  pattern.admits false pair.1.namePath =
    pair.2.any fun twin => pattern.admits false twin.namePath

section Pairs

variable {pattern : NamePathPattern} {path path' : List String}
  {full kept : List NormalizedSymbol}

theorem Twins.append {full' kept' : List NormalizedSymbol}
    {pairs pairs' : List (NormalizedSymbol × Option NormalizedSymbol)}
    (first : Twins full kept pairs) (second : Twins full' kept' pairs') :
    Twins (full ++ full') (kept ++ kept') (pairs ++ pairs') where
  left := by rw [List.map_append, first.left, second.left]
  right := by rw [List.filterMap_append, first.right, second.right]
  alike := by
    intro pair member
    rcases List.mem_append.mp member with here | there
    · exact first.alike pair here
    · exact second.alike pair there

/-- Symbols without twins. -/
theorem Twins.alone (symbols : List NormalizedSymbol) :
    Twins symbols [] (symbols.map fun symbol => (symbol, none)) where
  left := by
    rw [List.map_map]
    exact List.map_id symbols
  right := by
    rw [List.filterMap_map]
    exact List.filterMap_eq_nil_iff.mpr fun _ _ => rfl
  alike := by
    intro pair member twin paired
    obtain ⟨_, _, rfl⟩ := List.mem_map.mp member
    cases paired

/-- Symbols that are alike are each other's twins. -/
theorem Twins.paired (alike : List.Forall₂ (Alike path path') full kept) :
    Twins full kept (full.zip (kept.map some)) := by
  induction alike with
  | nil => exact ⟨rfl, rfl, nofun⟩
  | @cons symbol twin rest others same _ ih =>
    have here : Twins [symbol] [twin] [(symbol, some twin)] := by
      refine ⟨rfl, rfl, fun pair member other paired => ?_⟩
      cases List.mem_singleton.mp member
      cases paired
      exact ⟨same.name, same.kind, same.location⟩
    exact here.append ih

theorem sameMatch_alone (symbols : List NormalizedSymbol) :
    (∀ pair ∈ symbols.map fun symbol => (symbol, (none : Option NormalizedSymbol)),
        SameMatch pattern pair) ↔
      true ∉ symbols.map fun symbol => pattern.admits false symbol.namePath := by
  rw [List.forall_mem_map, List.mem_map]
  constructor
  · rintro none ⟨symbol, member, found⟩
    have miss : pattern.admits false symbol.namePath = false := none symbol member
    rw [miss] at found
    cases found
  · intro none symbol member
    exact Bool.eq_false_iff.mpr fun found => none ⟨symbol, member, found⟩

theorem sameMatch_paired (alike : List.Forall₂ (Alike path path') full kept) :
    (∀ pair ∈ full.zip (kept.map some), SameMatch pattern pair) ↔
      full.map (fun symbol => pattern.admits false symbol.namePath) =
        kept.map fun symbol => pattern.admits false symbol.namePath := by
  induction alike with
  | nil => exact ⟨fun _ => rfl, nofun⟩
  | @cons symbol twin rest others _ _ ih =>
    rw [List.map_cons, List.zip_cons_cons, List.forall_mem_cons, ih, List.map_cons, List.map_cons,
      List.cons_eq_cons]
    rfl

end Pairs

/-- **The symbols of both paths side by side**: every symbol of the read path with its twin on the
edit path, where the matches agree exactly when the numbers are steady. -/
theorem twins_of_numberings (self : Normalizer) (pattern : NamePathPattern) :
    ∀ (entries : List Numbering) (full kept : List NormalizedSymbol),
    List.Forall₂ (fun (entry : Numbering) symbol =>
      entry.raw.normalize self [] entry.name entry.number = .ok symbol) entries full →
    List.Forall₂ (fun (item : (String × String) × RawSymbol) symbol =>
      item.2.normalize self [] item.1.1 item.1.2 = .ok symbol)
      (entries.filterMap fun entry =>
        entry.keptNumber.map fun number => ((entry.name, number), entry.raw)) kept →
    ∃ pairs, Twins (full.flatMap NormalizedSymbol.depthFirst)
        (kept.flatMap NormalizedSymbol.depthFirst) pairs ∧
      ((∀ pair ∈ pairs, SameMatch pattern pair) ↔ ∀ entry ∈ entries, entry.Steady self pattern) := by
  intro entries
  induction entries with
  | nil =>
    intro full kept first second
    cases first
    cases second
    exact ⟨[], ⟨rfl, rfl, nofun⟩, nofun, nofun⟩
  | cons entry rest ih =>
    intro full kept first second
    obtain ⟨symbol, others, here, later, rfl⟩ := List.forall₂_cons_left_iff.mp first
    cases flag : entry.keptNumber with
    | none =>
      rw [List.filterMap_cons, flag, Option.map_none] at second
      obtain ⟨pairs, twins, steady⟩ := ih others kept later second
      refine ⟨_, (Twins.alone symbol.depthFirst).append twins, ?_⟩
      rw [List.forall_mem_append, steady, sameMatch_alone, List.forall_mem_cons]
      refine and_congr_left fun _ => ?_
      unfold Numbering.Steady
      rw [flag, matchesUnder_of_ok here]
      exact ⟨fun none _ same => by rwa [← Except.ok.inj same], fun none => none _ rfl⟩
    | some number =>
      rw [List.filterMap_cons, flag, Option.map_some] at second
      obtain ⟨twin, keptOthers, there, keptLater, rfl⟩ := List.forall₂_cons_left_iff.mp second
      obtain ⟨pairs, twins, steady⟩ := ih others keptOthers later keptLater
      -- the same tree under the other number
      obtain ⟨_, again, alike⟩ :=
        RawSymbol.normalize_alike self [] [] entry.name entry.number number entry.raw symbol here
      cases Except.ok.inj (again.symm.trans there)
      refine ⟨_, (Twins.paired alike).append twins, ?_⟩
      rw [List.forall_mem_append, steady, sameMatch_paired alike, List.forall_mem_cons]
      refine and_congr_left fun _ => ?_
      unfold Numbering.Steady
      rw [flag, matchesUnder_of_ok here]
      dsimp only
      rw [matchesUnder_of_ok there]
      exact ⟨fun same => congrArg _ same, fun same => Except.ok.inj same⟩

/-! ### Agreement -/

/-- The symbols left out by the edit path do not get in the way of a name path on the read path. -/
structure Undisturbed (normalizer : Normalizer) (mapper : PositionMapper)
    (keep : RawSymbol → Bool) (raws : List RawSymbol) (pattern : NamePathPattern)
    (maxAnswerChars : Int) : Prop where
  wellFormed : ∀ raw ∈ raws, keep raw = false → Accepted normalizer raw
  steady : ∀ entry ∈ numberings normalizer keep raws, entry.Steady normalizer pattern
  positive : 0 < maxAnswerChars
  fits : ∀ full, normalizeSiblings normalizer [] raws = .ok full →
    ∀ symbol ∈ full.flatMap NormalizedSymbol.depthFirst,
      pattern.admits false symbol.namePath = true →
      ∀ data, symbolData mapper false false symbol = .ok data → (data.size : Int) ≤ maxAnswerChars

/-- The name, kind and byte range of a symbol. -/
def place (mapper : PositionMapper) (symbol : NormalizedSymbol) :
    String × Int × Option (Nat × Nat) :=
  (symbol.name, symbol.kind, (sourceRange mapper symbol.location.range).toOption.map fun range =>
    (range.start.byteOffset, range.stop.byteOffset))

section Agreement

variable {self : Normalizer} {mapper : PositionMapper} {keep : RawSymbol → Bool}
  {raws : List RawSymbol} {pattern : NamePathPattern} {maxAnswerChars : Int}
  {full kept : List NormalizedSymbol}

variable {raw : RawSymbol} {symbol twin : NormalizedSymbol} {listing twins : List NormalizedSymbol}

/-- A symbol accepted under one number is accepted under every other. -/
theorem accepted_under {name number : String}
    (done : raw.normalize self [] name number = .ok symbol) (other : String) :
    ∃ symbol', raw.normalize self [] name other = .ok symbol' := by
  obtain ⟨symbol', again, -⟩ :=
    RawSymbol.normalize_alike self [] [] name number other raw symbol done
  exact ⟨symbol', again⟩

/-- The read path accepts the response when the edit path does and the rest is well formed. -/
theorem Undisturbed.accepts (quiet : Undisturbed self mapper keep raws pattern maxAnswerChars)
    (edit : normalizeSiblings self [] (raws.filter keep) = .ok kept) :
    ∃ full, normalizeSiblings self [] raws = .ok full := by
  obtain ⟨keptNamed, keptEach⟩ := normalizeSiblings_kept.mp edit
  have named : ∀ raw ∈ raws, self.nameOf raw = .ok (titleOf self raw) := by
    intro raw member
    cases stays : keep raw with
    | true => exact keptNamed raw (List.mem_filter.mpr ⟨member, stays⟩)
    | false =>
      obtain ⟨name, _, named, _⟩ := quiet.wellFormed raw member stays
      rw [titleOf_eq named, named]
  have each : ∀ entry ∈ numberings self keep raws,
      ∃ symbol, entry.raw.normalize self [] entry.name entry.number = .ok symbol := by
    intro entry member
    obtain ⟨inside, title, flag⟩ := numberFrom_mem _ _ _ _ _ entry member
    cases kind : entry.keptNumber with
    | none =>
      rw [kind] at flag
      obtain ⟨name, symbol, name_eq, done⟩ := quiet.wellFormed entry.raw inside flag.symm
      rw [title, titleOf_eq name_eq]
      exact accepted_under done _
    | some number =>
      have listed : ((entry.name, number), entry.raw) ∈
          (numberings self keep raws).filterMap fun entry =>
            entry.keptNumber.map fun number => ((entry.name, number), entry.raw) := by
        refine List.mem_filterMap.mpr ⟨entry, member, ?_⟩
        rw [kind, Option.map_some]
      obtain ⟨symbol, -, done⟩ := exists_of_forall₂ keptEach listed
      exact accepted_under done _
  obtain ⟨full, all⟩ := exists_forall₂ each
  exact ⟨full, (normalizeSiblings_numbers keep).mpr ⟨named, all⟩⟩

/-- Every symbol of a response that is accepted is accepted. -/
theorem accepted_of_numbers (read : normalizeSiblings self [] raws = .ok full)
    (member : raw ∈ raws) : Accepted self raw := by
  obtain ⟨named, each⟩ := (normalizeSiblings_numbers fun _ => true).mp read
  have listed : raw ∈ (numberings self (fun _ => true) raws).map Numbering.raw := by
    rw [numberings, numberFrom_raws]
    exact member
  obtain ⟨entry, inside, rfl⟩ := List.mem_map.mp listed
  obtain ⟨symbol, -, done⟩ := exists_of_forall₂ each inside
  obtain ⟨-, title, -⟩ := numberFrom_mem _ _ _ _ _ entry inside
  obtain ⟨symbol', again⟩ := accepted_under done entry.name
  rw [title] at again
  exact ⟨_, symbol', named entry.raw member, again⟩

/-- The matching twins are the twins of the pairs whose twin matches. -/
theorem filter_twins (test : NormalizedSymbol → Bool)
    (pairs : List (NormalizedSymbol × Option NormalizedSymbol)) :
    (pairs.filterMap Prod.snd).filter test =
      (pairs.filter fun pair => pair.2.any test).filterMap Prod.snd := by
  induction pairs with
  | nil => rfl
  | cons pair rest ih =>
    obtain ⟨symbol, twin⟩ := pair
    cases twin with
    | none =>
      rw [List.filter_cons_of_neg (by simp)]
      exact ih
    | some twin =>
      show (twin :: rest.filterMap Prod.snd).filter test = _
      by_cases found : test twin = true
      · rw [List.filter_cons_of_pos found, ih, List.filter_cons_of_pos (by simpa using found)]
        rfl
      · rw [List.filter_cons_of_neg found, ih, List.filter_cons_of_neg (by simpa using found)]

variable {pairs : List (NormalizedSymbol × Option NormalizedSymbol)}

/-- One twin matches: one pair has a matching twin. -/
theorem filter_pairs {test : NormalizedSymbol → Bool}
    (alone : (pairs.filterMap Prod.snd).filter test = [twin]) :
    ∃ symbol, (pairs.filter fun pair => pair.2.any test) = [(symbol, some twin)] := by
  rw [filter_twins] at alone
  have present : ∀ pair ∈ pairs.filter fun pair => pair.2.any test, pair.2.isSome :=
    fun _ member => Option.isSome_of_any (List.mem_filter.mp member).2
  generalize (pairs.filter fun pair => pair.2.any test) = chosen at alone present
  match chosen with
  | [] => cases alone
  | [(symbol, some other)] =>
    cases alone
    exact ⟨symbol, rfl⟩
  | (_, none) :: _ => exact absurd (present _ List.mem_cons_self) (by simp)
  | (_, some _) :: (_, none) :: _ =>
    exact absurd (present _ (List.mem_cons_of_mem _ List.mem_cons_self)) (by simp)
  | (_, some _) :: (_, some _) :: _ => cases alone

/-- **Steady numbers find the twin**: when every symbol matches on both paths or on neither, the one
match of the edit path has one match on the read path, its twin. -/
theorem Twins.found (paired : Twins listing twins pairs)
    (same : ∀ pair ∈ pairs, SameMatch pattern pair)
    (alone : twins.filter (fun symbol => pattern.admits false symbol.namePath) = [twin]) :
    ∃ symbol, listing.filter (fun symbol => pattern.admits false symbol.namePath) = [symbol] ∧
      twin.name = symbol.name ∧ twin.kind = symbol.kind ∧ twin.location = symbol.location := by
  rw [← paired.right] at alone
  obtain ⟨symbol, chosen⟩ := filter_pairs alone
  have inside : (symbol, some twin) ∈ pairs :=
    List.mem_of_mem_filter (chosen ▸ List.mem_singleton_self _)
  refine ⟨symbol, ?_, paired.alike _ inside twin rfl⟩
  rw [← paired.left, List.filter_map, List.filter_congr (q := fun pair =>
    pair.2.any fun twin => pattern.admits false twin.namePath) same, chosen]
  rfl

/-- **The twin has steady numbers**: when the symbols of the read path are told apart by their places
and the one match of either path is at the same place, every symbol matches on both or on
neither. -/
theorem Twins.steady (paired : Twins listing twins pairs)
    (apart : (listing.map (place mapper)).Nodup)
    (left : listing.filter (fun symbol => pattern.admits false symbol.namePath) = [symbol])
    (right : twins.filter (fun symbol => pattern.admits false symbol.namePath) = [twin])
    (same : place mapper symbol = place mapper twin) :
    ∀ pair ∈ pairs, SameMatch pattern pair := by
  have apart' : (pairs.map fun pair => place mapper pair.1).Nodup := by
    rw [← paired.left, List.map_map] at apart
    exact apart
  have onto : ∀ pair ∈ pairs, ∀ other, pair.2 = some other →
      place mapper other = place mapper pair.1 := by
    intro pair member other twinned
    obtain ⟨name, kind, location⟩ := paired.alike pair member other twinned
    rw [place, place, name, kind, location]
  have found : symbol ∈ listing ∧ pattern.admits false symbol.namePath = true :=
    List.mem_filter.mp (left ▸ List.mem_singleton_self symbol)
  have foundTwin : twin ∈ twins ∧ pattern.admits false twin.namePath = true :=
    List.mem_filter.mp (right ▸ List.mem_singleton_self twin)
  obtain ⟨pair, inside, twinned⟩ := List.mem_filterMap.mp (paired.right ▸ foundTwin.1)
  -- two pairs at one place are one pair
  have unique : ∀ other ∈ pairs, place mapper other.1 = place mapper twin → other = pair := by
    intro other member here
    exact List.inj_on_of_nodup_map apart' member inside (here.trans (onto pair inside twin twinned))
  intro other member
  unfold SameMatch
  cases matched : pattern.admits false other.1.namePath with
  | true =>
    have listed : other.1 ∈ listing := paired.left ▸ List.mem_map_of_mem member
    have only : other.1 = symbol := by
      have hit : other.1 ∈ listing.filter fun symbol => pattern.admits false symbol.namePath :=
        List.mem_filter.mpr ⟨listed, matched⟩
      rw [left] at hit
      exact List.mem_singleton.mp hit
    rw [unique other member (by rw [only, same]), twinned]
    exact foundTwin.2.symm
  | false =>
    refine (Bool.eq_false_iff.mpr fun hit => ?_).symm
    obtain ⟨candidate, twinned', hit⟩ := (Option.any_eq_true _ _).mp hit
    have listed : candidate ∈ twins :=
      paired.right ▸ List.mem_filterMap.mpr ⟨other, member, twinned'⟩
    have only : candidate = twin := by
      have chosen : candidate ∈ twins.filter fun symbol => pattern.admits false symbol.namePath :=
        List.mem_filter.mpr ⟨listed, hit⟩
      rw [right] at chosen
      exact List.mem_singleton.mp chosen
    subst only
    obtain ⟨home, homeInside, rfl⟩ := List.mem_map.mp (paired.left ▸ found.1)
    have together : other = home :=
      (unique other member (onto other member candidate twinned').symm).trans
        (unique home homeInside same).symm
    rw [together, found.2] at matched
    cases matched

end Agreement

/-! ### The two lookups of a response -/

/-- The symbols the edit path keeps. -/
def keeps (recovered : AssignmentRecoveryResult) (raw : RawSymbol) : Bool :=
  (recovered.bodyIncompleteReason raw.fields).isNone

/-- The symbols of the recovery. -/
def recoveredSymbols (recovered : AssignmentRecoveryResult) : List RawSymbol :=
  recovered.rawSymbols.map RawSymbol.ofObject

section Responses

variable {library : Library}
  {moduleLevelCandidates : Text → Except ParseFault (List AssignmentStatement)}
  {response : DocumentResponse} {namePath : NamePath}
  {raw : Option (List Object)} {recovered : AssignmentRecoveryResult}

/-- A path and a URI that a document may have. -/
def DocumentResponse.Valid (response : DocumentResponse) : Prop :=
  (response.relativePath ≠ "" ∧ response.relativePath.toList.head? ≠ some '/') ∧ response.uri ≠ ""

theorem documentInput_cases {symbols : List Object} {input : DocumentSymbolInput}
    (done : documentInput response recovered symbols = .ok input) :
    ∃ valid : response.Valid, input = ⟨response.relativePath, response.uri, response.snapshot,
      some symbols, response.positionEncoding, recovered.bodyIncompleteReason, valid.1,
      valid.2⟩ := by
  unfold documentInput DocumentSymbolInput.make at done
  by_cases relative : response.relativePath ≠ "" ∧ response.relativePath.toList.head? ≠ some '/'
  · by_cases named : response.uri ≠ ""
    · rw [dif_pos relative, dif_pos named] at done
      exact ⟨⟨relative, named⟩, (Except.ok.inj done).symm⟩
    · rw [dif_pos relative, dif_neg named] at done
      cases done
  · rw [dif_neg relative] at done
    cases done

theorem documentInput_of_valid (valid : response.Valid) (symbols : List Object) :
    documentInput response recovered symbols = .ok ⟨response.relativePath, response.uri,
      response.snapshot, some symbols, response.positionEncoding,
      recovered.bodyIncompleteReason, valid.1, valid.2⟩ := by
  unfold documentInput DocumentSymbolInput.make
  rw [dif_pos valid.1, dif_pos valid.2]

/-- The document of the read path. -/
theorem readDocument_eq (shaped : readSymbols response.symbols = some raw)
    (done : recoverSymbols moduleLevelCandidates response raw = .ok recovered)
    (valid : response.Valid) :
    readDocument library moduleLevelCandidates response =
      (normalizeSiblings (library.normalizer response.uri recovered.bodyIncompleteReason) []
        (recoveredSymbols recovered)).toOption.map fun symbols =>
          ⟨response.relativePath, response.uri, ⟨response.snapshot, response.positionEncoding⟩,
            symbols⟩ := by
  have loaded : loadDocument moduleLevelCandidates response =
      documentInput response recovered recovered.rawSymbols := by
    unfold loadDocument
    rw [shaped]
    dsimp only
    rw [done]
    rfl
  unfold readDocument
  rw [loaded, documentInput_of_valid valid]
  dsimp only
  unfold DocumentNavigation.fromInput normalizeDocumentSymbols recoveredSymbols
  dsimp only [Option.getD_some]
  cases normalizeSiblings (library.normalizer response.uri recovered.bodyIncompleteReason) []
    (recovered.rawSymbols.map RawSymbol.ofObject) with
  | error fault => rfl
  | ok symbols => rfl

theorem filter_recoveredSymbols :
    (recovered.rawSymbols.filter fun symbol =>
        (recovered.bodyIncompleteReason symbol).isNone).map RawSymbol.ofObject =
      (recoveredSymbols recovered).filter (keeps recovered) := by
  unfold recoveredSymbols
  rw [List.filter_map]
  rfl

/-- What a resolution on the edit path rests on. -/
theorem editLookup_cases {target : AuthorizedEdit} {resolved : ResolvedSymbol}
    (edited : editLookup library moduleLevelCandidates response namePath target = some resolved) :
    ∃ raw recovered pattern kept twin range, readSymbols response.symbols = some raw ∧
      recoverSymbols moduleLevelCandidates response raw = .ok recovered ∧ response.Valid ∧
      NamePathPattern.parse namePath = some pattern ∧
      normalizeSiblings (library.normalizer response.uri recovered.bodyIncompleteReason) []
        ((recoveredSymbols recovered).filter (keeps recovered)) = .ok kept ∧
      (kept.flatMap NormalizedSymbol.depthFirst).filter
        (fun symbol => pattern.admits false symbol.namePath) = [twin] ∧
      sourceRange ⟨response.snapshot, response.positionEncoding⟩ twin.location.range = .ok range ∧
      resolved.identity.name = twin.name ∧ resolved.identity.kind = twin.kind ∧
      resolved.startByte = range.start.byteOffset ∧
      resolved.endByte = range.stop.byteOffset := by
  unfold editLookup resolveDocumentSymbols at edited
  cases shaped : readSymbols response.symbols with
  | none =>
    rw [shaped] at edited
    cases edited
  | some raw =>
    rw [shaped] at edited
    dsimp only at edited
    cases done : recoverSymbols moduleLevelCandidates response raw with
    | error fault =>
      rw [done] at edited
      cases edited
    | ok recovered =>
      rw [done] at edited
      split at edited
      · next supplied input =>
          obtain ⟨valid, rfl⟩ := documentInput_cases input
          split at edited
          · next found resolution =>
              cases edited
              obtain ⟨-, document, record, loaded, answered, rfl⟩ :=
                resolveUniqueSymbol_eq_ok resolution
              obtain ⟨kept, normalized, same⟩ := bind_eq_ok.mp loaded
              cases same
              obtain ⟨pattern, twin, parsed, -, alone, answer⟩ := findSymbol_eq_ok.mp answered
              obtain ⟨rendered, -⟩ := answerOne_eq_ok.mp answer
              obtain ⟨range, drawn, data⟩ := symbolData_eq_ok.mp rendered
              refine ⟨raw, recovered, pattern, kept, twin, range, rfl, done, valid, parsed, ?_,
                alone, drawn, ?_⟩
              · rw [← filter_recoveredSymbols]
                exact normalized
              · unfold ResolvedSymbol.ofFound
                rw [data]
                exact ⟨rfl, rfl, rfl, rfl⟩
          · cases edited
      · cases edited

/-- When the read path finds a symbol. -/
theorem readLookup_eq_some (library : Library) (maxAnswerChars : Int) (found : FoundSymbol)
    (shaped : readSymbols response.symbols = some raw)
    (done : recoverSymbols moduleLevelCandidates response raw = .ok recovered)
    (valid : response.Valid) (parsed : NamePathPattern.parse namePath = some pattern) :
    readLookup library moduleLevelCandidates response namePath maxAnswerChars = some found ↔
      ∃ full symbol, normalizeSiblings
          (library.normalizer response.uri recovered.bodyIncompleteReason) []
          (recoveredSymbols recovered) = .ok full ∧ 0 < maxAnswerChars ∧
        (full.flatMap NormalizedSymbol.depthFirst).filter
          (fun symbol => pattern.admits false symbol.namePath) = [symbol] ∧
        symbolData ⟨response.snapshot, response.positionEncoding⟩ false false symbol =
          .ok found.symbol ∧
        (found.symbol.size : Int) ≤ maxAnswerChars ∧
        found.relativePath = response.relativePath ∧
        found.sha256 = library.sha256 response.snapshot.rawBytes := by
  unfold readLookup
  rw [readDocument_eq shaped done valid]
  cases normalized : normalizeSiblings
      (library.normalizer response.uri recovered.bodyIncompleteReason) []
      (recoveredSymbols recovered) with
  | error fault =>
    exact ⟨nofun, fun ⟨_, _, never, _⟩ => (nomatch never)⟩
  | ok full =>
    have answers : ∀ document : DocumentNavigation,
        (match findSymbol library document namePath false false false maxAnswerChars none with
          | .ok (.ok found) => some found
          | _ => none) = some found ↔
        findSymbol library document namePath false false false maxAnswerChars none =
          .ok (.ok found) := by
      intro document
      split
      · next other answered =>
          rw [answered]
          exact ⟨fun same => by rw [Option.some.inj same],
            fun same => congrArg some (Except.ok.inj (Except.ok.inj same))⟩
      · next other =>
          exact ⟨nofun, fun same => absurd same (other found)⟩
    dsimp only [Except.toOption, Option.map_some]
    rw [answers, findSymbol_eq_ok]
    simp only [answerOne_eq_ok, parsed]
    constructor
    · rintro ⟨_, symbol, same, positive, alone, rendered, small, path, hash⟩
      cases same
      exact ⟨full, symbol, rfl, positive, alone, rendered, small, path, hash⟩
    · rintro ⟨_, symbol, same, positive, alone, rendered, small, path, hash⟩
      cases same
      exact ⟨pattern, symbol, rfl, positive, alone, rendered, small, path, hash⟩

end Responses

section Theorem

variable (library : Library)
  (moduleLevelCandidates : Text → Except ParseFault (List AssignmentStatement))
  (response : DocumentResponse) (namePath : NamePath) (maxAnswerChars : Int)

/-- No symbol that the edit path leaves out gets in the way of the name path on the read path. -/
def LookupUndisturbed : Prop :=
  ∀ raw recovered pattern, readSymbols response.symbols = some raw →
    recoverSymbols moduleLevelCandidates response raw = .ok recovered →
    NamePathPattern.parse namePath = some pattern →
    Undisturbed (library.normalizer response.uri recovered.bodyIncompleteReason)
      ⟨response.snapshot, response.positionEncoding⟩ (keeps recovered)
      (recoveredSymbols recovered) pattern maxAnswerChars

/-- The symbols of the document are told apart by their names, kinds and ranges. -/
def ToldApart : Prop :=
  ∀ document, readDocument library moduleLevelCandidates response = some document →
    (document.listing.map (place document.mapper)).Nodup

/-- **The read path agrees with the edit path** if the symbols that the edit path leaves out do not
disturb the lookup, and only if, where the symbols of the document are told apart. -/
theorem edit_lookup_agrees (target : AuthorizedEdit) (resolved : ResolvedSymbol)
    (edited : editLookup library moduleLevelCandidates response namePath target = some resolved) :
    (LookupUndisturbed library moduleLevelCandidates response namePath maxAnswerChars →
      Agrees library moduleLevelCandidates response namePath maxAnswerChars resolved) ∧
    (ToldApart library moduleLevelCandidates response →
      Agrees library moduleLevelCandidates response namePath maxAnswerChars resolved →
      LookupUndisturbed library moduleLevelCandidates response namePath maxAnswerChars) := by
  obtain ⟨raw, recovered, pattern, kept, twin, range, shaped, done, valid, parsed, normalized, alone,
    drawn, name, kind, start, stop⟩ := editLookup_cases edited
  obtain ⟨-, keptEach⟩ := normalizeSiblings_kept.mp normalized
  constructor
  · intro undisturbed
    have quiet := undisturbed raw recovered pattern shaped done parsed
    obtain ⟨full, accepted⟩ := quiet.accepts normalized
    obtain ⟨-, each⟩ := (normalizeSiblings_numbers (keeps recovered)).mp accepted
    obtain ⟨pairs, twins, steady⟩ := twins_of_numberings _ pattern _ _ _ each keptEach
    obtain ⟨symbol, only, sameName, sameKind, sameLocation⟩ :=
      twins.found (steady.mpr quiet.steady) alone
    rw [sameLocation] at drawn
    have rendered := symbolData_eq_ok.mpr ⟨range, drawn, rfl⟩
    have listed := List.mem_filter.mp (only ▸ List.mem_singleton_self symbol)
    have small := quiet.fits full accepted symbol listed.1 listed.2 _ rendered
    refine ⟨⟨response.relativePath, library.sha256 response.snapshot.rawBytes, _⟩,
      (readLookup_eq_some library maxAnswerChars _ shaped done valid parsed).mpr
        ⟨full, symbol, accepted, quiet.positive, only, rendered, small, rfl, rfl⟩, ?_⟩
    rw [name, kind, sameName, sameKind, start, stop]
    exact ⟨rfl, rfl, rfl, rfl⟩
  · rintro apart ⟨found, read, foundName, foundKind, foundStart, foundStop⟩
    obtain ⟨full, symbol, accepted, positive, only, rendered, small, -⟩ :=
      (readLookup_eq_some library maxAnswerChars found shaped done valid parsed).mp read
    obtain ⟨named, each⟩ := (normalizeSiblings_numbers (keeps recovered)).mp accepted
    obtain ⟨pairs, twins, steady⟩ := twins_of_numberings _ pattern _ _ _ each keptEach
    obtain ⟨_, foundDrawn, data⟩ := symbolData_eq_ok.mp rendered
    have samePlace : place ⟨response.snapshot, response.positionEncoding⟩ symbol =
        place ⟨response.snapshot, response.positionEncoding⟩ twin := by
      rw [data] at foundName foundKind foundStart foundStop
      unfold place
      rw [foundDrawn, drawn, ← name, ← kind, ← foundName, ← foundKind]
      dsimp only [Except.toOption, Option.map_some]
      rw [← start, ← stop, ← foundStart, ← foundStop]
    have distinct := apart _ (by rw [readDocument_eq shaped done valid, accepted]; rfl)
    intro raw' recovered' pattern' shaped' done' parsed'
    cases shaped.symm.trans shaped'
    cases done.symm.trans done'
    cases parsed.symm.trans parsed'
    refine ⟨fun other member _ => ?_, steady.mp (twins.steady distinct only alone samePlace),
      positive, fun full' accepted' below listed matched data' rendered' => ?_⟩
    · exact accepted_of_numbers accepted member
    · cases accepted.symm.trans accepted'
      have hit : below ∈ (full.flatMap NormalizedSymbol.depthFirst).filter fun symbol =>
          pattern.admits false symbol.namePath := List.mem_filter.mpr ⟨listed, matched⟩
      rw [only] at hit
      cases List.mem_singleton.mp hit
      cases rendered.symm.trans rendered'
      exact small

end Theorem

/-! ### A loop variable and two assignments -/

/-- The range of an identifier on one line. -/
def identifierRange (line start stop : Int) : Json :=
  .object [("start", lspDict ⟨line, start⟩), ("end", lspDict ⟨line, stop⟩)]

/-- A variable that the server reports with the range of its identifier. -/
def variableSymbol (name : String) (line start stop : Int) : Json :=
  .object [("name", .str name), ("kind", .int 13), ("range", identifierRange line start stop),
    ("selectionRange", identifierRange line start stop)]

/-- A Python document with the variables the server reports for it. -/
def pythonDocument (text : String) (symbols : List Json) : DocumentResponse where
  relativePath := "module.py"
  uri := "file:///workspace/module.py"
  snapshot := ⟨encode text.toList, text.toList, [], rfl⟩
  positionEncoding := .utf16
  family := .python
  symbols := .list symbols
  selectionRanges := none

def moduleEdit : AuthorizedEdit where
  relativePath := "module.py"
  uri := "file:///workspace/module.py"
  entryName := "module.py"
  normalized := by decide +kernel

/-- The library with no file paths and empty digests; the lookups compare neither. -/
def plainLibrary : Library := ⟨fun _ => .ok none, fun _ => "", fun _ => ""⟩

/-- A loop variable, which has no assignment to recover, and one assignment. -/
def loopAndAssignment : DocumentResponse :=
  pythonDocument "for y in ():\n    pass\nx = 1\n"
    [variableSymbol "y" 0 4 5, variableSymbol "x" 2 0 1]

/-- What the parser finds in that document: its assignment. -/
def oneAssignment : Text → Except ParseFault (List AssignmentStatement) :=
  fun _ => .ok [⟨22, 27, [("x", 22, 23)]⟩]

/-- The loop variable does not disturb the lookup of the assignment: both paths find it. -/
theorem edit_lookup_agrees_loop :
    ∃ resolved,
      editLookup plainLibrary oneAssignment loopAndAssignment (.text "x") moduleEdit =
        some resolved ∧
      Agrees plainLibrary oneAssignment loopAndAssignment (.text "x") 12000 resolved ∧
      LookupUndisturbed plainLibrary oneAssignment loopAndAssignment (.text "x") 12000 := by
  have looked : (editLookup plainLibrary oneAssignment loopAndAssignment (.text "x")
      moduleEdit).any (fun resolved => (readLookup plainLibrary oneAssignment loopAndAssignment
        (.text "x") 12000).any fun found => decide (
          found.symbol.name = resolved.identity.name ∧ found.symbol.kind = resolved.identity.kind ∧
          found.symbol.range.start.byteOffset = resolved.startByte ∧
          found.symbol.range.stop.byteOffset = resolved.endByte)) = true := by decide +kernel
  have apart : (readDocument plainLibrary oneAssignment loopAndAssignment).all
      (fun document => decide (document.listing.map (place document.mapper)).Nodup) = true := by
    decide +kernel
  have told : ToldApart plainLibrary oneAssignment loopAndAssignment := by
    intro document read
    rw [read] at apart
    exact of_decide_eq_true apart
  cases edited : editLookup plainLibrary oneAssignment loopAndAssignment (.text "x") moduleEdit with
  | none =>
    rw [edited] at looked
    cases looked
  | some resolved =>
    cases read : readLookup plainLibrary oneAssignment loopAndAssignment (.text "x") 12000 with
    | none =>
      rw [edited, read] at looked
      cases looked
    | some found =>
      rw [edited, read] at looked
      have agrees : Agrees plainLibrary oneAssignment loopAndAssignment (.text "x") 12000 resolved :=
        ⟨found, read, of_decide_eq_true looked⟩
      exact ⟨resolved, rfl, agrees,
        (edit_lookup_agrees _ _ _ _ 12000 _ resolved edited).2 told agrees⟩

/-- A loop variable and two assignments of one name. -/
def loopAndAssignments : DocumentResponse :=
  pythonDocument "for x in ():\n    pass\nx = 1\nx = 2\n"
    [variableSymbol "x" 0 4 5, variableSymbol "x" 2 0 1, variableSymbol "x" 3 0 1]

/-- What the parser finds in that document: its two assignments. -/
def twoAssignments : Text → Except ParseFault (List AssignmentStatement) :=
  fun _ => .ok [⟨22, 27, [("x", 22, 23)]⟩, ⟨28, 33, [("x", 28, 29)]⟩]

/-- **The name path `x[0]`** is the first assignment for an edit and the loop variable for a read: the
edit path counts the assignments only. -/
theorem edit_lookup_disagrees :
    ∃ resolved found,
      editLookup plainLibrary twoAssignments loopAndAssignments (.text "x[0]") moduleEdit =
        some resolved ∧
      readLookup plainLibrary twoAssignments loopAndAssignments (.text "x[0]") 2147483647 =
        some found ∧
      (resolved.startByte, resolved.endByte) = (22, 27) ∧
      (found.symbol.range.start.byteOffset, found.symbol.range.stop.byteOffset) = (4, 5) ∧
      ¬Agrees plainLibrary twoAssignments loopAndAssignments (.text "x[0]") 2147483647 resolved := by
  have edits : (editLookup plainLibrary twoAssignments loopAndAssignments (.text "x[0]")
      moduleEdit).map (fun resolved => (resolved.startByte, resolved.endByte)) =
      some (22, 27) := by decide +kernel
  have reads : (readLookup plainLibrary twoAssignments loopAndAssignments (.text "x[0]")
      2147483647).map (fun found => (found.symbol.range.start.byteOffset,
        found.symbol.range.stop.byteOffset)) = some (4, 5) := by decide +kernel
  obtain ⟨resolved, edited, bytes⟩ := Option.map_eq_some_iff.mp edits
  obtain ⟨found, read, range⟩ := Option.map_eq_some_iff.mp reads
  refine ⟨resolved, found, edited, read, bytes, range, ?_⟩
  rintro ⟨other, again, -, -, start, -⟩
  cases read.symm.trans again
  have clash : (4 : Nat) = 22 :=
    (congrArg Prod.fst range).symm.trans (start.trans (congrArg Prod.fst bytes))
  exact absurd clash (by decide)

end SerenaLight.Workspace
