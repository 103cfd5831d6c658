/-
**Name paths lead back to their symbols.**

A symbol is shown under its name path, and `find_symbol` with a slash in front of that text is to
find this symbol again. Names are what the server reports: they may hold slashes, and they may look
like a numbered name.

* `Clean`: names of siblings that are told apart by their segments and hold no slash.
* `segments_nodup_iff`: two siblings share a segment exactly if one is named like the number of
  others.
* `name_paths_lead_back_iff`: the name paths are distinct and lead back to their symbols exactly if
  the names of all siblings are clean.
-/

import Mathlib.Data.List.Nodup
import SerenaLight.Tools.Resolvers

namespace SerenaLight.Lsp

open Foundation Fallible

/-! ### Numbers -/

/-- A name with its number. -/
def numbered (name : String) (index : Nat) : String := name ++ "[" ++ toString index ++ "]"

theorem toList_numbered (name : String) (index : Nat) :
    (numbered name index).toList = name.toList ++ '[' :: (Nat.toDigits 10 index ++ [']']) := by
  simp [numbered]

theorem numbered_inj {name other : String} {index number : Nat}
    (same : numbered name index = numbered other number) : name = other ∧ index = number := by
  have lists := congrArg (fun text => (String.toList text).reverse) same
  simp only [toList_numbered, List.reverse_append, List.reverse_cons, List.append_assoc,
    List.reverse_nil, List.nil_append, List.cons_append] at lists
  replace lists := (List.cons.inj lists).2
  have plain : ∀ number : Nat, ∀ char ∈ (Nat.toDigits 10 number).reverse, (char != '[') = true := by
    intro number char member
    have digit := Nat.isDigit_of_mem_toDigits (by decide) (by decide) (List.mem_reverse.mp member)
    rw [bne_iff_ne]
    rintro rfl
    exact absurd digit (by decide)
  have digits := congrArg (List.takeWhile (· != '[')) lists
  rw [List.takeWhile_append_of_pos (plain index), List.takeWhile_append_of_pos (plain number)]
    at digits
  simp only [List.takeWhile_cons, bne_self_eq_false, Bool.false_eq_true, if_false,
    List.append_nil, List.reverse_inj] at digits
  rw [digits, List.append_cancel_left_eq] at lists
  refine ⟨String.toList_inj.mp (List.reverse_inj.mp (List.cons.inj lists).2), ?_⟩
  have values := congrArg (Nat.ofDigitChars 10 · 0) digits
  simpa using values

/-- A name that occurs once is the number of another one that occurs several times. -/
def Collides (names : List String) : Prop :=
  ∃ name index, index < names.count name ∧ 1 < names.count name ∧
    names.count (numbered name index) = 1

/-- Names of siblings that have distinct segments without a slash. -/
def Clean (names : List String) : Prop :=
  ¬Collides names ∧ ∀ name ∈ names, '/' ∉ name.toList

theorem number_getElem? (all seen rest : List String) (i : Nat) :
    (number all seen rest)[i]? =
      rest[i]?.map fun name => segment all ((rest.take i).reverse ++ seen) name := by
  induction rest generalizing seen i with
  | nil => simp [number]
  | cons name rest ih =>
    cases i with
    | zero => simp [number]
    | succ i => simp [number, ih]

theorem length_number (all seen rest : List String) :
    (number all seen rest).length = rest.length := by
  induction rest generalizing seen with
  | nil => rfl
  | cons name rest ih => simp [number, ih]

theorem segments_getElem? (names : List String) (i : Nat) :
    (segments names)[i]? = names[i]?.map fun name =>
      if 1 < names.count name then numbered name ((names.take i).count name) else name := by
  unfold segments
  rw [number_getElem?]
  simp [segment, numbered]

variable {names : List String}

theorem count_take_lt {i : Nat} {name : String} (found : names[i]? = some name) {j : Nat}
    (later : i < j) : (names.take i).count name < (names.take j).count name := by
  induction names generalizing i j with
  | nil => simp at found
  | cons head rest ih =>
    cases j with
    | zero => omega
    | succ j =>
      cases i with
      | zero =>
        obtain rfl : head = name := by simpa using found
        simp
      | succ i =>
        have := ih (by simpa using found) (Nat.lt_of_succ_lt_succ later)
        simp only [List.take_succ_cons, List.count_cons]
        omega

theorem exists_count_take {names : List String} {name : String} {index : Nat}
    (below : index < names.count name) :
    ∃ i, names[i]? = some name ∧ (names.take i).count name = index := by
  induction names generalizing index with
  | nil => simp at below
  | cons head rest ih =>
    by_cases here : head = name
    · subst here
      cases index with
      | zero => exact ⟨0, by simp, by simp⟩
      | succ index =>
        obtain ⟨i, found, count⟩ := @ih index (by simpa using below)
        exact ⟨i + 1, by simpa using found, by simp [count]⟩
    · obtain ⟨i, found, count⟩ := @ih index (by simpa [List.count_cons_of_ne here] using below)
      exact ⟨i + 1, by simpa using found, by simp [List.count_cons_of_ne here, count]⟩

/-- **Two siblings share a segment** exactly if one of them is named like the number of others. -/
theorem segments_nodup_iff (names : List String) : (segments names).Nodup ↔ ¬Collides names := by
  rw [List.nodup_iff_getElem?_ne_getElem?]
  constructor
  · rintro distinct ⟨name, index, below, several, once⟩
    obtain ⟨i, found, count⟩ := exists_count_take below
    obtain ⟨j, twin, -⟩ := @exists_count_take names (numbered name index) 0 (by omega)
    have same : (segments names)[i]? = (segments names)[j]? := by
      rw [segments_getElem?, segments_getElem?, found, twin]
      simp [several, count, once]
    have bound : ∀ {at_ : Nat} {text : String}, names[at_]? = some text →
        at_ < (segments names).length := by
      intro at_ text here
      rw [segments, length_number]
      exact (List.getElem?_eq_some_iff.mp here).1
    obtain earlier | rfl | later := Nat.lt_trichotomy i j
    · exact distinct i j earlier (bound twin) same
    · have longer := congrArg (fun text => text.toList.length) (Option.mem_unique found twin)
      simp [toList_numbered] at longer
    · exact distinct j i later (bound found) same.symm
  · intro apart i j order bound same
    rw [segments, length_number] at bound
    have there := List.getElem?_eq_getElem bound
    have here := List.getElem?_eq_getElem (Nat.lt_trans order bound)
    rw [segments_getElem?, segments_getElem?, here, there] at same
    generalize names[i] = name at here same
    generalize names[j] = other at there same
    have counted := count_take_lt here order
    have total : ∀ {at_ : Nat} {text : String}, names[at_]? = some text →
        (names.take at_).count text < names.count text := by
      intro at_ text found
      have := count_take_lt found (List.getElem?_eq_some_iff.mp found).1
      rwa [List.take_length] at this
    simp only [Option.map_some, Option.some.injEq] at same
    have most : (names.take j).count name ≤ names.count name :=
      (List.take_sublist j names).count_le _
    split at same <;> split at same
    · obtain ⟨rfl, index⟩ := numbered_inj same
      omega
    · next several once =>
      refine apart ⟨name, _, total here, several, ?_⟩
      rw [same]
      have := total there
      omega
    · next once several =>
      refine apart ⟨other, _, total there, several, ?_⟩
      rw [← same]
      have := total here
      omega
    · subst same
      have := total there
      omega

theorem slash_mem_segment (all seen : List String) (name : String) :
    '/' ∈ (segment all seen name).toList ↔ '/' ∈ name.toList := by
  have digits : '/' ∉ Nat.toDigits 10 (seen.count name) := fun member => by
    have := Nat.isDigit_of_mem_toDigits (by decide) (by decide) member
    exact absurd this (by decide)
  unfold segment
  split
  · show _ ∈ (numbered name _).toList ↔ _
    simp [toList_numbered, digits]
  · rfl

/-- Clean names have distinct segments without a slash. -/
theorem clean_iff (names : List String) :
    Clean names ↔ (segments names).Nodup ∧ ∀ segment ∈ segments names, '/' ∉ segment.toList := by
  rw [segments_nodup_iff]
  refine and_congr_right fun _ => ?_
  have numbers : ∀ all seen rest : List String, (∀ name ∈ rest, '/' ∉ name.toList) ↔
      ∀ segment ∈ number all seen rest, '/' ∉ segment.toList := by
    intro all seen rest
    induction rest generalizing seen with
    | nil => simp [number]
    | cons name rest ih =>
      simp [number, slash_mem_segment, ih (name :: seen)]
  exact numbers names [] names

theorem names_filled {self : Normalizer} {raws : List RawSymbol}
    (named : raws.mapM self.nameOf = .ok names) : "" ∉ names := by
  intro empty
  obtain ⟨raw, _, found⟩ := exists_of_forall₂ (mapM_eq_ok.mp named).flip empty
  unfold Normalizer.nameOf at found
  split at found
  · split at found
    · cases found
    · split at found
      · cases found
      · next filled => exact filled (Except.ok.inj found)
  · cases found

theorem segments_filled (filled : "" ∉ names) : "" ∉ segments names := by
  intro member
  obtain ⟨i, found⟩ := List.mem_iff_getElem?.mp member
  rw [segments_getElem?] at found
  obtain ⟨name, at_, same⟩ := Option.map_eq_some_iff.mp found
  split at same
  · have := congrArg String.toList same
    simp [toList_numbered] at this
  · exact filled (same ▸ List.mem_of_getElem? at_)

/-! ### The name paths of a tree -/

mutual

/-- The names of the children are clean, and so are those below. -/
def RawSymbol.Plain (self : Normalizer) : RawSymbol → Prop
  | ⟨_, _, children⟩ =>
    (∀ names, children.mapM self.nameOf = .ok names → Clean names) ∧ PlainEach self children

def PlainEach (self : Normalizer) : List RawSymbol → Prop
  | [] => True
  | raw :: rest => raw.Plain self ∧ PlainEach self rest

end

/-- **The condition on a response**: the names of all siblings are clean. -/
def PlainSiblings (self : Normalizer) (raws : List RawSymbol) : Prop :=
  (∀ names, raws.mapM self.nameOf = .ok names → Clean names) ∧ PlainEach self raws

/-- Distinct name paths, without a slash below `parent`. -/
def ToldApart (parent : List String) (symbols : List NormalizedSymbol) : Prop :=
  (symbols.map NormalizedSymbol.namePath).Nodup ∧
    ∀ symbol ∈ symbols, ∀ segment ∈ symbol.namePath.drop parent.length, '/' ∉ segment.toList

/-- What the symbols of siblings with these segments are called. -/
structure Called (parent segments : List String) (symbols : List NormalizedSymbol) : Prop where
  below : ∀ symbol ∈ symbols, ∃ segment ∈ segments, ∃ rest,
    symbol.namePath = parent ++ segment :: rest
  own : ∀ segment ∈ segments, ∃ symbol ∈ symbols, symbol.namePath = parent ++ [segment]
  filled : "" ∉ segments → ∀ symbol ∈ symbols, "" ∉ symbol.namePath.drop parent.length

variable {parent segments : List String}

theorem toldApart_append {others : List String} {first second : List NormalizedSymbol}
    (here : Called parent segments first) (there : Called parent others second) :
    ToldApart parent (first ++ second) ↔ ToldApart parent first ∧ ToldApart parent second ∧
      ∀ segment ∈ segments, segment ∉ others := by
  unfold ToldApart
  rw [List.map_append, List.nodup_append, List.forall_mem_append]
  constructor
  · rintro ⟨⟨one, other, apart⟩, slash, slashes⟩
    refine ⟨⟨one, slash⟩, ⟨other, slashes⟩, fun segment member twin => ?_⟩
    obtain ⟨symbol, listed, path⟩ := here.own segment member
    obtain ⟨symbol', listed', path'⟩ := there.own segment twin
    exact apart _ (List.mem_map_of_mem listed) _ (List.mem_map_of_mem listed')
      (path.trans path'.symm)
  · rintro ⟨⟨one, slash⟩, ⟨other, slashes⟩, apart⟩
    refine ⟨⟨one, other, fun path member path' member' same => ?_⟩, slash, slashes⟩
    obtain ⟨symbol, listed, rfl⟩ := List.mem_map.mp member
    obtain ⟨symbol', listed', rfl⟩ := List.mem_map.mp member'
    obtain ⟨segment, known, rest, path⟩ := here.below symbol listed
    obtain ⟨segment', known', rest', path'⟩ := there.below symbol' listed'
    rw [path, path', List.append_cancel_left_eq] at same
    cases same
    exact apart segment known known'

theorem toldApart_cons {segment : String} {symbol : NormalizedSymbol}
    {others : List NormalizedSymbol} (path : symbol.namePath = parent ++ [segment])
    (below : Called symbol.namePath segments others) :
    ToldApart parent (symbol :: others) ↔
      '/' ∉ segment.toList ∧ ToldApart symbol.namePath others := by
  have longer : symbol.namePath ∉ others.map NormalizedSymbol.namePath := by
    intro member
    obtain ⟨other, listed, same⟩ := List.mem_map.mp member
    obtain ⟨next, _, rest, longer⟩ := below.below other listed
    rw [longer] at same
    simp at same
  have dropped : ∀ other ∈ others, other.namePath.drop parent.length =
      segment :: other.namePath.drop symbol.namePath.length := by
    intro other listed
    obtain ⟨next, _, rest, longer⟩ := below.below other listed
    rw [longer, path]
    simp
  unfold ToldApart
  rw [List.map_cons, List.nodup_cons, List.forall_mem_cons]
  simp only [longer, not_false_eq_true, true_and]
  rw [path, List.drop_left, ← path]
  constructor
  · rintro ⟨distinct, plain, slashes⟩
    refine ⟨plain segment List.mem_cons_self, distinct, fun other listed next member => ?_⟩
    exact slashes other listed next (dropped other listed ▸ List.mem_cons_of_mem _ member)
  · rintro ⟨plain, distinct, slashes⟩
    refine ⟨distinct, by simpa using plain, fun other listed next member => ?_⟩
    rw [dropped other listed] at member
    obtain rfl | member := List.mem_cons.mp member
    · exact plain
    · exact slashes other listed next member

mutual

/-- **The name paths of one symbol and those below it.** -/
theorem RawSymbol.normalize_called (self : Normalizer) (parent : List String)
    (name segment : String) :
    ∀ (raw : RawSymbol) (symbol : NormalizedSymbol),
    raw.normalize self parent name segment = .ok symbol →
    Called parent [segment] symbol.depthFirst ∧
      (ToldApart parent symbol.depthFirst ↔ '/' ∉ segment.toList ∧ raw.Plain self)
  | ⟨fields, fault, children⟩, symbol, done => by
    unfold RawSymbol.normalize at done
    obtain ⟨location, located, done⟩ := bind_eq_ok.mp done
    obtain ⟨selection, selected, done⟩ := bind_eq_ok.mp done
    obtain ⟨kind, kindRead, done⟩ := bind_eq_ok.mp done
    obtain ⟨_, shaped, done⟩ := bind_eq_ok.mp done
    obtain ⟨names, named, done⟩ := bind_eq_ok.mp done
    obtain ⟨below, belowDone, done⟩ := bind_eq_ok.mp done
    cases done
    have titles : (names.zip (segments names)).length = children.length := by
      rw [List.length_zip, segments, length_number, Nat.min_self, (mapM_eq_ok.mp named).length_eq]
    have tails : (names.zip (segments names)).map Prod.snd = segments names :=
      List.map_snd_zip (by rw [segments, length_number])
    obtain ⟨called, apart⟩ := normalizeEach_called self
      (parent ++ [segment]) _ children below titles
      belowDone
    rw [tails] at called apart
    rw [NormalizedSymbol.depthFirst]
    refine ⟨⟨?_, ?_, ?_⟩, ?_⟩
    · rintro symbol member
      obtain rfl | member := List.mem_cons.mp member
      · exact ⟨segment, List.mem_singleton_self _, [], rfl⟩
      · obtain ⟨next, _, rest, path⟩ := called.below symbol member
        refine ⟨segment, List.mem_singleton_self _, next :: rest, ?_⟩
        rw [path, List.append_assoc, List.singleton_append]
    · intro segment' member
      rw [List.mem_singleton.mp member]
      exact ⟨_, List.mem_cons_self, rfl⟩
    · intro filled symbol member
      obtain rfl | member := List.mem_cons.mp member
      · simpa using filled
      · obtain ⟨next, _, rest, path⟩ := called.below symbol member
        have tail := called.filled (segments_filled (names_filled named)) symbol member
        rw [path] at tail ⊢
        simpa using ⟨by simpa using filled, by simpa using tail⟩
    · rw [toldApart_cons rfl called, apart]
      refine Iff.trans (and_congr_right fun _ => and_assoc.symm) ?_
      rw [← clean_iff]
      refine and_congr_right fun _ => and_congr_left fun _ =>
        ⟨fun clean other found => ?_, fun clean => clean names named⟩
      cases named.symm.trans found
      exact clean

theorem normalizeEach_called (self : Normalizer) (parent : List String) :
    ∀ (titles : List (String × String)) (raws : List RawSymbol) (symbols : List NormalizedSymbol),
    titles.length = raws.length → normalizeEach self parent titles raws = .ok symbols →
    Called parent (titles.map Prod.snd) (NormalizedSymbol.depthFirstAll symbols) ∧
      (ToldApart parent (NormalizedSymbol.depthFirstAll symbols) ↔
        (titles.map Prod.snd).Nodup ∧ (∀ segment ∈ titles.map Prod.snd, '/' ∉ segment.toList) ∧
        PlainEach self raws)
  | [], [], symbols, _, done => by
    rw [normalizeEach_nil] at done
    cases done
    exact ⟨⟨nofun, nofun, nofun⟩, by simp [ToldApart, NormalizedSymbol.depthFirstAll, PlainEach]⟩
  | [], raw :: rest, symbols, same, done => by simp at same
  | _ :: _, [], symbols, same, done => by simp at same
  | (name, segment) :: titles, raw :: rest, symbols, same, done => by
    rw [normalizeEach] at done
    obtain ⟨symbol, first, done⟩ := bind_eq_ok.mp done
    obtain ⟨others, later, done⟩ := bind_eq_ok.mp done
    cases done
    obtain ⟨called, apart⟩ := RawSymbol.normalize_called self parent name segment raw symbol first
    obtain ⟨calledRest, apartRest⟩ := normalizeEach_called self parent titles rest others
      (Nat.succ.inj same) later
    rw [NormalizedSymbol.depthFirstAll]
    refine ⟨⟨?_, ?_, ?_⟩, ?_⟩
    · intro listed member
      obtain member | member := List.mem_append.mp member
      · obtain ⟨title, known, path⟩ := called.below listed member
        exact ⟨title, List.mem_singleton.mp known ▸ List.mem_cons_self, path⟩
      · obtain ⟨title, known, path⟩ := calledRest.below listed member
        exact ⟨title, List.mem_cons_of_mem _ known, path⟩
    · intro title member
      obtain rfl | member := List.mem_cons.mp member
      · obtain ⟨listed, inside, path⟩ := called.own _ (List.mem_singleton_self _)
        exact ⟨listed, List.mem_append_left _ inside, path⟩
      · obtain ⟨listed, inside, path⟩ := calledRest.own title member
        exact ⟨listed, List.mem_append_right _ inside, path⟩
    · intro filled listed member
      simp only [List.map_cons, List.mem_cons, not_or] at filled
      obtain member | member := List.mem_append.mp member
      · exact called.filled (by simpa using filled.1) listed member
      · exact calledRest.filled filled.2 listed member
    · rw [toldApart_append called calledRest, apart, apartRest]
      simp only [List.map_cons, List.nodup_cons, List.forall_mem_cons, List.mem_singleton,
        forall_eq, PlainEach]
      tauto

end

/-- **The name paths of a document.** -/
theorem normalizeDocumentSymbols_called {self : Normalizer} {raws : Option (List Object)}
    {symbols : List NormalizedSymbol} (done : normalizeDocumentSymbols self raws = .ok symbols) :
    (∀ symbol ∈ NormalizedSymbol.depthFirstAll symbols,
      symbol.namePath ≠ [] ∧ "" ∉ symbol.namePath) ∧
    (ToldApart [] (NormalizedSymbol.depthFirstAll symbols) ↔
      PlainSiblings self ((raws.getD []).map RawSymbol.ofObject)) := by
  obtain ⟨names, named, done⟩ := bind_eq_ok.mp done
  have titles : (names.zip (segments names)).length =
      ((raws.getD []).map RawSymbol.ofObject).length := by
    rw [List.length_zip, segments, length_number, Nat.min_self, (mapM_eq_ok.mp named).length_eq]
  have tails : (names.zip (segments names)).map Prod.snd = segments names :=
    List.map_snd_zip (by rw [segments, length_number])
  obtain ⟨called, apart⟩ := normalizeEach_called self [] _ _ symbols titles done
  rw [tails] at called apart
  refine ⟨fun symbol member =>
    ⟨?_, called.filled (segments_filled (names_filled named)) symbol member⟩,
    ?_⟩
  · obtain ⟨next, _, rest, path⟩ := called.below symbol member
    simp [path]
  · rw [apart, ← and_assoc, ← clean_iff]
    refine and_congr_left fun _ => ⟨fun clean other found => ?_, fun clean => clean names named⟩
    cases named.symm.trans found
    exact clean

end SerenaLight.Lsp

namespace SerenaLight.Tools

open Foundation Fallible Lsp

variable {document : DocumentNavigation}

theorem notMem_of_mem_splitOn {text part : List Char} {char : Char}
    (member : part ∈ text.splitOn char) :
    char ∉ part := by
  induction text generalizing part with
  | nil =>
    simp only [List.splitOn_nil, List.mem_singleton] at member
    simp [member]
  | cons head rest ih =>
    rw [List.splitOn_cons_eq_if_modifyHead] at member
    split at member
    · obtain rfl | member := List.mem_cons.mp member
      · simp
      · exact ih member
    · next differs =>
      obtain ⟨first, others, split⟩ := List.exists_cons_of_ne_nil (List.splitOn_ne_nil char rest)
      rw [split, List.modifyHead_cons] at member
      obtain rfl | member := List.mem_cons.mp member
      · simp only [List.mem_cons, not_or]
        exact ⟨fun same => differs (by simp [same]), ih (split ▸ List.mem_cons_self)⟩
      · exact ih (split ▸ List.mem_cons_of_mem _ member)

/-- The components of a name path hold no slash. -/
theorem slash_notMem_components {namePath component : String}
    (member : component ∈ nameComponents namePath) : '/' ∉ component.toList := by
  obtain ⟨part, inside, rfl⟩ := List.mem_map.mp member
  rw [String.toList_ofList]
  exact notMem_of_mem_splitOn inside

/-- A text that begins and ends with something else keeps its slashes. -/
theorem stripped_intercalate {parts : List (List Char)} (some_ : parts ≠ [])
    (each : ∀ part ∈ parts, part ≠ [] ∧ '/' ∉ part) :
    (['/'].intercalate parts).head? ≠ some '/' ∧ (['/'].intercalate parts).getLast? ≠ some '/' ∧
      ['/'].intercalate parts ≠ [] := by
  induction parts with
  | nil => exact absurd rfl some_
  | cons part rest ih =>
    obtain ⟨⟨filled, plain⟩, each⟩ := List.forall_mem_cons.mp each
    have front : part.head? ≠ some '/' := fun head => plain (List.mem_of_head? head)
    have back : part.getLast? ≠ some '/' := fun last => plain (List.mem_of_getLast? last)
    cases rest with
    | nil => simpa [List.intercalate] using ⟨front, back, filled⟩
    | cons next others =>
      obtain ⟨_, last, more⟩ := ih nofun each
      have split : ['/'].intercalate (part :: next :: others) =
          part ++ '/' :: ['/'].intercalate (next :: others) := by simp [List.intercalate]
      rw [split]
      refine ⟨?_, ?_, by simp⟩
      · rwa [List.head?_append_of_ne_nil _ filled]
      · rwa [List.getLast?_append_of_ne_nil _ (by simp), List.getLast?_cons_of_ne_nil more]

/-- A shown name path without other slashes is read back. -/
theorem nameComponents_text {path : List String} (filled : path ≠ [] ∧ "" ∉ path)
    (plain : ∀ segment ∈ path, '/' ∉ segment.toList) :
    nameComponents ("/" ++ "/".intercalate path) = path := by
  have each : ∀ part ∈ path.map String.toList, part ≠ [] ∧ '/' ∉ part := by
    intro part member
    obtain ⟨segment, inside, rfl⟩ := List.mem_map.mp member
    exact ⟨fun empty => filled.2 (String.toList_eq_nil_iff.mp empty ▸ inside), plain segment inside⟩
  have some_ : path.map String.toList ≠ [] := by simpa using filled.1
  obtain ⟨front, back, more⟩ := stripped_intercalate some_ each
  have text : ("/" ++ "/".intercalate path).toList =
      '/' :: ['/'].intercalate (path.map String.toList) := by
    simp [String.toList_intercalate]
  unfold nameComponents
  rw [text]
  generalize whole : ['/'].intercalate (path.map String.toList) = chars at front back more
  have dropFront : ('/' :: chars).dropWhile (· == '/') = chars := by
    cases chars with
    | nil => exact absurd rfl more
    | cons head rest =>
      have front : head ≠ '/' := by simpa using front
      simp [front]
  have dropBack : chars.reverse.dropWhile (· == '/') = chars.reverse := by
    rw [← List.head?_reverse] at back
    cases turned : chars.reverse with
    | nil => rfl
    | cons head rest =>
      have back : head ≠ '/' := by simpa [turned] using back
      simp [back]
  simp only [dropFront, dropBack, List.reverse_reverse]
  rw [← whole, List.splitOn_intercalate '/' (fun part member => (each part member).2) some_]
  simp

/-- A whole name path matches literally exactly if it is the path. -/
theorem endsWith_absolute (components path : List String) :
    endsWith (· == ·) true components path = true ↔ path = components := by
  rw [endsWith_beq]
  constructor
  · intro matched
    simp only [Bool.and_eq_true, decide_eq_true_eq, Bool.not_true, Bool.false_or, beq_iff_eq]
      at matched
    rw [← matched.2, matched.1.2, Nat.sub_self, List.drop_zero]
  · rintro rfl
    simp

theorem isAbsolute_text (text : String) : isAbsolute ("/" ++ text) = true := by
  simp [isAbsolute]

variable {symbol : NormalizedSymbol}

/-- The one symbol with its name path. -/
theorem filter_eq_singleton {symbols : List NormalizedSymbol}
    (distinct : (symbols.map NormalizedSymbol.namePath).Nodup) (member : symbol ∈ symbols) :
    symbols.filter (fun other => other.namePath == symbol.namePath) = [symbol] := by
  induction symbols with
  | nil => cases member
  | cons first rest ih =>
    rw [List.map_cons, List.nodup_cons] at distinct
    obtain rfl | later := List.mem_cons.mp member
    · have none_ : rest.filter (fun other => other.namePath == symbol.namePath) = [] := by
        refine List.filter_eq_nil_iff.mpr fun other inside same => distinct.1 ?_
        rw [← beq_iff_eq.mp same]
        exact List.mem_map_of_mem inside
      simp [none_]
    · have differs : first.namePath ≠ symbol.namePath := fun same =>
        distinct.1 (same ▸ List.mem_map_of_mem later)
      simpa [List.filter_cons, differs] using ih distinct.2 later

/-- `find_symbol` with a slash and the name path of each symbol finds this symbol. -/
def LeadsBack (document : DocumentNavigation) : Prop :=
  ∀ symbol ∈ document.listing, ∃ pattern,
    NamePathPattern.parse (.text ("/" ++ namePathText symbol)) = some pattern ∧
      findVerdict document pattern false = .selected symbol

/-- A name path that leads back holds no slash in its segments. -/
theorem plain_of_leadsBack (leads : LeadsBack document) (member : symbol ∈ document.listing) :
    ∀ segment ∈ symbol.namePath, '/' ∉ segment.toList := by
  obtain ⟨pattern, parsed, found⟩ := leads symbol member
  rw [findVerdict_eq parsed] at found
  have matched : symbol ∈ exactMatches document ("/" ++ namePathText symbol) := by
    match matches_ : exactMatches document ("/" ++ namePathText symbol) with
    | [] => rw [matches_] at found; cases found
    | [other] => rw [matches_] at found; cases found; exact List.mem_singleton_self _
    | _ :: _ :: _ => rw [matches_] at found; cases found
  have path := (List.mem_filter.mp matched).2
  rw [isAbsolute_text, endsWith_absolute] at path
  intro segment inside
  rw [path] at inside
  exact slash_notMem_components inside

/-- **When name paths lead back.** The name paths of the symbols that `normalize_document_symbols`
accepts are distinct, and `find_symbol` leads from each of them back to its symbol, exactly if the
names of all siblings are clean. -/
theorem name_paths_lead_back_iff (self : Normalizer) (raws : Option (List Object))
    (document : DocumentNavigation)
    (done : normalizeDocumentSymbols self raws = .ok document.symbols) :
    (document.listing.map NormalizedSymbol.namePath).Nodup ∧ LeadsBack document ↔
      PlainSiblings self ((raws.getD []).map RawSymbol.ofObject) := by
  obtain ⟨filled, apart⟩ := normalizeDocumentSymbols_called done
  rw [NormalizedSymbol.depthFirstAll_eq] at filled apart
  rw [← apart]
  refine and_congr_right fun distinct =>
    ⟨fun leads symbol member => ?_, fun plain symbol member => ?_⟩
  · exact plain_of_leadsBack leads member
  · have path := filled symbol member
    have slashes : ∀ segment ∈ symbol.namePath, '/' ∉ segment.toList := plain symbol member
    have components : nameComponents ("/" ++ namePathText symbol) = symbol.namePath :=
      nameComponents_text path slashes
    have parsed : NamePathPattern.parse (.text ("/" ++ namePathText symbol)) =
        some ⟨symbol.namePath, true, path⟩ := by
      show NamePathPattern.make (nameComponents ("/" ++ namePathText symbol)) (isAbsolute _) = _
      rw [components, isAbsolute_text]
      exact dif_pos path
    refine ⟨_, parsed, ?_⟩
    have only : exactMatches document ("/" ++ namePathText symbol) = [symbol] := by
      rw [← filter_eq_singleton distinct member]
      refine List.filter_congr fun other _ => ?_
      rw [isAbsolute_text, components, Bool.eq_iff_iff, endsWith_absolute, beq_iff_eq]
    rw [findVerdict_eq parsed, only]
    rfl

/-! ### Names that look like numbers, and names with slashes -/

/-- The documents of a response. -/
def responseOf (objects : List Object) : Except NormalizationError DocumentNavigation :=
  DocumentNavigation.fromInput bareLibrary (namedInput objects)

theorem normalized_of_responseOf {objects : List Object} {document : DocumentNavigation}
    (built : responseOf objects = .ok document) :
    normalizeDocumentSymbols (bareLibrary.normalizer "file:///module.py" fun _ => none)
      (some objects) = .ok document.symbols := by
  obtain ⟨symbols, done, same⟩ := bind_eq_ok.mp built
  cases same
  exact done

/-- A function below a class of the same name: the names are clean, and both name paths lead back. -/
theorem name_paths_lead_back_iff_nested : ∃ document,
    responseOf [symbolObject "run" [.object (symbolObject "run" [])]] = .ok document ∧
    PlainSiblings (bareLibrary.normalizer "file:///module.py" fun _ => none)
      [RawSymbol.ofObject (symbolObject "run" [.object (symbolObject "run" [])])] ∧
    (document.listing.map NormalizedSymbol.namePath).Nodup ∧ LeadsBack document := by
  have made : (match responseOf [symbolObject "run" [.object (symbolObject "run" [])]] with
    | .ok document => decide ((document.listing.map NormalizedSymbol.namePath).Nodup ∧
        ∀ symbol ∈ document.listing, ∀ segment ∈ symbol.namePath, '/' ∉ segment.toList)
    | .error _ => false) = true := by decide +kernel
  split at made
  · next document built =>
    have normalized := normalized_of_responseOf built
    obtain ⟨-, apart⟩ := normalizeDocumentSymbols_called normalized
    rw [NormalizedSymbol.depthFirstAll_eq] at apart
    have told : (document.listing.map NormalizedSymbol.namePath).Nodup ∧
        ∀ symbol ∈ document.listing, ∀ segment ∈ symbol.namePath, '/' ∉ segment.toList :=
      of_decide_eq_true made
    have plain := apart.mp told
    exact ⟨document, built, plain,
      (name_paths_lead_back_iff _ (some _) document normalized).mpr plain⟩
  · cases made

/-- **Names that look like numbers, and names with slashes.** Two functions of one name and one that
is named like the first of them share a name path; a module that is named by its path is not found
under its own name path. -/
theorem name_path_shared : ∃ document symbol pattern,
    responseOf [symbolObject "f" [], symbolObject "f" [], symbolObject "f[0]" [],
      symbolObject "a/b" []] = .ok document ∧
    ¬(document.listing.map NormalizedSymbol.namePath).Nodup ∧ symbol ∈ document.listing ∧
    NamePathPattern.parse (.text ("/" ++ namePathText symbol)) = some pattern ∧
    findVerdict document pattern false = .notFound := by
  have made : (match responseOf [symbolObject "f" [], symbolObject "f" [], symbolObject "f[0]" [],
      symbolObject "a/b" []] with
    | .ok document => decide (¬(document.listing.map NormalizedSymbol.namePath).Nodup) &&
        document.listing.any fun symbol =>
          (NamePathPattern.parse (.text ("/" ++ namePathText symbol))).isSome &&
            (exactMatches document ("/" ++ namePathText symbol)).isEmpty
    | .error _ => false) = true := by decide +kernel
  split at made
  · next document built =>
    rw [Bool.and_eq_true, decide_eq_true_eq, List.any_eq_true] at made
    obtain ⟨shared, symbol, member, lost⟩ := made
    rw [Bool.and_eq_true, List.isEmpty_iff] at lost
    obtain ⟨pattern, parsed⟩ := Option.isSome_iff_exists.mp lost.1
    refine ⟨document, symbol, pattern, built, shared, member, parsed, ?_⟩
    rw [findVerdict_eq parsed, lost.2]
    rfl
  · cases made

end SerenaLight.Tools
