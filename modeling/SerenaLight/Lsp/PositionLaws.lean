/-
**The laws of positions.**

A line of the table is its start and the end of its content; line breaks lie between the lines.

* `lines_sorted`, `lines_cover`: the lines are apart and in order, and they cover every offset but
  the ones inside a CR-LF pair.
* `Placed`: a position is so many code units into the content of a line.
* `lspToTextOffset_eq_ok`, `textOffsetToLsp_eq_ok`: both conversions accept exactly what is placed.
* `positions_correspond`: **the conversions are inverse bijections that keep the order, and everything
  else is refused.**
-/

import Mathlib.Data.List.TakeWhile
import SerenaLight.Lsp.Normalize

set_option linter.unusedSectionVars false

namespace SerenaLight.Lsp

open Foundation

/-! ### The table of lines -/

/-- The lines of a text that goes on at `index`, in a line that starts at `start`. -/
def linesFrom (start index : Nat) : Text → List (Nat × Nat)
  | [] => [(start, index)]
  | '\r' :: '\n' :: rest => (start, index) :: linesFrom (index + 2) (index + 2) rest
  | '\n' :: rest => (start, index) :: linesFrom (index + 1) (index + 1) rest
  | '\r' :: rest => (start, index) :: linesFrom (index + 1) (index + 1) rest
  | _ :: rest => linesFrom start (index + 1) rest

theorem zip_lineBreaks (start index : Nat) (text : Text) :
    (start :: (lineBreaks index text).map LineBreak.lineEnd).zip
        ((lineBreaks index text).map LineBreak.contentEnd ++ [index + text.length]) =
      linesFrom start index text := by
  induction start, index, text using linesFrom.induct with
  | case1 start index => rfl
  | case2 start index rest ih =>
    rw [lineBreaks, linesFrom, ← ih, List.length_cons, List.length_cons,
      show index + (rest.length + 1 + 1) = index + 2 + rest.length by omega]
    rfl
  | case3 start index rest ih =>
    rw [lineBreaks, linesFrom, ← ih, List.length_cons,
      show index + (rest.length + 1) = index + 1 + rest.length by omega]
    rfl
  | case4 start index rest alone ih =>
    rw [lineBreaks.eq_4 _ _ alone, linesFrom.eq_4 _ _ _ alone, ← ih, List.length_cons,
      show index + (rest.length + 1) = index + 1 + rest.length by omega]
    rfl
  | case5 start index character rest pair feed return_ ih =>
    rw [lineBreaks.eq_5 _ _ _ pair feed return_, linesFrom.eq_5 _ _ _ _ pair feed return_, ← ih,
      List.length_cons, show index + (rest.length + 1) = index + 1 + rest.length by omega]

theorem FileSnapshot.lines_eq (snapshot : FileSnapshot) :
    snapshot.lines = linesFrom 0 0 snapshot.text := by
  rw [← zip_lineBreaks, Nat.zero_add]
  rfl

/-- The lines lie in the rest of the text, apart and in order. -/
theorem linesFrom_sorted (start index : Nat) (text : Text) (reached : start ≤ index) :
    (linesFrom start index text).Pairwise (fun line later => line.2 < later.1) ∧
      ∀ line ∈ linesFrom start index text,
        start ≤ line.1 ∧ line.1 ≤ line.2 ∧ line.2 ≤ index + text.length := by
  induction start, index, text using linesFrom.induct <;>
    grind [linesFrom, List.pairwise_cons]

/-- The offset lies between the two characters of a CR-LF pair. -/
def InsidePair (text : Text) (offset : Nat) : Prop :=
  0 < offset ∧ text[offset - 1]? = some '\r' ∧ text[offset]? = some '\n'

theorem insidePair_cons {character : Char} {rest : Text} {gap : Nat} (positive : 0 < gap) :
    InsidePair (character :: rest) (gap + 1) ↔ InsidePair rest gap := by
  obtain ⟨less, rfl⟩ := Nat.exists_eq_succ_of_ne_zero positive.ne'
  simp [InsidePair]

/-- A line that is under way goes on at least to where it has been read. -/
theorem linesFrom_head (start index : Nat) (text : Text) :
    ∃ stop later, linesFrom start index text = (start, stop) :: later ∧ index ≤ stop := by
  induction start, index, text using linesFrom.induct with
  | case1 start index => exact ⟨index, [], rfl, le_rfl⟩
  | case2 start index rest _ => exact ⟨index, _, by rw [linesFrom], le_rfl⟩
  | case3 start index rest _ => exact ⟨index, _, by rw [linesFrom], le_rfl⟩
  | case4 start index rest alone _ => exact ⟨index, _, linesFrom.eq_4 _ _ _ alone, le_rfl⟩
  | case5 start index character rest pair feed return_ ih =>
    obtain ⟨stop, later, first, past⟩ := ih
    exact ⟨stop, later, by rw [linesFrom.eq_5 _ _ _ _ pair feed return_, first], by omega⟩

/-- The step of `linesFrom_cover` over a line break of so many characters. -/
theorem cover_break {start index width : Nat} {text rest : Text} (reached : start ≤ index)
    (later : ∀ gap ≤ rest.length,
      (∃ line ∈ linesFrom (index + width) (index + width) rest,
        line.1 ≤ index + width + gap ∧ index + width + gap ≤ line.2) ↔ ¬InsidePair rest gap)
    (first : linesFrom start index text =
      (start, index) :: linesFrom (index + width) (index + width) rest)
    (inside : ∀ gap, 0 < gap → gap < width → InsidePair text gap)
    (beyond : ∀ gap, InsidePair text (width + gap) ↔ InsidePair rest gap) (gap : Nat)
    (inText : gap ≤ width + rest.length) :
    (∃ line ∈ linesFrom start index text, line.1 ≤ index + gap ∧ index + gap ≤ line.2) ↔
      ¬InsidePair text gap := by
  have sorted := linesFrom_sorted (index + width) (index + width) rest le_rfl
  rw [first]
  obtain rfl | positive := Nat.eq_zero_or_pos gap
  · exact iff_of_true ⟨_, List.mem_cons_self, reached, le_rfl⟩ fun pair => absurd pair.1 (lt_irrefl 0)
  · obtain short | ⟨more, rfl⟩ := (lt_or_ge gap width).imp_right Nat.exists_eq_add_of_le
    · refine iff_of_false ?_ fun outside => outside (inside gap positive short)
      rintro ⟨line, member, low, high⟩
      obtain rfl | member := List.mem_cons.mp member
      · simp only at high
        omega
      · have := (sorted.2 line member).1
        omega
    · rw [beyond, ← later more (by omega), ← Nat.add_assoc]
      refine ⟨fun ⟨line, member, low, high⟩ => ?_, fun ⟨line, member, placed⟩ =>
        ⟨line, List.mem_cons_of_mem _ member, placed⟩⟩
      obtain rfl | member := List.mem_cons.mp member
      · simp only at high
        omega
      · exact ⟨line, member, low, high⟩

/-- The lines cover every offset but those inside a pair. -/
theorem linesFrom_cover (start index : Nat) (text : Text) (reached : start ≤ index) (gap : Nat)
    (inText : gap ≤ text.length) :
    (∃ line ∈ linesFrom start index text, line.1 ≤ index + gap ∧ index + gap ≤ line.2) ↔
      ¬InsidePair text gap := by
  induction start, index, text using linesFrom.induct generalizing gap with
  | case1 start index =>
    obtain rfl : gap = 0 := by simpa using inText
    simp [linesFrom, InsidePair, reached]
  | case2 start index rest ih =>
    refine cover_break reached (ih le_rfl) (by rw [linesFrom]) ?_ ?_ gap
      (by simp only [List.length_cons] at inText; omega)
    · intro gap positive short
      obtain rfl : gap = 1 := by omega
      simp [InsidePair]
    · intro gap
      cases gap <;> simp [InsidePair, Nat.add_comm]
  | case3 start index rest ih =>
    refine cover_break reached (ih le_rfl) (by rw [linesFrom]) (by omega) ?_ gap
      (by simp only [List.length_cons] at inText; omega)
    intro gap
    cases gap with
    | zero => simp [InsidePair]
    | succ gap => rw [Nat.add_comm, insidePair_cons (Nat.succ_pos gap)]
  | case4 start index rest alone ih =>
    refine cover_break reached (ih le_rfl) (linesFrom.eq_4 _ _ _ alone) (by omega) ?_ gap
      (by simp only [List.length_cons] at inText; omega)
    intro gap
    cases gap with
    | zero =>
      refine iff_of_false (fun pair => ?_) fun pair => absurd pair.1 (lt_irrefl 0)
      cases rest with
      | nil => simp [InsidePair] at pair
      | cons next more =>
        obtain rfl : next = '\n' := by simpa using pair.2.2
        exact alone more rfl
    | succ gap => rw [Nat.add_comm, insidePair_cons (Nat.succ_pos gap)]
  | case5 start index character rest pair feed return_ ih =>
    rw [linesFrom.eq_5 _ _ _ _ pair feed return_]
    cases gap with
    | zero =>
      obtain ⟨stop, later, first, past⟩ := linesFrom_head start (index + 1) rest
      refine iff_of_true ⟨(start, stop), ?_, reached, by simp only; omega⟩ fun pair =>
        absurd pair.1 (lt_irrefl 0)
      rw [first]
      exact List.mem_cons_self
    | succ gap =>
      have shift : InsidePair (character :: rest) (gap + 1) ↔ InsidePair rest gap := by
        cases gap with
        | zero => simp [InsidePair, show character ≠ '\r' from return_]
        | succ gap => exact insidePair_cons (Nat.succ_pos gap)
      rw [shift, ← ih (by omega) gap (by simpa using inText), Nat.add_assoc, Nat.add_comm gap 1]

namespace FileSnapshot

variable {snapshot : FileSnapshot} {first second : Nat} {line later : Nat × Nat}

/-- A line ends before a later one starts. -/
theorem lines_apart (before : first < second) (found : snapshot.lines[first]? = some line)
    (foundLater : snapshot.lines[second]? = some later) : line.2 < later.1 := by
  have sorted := (linesFrom_sorted 0 0 snapshot.text le_rfl).1
  rw [lines_eq] at found foundLater
  obtain ⟨_, rfl⟩ := List.getElem?_eq_some_iff.mp found
  obtain ⟨_, rfl⟩ := List.getElem?_eq_some_iff.mp foundLater
  exact List.pairwise_iff_getElem.mp sorted first second _ _ before

theorem lines_inside (found : snapshot.lines[first]? = some line) :
    line.1 ≤ line.2 ∧ line.2 ≤ snapshot.text.length := by
  rw [lines_eq] at found
  have inside := (linesFrom_sorted 0 0 snapshot.text le_rfl).2 line (List.mem_of_getElem? found)
  omega

theorem slice_append {start middle stop : Nat} (ordered : start ≤ middle) (later : middle ≤ stop) :
    snapshot.slice start middle ++ snapshot.slice middle stop = snapshot.slice start stop := by
  have whole := List.take_append_drop (middle - start) (snapshot.slice start stop)
  rw [slice, List.drop_drop, List.take_drop, List.take_take, Nat.add_sub_cancel' ordered,
    min_eq_left later] at whole
  exact whole

theorem length_slice {start stop : Nat} (inText : stop ≤ snapshot.text.length) :
    (snapshot.slice start stop).length = stop - start := by
  simp [slice, inText]

end FileSnapshot

/-! ### Positions in lines -/

namespace PositionMapper

variable {mapper : PositionMapper} {position : LspPosition} {offset : Nat}

/-- The code units of a text. -/
def unitsOf (mapper : PositionMapper) (text : Text) : Nat := (text.map mapper.units).sum

theorem unitsOf_append (first second : Text) :
    mapper.unitsOf (first ++ second) = mapper.unitsOf first + mapper.unitsOf second := by
  simp [unitsOf]

theorem units_pos (character : Char) : 0 < mapper.units character := by
  unfold units
  split
  · rw [String.length_utf8EncodeChar]
    exact Char.utf8Size_pos character
  · split <;> decide
  · decide

theorem length_le_unitsOf (text : Text) : text.length ≤ mapper.unitsOf text := by
  induction text with
  | nil => exact Nat.zero_le _
  | cons character rest ih =>
    have := mapper.units_pos character
    simp only [unitsOf, List.length_cons, List.map_cons, List.sum_cons] at ih ⊢
    omega

/-- A longer piece of a line has more code units. -/
theorem unitsOf_slice_lt {start first second : Nat} (begun : start ≤ first) (less : first < second)
    (inText : second ≤ mapper.snapshot.text.length) :
    mapper.unitsOf (mapper.snapshot.slice start first) <
      mapper.unitsOf (mapper.snapshot.slice start second) := by
  rw [← FileSnapshot.slice_append begun less.le, unitsOf_append]
  have := mapper.length_le_unitsOf (mapper.snapshot.slice first second)
  rw [FileSnapshot.length_slice inText] at this
  omega

/-- The position is so many code units into the content of a line, and the offset is there. -/
def Placed (mapper : PositionMapper) (position : LspPosition) (offset : Nat) : Prop :=
  ∃ line start stop : Nat, position.line = line ∧
    mapper.snapshot.lines[line]? = some (start, stop) ∧ start ≤ offset ∧ offset ≤ stop ∧
    position.character = mapper.unitsOf (mapper.snapshot.slice start offset)

theorem seek_eq_ok (character : Int) (content : Text) (start seen : Nat) :
    mapper.seek character start seen content = .ok offset ↔
      ∃ count ≤ content.length, offset = start + count ∧
        character = (seen + mapper.unitsOf (content.take count) : Nat) := by
  induction content generalizing start seen with
  | nil =>
    rw [seek]
    constructor
    · intro found
      split at found
      · next same =>
        cases found
        exact ⟨0, le_rfl, rfl, same.symm⟩
      · exact nomatch found
    · rintro ⟨count, bound, rfl, rfl⟩
      obtain rfl : count = 0 := by simpa using bound
      simp [unitsOf]
  | cons next rest ih =>
    have := mapper.units_pos next
    rw [seek]
    by_cases here : (seen : Int) = character
    · rw [if_pos here]
      refine ⟨fun found => ⟨0, Nat.zero_le _, ?_, ?_⟩, ?_⟩
      · cases found
        rfl
      · rw [← here]
        rfl
      · rintro ⟨count, _, rfl, same⟩
        cases count with
        | zero => rfl
        | succ count =>
          simp only [unitsOf, List.take_succ_cons, List.map_cons, List.sum_cons] at same
          omega
    · rw [if_neg here, ih]
      constructor
      · rintro ⟨count, bound, rfl, same⟩
        refine ⟨count + 1, by simpa using bound, by omega, ?_⟩
        simp only [unitsOf, List.take_succ_cons, List.map_cons, List.sum_cons] at same ⊢
        omega
      · rintro ⟨count, bound, rfl, same⟩
        cases count with
        | zero => exact absurd same.symm here
        | succ count =>
          refine ⟨count, by simpa using bound, by omega, ?_⟩
          simp only [unitsOf, List.take_succ_cons, List.map_cons, List.sum_cons] at same ⊢
          omega

/-- **`lsp_to_text_offset` accepts what is placed.** -/
theorem lspToTextOffset_eq_ok :
    mapper.lspToTextOffset position = .ok offset ↔ mapper.Placed position offset := by
  unfold lspToTextOffset
  by_cases negative : position.line < 0
  · rw [if_pos negative]
    refine iff_of_false (fun found => nomatch found) ?_
    rintro ⟨line, _, _, same, _⟩
    omega
  rw [if_neg negative]
  have natural : ((position.line.toNat : Nat) : Int) = position.line := by omega
  cases found : mapper.snapshot.lines[position.line.toNat]? with
  | none =>
    refine iff_of_false (fun found => nomatch found) ?_
    rintro ⟨line, _, _, same, there, _⟩
    rw [show position.line.toNat = line by omega, there] at found
    exact nomatch found
  | some line =>
    obtain ⟨start, stop⟩ := line
    have inside := FileSnapshot.lines_inside found
    simp only at inside
    have content : (mapper.snapshot.slice start stop).length = stop - start :=
      FileSnapshot.length_slice inside.2
    have piece : ∀ count ≤ stop - start, (mapper.snapshot.slice start stop).take count =
        mapper.snapshot.slice start (start + count) := by
      intro count bound
      rw [FileSnapshot.slice, List.take_drop, List.take_take, min_eq_left (by omega)]
      rfl
    dsimp only
    by_cases short : position.character < 0
    · rw [if_pos short]
      refine iff_of_false (fun found => nomatch found) ?_
      rintro ⟨_, _, _, _, _, _, _, same⟩
      omega
    · rw [if_neg short, seek_eq_ok, content]
      constructor
      · rintro ⟨count, bound, rfl, same⟩
        rw [piece count bound, Nat.zero_add] at same
        exact ⟨_, start, stop, natural.symm, found, by omega, by omega, same⟩
      · rintro ⟨line, start', stop', same, there, begun, ended, units⟩
        rw [show position.line.toNat = line by omega, there] at found
        cases found
        refine ⟨offset - start, by omega, by omega, ?_⟩
        rw [piece _ (by omega), Nat.zero_add, Nat.add_sub_cancel' begun]
        exact units

/-- The lines that have started at an offset of a line are those up to it. -/
theorem takeWhile_started {lines : List (Nat × Nat)} {index : Nat} {line : Nat × Nat}
    (sorted : lines.Pairwise fun line later => line.2 < later.1)
    (ordered : ∀ line ∈ lines, line.1 ≤ line.2) (found : lines[index]? = some line)
    (begun : line.1 ≤ offset) (ended : offset ≤ line.2) :
    lines.takeWhile (fun line => decide (line.1 ≤ offset)) = lines.take (index + 1) := by
  induction lines generalizing index with
  | nil => exact nomatch found
  | cons head rest ih =>
    obtain ⟨apart, sorted⟩ := List.pairwise_cons.mp sorted
    have headOrdered := ordered head List.mem_cons_self
    cases index with
    | zero =>
      cases found
      rw [List.takeWhile_cons_of_pos (by simpa using begun)]
      cases rest with
      | nil => rfl
      | cons next more =>
        have := apart next List.mem_cons_self
        rw [List.takeWhile_cons_of_neg (by simp only [decide_eq_true_eq]; omega)]
        rfl
    | succ index =>
      have := apart line (List.mem_of_getElem? found)
      rw [List.takeWhile_cons_of_pos (by simp only [decide_eq_true_eq]; omega), List.take_succ_cons,
        ih sorted (fun line member => ordered line (List.mem_cons_of_mem _ member)) found]

/-- **`text_offset_to_lsp` accepts what is placed.** -/
theorem textOffsetToLsp_eq_ok :
    mapper.textOffsetToLsp offset = .ok position ↔ mapper.Placed position offset := by
  unfold textOffsetToLsp
  constructor
  · intro found
    split at found
    · exact nomatch found
    · dsimp only at found
      split at found
      · exact nomatch found
      · next start stop last =>
        split at found
        · exact nomatch found
        · next inside =>
          cases found
          obtain ⟨more, whole⟩ := @List.takeWhile_prefix _
            mapper.snapshot.lines fun line => decide (line.1 ≤ offset)
          have nonempty : List.takeWhile (fun line => decide (line.1 ≤ offset))
              mapper.snapshot.lines ≠ [] := by
            intro empty
            rw [empty] at last
            exact nomatch last
          have begun := List.mem_takeWhile_imp (List.mem_of_getLast? last)
          rw [List.getLast?_eq_getElem?] at last
          refine ⟨_, start, stop, rfl, ?_, by simpa using begun, by omega, rfl⟩
          have kept := @List.getElem?_append_left _ _ more _
            (Nat.sub_lt (List.length_pos_iff.mpr nonempty) Nat.one_pos)
          rw [whole] at kept
          exact kept.trans last
  · rintro ⟨line, start, stop, same, found, begun, ended, units⟩
    have inside := FileSnapshot.lines_inside found
    have sorted := linesFrom_sorted 0 0 mapper.snapshot.text le_rfl
    rw [← FileSnapshot.lines_eq] at sorted
    have started := takeWhile_started sorted.1 (fun line member => (sorted.2 line member).2.1) found
      begun ended
    have bound := (List.getElem?_eq_some_iff.mp found).1
    simp only at inside
    rw [if_neg (by omega)]
    dsimp only
    rw [started, List.getLast?_take, Nat.add_sub_cancel, if_neg (Nat.succ_ne_zero line), found]
    show (if offset > stop then Except.error PositionError.newline
      else .ok ⟨((mapper.snapshot.lines.take (line + 1)).length - 1 : Nat),
        (mapper.unitsOf (mapper.snapshot.slice start offset) : Nat)⟩) = .ok position
    rw [if_neg (by omega), List.length_take, min_eq_left (by omega), Nat.add_sub_cancel, ← units,
      ← same]

/-- An offset in a line has one position. -/
theorem Placed.unique {other : LspPosition} (placed : mapper.Placed position offset)
    (again : mapper.Placed other offset) : position = other :=
  Except.ok.inj ((textOffsetToLsp_eq_ok.mpr placed).symm.trans (textOffsetToLsp_eq_ok.mpr again))

theorem Placed.lt {other : LspPosition} {later : Nat} (placed : mapper.Placed position offset)
    (placedLater : mapper.Placed other later) (less : offset < later) : position < other := by
  obtain ⟨line, start, stop, same, found, begun, ended, units⟩ := placed
  obtain ⟨line', start', stop', same', found', begun', ended', units'⟩ := placedLater
  obtain before | rfl | after := lt_trichotomy line line'
  · exact .inl (by omega)
  · rw [found] at found'
    cases found'
    have inside := FileSnapshot.lines_inside found
    have more := mapper.unitsOf_slice_lt begun less (ended'.trans inside.2)
    exact .inr ⟨same.trans same'.symm, by omega⟩
  · have := FileSnapshot.lines_apart after found' found
    simp only at this
    omega

/-- **The order of positions is the order of their offsets.** -/
theorem Placed.lt_iff {other : LspPosition} {later : Nat} (placed : mapper.Placed position offset)
    (placedLater : mapper.Placed other later) : position < other ↔ offset < later := by
  refine ⟨fun less => ?_, placed.lt placedLater⟩
  obtain before | rfl | after := lt_trichotomy offset later
  · exact before
  · obtain rfl := placed.unique placedLater
    obtain below | ⟨_, below⟩ := less <;> exact absurd below (lt_irrefl _)
  · have more : other < position := placedLater.lt placed after
    obtain below | ⟨same, below⟩ := less <;> obtain above | ⟨_, above⟩ := more <;> omega

/-! ### Byte offsets -/

theorem textToByte_lt {first second : Nat} (less : first < second)
    (inText : second ≤ mapper.snapshot.text.length) :
    mapper.snapshot.textToByte first < mapper.snapshot.textToByte second := by
  have piece := List.take_append_drop first (mapper.snapshot.text.take second)
  rw [List.take_take, min_eq_left less.le] at piece
  obtain ⟨character, rest, head⟩ : ∃ character rest,
      (mapper.snapshot.text.take second).drop first = character :: rest := by
    refine List.exists_cons_of_ne_nil fun empty => ?_
    have := List.drop_eq_nil_iff.mp empty
    rw [List.length_take] at this
    omega
  have positive := Char.utf8Size_pos character
  rw [FileSnapshot.textToByte, FileSnapshot.textToByte, ← piece, head]
  simp only [encode, List.flatMap_append, List.flatMap_cons, List.length_append,
    String.length_utf8EncodeChar]
  omega

theorem textToByte_le (offset : Nat) :
    mapper.snapshot.textToByte offset ≤ mapper.snapshot.rawBytes.length := by
  have piece : encode mapper.snapshot.text = encode (mapper.snapshot.text.take offset) ++
      encode (mapper.snapshot.text.drop offset) := by
    rw [encode, encode, encode, ← List.flatMap_append, List.take_append_drop]
  rw [← mapper.snapshot.encoded, FileSnapshot.textToByte, List.length_append, piece,
    List.length_append]
  omega

/-- **`byte_offset_to_text_offset` accepts the bytes where a character starts.** -/
theorem byteOffsetToTextOffset_eq_ok {byte : Int} :
    mapper.byteOffsetToTextOffset byte = .ok offset ↔
      offset ≤ mapper.snapshot.text.length ∧ (mapper.snapshot.textToByte offset : Int) = byte := by
  unfold byteOffsetToTextOffset
  constructor
  · intro found
    split at found
    · exact nomatch found
    · split at found
      · next hit =>
        cases found
        have bound := List.mem_range.mp (List.mem_of_find?_eq_some hit)
        exact ⟨by omega, by simpa using List.find?_some hit⟩
      · exact nomatch found
  · rintro ⟨inText, rfl⟩
    have inFile := mapper.textToByte_le offset
    rw [if_neg (by omega)]
    have hit : (List.range (mapper.snapshot.text.length + 1)).find?
        (fun index => decide ((mapper.snapshot.textToByte index : Int) =
          mapper.snapshot.textToByte offset)) = some offset := by
      rw [List.find?_range_eq_some]
      refine ⟨by simp, List.mem_range.mpr (by omega), fun index less => ?_⟩
      have := textToByte_lt less inText
      simp only [Bool.not_eq_true', decide_eq_false_iff_not]
      omega
    rw [hit]

end PositionMapper

/-! ### Files -/

theorem utf8Encode_eq (text : Text) : text.utf8Encode = ⟨(encode text).toArray⟩ := by
  refine ByteArray.ext ?_
  rw [List.utf8Encode, List.data_toByteArray, encode]

theorem decode_encode (text : Text) : decode (encode text) = some text := by
  rw [decode, ← utf8Encode_eq, List.utf8Decode?_utf8Encode]
  rfl

theorem encode_append (first second : Text) :
    encode (first ++ second) = encode first ++ encode second :=
  List.flatMap_append

/-- The character whose encoding is the byte-order mark. -/
def bomCharacter : Char := '\uFEFF'

theorem encode_bomCharacter : encode [bomCharacter] = FileSnapshot.utf8Bom := by decide

/-- A text starts with the mark exactly if its bytes do. -/
theorem utf8Bom_prefix_iff (text : Text) :
    FileSnapshot.utf8Bom <+: encode text ↔ text.head? = some bomCharacter := by
  constructor
  · rintro ⟨rest, whole⟩
    have bytes : [bomCharacter].utf8Encode ++ ⟨rest.toArray⟩ = text.utf8Encode := by
      refine ByteArray.ext ?_
      rw [utf8Encode_eq, utf8Encode_eq, encode_bomCharacter, ByteArray.data_append, ← whole,
        List.append_toArray]
    obtain ⟨more, rfl⟩ := List.isPrefix_of_utf8Encode_append_eq_utf8Encode _ bytes
    rfl
  · intro head
    obtain ⟨rest, rfl⟩ := List.head?_eq_some_iff.mp head
    exact ⟨encode rest, by rw [← encode_bomCharacter, ← encode_append]; rfl⟩

namespace FileSnapshot

theorem bom_of_fromBytes {rawBytes : Bytes} {snapshot : FileSnapshot}
    (taken : fromBytes rawBytes = .ok snapshot) : snapshot.bom = leadingBom rawBytes := by
  unfold fromBytes at taken
  dsimp only at taken
  split at taken
  · exact nomatch taken
  · cases taken
    rfl

theorem fromBytes_of_decode {rawBytes : Bytes} {text : Text}
    (decoded : decode (rawBytes.drop (leadingBom rawBytes).length) = some text) :
    ∃ snapshot, fromBytes rawBytes = .ok snapshot ∧ snapshot.text = text := by
  unfold fromBytes
  dsimp only
  split
  · next failed =>
    rw [decoded] at failed
    exact nomatch failed
  · next again =>
    rw [decoded] at again
    cases again
    exact ⟨_, rfl, rfl⟩

/-- **A file with a mark** decodes to the text after it. -/
theorem fromBytes_marked (text : Text) : ∃ snapshot,
    fromBytes (utf8Bom ++ encode text) = .ok snapshot ∧ snapshot.text = text ∧
      snapshot.bom = utf8Bom := by
  have marked : leadingBom (utf8Bom ++ encode text) = utf8Bom := by
    rw [leadingBom, if_pos (List.isPrefixOf_iff_prefix.mpr (List.prefix_append _ _))]
  obtain ⟨snapshot, taken, same⟩ := @fromBytes_of_decode (utf8Bom ++ encode text) text
    (by rw [marked, List.drop_left, decode_encode])
  exact ⟨snapshot, taken, same, (bom_of_fromBytes taken).trans marked⟩

/-- **A file without a mark** decodes to its whole text. -/
theorem fromBytes_unmarked {text : Text} (plain : text.head? ≠ some bomCharacter) : ∃ snapshot,
    fromBytes (encode text) = .ok snapshot ∧ snapshot.text = text ∧ snapshot.bom = [] := by
  have unmarked : leadingBom (encode text) = [] := by
    rw [leadingBom, if_neg]
    rwa [List.isPrefixOf_iff_prefix, utf8Bom_prefix_iff]
  obtain ⟨snapshot, taken, same⟩ := @fromBytes_of_decode (encode text) text
    (by rw [unmarked, List.length_nil, List.drop_zero, decode_encode])
  exact ⟨snapshot, taken, same, (bom_of_fromBytes taken).trans unmarked⟩

end FileSnapshot

/-! ### The correspondence -/

/-- A conversion that raises; every exception of this module is a `PositionError`. -/
def Rejects {Value : Type} (result : Except PositionError Value) : Prop :=
  ∃ error, result = .error error

theorem rejects_iff {Value : Type} {result : Except PositionError Value} :
    Rejects result ↔ ∀ value, result ≠ .ok value := by
  cases result with
  | error error => exact ⟨fun _ _ same => (nomatch same), fun _ => ⟨error, rfl⟩⟩
  | ok value =>
    refine ⟨?_, fun none_ => absurd rfl (none_ value)⟩
    rintro ⟨_, same⟩
    exact nomatch same

/-- What a mapper keeps of its file. -/
structure Lossless (mapper : PositionMapper) : Prop where
  inverse : ∀ position offset, mapper.lspToTextOffset position = .ok offset ↔
    mapper.textOffsetToLsp offset = .ok position
  domain : ∀ offset, (∃ position, mapper.textOffsetToLsp offset = .ok position) ↔
    offset ≤ mapper.snapshot.text.length ∧ ¬InsidePair mapper.snapshot.text offset
  order : ∀ first second offset later, mapper.lspToTextOffset first = .ok offset →
    mapper.lspToTextOffset second = .ok later → (first < second ↔ offset < later)
  bytes : ∀ (offset byte : Nat), mapper.textOffsetToByteOffset offset = .ok byte ↔
    mapper.byteOffsetToTextOffset byte = .ok offset
  everywhere : ∀ offset ≤ mapper.snapshot.text.length,
    ∃ byte, mapper.textOffsetToByteOffset offset = .ok byte
  first : mapper.textOffsetToByteOffset 0 = .ok mapper.snapshot.bom.length
  pastContent : ∀ (line start stop : Nat) (character : Int),
    mapper.snapshot.lines[line]? = some (start, stop) →
    mapper.unitsOf (mapper.snapshot.slice start stop) < character →
    Rejects (mapper.lspToTextOffset ⟨line, character⟩)
  insideUnits : ∀ (line start stop offset : Nat) (character : Int),
    mapper.snapshot.lines[line]? = some (start, stop) → start ≤ offset → offset < stop →
    mapper.unitsOf (mapper.snapshot.slice start offset) < character →
    character < mapper.unitsOf (mapper.snapshot.slice start (offset + 1)) →
    Rejects (mapper.lspToTextOffset ⟨line, character⟩)
  insideMark : ∀ byte : Nat, byte < mapper.snapshot.bom.length →
    Rejects (mapper.byteOffsetToTextOffset byte)
  insideCharacter : ∀ (offset byte : Nat), offset < mapper.snapshot.text.length →
    mapper.snapshot.textToByte offset < byte → byte < mapper.snapshot.textToByte (offset + 1) →
    Rejects (mapper.byteOffsetToTextOffset byte)

namespace PositionMapper

theorem textOffsetToByteOffset_eq_ok {mapper : PositionMapper} {offset byte : Nat} :
    mapper.textOffsetToByteOffset offset = .ok byte ↔
      offset ≤ mapper.snapshot.text.length ∧ mapper.snapshot.textToByte offset = byte := by
  unfold textOffsetToByteOffset
  by_cases outside : offset > mapper.snapshot.text.length
  · rw [if_pos outside]
    exact iff_of_false (fun found => nomatch found) fun ⟨inside, _⟩ => by omega
  · rw [if_neg outside, Except.ok.injEq]
    exact ⟨fun same => ⟨by omega, same⟩, And.right⟩

/-- In one line, the code units before an offset say where it is. -/
theorem Placed.unitsOf_lt_iff {mapper : PositionMapper} {line start stop offset later : Nat}
    {character : Int} (found : mapper.snapshot.lines[line]? = some (start, stop))
    (begun : start ≤ later) (ended : later ≤ stop)
    (placed : mapper.Placed ⟨line, character⟩ offset) :
    (mapper.unitsOf (mapper.snapshot.slice start later) < character ↔ later < offset) ∧
      (character < mapper.unitsOf (mapper.snapshot.slice start later) ↔ offset < later) ∧
      offset ≤ stop := by
  have here : mapper.Placed ⟨line, mapper.unitsOf (mapper.snapshot.slice start later)⟩ later :=
    ⟨line, start, stop, rfl, found, begun, ended, rfl⟩
  refine ⟨?_, ?_, ?_⟩
  · rw [← here.lt_iff placed]
    exact ⟨fun less => .inr ⟨rfl, less⟩, fun less =>
      less.elim (fun below => absurd below (lt_irrefl _)) And.right⟩
  · rw [← placed.lt_iff here]
    exact ⟨fun less => .inr ⟨rfl, less⟩, fun less =>
      less.elim (fun below => absurd below (lt_irrefl _)) And.right⟩
  · obtain ⟨line', start', stop', same, found', _, ended', _⟩ := placed
    obtain rfl : line = line' := Int.ofNat_inj.mp same
    rw [found] at found'
    cases found'
    exact ended'

/-- **A mapper loses nothing**, whatever the snapshot and the encoding. -/
theorem lossless (mapper : PositionMapper) : Lossless mapper where
  inverse position offset := by rw [lspToTextOffset_eq_ok, textOffsetToLsp_eq_ok]
  domain offset := by
    have cover := linesFrom_cover 0 0 mapper.snapshot.text le_rfl offset
    rw [← FileSnapshot.lines_eq, Nat.zero_add] at cover
    constructor
    · rintro ⟨position, found⟩
      obtain ⟨line, start, stop, _, there, begun, ended, _⟩ := textOffsetToLsp_eq_ok.mp found
      have inText := ended.trans (FileSnapshot.lines_inside there).2
      exact ⟨inText, (cover inText).mp ⟨_, List.mem_of_getElem? there, begun, ended⟩⟩
    · rintro ⟨inText, outside⟩
      obtain ⟨⟨start, stop⟩, member, begun, ended⟩ := (cover inText).mpr outside
      obtain ⟨line, there⟩ := List.getElem?_of_mem member
      exact ⟨⟨line, _⟩, textOffsetToLsp_eq_ok.mpr ⟨line, start, stop, rfl, there, begun, ended, rfl⟩⟩
  order first second offset later found foundLater :=
    (lspToTextOffset_eq_ok.mp found).lt_iff (lspToTextOffset_eq_ok.mp foundLater)
  bytes offset byte := by
    rw [textOffsetToByteOffset_eq_ok, byteOffsetToTextOffset_eq_ok, Int.ofNat_inj]
  everywhere offset inText := ⟨_, textOffsetToByteOffset_eq_ok.mpr ⟨inText, rfl⟩⟩
  first := textOffsetToByteOffset_eq_ok.mpr ⟨Nat.zero_le _, rfl⟩
  pastContent line start stop character found past := by
    refine rejects_iff.mpr fun offset accepted => ?_
    have inside := FileSnapshot.lines_inside found
    obtain ⟨above, _, ended⟩ := Placed.unitsOf_lt_iff found inside.1 le_rfl
      (lspToTextOffset_eq_ok.mp accepted)
    have := above.mp past
    omega
  insideUnits line start stop offset character found begun ended low high := by
    refine rejects_iff.mpr fun later accepted => ?_
    have placed := lspToTextOffset_eq_ok.mp accepted
    have above := (Placed.unitsOf_lt_iff found begun ended.le placed).1.mp low
    have below := (Placed.unitsOf_lt_iff found (by omega) ended placed).2.1.mp high
    omega
  insideMark byte inside := by
    refine rejects_iff.mpr fun offset accepted => ?_
    obtain ⟨_, same⟩ := byteOffsetToTextOffset_eq_ok.mp accepted
    rw [FileSnapshot.textToByte] at same
    omega
  insideCharacter offset byte inText low high := by
    refine rejects_iff.mpr fun later accepted => ?_
    obtain ⟨laterInText, same⟩ := byteOffsetToTextOffset_eq_ok.mp accepted
    obtain before | rfl | after := lt_trichotomy later offset
    · have := mapper.textToByte_lt before inText.le
      omega
    · omega
    · obtain rfl | beyond := Nat.eq_or_lt_of_le (show offset + 1 ≤ later from after)
      · omega
      · have := mapper.textToByte_lt beyond laterInText
        omega

end PositionMapper

end SerenaLight.Lsp
