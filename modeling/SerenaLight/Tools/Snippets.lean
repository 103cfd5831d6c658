/-
**The snippet of a reference** (`tools/references.py`).

A reference is shown with the line that it starts in. A line that is too long is cut to a window
around the start, with an ellipsis on the sides where it is cut.

- `IsLine.offsets`: the line is the one in which `FileSnapshot` has the start.
- `excerpt_cuts`: a window is a part of the line, and marked where the line goes on.
- `length_excerpt_iff`: it keeps the limit unless the start is next to the middle of a window at an
  end of the line.
-/

import SerenaLight.Lsp.Positions

namespace SerenaLight.Tools

open Lsp

/-- A character at which lines end. -/
def isBreak (character : Char) : Bool := character == '\n' || character == '\r'

/-- `_line_start_offset`: after the last break before the offset. -/
def lineStartOffset (text : Text) (offset : Nat) : Nat :=
  offset - ((text.take offset).reverse.takeWhile (!isBreak ·)).length

/-- `_line_end_offset`: the first break from the offset on. -/
def lineEndOffset (text : Text) (offset : Nat) : Nat :=
  offset + ((text.drop offset).takeWhile (!isBreak ·)).length

/-- An ellipsis, where the line is cut. -/
def ellipsis (cut : Prop) [Decidable cut] : Text := if cut then ['…'] else []

/-- Where a window of so many characters begins. -/
def windowLeft (length relative size : Nat) : Nat := min (relative - size / 2) (length - size)

/-- What the ellipses of the first window leave of the limit. -/
def interiorLimit (length relative limit : Nat) : Nat :=
  let left := windowLeft length relative limit
  limit - (ellipsis (left ≠ 0)).length - (ellipsis (left + limit < length)).length

/-- What `_snippet` shows of a line that is longer than the limit. -/
def excerpt (line : Text) (relative limit : Nat) : Text :=
  let interior := interiorLimit line.length relative limit
  if interior = 0 then ['…'].take limit
  else
    let left := windowLeft line.length relative interior
    ellipsis (left ≠ 0) ++ (line.drop left).take interior ++
      ellipsis (left + interior < line.length)

/-- `_snippet`, for a document with a snapshot: the text, and whether it was cut. -/
def snippet (mapper : PositionMapper) (start : LspPosition) (limit : Nat) : Option (Text × Bool) :=
  match mapper.lspToTextOffset start with
  | .error _ => none
  | .ok offset =>
    let first := lineStartOffset mapper.snapshot.text offset
    let line := mapper.snapshot.slice first (lineEndOffset mapper.snapshot.text offset)
    if line.length ≤ limit then some (line, false)
    else some (excerpt line (offset - first) limit, true)

/-! ### The line -/

/-- No break in the line, and a break or an end of the text on either side. -/
def IsLine (text : Text) (line : Nat × Nat) : Prop :=
  ∃ before content after, text = before ++ content ++ after ∧
    line = (before.length, before.length + content.length) ∧
    (∀ next ∈ content, isBreak next = false) ∧ (∀ last ∈ before.getLast?, isBreak last = true) ∧
    ∀ next ∈ after.head?, isBreak next = true

theorem isLine_of_breaks {index start stop : Nat} {rest : Text} {line : Nat × Nat}
    (before content : Text) (begins : start = before.length)
    (reached : index = (before ++ content).length) (ends : stop = index + rest.length)
    (plain : ∀ next ∈ content, isBreak next = false)
    (edge : ∀ last ∈ before.getLast?, isBreak last = true)
    (member : line ∈ (start :: (lineBreaks index rest).map LineBreak.lineEnd).zip
      ((lineBreaks index rest).map LineBreak.contentEnd ++ [stop])) :
    IsLine (before ++ content ++ rest) line := by
  fun_induction lineBreaks index rest generalizing start before content with
  | case1 index =>
    obtain rfl := List.mem_singleton.mp member
    exact ⟨before, content, [], rfl, by simp [begins, ends, reached], plain, edge, nofun⟩
  | case2 index rest ih =>
    obtain rfl | member := List.mem_cons.mp member
    · exact ⟨_, _, _, rfl, by simp [begins, reached], plain, edge, by simp [isBreak]⟩
    · simpa using ih (before ++ content ++ ['\r', '\n']) [] (by simp [reached, Nat.add_assoc])
        (by simp [reached, Nat.add_assoc]) (by simp [ends]; omega) nofun (by simp [isBreak]) member
  | case3 index rest ih =>
    obtain rfl | member := List.mem_cons.mp member
    · exact ⟨_, _, _, rfl, by simp [begins, reached], plain, edge, by simp [isBreak]⟩
    · simpa using ih (before ++ content ++ ['\n']) [] (by simp [reached, Nat.add_assoc])
        (by simp [reached, Nat.add_assoc]) (by simp [ends]; omega) nofun (by simp [isBreak]) member
  | case4 index rest _ ih =>
    obtain rfl | member := List.mem_cons.mp member
    · exact ⟨_, _, _, rfl, by simp [begins, reached], plain, edge, by simp [isBreak]⟩
    · simpa using ih (before ++ content ++ ['\r']) [] (by simp [reached, Nat.add_assoc])
        (by simp [reached, Nat.add_assoc]) (by simp [ends]; omega) nofun (by simp [isBreak]) member
  | case5 index next rest _ feed return_ ih =>
    have inside : isBreak next = false := by simp_all [isBreak]
    simpa using ih before (content ++ [next]) begins (by simp [reached, Nat.add_assoc])
      (by simp [ends]; omega) (by simpa [or_imp, forall_and, inside] using plain) edge member

theorem takeWhile_edge (inside : Text) {outside : Text}
    (plain : ∀ next ∈ inside, isBreak next = false)
    (edge : ∀ next ∈ outside.head?, isBreak next = true) :
    (inside ++ outside).takeWhile (!isBreak ·) = inside := by
  rw [List.takeWhile_append_of_pos (by simpa using plain)]
  cases outside with
  | nil => simp
  | cons next rest => simp [edge next rfl]

variable {offset : Nat}

/-- **The line is found from any offset in it.** -/
theorem IsLine.offsets {text : Text} {start stop : Nat} (line : IsLine text (start, stop))
    (after : start ≤ offset) (before : offset ≤ stop) :
    lineStartOffset text offset = start ∧ lineEndOffset text offset = stop := by
  obtain ⟨first, content, rest, rfl, spans, plain, opened, closed⟩ := line
  obtain ⟨rfl, rfl⟩ := Prod.mk.inj spans
  obtain ⟨inner, rfl⟩ := Nat.exists_eq_add_of_le after
  have inside : inner ≤ content.length := by omega
  have back := takeWhile_edge (content.take inner).reverse
    (fun next member => plain next (List.mem_of_mem_take (List.mem_reverse.mp member)))
    (List.head?_reverse ▸ opened)
  have on := takeWhile_edge (content.drop inner)
    (fun next member => plain next (List.mem_of_mem_drop member)) closed
  rw [← List.reverse_append] at back
  constructor
  · rw [lineStartOffset, List.append_assoc, List.take_length_add_append,
      List.take_append_of_le_length inside, back]
    simp [inside]
  · rw [lineEndOffset, List.append_assoc, List.drop_length_add_append,
      List.drop_append_of_le_length inside, on, List.length_drop]
    omega

variable {mapper : PositionMapper}

theorem seek_inside {character : Int} {seen found : Nat} {content : Text}
    (sought : mapper.seek character offset seen content = .ok found) :
    offset ≤ found ∧ found ≤ offset + content.length := by
  induction content generalizing offset seen with
  | nil =>
    unfold PositionMapper.seek at sought
    split at sought <;> cases sought
    exact ⟨le_rfl, le_rfl⟩
  | cons next rest ih =>
    unfold PositionMapper.seek at sought
    split at sought
    · cases sought
      exact ⟨le_rfl, by omega⟩
    · have := ih sought
      simp only [List.length_cons]
      omega

/-- A valid position lies in its line. -/
theorem line_of_valid {position : LspPosition}
    (valid : mapper.lspToTextOffset position = .ok offset) : ∃ start stop,
      mapper.snapshot.lines[position.line.toNat]? = some (start, stop) ∧
      IsLine mapper.snapshot.text (start, stop) ∧ start ≤ offset ∧ offset ≤ stop := by
  unfold PositionMapper.lspToTextOffset at valid
  split at valid
  · cases valid
  split at valid
  · cases valid
  rename_i start stop found
  have line : IsLine mapper.snapshot.text (start, stop) :=
    isLine_of_breaks [] [] rfl rfl (Nat.zero_add _).symm nofun nofun (List.mem_of_getElem? found)
  split at valid
  · cases valid
  obtain ⟨after, before⟩ := seek_inside valid
  refine ⟨start, stop, found, line, after, ?_⟩
  obtain ⟨_, _, _, -, spans, -⟩ := line
  obtain ⟨rfl, rfl⟩ := Prod.mk.inj spans
  simp only [FileSnapshot.slice, List.length_drop, List.length_take] at before
  omega

/-! ### The window -/

/-- The text is a part of the line with an ellipsis where the line is cut, or the limit is too small
for any part of it. -/
def Cuts (line : Text) (limit : Nat) (shown : Text) : Prop :=
  (∃ left middle right, line = left ++ middle ++ right ∧
    shown = ellipsis (left ≠ []) ++ middle ++ ellipsis (right ≠ [])) ∨
  limit ≤ 2 ∧ limit < line.length ∧ shown <+: ['…']

theorem length_ellipsis (cut : Prop) [Decidable cut] :
    (ellipsis cut).length = if cut then 1 else 0 := by
  unfold ellipsis
  split <;> rfl

/-- On which sides a window cuts the line. -/
theorem windowLeft_cuts {length size : Nat} (relative : Nat) (long : size < length) :
    (windowLeft length relative size = 0 ↔ relative ≤ size / 2) ∧
      (windowLeft length relative size + size < length ↔
        relative + size < length + size / 2) := by
  unfold windowLeft
  omega

theorem interiorLimit_eq {length limit : Nat} (relative : Nat) (long : limit < length) :
    interiorLimit length relative limit = limit -
      if relative ≤ limit / 2 ∨ length + limit / 2 ≤ relative + limit then 1 else 2 := by
  simp only [interiorLimit, length_ellipsis, ne_eq, windowLeft_cuts relative long]
  split_ifs <;> omega

variable {line : Text}

theorem excerpt_cuts {relative limit : Nat} (long : limit < line.length) :
    Cuts line limit (excerpt line relative limit) := by
  unfold excerpt
  dsimp only
  split
  · rename_i none_left
    rw [interiorLimit_eq _ long] at none_left
    refine .inr ⟨?_, long, List.take_prefix _ _⟩
    split_ifs at none_left <;> omega
  · generalize windowLeft line.length relative _ = left
    generalize interiorLimit line.length relative limit = interior
    refine .inl ⟨line.take left, (line.drop left).take interior, line.drop (left + interior), ?_,
      ?_⟩
    · rw [List.append_assoc, ← List.drop_drop, List.take_append_drop, List.take_append_drop]
    · have wider : line ≠ [] := by rintro rfl; simp at long
      simp [wider]

/-- **The start is next to the middle of a window at an end of the line.** -/
def AtEdge (length relative limit : Nat) : Prop :=
  limit < length ∧ 1 < limit ∧ (limit % 2 = 0 ∧ relative = limit / 2 ∨
    limit % 2 = 1 ∧ relative + limit = length + limit / 2)

theorem length_excerpt_iff {relative limit : Nat} (positive : 0 < limit)
    (long : limit < line.length) :
    (excerpt line relative limit).length ≤ limit ↔ ¬AtEdge line.length relative limit := by
  have counted := interiorLimit_eq relative long
  unfold excerpt AtEdge
  dsimp only
  generalize interiorLimit line.length relative limit = interior at *
  split
  · simp only [List.length_take, List.length_singleton]
    split_ifs at counted <;> omega
  · have small : interior < line.length := by omega
    have inside : windowLeft line.length relative interior ≤ line.length - interior :=
      min_le_right _ _
    simp only [List.length_append, length_ellipsis, List.length_take, List.length_drop, ne_eq,
      windowLeft_cuts relative small]
    split_ifs at counted <;> split_ifs <;> omega

/-- **A snippet shows the line of its start, and keeps the limit if the start is at no edge.** -/
theorem snippet_keeps_limit_iff (mapper : PositionMapper) (position : LspPosition)
    {limit offset : Nat} (positive : 0 < limit)
    (valid : mapper.lspToTextOffset position = .ok offset) :
    ∃ start stop line shown, mapper.snapshot.lines[position.line.toNat]? = some (start, stop) ∧
      start ≤ offset ∧ offset ≤ stop ∧ line = mapper.snapshot.slice start stop ∧
      snippet mapper position limit = some (shown, decide (limit < line.length)) ∧
      Cuts line limit shown ∧
      (shown.length ≤ limit ↔ ¬AtEdge line.length (offset - start) limit) := by
  obtain ⟨start, stop, found, isLine, after, before⟩ := line_of_valid valid
  obtain ⟨first, last⟩ := isLine.offsets after before
  rw [snippet, valid]
  dsimp only
  rw [first, last]
  generalize sliced : mapper.snapshot.slice start stop = line
  by_cases long : limit < line.length
  · exact ⟨start, stop, line, _, found, after, before, sliced.symm,
      by simp only [if_neg (not_le.mpr long), long]; rfl, excerpt_cuts long,
      length_excerpt_iff positive long⟩
  · exact ⟨start, stop, line, line, found, after, before, sliced.symm,
      by simp only [if_pos (not_lt.mp long), long]; rfl,
      .inl ⟨[], line, [], by simp, by simp [ellipsis]⟩,
      iff_of_true (not_lt.mp long) fun edge => long edge.1⟩

/-- A file of one line. -/
def tenLetters : PositionMapper :=
  ⟨⟨encode "abcdefghij".toList, "abcdefghij".toList, [], rfl⟩, .utf16⟩

/-- A reference to the middle of the line. -/
theorem snippet_keeps_limit_middle : ∃ shown, snippet tenLetters ⟨0, 5⟩ 4 = some (shown, true) ∧
    shown.length ≤ 4 := by
  obtain ⟨start, stop, line, shown, found, -, -, rfl, cut, -, keeps⟩ :=
    snippet_keeps_limit_iff tenLetters ⟨0, 5⟩ (by decide : 0 < 4) (rfl : _ = Except.ok 5)
  cases found
  exact ⟨shown, cut, keeps.mpr (by simp [AtEdge, tenLetters, FileSnapshot.slice])⟩

/-- **A snippet over the limit**: the second window moves one to the right, and needs a second
ellipsis. -/
theorem snippet_over_limit :
    snippet tenLetters ⟨0, 2⟩ 4 = some ("…bcd…".toList, true) ∧ 4 < "…bcd…".toList.length := by
  decide

end SerenaLight.Tools
