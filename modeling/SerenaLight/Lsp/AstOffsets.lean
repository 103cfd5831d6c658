/-
**The positions of a syntax tree** (`lsp/python_assignment_recovery.py`).

The recovery of assignments splits the text into lines on its own, and reads columns that count bytes.

- `lineBoundaries_eq`: its lines are those of a snapshot of the text.
- `ast_offset_round_trip`: **an offset in a line is found again** from its line number and its column.
-/

import SerenaLight.Lsp.PositionLaws
import SerenaLight.Tools.Snippets

namespace SerenaLight.Lsp

/-- The loop of `_line_boundaries`, with the rest of the text: the line starts and content ends. -/
def scanBoundaries (index : Nat) (starts ends : List Nat) : Text → List Nat × List Nat
  | [] => (starts, ends ++ [index])
  | '\r' :: '\n' :: rest => scanBoundaries (index + 2) (starts ++ [index + 2]) (ends ++ [index]) rest
  | char :: rest =>
    if char = '\n' ∨ char = '\r' then
      scanBoundaries (index + 1) (starts ++ [index + 1]) (ends ++ [index]) rest
    else scanBoundaries (index + 1) starts ends rest

/-- `_line_boundaries`; `zip` is strict. -/
def lineBoundaries (text : Text) : Option (List (Nat × Nat)) :=
  let (starts, ends) := scanBoundaries 0 [0] [] text
  if starts.length = ends.length then some (starts.zip ends) else none

/-- `_ast_offset_to_text_offset`; nothing is a `ValueError`. -/
def astOffsetToTextOffset (text : Text) (boundaries : List (Nat × Nat)) (lineno colOffset : Nat) :
    Option Nat :=
  if lineno < 1 ∨ boundaries.length < lineno then none
  else do
    let (contentStart, contentEnd) ← boundaries[lineno - 1]?
    let lineText := (text.take contentEnd).drop contentStart
    let start ← decode ((encode lineText).take colOffset)
    return contentStart + start.length

theorem scanBoundaries_eq (text : Text) (index : Nat) (starts ends : List Nat) :
    scanBoundaries index starts ends text =
      (starts ++ (lineBreaks index text).map LineBreak.lineEnd,
        ends ++ ((lineBreaks index text).map LineBreak.contentEnd ++ [index + text.length])) := by
  fun_induction lineBreaks index text generalizing starts ends with
  | case1 index => simp [scanBoundaries]
  | case2 index rest ih =>
    rw [scanBoundaries, ih]
    simp [Nat.add_comm, Nat.add_left_comm]
  | case3 index rest ih =>
    rw [scanBoundaries, if_pos (.inl rfl), ih]
    · simp [Nat.add_comm, Nat.add_left_comm]
    · simp
  | case4 index rest single ih =>
    rw [scanBoundaries, if_pos (.inr rfl), ih]
    · simp [Nat.add_comm, Nat.add_left_comm]
    · exact fun rest _ => single rest
  | case5 index char rest crlf lf cr ih =>
    rw [scanBoundaries, if_neg (not_or.mpr ⟨lf, cr⟩), ih]
    · simp [Nat.add_comm, Nat.add_left_comm]
    · exact crlf

/-- **The lines are those of the snapshot.** -/
theorem lineBoundaries_eq (snapshot : FileSnapshot) :
    lineBoundaries snapshot.text = some snapshot.lines := by
  simp [lineBoundaries, scanBoundaries_eq, FileSnapshot.lines]

/-- **The lines are the snapshot's, and an offset in a line is found again** from the number of the
line and the bytes before it. -/
theorem ast_offset_round_trip (snapshot : FileSnapshot) :
    lineBoundaries snapshot.text = some snapshot.lines ∧
    ∀ (line start stop offset : Nat), snapshot.lines[line]? = some (start, stop) →
      start ≤ offset → offset ≤ stop →
      astOffsetToTextOffset snapshot.text snapshot.lines (line + 1)
        (encode (snapshot.slice start offset)).length = some offset := by
  refine ⟨lineBoundaries_eq snapshot, fun line start stop offset found begun within => ?_⟩
  have known := (List.getElem?_eq_some_iff.mp found).1
  obtain ⟨before, content, after, whole, spans, -⟩ := Tools.isLine_of_breaks [] [] rfl rfl
    (Nat.zero_add _).symm nofun nofun (List.mem_of_getElem? found)
  obtain ⟨rfl, rfl⟩ := Prod.mk.inj spans
  obtain ⟨inner, rfl⟩ := Nat.exists_eq_add_of_le begun
  replace whole : snapshot.text = before ++ (content ++ after) := whole.trans (List.append_assoc ..)
  have lineText : (snapshot.text.take (before.length + content.length)).drop before.length =
      content := by
    rw [whole, List.take_length_add_append, List.drop_left, List.take_left]
  have column : snapshot.slice before.length (before.length + inner) = content.take inner := by
    rw [FileSnapshot.slice, whole, List.take_length_add_append, List.drop_left,
      List.take_append_of_le_length (by omega)]
  have bytes : (encode content).take (encode (content.take inner)).length =
      encode (content.take inner) := by
    have parts : encode content = encode (content.take inner) ++ encode (content.drop inner) := by
      rw [← encode_append, List.take_append_drop]
    rw [parts, List.take_left]
  simp only [astOffsetToTextOffset, column]
  rw [if_neg (by omega), Nat.add_sub_cancel, found]
  simp [lineText, bytes, decode_encode, show inner ≤ content.length by omega]

end SerenaLight.Lsp
