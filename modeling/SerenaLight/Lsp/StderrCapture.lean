/-
**What is kept of a server's stderr** (`BoundedStderrCapture` of `adapter.py`).

The bytes are kept in the chunks they were read in, and dropped from the front: whole chunks, and
then a part of one.

- `trim_rtake`: the loop keeps the last bytes, and the size is their number.
- `captured_run`: so does any sequence of appends.
-/

import Mathlib.Data.List.DropRight
import Mathlib.Data.PNat.Notation
import SerenaLight.Lsp.Positions

namespace SerenaLight.Lsp

structure BoundedStderrCapture where
  maxBytes : ℕ+
  chunks : List Bytes := []
  size : Nat := 0

namespace BoundedStderrCapture

def snapshot (capture : BoundedStderrCapture) : Bytes := capture.chunks.flatten

/-- The loop of `_append`. Once a chunk is cut the size is the bound, and the loop ends. -/
def trim (maxBytes : Nat) : List Bytes → Nat → List Bytes × Nat
  | [], size => ([], size)
  | first :: rest, size =>
    if maxBytes < size then
      let excess := size - maxBytes
      if first.length ≤ excess then trim maxBytes rest (size - first.length)
      else (first.drop excess :: rest, size - excess)
    else (first :: rest, size)

/-- `_append`. -/
def append (capture : BoundedStderrCapture) (chunk : Bytes) : BoundedStderrCapture :=
  let (chunks, size) :=
    trim capture.maxBytes (capture.chunks ++ [chunk]) (capture.size + chunk.length)
  { capture with chunks, size }

theorem trim_rtake (maxBytes : Nat) (chunks : List Bytes) :
    (trim maxBytes chunks chunks.flatten.length).1.flatten = chunks.flatten.rtake maxBytes ∧
      (trim maxBytes chunks chunks.flatten.length).2 = (chunks.flatten.rtake maxBytes).length := by
  induction chunks with
  | nil => simp [trim]
  | cons first rest ih =>
    simp only [trim, List.flatten_cons, List.rtake, List.length_append, List.length_drop] at ih ⊢
    split_ifs with beyond whole
    · rw [Nat.add_sub_cancel_left, ih.1, ih.2, List.drop_append, List.drop_of_length_le whole,
        List.nil_append]
      exact ⟨by congr 1; omega, by omega⟩
    · rw [List.flatten_cons, List.drop_append_of_le_length (by omega)]
      exact ⟨rfl, rfl⟩
    · rw [List.flatten_cons, Nat.sub_eq_zero_of_le (by omega)]
      exact ⟨rfl, rfl⟩

/-- The capture holds the last of the bytes read, and knows how many. -/
def Captured (read : Bytes) (capture : BoundedStderrCapture) : Prop :=
  capture.snapshot = read.rtake capture.maxBytes ∧ capture.size = capture.snapshot.length

theorem captured_append {read : Bytes} {capture : BoundedStderrCapture}
    (captured : Captured read capture) (chunk : Bytes) :
    Captured (read ++ chunk) (capture.append chunk) := by
  have counted : capture.size + chunk.length = (capture.chunks ++ [chunk]).flatten.length := by
    rw [captured.2, snapshot, List.flatten_concat, List.length_append]
  have kept := trim_rtake capture.maxBytes (capture.chunks ++ [chunk])
  rw [← counted] at kept
  refine ⟨?_, kept.2.trans (congrArg List.length kept.1.symm)⟩
  -- the bytes dropped before are not among the last ones of the longer text either
  calc (capture.append chunk).snapshot
      = (capture.snapshot ++ chunk).rtake capture.maxBytes := by
        rw [show capture.snapshot ++ chunk = _ from List.flatten_concat.symm]
        exact kept.1
    _ = (read ++ chunk).rtake capture.maxBytes := by
        rw [captured.1]
        simp only [List.rtake, List.length_append, List.length_drop, List.drop_append, List.drop_drop]
        congr 2 <;> omega

/-- **The snapshot is the last bytes that were read**, after any sequence of chunks. -/
theorem captured_run (maxBytes : ℕ+) (chunks : List Bytes) :
    let capture := chunks.foldl append { maxBytes }
    let read := chunks.flatten
    capture.snapshot = read.rtake (min read.length maxBytes) ∧
      capture.size = capture.snapshot.length := by
  have captured : Captured chunks.flatten (chunks.foldl append { maxBytes }) ∧
      (chunks.foldl append { maxBytes }).maxBytes = maxBytes := by
    induction chunks using List.reverseRecOn with
    | nil => simp [Captured, snapshot]
    | append_singleton chunks chunk ih =>
      rw [List.foldl_concat, List.flatten_concat]
      exact ⟨captured_append ih.1 chunk, ih.2⟩
  refine ⟨?_, captured.1.2⟩
  rw [captured.1.1, captured.2]
  simp only [List.rtake]
  congr 1
  omega

end BoundedStderrCapture

end SerenaLight.Lsp
