/-
**The rotated debug log** (`debug_logging.py`).

The current file is number 0 and a backup has the number of its suffix. The runs modelled are of one
process, and every operation on a file succeeds.

- `rotated_apply`: the renames from the highest number down move each file up by one, and the oldest
  one is gone.
- `Rotated.report`: so the files stay the blocks of the last lines.
- `rotated_run`: **the files are a suffix of the lines**, after any reports.
-/

import Mathlib.Data.List.Infix
import Mathlib.Logic.Function.Basic
import SerenaLight.Lsp.Positions

namespace SerenaLight.DebugLog

open Lsp

/-- The files of the log, by number. -/
abbrev Files := Nat → Option Bytes

/-- `render` is `_render`. -/
structure DebugLogger where
  maxBytes : Nat
  backupCount : Nat
  safe : 128 ≤ maxBytes
  render : String → String → String

def rename (files : Files) (source target : Nat) : Files :=
  Function.update (Function.update files target (files source)) source none

def unlink (files : Files) (name : Nat) : Files := Function.update files name none

namespace DebugLogger

variable (logger : DebugLogger)

/-- The loop of `_rotate_if_needed`, from a number down to 1. -/
def moveBackups : Nat → Files → Files
  | 0, files => files
  | index + 1, files =>
    moveBackups index
      (if (files (index + 1)).isSome then
        if index + 1 = logger.backupCount then unlink files (index + 1)
        else rename files (index + 1) (index + 2)
      else files)

/-- The files after a rotation. -/
def rotate (files : Files) : Files :=
  let moved := logger.moveBackups logger.backupCount files
  if logger.backupCount = 0 then unlink moved 0 else rename moved 0 1

/-- `_rotate_if_needed`. -/
def rotateIfNeeded (files : Files) (incoming : Nat) : Files :=
  match files 0 with
  | none => files
  | some current =>
    if current.length + incoming ≤ logger.maxBytes then files else logger.rotate files

/-- `_write_file`. -/
def writeFile (files : Files) (line : Bytes) : Files :=
  let files := logger.rotateIfNeeded files line.length
  Function.update files 0 (some ((files 0).getD [] ++ line))

/-- The line of a report, with its line break. -/
def line (event message : String) : Bytes :=
  (logger.render event message).toByteArray.data.toList ++ [10]

/-- `report`. -/
def report (files : Files) (summary : String × String) : Files :=
  logger.writeFile files (logger.line summary.1 summary.2)

/-! ### A rotation -/

variable {logger} {files : Files}

/-- The loop has moved the files above `top` and finds the place above it free. -/
theorem moveBackups_apply {top : Nat} (within : top ≤ logger.backupCount)
    (free : top < logger.backupCount → files (top + 1) = none) (index : Nat) :
    logger.moveBackups top files index =
      if index = 0 ∨ top + 1 < index ∨ logger.backupCount < index then files index
      else if index = 1 then none else files (index - 1) := by
  induction top generalizing files with
  | zero =>
    rw [moveBackups]
    split_ifs with kept first
    · rfl
    · rw [first, free (by omega)]
    · omega
  | succ top ih =>
    rw [moveBackups]
    generalize moved : (if (files (top + 1)).isSome then _ else files) = after
    have gone : after (top + 1) = none := by
      rw [← moved]
      split_ifs with present last
      · exact Function.update_self ..
      · exact Function.update_self ..
      · exact Option.not_isSome_iff_eq_none.mp present
    have below {other : Nat} (apart : other ≠ top + 1) (far : other ≠ top + 2) :
        after other = files other := by
      rw [← moved]
      split_ifs
      · exact Function.update_of_ne apart ..
      · rw [rename, Function.update_of_ne apart, Function.update_of_ne far]
      · rfl
    have above : after (top + 2) =
        if top + 1 = logger.backupCount then files (top + 2) else files (top + 1) := by
      rw [← moved]
      split_ifs with present last last
      · exact Function.update_of_ne (by omega) ..
      · rw [rename, Function.update_of_ne (by omega), Function.update_self]
      · rfl
      · rw [free (by omega), Option.not_isSome_iff_eq_none.mp present]
    rw [ih (by omega) fun _ => gone]
    grind

/-- **A rotation moves every file up by one**, and the highest one away. -/
theorem rotate_apply (index : Nat) :
    logger.rotate files index =
      if index = 0 then none
      else if index ≤ logger.backupCount then files (index - 1) else files index := by
  have moved (index : Nat) : logger.moveBackups logger.backupCount files index = _ :=
    moveBackups_apply le_rfl (fun below => absurd below (lt_irrefl _)) index
  unfold rotate
  by_cases none : logger.backupCount = 0
  · rw [if_pos none, none, unlink, Function.update_apply, moveBackups]
    split_ifs <;> first | rfl | omega
  · rw [if_neg none, rename, Function.update_apply, Function.update_apply, moved, moved]
    split_ifs <;> first | rfl | omega | (subst_vars; rfl)

/-! ### Any reports -/

/-- **What the files hold**: `blocks` of the last lines written, the newest block first. -/
structure Rotated (logger : DebugLogger) (written : List Bytes) (files : Files)
    (blocks : List (List Bytes)) : Prop where
  contents : ∀ index, files index = blocks[index]?.map List.flatten
  bounded : blocks.length ≤ logger.backupCount + 1
  recent : blocks.reverse.flatten <:+ written
  small : ∀ block ∈ blocks, block ≠ [] ∧
    (block.flatten.length ≤ logger.maxBytes ∨ block.length = 1)

theorem contents_update {content : Bytes} {block : List Bytes} {older : List (List Bytes)}
    (whole : block.flatten = content)
    (rest : ∀ index, files (index + 1) = older[index]?.map List.flatten) (index : Nat) :
    Function.update files 0 (some content) index = (block :: older)[index]?.map List.flatten := by
  cases index with
  | zero => rw [Function.update_self, List.getElem?_cons_zero, Option.map_some, whole]
  | succ index => rw [Function.update_of_ne (Nat.succ_ne_zero _), rest, List.getElem?_cons_succ]

/-- One more line goes to the newest block, or begins a block and drops the oldest one. -/
theorem Rotated.writeFile {written : List Bytes} {blocks : List (List Bytes)}
    (rotated : Rotated logger written files blocks) (line : Bytes) :
    ∃ blocks', Rotated logger (written ++ [line]) (logger.writeFile files line) blocks' := by
  obtain ⟨dropped, rfl⟩ := rotated.recent
  unfold DebugLogger.writeFile rotateIfNeeded
  rw [rotated.contents 0]
  cases blocks with
  | nil =>
    refine ⟨[[line]], ?_, by simp, List.suffix_append .., by simp⟩
    show ∀ index, Function.update files 0 (some ((files 0).getD [] ++ line)) index = _
    refine contents_update ?_ fun index => rotated.contents (index + 1)
    rw [List.flatten_singleton, show files 0 = none from rotated.contents 0]
    rfl
  | cons current older =>
    dsimp only [List.getElem?_cons_zero, Option.map_some]
    split_ifs with fits
    · refine ⟨(current ++ [line]) :: older, ?_, rotated.bounded, ⟨dropped, by simp⟩, ?_⟩
      · refine contents_update ?_ fun index => rotated.contents (index + 1)
        rw [List.flatten_concat, rotated.contents 0]
        rfl
      · have small := rotated.small
        rw [List.forall_mem_cons] at small ⊢
        refine ⟨⟨by simp, .inl ?_⟩, small.2⟩
        rwa [List.flatten_concat, List.length_append]
    · have long := rotated.bounded
      generalize current :: older = blocks at rotated long
      refine ⟨[line] :: blocks.take logger.backupCount, ?_, ?_, ?_, ?_⟩
      · refine contents_update (by simp [rotate_apply]) fun index => ?_
        rw [rotate_apply, if_neg (Nat.succ_ne_zero _), List.getElem?_take, rotated.contents,
          rotated.contents, Nat.add_sub_cancel]
        simp only [Nat.succ_le_iff]
        split_ifs
        · rfl
        · rw [List.getElem?_eq_none (by omega)]
      · rw [List.length_cons, List.length_take]
        omega
      · -- the blocks that are gone are the oldest ones
        refine ⟨dropped ++ (blocks.drop logger.backupCount).reverse.flatten, ?_⟩
        conv_rhs => rw [← List.take_append_drop logger.backupCount blocks]
        simp [-List.take_append_drop]
      · rw [List.forall_mem_cons]
        exact ⟨by simp, fun block member => rotated.small block (List.mem_of_mem_take member)⟩

/-- **The files are a suffix of the lines**, in blocks with contiguous numbers, none of them too long
but for a single line. -/
theorem rotated_run (logger : DebugLogger) (reports : List (String × String)) :
    ∃ blocks, Rotated logger (reports.map fun summary => logger.line summary.1 summary.2)
      (reports.foldl logger.report fun _ => none) blocks := by
  induction reports using List.reverseRecOn with
  | nil => exact ⟨[], fun _ => rfl, Nat.zero_le _, List.suffix_refl _, nofun⟩
  | append_singleton reports summary ih =>
    obtain ⟨blocks, rotated⟩ := ih
    rw [List.foldl_concat, List.map_append]
    exact rotated.writeFile _

end DebugLogger

end SerenaLight.DebugLog
