/-
**The symbol that contains a location** (`containing_symbol` of `lsp/normalize.py`).

- `Range.sizeKey_lt`: a range inside another one has the smaller key, on one line or on many.
- `containingSymbol_narrowest`: a symbol is found exactly if one contains the location, and none
  that does lies strictly inside it.
-/

import Mathlib.Data.Prod.Lex
import SerenaLight.Lsp.Normalize

namespace SerenaLight.Lsp

/-- The order of the keys is decided part by part. -/
instance decidableLtSize : DecidableLT (Int ×ₗ Int ×ₗ Int ×ₗ Int) :=
  inferInstanceAs (DecidableRel
    (Prod.Lex (· < ·) (Prod.Lex (· < ·) (Prod.Lex (· < ·) (· < ·)))))

namespace Range

/-- `contains`, with the order of the dataclass. -/
def Contains (range : Range) (position : Position) : Prop :=
  ¬position < range.start ∧ position < range.stop

instance (range : Range) (position : Position) : Decidable (range.Contains position) :=
  inferInstanceAs (Decidable (_ ∧ _))

/-- `_range_size_key`. -/
def sizeKey (range : Range) : Int ×ₗ Int ×ₗ Int ×ₗ Int :=
  toLex (range.stop.line - range.start.line,
    toLex (if range.stop.line = range.start.line then range.stop.character - range.start.character
      else range.stop.character,
    toLex (-range.start.line, -range.start.character)))

/-- The range is a part of the other one, and not all of it. -/
def StrictlyInside (inner outer : Range) : Prop :=
  ¬inner.start < outer.start ∧ ¬outer.stop < inner.stop ∧ inner ≠ outer

theorem position_lt_iff {first second : Position} : first < second ↔ first.line < second.line ∨
    first.line = second.line ∧ first.character < second.character := Iff.rfl

/-- **A range inside another one has the smaller key.** -/
theorem sizeKey_lt {inner outer : Range} (inside : inner.StrictlyInside outer) :
    inner.sizeKey < outer.sizeKey := by
  obtain ⟨⟨startLine, startCharacter⟩, ⟨stopLine, stopCharacter⟩, _, _⟩ := inner
  obtain ⟨⟨startLine', startCharacter'⟩, ⟨stopLine', stopCharacter'⟩, _, _⟩ := outer
  obtain ⟨after, before, different⟩ := inside
  simp only [sizeKey, Prod.Lex.toLex_lt_toLex, position_lt_iff, ne_eq, Range.mk.injEq,
    LspPosition.mk.injEq] at after before different ⊢
  -- with as many lines the two start on one line and end on one line
  split_ifs <;> omega

end Range

/-- The symbol is a candidate of `containing_symbol`. -/
def NormalizedSymbol.Covers (symbol : NormalizedSymbol) (location : Location) : Prop :=
  symbol.location.uri = location.uri ∧ symbol.location.range.Contains location.range.start

instance (symbol : NormalizedSymbol) (location : Location) : Decidable (symbol.Covers location) :=
  inferInstanceAs (Decidable (_ ∧ _))

/-- `min` by `_range_size_key`: the first of the smallest. -/
def narrowest (best : NormalizedSymbol) : List NormalizedSymbol → NormalizedSymbol
  | [] => best
  | symbol :: rest =>
    narrowest (if symbol.location.range.sizeKey < best.location.range.sizeKey then symbol else best)
      rest

/-- `containing_symbol`. -/
def containingSymbol (symbols : List NormalizedSymbol) (location : Location) :
    Option NormalizedSymbol :=
  match (symbols.flatMap NormalizedSymbol.depthFirst).filter (·.Covers location) with
  | [] => none
  | first :: rest => some (narrowest first rest)

theorem narrowest_mem (best : NormalizedSymbol) (rest : List NormalizedSymbol) :
    narrowest best rest ∈ best :: rest := by
  induction rest generalizing best with
  | nil => exact List.mem_singleton_self best
  | cons symbol rest ih =>
    unfold narrowest
    split
    · exact List.mem_cons_of_mem _ (ih symbol)
    · rcases List.mem_cons.mp (ih best) with same | among
      · exact List.mem_cons.mpr (.inl same)
      · exact List.mem_cons_of_mem _ (List.mem_cons_of_mem _ among)

/-- No key is smaller than that of the symbol chosen. -/
theorem narrowest_le (best : NormalizedSymbol) (rest : List NormalizedSymbol) :
    ∀ symbol ∈ best :: rest,
      (narrowest best rest).location.range.sizeKey ≤ symbol.location.range.sizeKey := by
  induction rest generalizing best with
  | nil =>
    intro symbol member
    rw [List.mem_singleton.mp member]
    exact le_rfl
  | cons next rest ih =>
    unfold narrowest
    intro symbol member
    split
    · rename_i smaller
      rcases List.mem_cons.mp member with rfl | member
      · exact (ih next next List.mem_cons_self).trans smaller.le
      · exact ih next symbol member
    · rename_i larger
      rcases List.mem_cons.mp member with rfl | member
      · exact ih symbol symbol List.mem_cons_self
      · rcases List.mem_cons.mp member with rfl | member
        · exact (ih best best List.mem_cons_self).trans (not_lt.mp larger)
        · exact ih best symbol (List.mem_cons_of_mem _ member)

/-- **The narrowest symbol is found**, for any ranges. -/
theorem containingSymbol_narrowest (symbols : List NormalizedSymbol) (location : Location) :
    ((containingSymbol symbols location).isSome ↔
      ∃ symbol ∈ symbols.flatMap NormalizedSymbol.depthFirst, symbol.Covers location) ∧
    ∀ found ∈ containingSymbol symbols location,
      found ∈ symbols.flatMap NormalizedSymbol.depthFirst ∧ found.Covers location ∧
      ∀ other ∈ symbols.flatMap NormalizedSymbol.depthFirst, other.Covers location →
        ¬other.location.range.StrictlyInside found.location.range := by
  have candidate (symbol : NormalizedSymbol) :
      symbol ∈ (symbols.flatMap NormalizedSymbol.depthFirst).filter (·.Covers location) ↔
        symbol ∈ symbols.flatMap NormalizedSymbol.depthFirst ∧ symbol.Covers location := by
    rw [List.mem_filter, decide_eq_true_eq]
  unfold containingSymbol
  cases candidates : (symbols.flatMap NormalizedSymbol.depthFirst).filter (·.Covers location) with
  | nil =>
    refine ⟨⟨nofun, ?_⟩, nofun⟩
    rintro ⟨symbol, member, covers⟩
    have among := (candidate symbol).mpr ⟨member, covers⟩
    rw [candidates] at among
    cases among
  | cons first rest =>
    rw [candidates] at candidate
    refine ⟨⟨fun _ => ⟨first, (candidate first).mp List.mem_cons_self⟩, fun _ => rfl⟩, ?_⟩
    rintro found ⟨⟩
    obtain ⟨member, covers⟩ := (candidate _).mp (narrowest_mem first rest)
    refine ⟨member, covers, fun other among holds inside => ?_⟩
    have smallest := narrowest_le first rest other ((candidate other).mpr ⟨among, holds⟩)
    exact absurd (Range.sizeKey_lt inside) (not_lt.mpr smallest)

end SerenaLight.Lsp
