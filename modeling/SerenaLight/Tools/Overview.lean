/-
**The filtered overview of a file's symbols** (`_overview_files` of `compact_adapter.py`).

- `OverviewFilter.admits`: whether a symbol matches by itself, at its place in the forest.
- `OverviewNode.Holds`: whether it does, or one of its descendants.
- `overview_keeps`: **the symbols that hold a match are kept**, in order, each below its own parent, and
  marked as intrinsic exactly if they match by themselves.
-/

import Mathlib.Data.List.Forall2

namespace SerenaLight.Tools

/-- `_SYMBOL_KINDS`. -/
def symbolKinds : List String :=
  ["file", "module", "namespace", "package", "class", "method", "property", "field", "constructor",
    "enum", "interface", "function", "variable", "constant", "string", "number", "boolean", "array",
    "object", "key", "null", "enum_member", "struct", "event", "operator", "type_parameter"]

/-- `symbol_kind`. -/
def symbolKind (value : Int) : String :=
  if 1 ≤ value ∧ value ≤ symbolKinds.length then symbolKinds.getD (value - 1).toNat ""
  else "unknown:" ++ toString value

/-- A symbol object of the overview data, well formed. -/
structure OverviewNode where
  name : String
  kind : Int
  children : List OverviewNode

structure CompactOverviewSymbol where
  name : String
  kind : Int
  children : List CompactOverviewSymbol
  intrinsicMatch : Bool

structure OverviewFilter where
  included : List String
  excluded : List String
  maxDepth : Int

/-- `matches`. -/
def OverviewFilter.admits (filter : OverviewFilter) (isRoot : Bool) (kind : Int) : Bool :=
  let renderedKind := symbolKind kind
  let suppressedDescendantNoise := 0 < filter.maxDepth && !isRoot &&
    ["variable", "constant"].contains renderedKind && !filter.included.contains renderedKind
  !suppressedDescendantNoise &&
    (filter.included.isEmpty || filter.included.contains renderedKind) &&
    !filter.excluded.contains renderedKind

variable (filter : OverviewFilter)

mutual

/-- `_overview_symbol`. -/
def overviewSymbol (isRoot : Bool) : OverviewNode → Option CompactOverviewSymbol
  | ⟨name, kind, children⟩ =>
    let below := overviewChildren children
    let admitted := filter.admits isRoot kind
    if admitted || !below.isEmpty then some ⟨name, kind, below, admitted⟩ else none

def overviewChildren : List OverviewNode → List CompactOverviewSymbol
  | [] => []
  | child :: rest => (overviewSymbol false child).toList ++ overviewChildren rest

end

/-- `_overview_files`. -/
def overviewFiles (path : String) (symbols : List OverviewNode) :
    List (String × List CompactOverviewSymbol) :=
  match symbols.filterMap (overviewSymbol filter true) with
  | [] => []
  | kept => [(path, kept)]

/-! ### What is kept -/

namespace OverviewNode

/-- The symbol matches, or a descendant does. -/
inductive Holds : Bool → OverviewNode → Prop
  | here {isRoot node} : filter.admits isRoot node.kind = true → Holds isRoot node
  | inside {isRoot node child} : child ∈ node.children → Holds false child → Holds isRoot node

open Classical in
/-- A symbol as it is kept: with those children that hold a match, in their order. -/
inductive Kept : Bool → OverviewNode → CompactOverviewSymbol → Prop
  | node {isRoot name kind children shown} :
      List.Forall₂ (Kept false) (children.filter (Holds filter false ·)) shown →
      Kept isRoot ⟨name, kind, children⟩ ⟨name, kind, shown, filter.admits isRoot kind⟩

theorem holds_iff {isRoot : Bool} {node : OverviewNode} :
    Holds filter isRoot node ↔
      filter.admits isRoot node.kind = true ∨ ∃ child ∈ node.children, Holds filter false child := by
  constructor
  · rintro (admitted | ⟨member, holds⟩)
    · exact .inl admitted
    · exact .inr ⟨_, member, holds⟩
  · rintro (admitted | ⟨child, member, holds⟩)
    · exact .here admitted
    · exact .inside member holds

/-- What becomes of a symbol. -/
def Settled (isRoot : Bool) (node : OverviewNode) : Option CompactOverviewSymbol → Prop
  | none => ¬Holds filter isRoot node
  | some shown => Holds filter isRoot node ∧ Kept filter isRoot node shown

end OverviewNode

open OverviewNode

variable {filter}

open Classical in
theorem kept_filterMap {isRoot : Bool} {nodes : List OverviewNode}
    (each : ∀ node ∈ nodes, Settled filter isRoot node (overviewSymbol filter isRoot node)) :
    List.Forall₂ (Kept filter isRoot) (nodes.filter (Holds filter isRoot ·))
      (nodes.filterMap (overviewSymbol filter isRoot)) := by
  induction nodes with
  | nil => exact .nil
  | cons node rest ih =>
    rw [List.forall_mem_cons] at each
    have later := ih each.2
    have first := each.1
    rw [List.filterMap_cons]
    cases shown : overviewSymbol filter isRoot node with
    | none =>
      rw [shown] at first
      rwa [List.filter_cons_of_neg (by simpa [Settled] using first)]
    | some symbol =>
      rw [shown] at first
      rw [List.filter_cons_of_pos (by simpa using first.1)]
      exact .cons first.2 later

theorem overviewChildren_eq (children : List OverviewNode) :
    overviewChildren filter children = children.filterMap (overviewSymbol filter false) := by
  induction children with
  | nil => rfl
  | cons child rest ih =>
    rw [overviewChildren, ih, List.filterMap_cons]
    cases overviewSymbol filter false child <;> rfl

mutual

theorem overviewSymbol_settled (isRoot : Bool) :
    ∀ node, Settled filter isRoot node (overviewSymbol filter isRoot node)
  | ⟨name, kind, children⟩ => by
    have kept := kept_filterMap (overviewSymbols_settled children)
    rw [← overviewChildren_eq] at kept
    have held : (filter.admits isRoot kind || !(overviewChildren filter children).isEmpty) = true ↔
        Holds filter isRoot ⟨name, kind, children⟩ := by
      rw [holds_iff, Bool.or_eq_true, Bool.not_eq_true', List.isEmpty_eq_false_iff,
        ← List.length_pos_iff, ← kept.length_eq, List.length_filter_pos_iff]
      simp
    unfold overviewSymbol
    dsimp only
    split_ifs with shown
    · exact ⟨held.mp shown, .node kept⟩
    · exact fun holds => shown (held.mpr holds)

theorem overviewSymbols_settled :
    ∀ nodes : List OverviewNode,
      ∀ node ∈ nodes, Settled filter false node (overviewSymbol filter false node)
  | [] => nofun
  | node :: rest => by
    rw [List.forall_mem_cons]
    exact ⟨overviewSymbol_settled false node, overviewSymbols_settled rest⟩

end

open Classical in
/-- **The overview keeps what holds a match**, and nothing else. -/
theorem overview_keeps (filter : OverviewFilter) (path : String) (symbols : List OverviewNode) :
    ∃ shown, List.Forall₂ (Kept filter true) (symbols.filter (Holds filter true ·)) shown ∧
      overviewFiles filter path symbols = if shown.isEmpty then [] else [(path, shown)] := by
  refine ⟨_, kept_filterMap fun node _ => overviewSymbol_settled true node, ?_⟩
  unfold overviewFiles
  split <;> simp_all

end SerenaLight.Tools
