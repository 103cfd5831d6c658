/-
**The native configuration files that are watched** (`_native_config_candidates` of `runtime.py`).

- `parents`: the directories that the walk from a source to the root visits.
- `mem_candidates_iff`: **a path is watched exactly if** it is a watched name in a directory above a
  source of its family, or the configuration that a projection has selected.
-/

import Mathlib.Data.List.Infix
import SerenaLight.BuildIdentity
import SerenaLight.Workspace.Documents

namespace SerenaLight.Workspace

/-- The parts of `PurePosixPath(path)`, for a relative path. -/
def pathParts (path : String) : List String :=
  ((path.toList.splitOn '/').map String.ofList).filter fun part => part ≠ "" ∧ part ≠ "."

/-- `as_posix` of a path with parts. -/
def asPosix (parts : List String) : String := "/".intercalate parts

/-- The paths of a `TrustInventory`. -/
structure TrustInventory where
  paths : List String
  relative : ∀ path ∈ paths, path.toList.head? ≠ some '/'

namespace LanguageFamily

/-- `_FAMILY_EXTENSIONS`. -/
def extensions : LanguageFamily → List String
  | python => [".py", ".pyi"]
  | typescript => [".js", ".jsx", ".mjs", ".cjs", ".ts", ".tsx", ".mts", ".cts"]

/-- `_NATIVE_CONFIG_WATCH`. -/
def nativeConfigWatch : LanguageFamily → List String
  | python => ["pyrightconfig.json", "pyproject.toml"]
  | typescript => ["jsconfig.json", "tsconfig.json"]

/-- The test of `_paths_for`; `lower` is `str.lower`. -/
def owns (lower : String → String) (family : LanguageFamily) (path : String) : Bool :=
  lower (String.ofList (BuildIdentity.suffix ((pathParts path).getLastD ""))) ∈ family.extensions

end LanguageFamily

/-- The walk from a directory, given by its parts from the last one on, up to the root. -/
def parents : List String → List (List String)
  | [] => []
  | name :: above => (name :: above).reverse :: parents above

/-- What the loop adds for one source. -/
def configsAbove (names : List String) (source : String) : List String :=
  (parents (pathParts source).dropLast.reverse).flatMap
    (fun directory => names.map fun name => asPosix (directory ++ [name])) ++ names

/-- `_native_config_candidates`, with the selected configuration paths of the projections. -/
def nativeConfigCandidates (lower : String → String) (inventory : TrustInventory)
    (selected : LanguageFamily → Option String) : List String :=
  [LanguageFamily.python, .typescript].flatMap fun family =>
    (inventory.paths.filter (family.owns lower)).flatMap (configsAbove family.nativeConfigWatch) ++
      (selected family).toList.filter (· ≠ "")

theorem mem_parents_iff {directory parts : List String} :
    directory ∈ parents parts ↔ directory ≠ [] ∧ directory <+: parts.reverse := by
  induction parts with
  | nil => simp [parents]
  | cons name above ih =>
    rw [parents, List.mem_cons, ih, List.reverse_cons, List.prefix_concat_iff, and_or_left]
    refine or_congr_left (and_iff_right_of_imp ?_).symm
    rintro rfl
    simp

theorem mem_configsAbove_iff {names : List String} {source path : String} :
    path ∈ configsAbove names source ↔ ∃ name ∈ names, ∃ directory,
      directory <+: (pathParts source).dropLast ∧ path = asPosix (directory ++ [name]) := by
  simp only [configsAbove, List.mem_append, List.mem_flatMap, List.mem_map, mem_parents_iff,
    List.reverse_reverse]
  constructor
  · rintro (⟨directory, ⟨-, above⟩, name, watched, rfl⟩ | watched)
    · exact ⟨name, watched, directory, above, rfl⟩
    · exact ⟨path, watched, [], List.nil_prefix, rfl⟩
  · rintro ⟨name, watched, directory, above, rfl⟩
    by_cases root : directory = []
    · subst root
      exact .inr watched
    · exact .inl ⟨directory, ⟨root, above⟩, name, watched, rfl⟩

/-- **What is watched.** -/
theorem mem_candidates_iff (lower : String → String) (inventory : TrustInventory)
    (selected : LanguageFamily → Option String) (path : String) :
    path ∈ nativeConfigCandidates lower inventory selected ↔
      (∃ family : LanguageFamily, ∃ source ∈ inventory.paths, family.owns lower source = true ∧
        ∃ name ∈ family.nativeConfigWatch, ∃ directory,
          directory <+: (pathParts source).dropLast ∧ path = asPosix (directory ++ [name])) ∨
      ∃ family, selected family = some path ∧ path ≠ "" := by
  have both (holds : LanguageFamily → Prop) :
      (∃ family ∈ [LanguageFamily.python, .typescript], holds family) ↔ ∃ family, holds family :=
    ⟨fun ⟨family, _, held⟩ => ⟨family, held⟩,
      fun ⟨family, held⟩ => ⟨family, by cases family <;> simp, held⟩⟩
  simp only [nativeConfigCandidates, List.mem_flatMap, List.mem_append, both, exists_or,
    List.mem_filter, mem_configsAbove_iff, Option.mem_toList, decide_eq_true_eq,
    and_assoc]

end SerenaLight.Workspace
