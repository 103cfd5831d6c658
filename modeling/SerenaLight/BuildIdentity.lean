/-
**The identity of a build** (`build_identity.py`).

A build identity is the SHA-256 of the runtime sources, of a digest of two lock files and of two
versions. The model is about the byte strings that are hashed; the hash itself is any function.

- `updateField_inj`: a labelled and length-prefixed field can be read back (`flatMap_inj`: so can many).
- `sources_eq_iff`: the sorted sources are the map from paths to bytes.
- `hashed_apart_iff`: a build is hashed apart from every build that differs, exactly when the mark that
  stands between its lock files does not occur in them a second time.
-/

import Mathlib
import SerenaLight.Lsp.Positions
import SerenaLight.Foundation.Except

namespace SerenaLight.BuildIdentity

open Foundation Lsp

/-- `text.encode("utf-8")`. -/
def utf8 (text : String) : Bytes := text.toByteArray.data.toList

theorem utf8_inj {first second : String} (same : utf8 first = utf8 second) : first = second :=
  String.toByteArray_inj.mp (ByteArray.ext (Array.toList_inj.mp same))

/-- Why there is no identity. -/
inductive BuildFailure where
  | algorithmVersion
  | schemaVersion
  | noSources
  | missingLock (name : String)
  | overflow
  deriving DecidableEq

/-- What an identity is computed from: the regular files below `src/serena_light`, by their paths from
the root, their bytes, the files of the root and the two versions. -/
structure Build where
  files : Finset String
  bytes : String → Bytes
  root : String → Option Bytes
  publicToolSchemaVersion : String
  algorithmVersion : Int

/-- `path.suffix`. -/
def suffix (path : String) : List Char :=
  let name := (path.toList.reverse.takeWhile (· ≠ '/')).reverse
  let ending := (name.reverse.takeWhile (· ≠ '.')).reverse
  if ending ≠ [] ∧ ending.length + 1 < name.length then '.' :: ending else []

namespace Build

variable (build : Build)

/-- The paths that `runtime_source_files` keeps. -/
def runtimePaths : Finset String :=
  build.files.filter fun path => suffix path = ".mjs".toList ∨ suffix path = ".py".toList

/-- `runtime_source_files`, with the bytes that are read. -/
def runtimeSourceFiles : List (String × Bytes) :=
  (build.runtimePaths.sort (· ≤ ·)).map fun path => (path, build.bytes path)

/-- What `dependency_lock_digest` hashes of a lock file. -/
def lockInput (name : String) : Except BuildFailure Bytes :=
  match build.root name with
  | none => throw (.missingLock name)
  | some content => return utf8 name ++ 0 :: content ++ [0]

end Build

/-- `number.to_bytes(width, "big")`, up to `256 ^ width`. -/
def bigEndian : Nat → Nat → Bytes
  | 0, _ => []
  | width + 1, number => bigEndian width (number / 256) ++ [UInt8.ofNat number]

/-- `_update_field`. -/
def updateField (field : String × Bytes) : Bytes :=
  bigEndian 4 (utf8 field.1).length ++ utf8 field.1 ++ bigEndian 8 field.2.length ++ field.2

/-- Both lengths of a field can be written. -/
def Fits (field : String × Bytes) : Prop :=
  (utf8 field.1).length < 256 ^ 4 ∧ field.2.length < 256 ^ 8

instance : DecidablePred Fits := fun _ => inferInstanceAs (Decidable (_ ∧ _))

def sourceFields (source : String × Bytes) : List (String × Bytes) :=
  [("source-path", utf8 source.1), ("source-bytes", source.2)]

/-- The fields of the identity. -/
def Build.fields (build : Build) (digest : Bytes) : List (String × Bytes) :=
  ("algorithm", utf8 build.algorithmVersion.repr) :: build.runtimeSourceFiles.flatMap sourceFields ++
    [("dependency-lock", digest), ("public-tool-schema", utf8 build.publicToolSchemaVersion)]

/-- `compute_build_identity`: what is hashed for the lock files, and what is hashed for the identity,
with the hexadecimal digest `sha256`. -/
def Build.hashed (build : Build) (sha256 : Bytes → Bytes) : Except BuildFailure (Bytes × Bytes) :=
  if build.algorithmVersion ≤ 0 then throw .algorithmVersion
  else if build.publicToolSchemaVersion = "" then throw .schemaVersion
  else if build.runtimeSourceFiles = [] then throw .noSources
  else do
    let locks := (← build.lockInput "uv.lock") ++ (← build.lockInput "package-lock.json")
    if ∀ field ∈ build.fields (sha256 locks), Fits field then
      return (locks, (build.fields (sha256 locks)).flatMap updateField)
    else throw .overflow

/-! ### Fields can be read back -/

/-- **A concatenation can be read back** if its first part can. -/
theorem flatMap_inj {Item Part : Type} {parts : Item → List Part} {fits : Item → Prop}
    (first : ∀ {item item' rest rest'}, fits item → fits item' →
      parts item ++ rest = parts item' ++ rest' → item = item' ∧ rest = rest')
    (filled : ∀ item rest, parts item ++ rest ≠ []) {items items' : List Item}
    (all : ∀ item ∈ items, fits item) (all' : ∀ item ∈ items', fits item)
    (same : items.flatMap parts = items'.flatMap parts) : items = items' := by
  induction items generalizing items' with
  | nil =>
    cases items' with
    | nil => rfl
    | cons item rest => exact absurd same.symm (filled item _)
  | cons item rest ih =>
    cases items' with
    | nil => exact absurd same (filled item _)
    | cons item' rest' =>
      rw [List.forall_mem_cons] at all all'
      obtain ⟨rfl, below⟩ := first all.1 all'.1 same
      rw [ih all.2 all'.2 below]

theorem length_bigEndian (width number : Nat) : (bigEndian width number).length = width := by
  induction width generalizing number with
  | zero => rfl
  | succ width ih => rw [bigEndian, List.length_append, ih, List.length_singleton]

theorem bigEndian_inj {width first second : Nat} (small : first < 256 ^ width)
    (small' : second < 256 ^ width) (same : bigEndian width first = bigEndian width second) :
    first = second := by
  induction width generalizing first second with
  | zero => omega
  | succ width ih =>
    obtain ⟨high, low⟩ := List.append_inj' same rfl
    have quotients := ih (by omega) (by omega) high
    have remainders := congrArg UInt8.toNat (List.singleton_inj.mp low)
    simp only [UInt8.toNat_ofNat'] at remainders
    omega

theorem updateField_inj {field field' : String × Bytes} {rest rest' : Bytes} (fits : Fits field)
    (fits' : Fits field') (same : updateField field ++ rest = updateField field' ++ rest') :
    field = field' ∧ rest = rest' := by
  simp only [updateField, List.append_assoc] at same
  obtain ⟨width, same⟩ := List.append_inj same (by simp [length_bigEndian])
  obtain ⟨label, same⟩ := List.append_inj same (bigEndian_inj fits.1 fits'.1 width)
  obtain ⟨width, same⟩ := List.append_inj same (by simp [length_bigEndian])
  obtain ⟨value, same⟩ := List.append_inj same (bigEndian_inj fits.2 fits'.2 width)
  exact ⟨Prod.ext (utf8_inj label) value, same⟩

theorem updateField_ne_nil (field : String × Bytes) (rest : Bytes) :
    updateField field ++ rest ≠ [] := by
  intro none
  have lengths := congrArg List.length none
  simp only [updateField, List.length_append, length_bigEndian, List.length_nil] at lengths
  omega

theorem sourceFields_inj {source source' : String × Bytes} {rest rest' : List (String × Bytes)}
    (same : sourceFields source ++ rest = sourceFields source' ++ rest') :
    source = source' ∧ rest = rest' := by
  simp only [sourceFields, List.cons_append, List.cons.injEq, Prod.mk.injEq, true_and] at same
  exact ⟨Prod.ext (utf8_inj same.1) same.2.1, same.2.2⟩

/-! ### Two builds -/

namespace Build

variable {first second : Build}

/-- The same runtime sources, with the same bytes. -/
def SameSources (first second : Build) : Prop :=
  first.runtimePaths = second.runtimePaths ∧
    ∀ path ∈ first.runtimePaths, first.bytes path = second.bytes path

theorem sources_eq_iff :
    first.runtimeSourceFiles = second.runtimeSourceFiles ↔ first.SameSources second := by
  constructor
  · intro same
    have paths := congrArg (List.map Prod.fst) same
    simp only [runtimeSourceFiles, List.map_map, Function.comp_def, List.map_id'] at paths
    have sets : first.runtimePaths = second.runtimePaths := by
      simpa using congrArg List.toFinset paths
    refine ⟨sets, fun path member => ?_⟩
    rw [runtimeSourceFiles, runtimeSourceFiles, ← sets] at same
    exact congrArg Prod.snd (List.map_inj_left.mp same path (by simpa using member))
  · rintro ⟨sets, contents⟩
    rw [runtimeSourceFiles, runtimeSourceFiles, ← sets]
    refine List.map_congr_left fun path member => ?_
    rw [contents path (by simpa using member)]

theorem fields_eq_iff {digest digest' : Bytes} :
    first.fields digest = second.fields digest' ↔
      first.algorithmVersion = second.algorithmVersion ∧ first.SameSources second ∧
      digest = digest' ∧ first.publicToolSchemaVersion = second.publicToolSchemaVersion := by
  constructor
  · intro same
    obtain ⟨same, ends⟩ := List.append_inj' same rfl
    simp only [List.cons.injEq, Prod.mk.injEq, true_and, and_true] at same ends
    have sources := flatMap_inj (fun _ _ => sourceFields_inj) (fun _ _ => nofun)
      (fun _ _ => trivial) (fun _ _ => trivial) same.2
    exact ⟨Int.repr_injective (utf8_inj same.1), sources_eq_iff.mp sources, ends.1, utf8_inj ends.2⟩
  · rintro ⟨versions, sources, rfl, schemas⟩
    rw [fields, fields, versions, sources_eq_iff.mpr sources, schemas]

/-- What stands between the bytes of the lock files. -/
def mark : Bytes := 0 :: utf8 "package-lock.json" ++ [0]

/-- The zero bytes of the mark are its ends. -/
theorem mark_zeros : mark.length = 19 ∧ mark[0]? = some 0 ∧ mark[18]? = some 0 ∧
    ∀ offset < 19, mark[offset]? = some (0 : UInt8) → offset = 0 ∨ offset = 18 := by
  decide +kernel

variable {build : Build}

theorem lockInput_ok {name : String} {bytes : Bytes} (done : build.lockInput name = .ok bytes) :
    ∃ content, build.root name = some content ∧ bytes = utf8 name ++ 0 :: content ++ [0] := by
  unfold lockInput at done
  split at done
  · cases done
  · cases done
    exact ⟨_, ‹_›, rfl⟩

theorem hashed_ok {sha256 : Bytes → Bytes} {locks bytes : Bytes}
    (done : build.hashed sha256 = .ok (locks, bytes)) :
    ∃ uv package, build.root "uv.lock" = some uv ∧ build.root "package-lock.json" = some package ∧
      locks = utf8 "uv.lock" ++ 0 :: (uv ++ mark ++ package) ++ [0] ∧
      (∀ field ∈ build.fields (sha256 locks), Fits field) ∧
      bytes = (build.fields (sha256 locks)).flatMap updateField := by
  unfold hashed at done
  split_ifs at done
  obtain ⟨_, uv, done⟩ := Fallible.bind_eq_ok.mp done
  obtain ⟨_, package, done⟩ := Fallible.bind_eq_ok.mp done
  obtain ⟨uv, found, rfl⟩ := lockInput_ok uv
  obtain ⟨package, found', rfl⟩ := lockInput_ok package
  dsimp only at done
  split at done
  · cases done
    exact ⟨_, _, found, found', by simp [mark], ‹_›, rfl⟩
  · cases done

/-- The builds differ in an input of the identity. -/
def Differ (first second : Build) : Prop :=
  first.algorithmVersion ≠ second.algorithmVersion ∨ ¬first.SameSources second ∨
    first.root "uv.lock" ≠ second.root "uv.lock" ∨
    first.root "package-lock.json" ≠ second.root "package-lock.json" ∨
    first.publicToolSchemaVersion ≠ second.publicToolSchemaVersion

/-- **The condition on a build.** The mark stands once in the joined lock files, where it separates
them. -/
def Unambiguous (build : Build) : Prop :=
  ∀ uv package, build.root "uv.lock" = some uv → build.root "package-lock.json" = some package →
    ∀ position, mark <+: (uv ++ mark ++ package).drop position → position = uv.length

/-- The build with other lock files. -/
def relock (build : Build) (uv package : Bytes) : Build :=
  { build with
    root := fun name =>
      if name = "uv.lock" then some uv
      else if name = "package-lock.json" then some package else build.root name }

/-- Lock files that are joined to the same bytes are hashed alike. -/
theorem hashed_relock {sha256 : Bytes → Bytes} {uv package uv' package' : Bytes}
    (found : build.root "uv.lock" = some uv)
    (foundPackage : build.root "package-lock.json" = some package)
    (same : uv' ++ mark ++ package' = uv ++ mark ++ package) :
    (build.relock uv' package').hashed sha256 = build.hashed sha256 := by
  have locks : (utf8 "uv.lock" ++ 0 :: uv' ++ [0]) ++
        (utf8 "package-lock.json" ++ 0 :: package' ++ [0]) =
      (utf8 "uv.lock" ++ 0 :: uv ++ [0]) ++ (utf8 "package-lock.json" ++ 0 :: package ++ [0]) := by
    have joined := congrArg (fun bytes => utf8 "uv.lock" ++ 0 :: bytes ++ [0]) same
    simpa [mark] using joined
  have uvInput : (build.relock uv' package').lockInput "uv.lock" =
      .ok (utf8 "uv.lock" ++ 0 :: uv' ++ [0]) := rfl
  have packageInput : (build.relock uv' package').lockInput "package-lock.json" =
      .ok (utf8 "package-lock.json" ++ 0 :: package' ++ [0]) := rfl
  have uvInput' : build.lockInput "uv.lock" = .ok (utf8 "uv.lock" ++ 0 :: uv ++ [0]) := by
    rw [lockInput, found]
    rfl
  have packageInput' : build.lockInput "package-lock.json" =
      .ok (utf8 "package-lock.json" ++ 0 :: package ++ [0]) := by
    rw [lockInput, foundPackage]
    rfl
  unfold hashed
  rw [uvInput, packageInput, uvInput', packageInput']
  simp only [bind, Except.bind, locks]
  rfl

/-- **A build is hashed apart from every build that differs exactly when it is unambiguous**, for any
hash function. -/
theorem hashed_apart_iff (sha256 : Bytes → Bytes) {locks bytes : Bytes}
    (done : build.hashed sha256 = .ok (locks, bytes)) :
    (∀ (other : Build) (locks' bytes' : Bytes), other.hashed sha256 = .ok (locks', bytes') →
      build.Differ other → locks ≠ locks' ∨ bytes ≠ bytes') ↔ build.Unambiguous := by
  obtain ⟨uv, package, found, foundPackage, joined, fits, rfl⟩ := hashed_ok done
  constructor
  · intro apart _ _ hit hitPackage position occurs
    cases found.symm.trans hit
    cases foundPackage.symm.trans hitPackage
    -- the lock files cut at this occurrence of the mark are those of another build
    obtain ⟨rest, split⟩ := occurs
    have same : (uv ++ mark ++ package).take position ++ mark ++ rest = uv ++ mark ++ package := by
      rw [List.append_assoc, split, List.take_append_drop]
    by_contra elsewhere
    have unlike : build.root "uv.lock" ≠
        (build.relock ((uv ++ mark ++ package).take position) rest).root "uv.lock" := by
      intro alike
      have cut : uv = (uv ++ mark ++ package).take position :=
        Option.some_inj.mp (found.symm.trans alike)
      have lengths := congrArg List.length cut
      have whole := congrArg List.length split
      rw [List.length_take] at lengths
      rw [List.length_append, List.length_drop] at whole
      have long := mark_zeros.1
      omega
    have alike : (build.relock _ rest).hashed sha256 = .ok (locks, _) :=
      (hashed_relock found foundPackage same).trans done
    rcases apart _ _ _ alike (.inr (.inr (.inl unlike))) with apart | apart
    · exact apart rfl
    · exact apart rfl
  · intro unambiguous other locks' bytes' done' differ
    obtain ⟨uv', package', found', foundPackage', joined', fits', rfl⟩ := hashed_ok done'
    by_contra! same
    obtain ⟨versions, sources, -, schemas⟩ := fields_eq_iff.mp
      (flatMap_inj updateField_inj updateField_ne_nil fits fits' same.2)
    have joins : uv ++ mark ++ package = uv' ++ mark ++ package' := by
      have both := same.1
      rwa [joined, joined', List.append_cancel_right_eq, List.append_cancel_left_eq,
        List.cons_inj_right] at both
    have occurs : mark <+: (uv ++ mark ++ package).drop uv'.length := by
      rw [joins, List.append_assoc, List.drop_left]
      exact List.prefix_append mark package'
    have lengths := unambiguous uv package found foundPackage uv'.length occurs
    obtain ⟨rfl, rest⟩ := List.append_inj (by simpa only [List.append_assoc] using joins) lengths.symm
    obtain rfl := List.append_cancel_left rest
    rcases differ with differ | differ | differ | differ | differ
    · exact differ versions
    · exact differ sources
    · exact differ (found.trans found'.symm)
    · exact differ (foundPackage.trans foundPackage'.symm)
    · exact differ schemas

/-- The zero bytes of joined lock files that have none themselves are the ends of the mark. -/
theorem zero_joined {uv package : Bytes} (plain : 0 ∉ uv) (plain' : 0 ∉ package) {index : Nat}
    (zero : (uv ++ mark ++ package)[index]? = some 0) :
    index = uv.length ∨ index = uv.length + 18 := by
  have marked : ∀ offset, mark[offset]? = some (0 : UInt8) → offset = 0 ∨ offset = 18 := by
    intro offset zero
    obtain ⟨short, -⟩ := List.getElem?_eq_some_iff.mp zero
    exact mark_zeros.2.2.2 offset (mark_zeros.1 ▸ short) zero
  rw [List.append_assoc] at zero
  rcases Nat.lt_or_ge index uv.length with inside | beyond
  · rw [List.getElem?_append_left inside] at zero
    exact absurd (List.mem_of_getElem? zero) plain
  · rw [List.getElem?_append_right beyond] at zero
    rcases Nat.lt_or_ge (index - uv.length) mark.length with inside | past
    · rw [List.getElem?_append_left inside] at zero
      have ends := marked _ zero
      omega
    · rw [List.getElem?_append_right past] at zero
      exact absurd (List.mem_of_getElem? zero) plain'

/-- Lock files without zero bytes, as text has none. -/
theorem unambiguous_of_plain {uv package : Bytes} (found : build.root "uv.lock" = some uv)
    (foundPackage : build.root "package-lock.json" = some package) (plain : 0 ∉ uv)
    (plain' : 0 ∉ package) : build.Unambiguous := by
  intro _ _ hit hitPackage position occurs
  cases found.symm.trans hit
  cases foundPackage.symm.trans hitPackage
  obtain ⟨rest, split⟩ := occurs
  have reads : ∀ offset, mark[offset]? = some (0 : UInt8) →
      (uv ++ mark ++ package)[position + offset]? = some 0 := by
    intro offset zero
    obtain ⟨short, -⟩ := List.getElem?_eq_some_iff.mp zero
    rw [← List.getElem?_drop, ← split, List.getElem?_append_left short, zero]
  have first := zero_joined plain plain' (reads 0 mark_zeros.2.1)
  have last := zero_joined plain plain' (reads 18 mark_zeros.2.2.1)
  omega

/-- A build of one source, with the bytes of its lock files. -/
def locked (uv package : Bytes) : Build where
  files := {"src/serena_light/a.py"}
  bytes _ := []
  root name := some (if name = "uv.lock" then uv else package)
  publicToolSchemaVersion := "6"
  algorithmVersion := 3

/-- A build whose lock files have no zero byte. -/
theorem hashed_apart_locked : (locked [1] [2]).Unambiguous ∧ ∃ locks bytes,
    (locked [1] [2]).hashed (fun _ => []) = .ok (locks, bytes) ∧
    ∀ (other : Build) (locks' bytes' : Bytes), other.hashed (fun _ => []) = .ok (locks', bytes') →
      (locked [1] [2]).Differ other → locks ≠ locks' ∨ bytes ≠ bytes' := by
  have plain : (locked [1] [2]).Unambiguous := unambiguous_of_plain rfl rfl (by decide) (by decide)
  have done : (locked [1] [2]).hashed (fun _ => []) =
      .ok (utf8 "uv.lock" ++ 0 :: 1 :: mark ++ [2, 0],
        ((locked [] []).fields []).flatMap updateField) := by
    decide +kernel
  exact ⟨plain, _, _, done, (hashed_apart_iff _ done).mpr plain⟩

/-- The name between the lock files, once more at the end of the first or at the start of the
second. -/
theorem locks_collide : (locked mark []).Differ (locked [] mark) ∧ ∀ sha256,
    (locked mark []).hashed sha256 = (locked [] mark).hashed sha256 :=
  ⟨.inr (.inr (.inl (by decide +kernel))), fun _ => rfl⟩

end Build

end SerenaLight.BuildIdentity
