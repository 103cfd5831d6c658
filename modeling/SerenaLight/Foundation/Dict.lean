/-
**Insertion-ordered dictionaries.**

`Dict Key Value` is the dictionary of the host language: a list of items in insertion order whose
keys are pairwise different, by a field of the structure. An assignment to a key that is present
replaces the value in place, one to a new key appends an item, and a deletion keeps the order of
the rest.

* `Dict.get_set`, `Dict.get_erase`: lookups after an update, at every key.
* `Dict.erase_set_of_fresh`: an entry added and deleted again leaves no trace.
* `Dict.mem_items`: the items are exactly the successful lookups.
-/

import Mathlib.Data.List.Nodup
import Mathlib.Data.List.Basic

namespace SerenaLight.Foundation

/-- A dictionary in insertion order, one item for a key. -/
structure Dict (Key Value : Type*) where
  items : List (Key × Value)
  nodup : (items.map Prod.fst).Nodup
  deriving DecidableEq

namespace Dict

variable {Key Value : Type*}

/-- The dictionary without items. -/
def empty : Dict Key Value := ⟨[], List.nodup_nil⟩

instance : Inhabited (Dict Key Value) := ⟨empty⟩

@[ext] theorem ext {first second : Dict Key Value} (same : first.items = second.items) :
    first = second := by
  cases first
  cases second
  cases same
  rfl

/-- The keys, in insertion order. -/
def keys (dict : Dict Key Value) : List Key := dict.items.map Prod.fst

/-- The values, in insertion order. -/
def values (dict : Dict Key Value) : List Value := dict.items.map Prod.snd

theorem keys_nodup (dict : Dict Key Value) : dict.keys.Nodup := dict.nodup

variable {key : Key} {dict : Dict Key Value} {value : Value}

/-- Two items of one key are one item. -/
theorem value_unique (dict : Dict Key Value) {first second : Value}
    (left : (key, first) ∈ dict.items) (right : (key, second) ∈ dict.items) :
    first = second :=
  congrArg Prod.snd (List.inj_on_of_nodup_map dict.nodup left right rfl)

variable [DecidableEq Key]

/-- The value at `key`, if there is one. -/
def get (dict : Dict Key Value) (key : Key) : Option Value :=
  (dict.items.find? fun item => item.1 = key).map Prod.snd

/-- Whether `key` has an item. -/
def contains (dict : Dict Key Value) (key : Key) : Bool := (dict.get key).isSome

theorem mem_items :
    (key, value) ∈ dict.items ↔ dict.get key = some value := by
  unfold get
  constructor
  · intro member
    cases found : dict.items.find? (fun item => item.1 = key) with
    | none =>
      have absent := List.find?_eq_none.mp found _ member
      simp at absent
    | some item =>
      have hit : item.1 = key := by simpa using List.find?_some found
      have item_mem := List.mem_of_find?_eq_some found
      obtain ⟨itemKey, itemValue⟩ := item
      obtain rfl : itemKey = key := hit
      simp [dict.value_unique item_mem member]
  · intro found
    obtain ⟨item, hit, rfl⟩ := Option.map_eq_some_iff.mp found
    have itemKey : item.1 = key := by simpa using List.find?_some hit
    have member := List.mem_of_find?_eq_some hit
    rwa [← itemKey]

theorem mem_keys :
    key ∈ dict.keys ↔ ∃ value, dict.get key = some value := by
  simp [keys, ← mem_items]

theorem mem_values :
    value ∈ dict.values ↔ ∃ key, dict.get key = some value := by
  simp [values, ← mem_items]

theorem get_eq_none :
    dict.get key = none ↔ key ∉ dict.keys := by
  rw [mem_keys, Option.eq_none_iff_forall_ne_some]
  simp

@[simp] theorem get_empty (key : Key) : (empty : Dict Key Value).get key = none := rfl

theorem get_of_empty (empty : dict.items = []) (key : Key) :
    dict.get key = none := by
  rw [get_eq_none, keys, empty]
  exact List.not_mem_nil

@[simp] theorem contains_iff :
    dict.contains key = true ↔ ∃ value, dict.get key = some value := by
  simp [contains, Option.isSome_iff_exists]

/-! ### Updates -/

/-- Assignment: in place at a key that is present, appended otherwise. -/
def set (dict : Dict Key Value) (key : Key) (value : Value) : Dict Key Value :=
  if present : key ∈ dict.keys then
    ⟨dict.items.map fun item => if item.1 = key then (key, value) else item, by
      have keysSame : (dict.items.map fun item => if item.1 = key then (key, value) else item).map
          Prod.fst = dict.keys := by
        rw [List.map_map, keys]
        refine List.map_congr_left fun item _ => ?_
        by_cases hit : item.1 = key <;> simp [hit]
      rw [keysSame]
      exact dict.nodup⟩
  else
    ⟨dict.items ++ [(key, value)], by
      rw [List.map_append, List.map_singleton]
      exact List.nodup_append.mpr ⟨dict.nodup, List.nodup_singleton _, by
        intro other otherMem last lastMem
        obtain rfl := List.mem_singleton.mp lastMem
        rintro rfl
        exact present otherMem⟩⟩

/-- Deletion of a key. -/
def erase (dict : Dict Key Value) (key : Key) : Dict Key Value :=
  ⟨dict.items.filter fun item => item.1 ≠ key,
    (List.Sublist.map Prod.fst List.filter_sublist).nodup dict.nodup⟩

variable {key other : Key} {found : Value} {next : Option Value} {test : Value → Bool}

theorem mem_items_set {value : Value} :
    (other, found) ∈ (dict.set key value).items ↔
      if other = key then found = value else (other, found) ∈ dict.items := by
  unfold set
  split
  · rename_i present
    obtain ⟨⟨known, old⟩, oldMem, rfl⟩ := List.mem_map.mp present
    simp only [List.mem_map]
    split
    · rename_i same
      subst same
      constructor
      · rintro ⟨item, _, image⟩
        by_cases hit : item.1 = other
        · rw [if_pos hit] at image
          exact (congrArg Prod.snd image).symm
        · rw [if_neg hit] at image
          exact absurd (congrArg Prod.fst image) hit
      · rintro rfl
        exact ⟨(other, old), oldMem, by simp⟩
    · rename_i different
      constructor
      · rintro ⟨item, itemMem, image⟩
        by_cases hit : item.1 = known
        · rw [if_pos hit] at image
          exact absurd (congrArg Prod.fst image).symm different
        · rw [if_neg hit] at image
          rwa [← image]
      · intro member
        exact ⟨(other, found), member, by simp [different]⟩
  · rename_i absent
    simp only [List.mem_append, List.mem_singleton, Prod.mk.injEq]
    split
    · rename_i same
      subst same
      constructor
      · rintro (member | ⟨_, rfl⟩)
        · exact absurd (List.mem_map_of_mem (f := Prod.fst) member) absent
        · rfl
      · rintro rfl
        exact .inr ⟨rfl, rfl⟩
    · rename_i different
      simp [different]

section

variable (dict : Dict Key Value)

/-- A lookup after an assignment. -/
theorem get_set (key other : Key) (value : Value) :
    (dict.set key value).get other = if other = key then some value else dict.get other := by
  refine Option.ext fun found => ?_
  rw [← mem_items, mem_items_set]
  split
  · simp [eq_comm]
  · exact mem_items

@[simp] theorem get_set_self (key : Key) (value : Value) :
    (dict.set key value).get key = some value := by
  rw [get_set, if_pos rfl]

theorem get_set_of_ne (value : Value) (different : other ≠ key) :
    (dict.set key value).get other = dict.get other := by
  rw [get_set, if_neg different]

/-- A lookup after a deletion. -/
theorem get_erase (key other : Key) :
    (dict.erase key).get other = if other = key then none else dict.get other := by
  refine Option.ext fun found => ?_
  rw [← mem_items, erase]
  simp only [List.mem_filter, decide_eq_true_eq]
  split
  · rename_i same
    simp [same]
  · rename_i different
    simp [different, mem_items]

@[simp] theorem get_erase_self (key : Key) :
    (dict.erase key).get key = none := by
  rw [get_erase, if_pos rfl]

theorem get_erase_of_ne (different : other ≠ key) :
    (dict.erase key).get other = dict.get other := by
  rw [get_erase, if_neg different]

theorem erase_of_absent (absent : dict.get key = none) :
    dict.erase key = dict := by
  refine ext (List.filter_eq_self.mpr fun item member => ?_)
  simp only [ne_eq, decide_eq_true_eq]
  rintro rfl
  exact get_eq_none.mp absent (List.mem_map_of_mem member)

end

/-- Assignment or deletion. -/
def update (dict : Dict Key Value) (key : Key) : Option Value → Dict Key Value
  | none => dict.erase key
  | some value => dict.set key value

/-- A lookup after an update. -/
theorem get_update (dict : Dict Key Value) (key other : Key) (value : Option Value) :
    (dict.update key value).get other = if other = key then value else dict.get other := by
  cases value with
  | none => exact get_erase dict key other
  | some value => exact get_set dict key other value

@[simp] theorem get_update_self (dict : Dict Key Value) (key : Key) (value : Option Value) :
    (dict.update key value).get key = value := by
  rw [get_update, if_pos rfl]

theorem get_update_of_ne (dict : Dict Key Value) (value : Option Value) (different : other ≠ key) :
    (dict.update key value).get other = dict.get other := by
  rw [get_update, if_neg different]

/-- What is found after an update was assigned, or was there. -/
theorem found_update (there : (dict.update key next).get other = some found) :
    other = key ∧ next = some found ∨ other ≠ key ∧ dict.get other = some found := by
  rw [get_update] at there
  by_cases same : other = key
  · exact .inl ⟨same, by rwa [if_pos same] at there⟩
  · exact .inr ⟨same, by rwa [if_neg same] at there⟩

theorem found_set {next : Value} (there : (dict.set key next).get other = some found) :
    other = key ∧ next = found ∨ other ≠ key ∧ dict.get other = some found := by
  have updated : (dict.update key (some next)).get other = some found := there
  obtain ⟨same, eq⟩ | kept := found_update updated
  · exact .inl ⟨same, Option.some.inj eq⟩
  · exact .inr kept

theorem found_erase (there : (dict.erase key).get other = some found) :
    other ≠ key ∧ dict.get other = some found := by
  have updated : (dict.update key none).get other = some found := there
  obtain ⟨_, eq⟩ | kept := found_update updated
  · cases eq
  · exact kept

/-- What is lost in an update was deleted by it. -/
theorem lost_update (there : dict.get other = some found)
    (gone : (dict.update key next).get other = none) :
    other = key ∧ next = none := by
  by_cases same : other = key
  · exact ⟨same, by rwa [get_update, if_pos same] at gone⟩
  · rw [get_update, if_neg same, there] at gone
    cases gone

theorem lost_erase (there : dict.get other = some found)
    (gone : (dict.erase key).get other = none) : other = key := by
  have updated : (dict.update key none).get other = none := gone
  exact (lost_update there updated).1

/-- **An entry added and deleted again leaves no trace.** -/
theorem erase_set_of_fresh (dict : Dict Key Value) (value : Value)
    (fresh : dict.get key = none) : (dict.set key value).erase key = dict := by
  have absent : key ∉ dict.keys := get_eq_none.mp fresh
  refine ext ?_
  simp only [erase, set, dif_neg absent, List.filter_append]
  have kept : dict.items.filter (fun item => decide (item.1 ≠ key)) = dict.items := by
    refine List.filter_eq_self.mpr fun item member => ?_
    simp only [ne_eq, decide_eq_true_eq]
    rintro rfl
    exact absent (List.mem_map_of_mem member)
  rw [kept, List.filter_singleton]
  simp

/-- Assigning twice keeps the last value. -/
theorem set_set (dict : Dict Key Value) (key : Key) (first second : Value) :
    (dict.set key first).set key second = dict.set key second := by
  have present : key ∈ (dict.set key first).keys := mem_keys.mpr ⟨first, by simp⟩
  refine ext ?_
  rw [set, dif_pos present]
  unfold set
  split
  · simp only [List.map_map]
    refine List.map_congr_left fun item _ => ?_
    by_cases hit : item.1 = key <;> simp [hit]
  · rename_i absent
    have kept : dict.items.map (fun item => if item.1 = key then (key, second) else item) =
        dict.items := by
      refine (List.map_congr_left fun item member => if_neg ?_).trans (List.map_id _)
      rintro rfl
      exact absent (List.mem_map_of_mem member)
    simp [kept]

/-- Assigning the value that is there changes nothing. -/
theorem set_of_get (dict : Dict Key Value)
    (found : dict.get key = some value) : dict.set key value = dict := by
  have present : key ∈ dict.keys := mem_keys.mpr ⟨value, found⟩
  refine ext ?_
  rw [set, dif_pos present]
  refine (List.map_congr_left fun item member => ?_).trans (List.map_id _)
  by_cases hit : item.1 = key
  · subst hit
    have same := dict.value_unique member (mem_items.mpr found)
    simp [← same]
  · simp [hit]

/-! ### Counting values -/

/-- How many values satisfy `test`. -/
def count (dict : Dict Key Value) (test : Value → Bool) : Nat :=
  dict.items.countP fun item => test item.2

/-- A new entry counts once. -/
theorem count_set_of_fresh (dict : Dict Key Value) (value : Value)
    (test : Value → Bool) (fresh : dict.get key = none) :
    (dict.set key value).count test = dict.count test + if test value then 1 else 0 := by
  have absent : key ∉ dict.keys := get_eq_none.mp fresh
  simp [count, set, dif_neg absent]

theorem countP_filter_ne (items : List (Key × Value)) (key : Key) (value : Value)
    (test : Key × Value → Bool) (nodup : (items.map Prod.fst).Nodup)
    (member : (key, value) ∈ items) :
    (items.filter fun item => item.1 ≠ key).countP test + (if test (key, value) then 1 else 0) =
      items.countP test := by
  induction items with
  | nil => cases member
  | cons item rest ih =>
    obtain ⟨notLater, restNodup⟩ := List.nodup_cons.mp nodup
    rw [List.countP_cons, List.filter_cons]
    by_cases hit : item.1 = key
    · have itemEq : item = (key, value) := by
        rcases List.mem_cons.mp member with same | later
        · exact same.symm
        · exact absurd (hit ▸ List.mem_map_of_mem later) notLater
      have kept : rest.filter (fun item => decide (item.1 ≠ key)) = rest := by
        refine List.filter_eq_self.mpr fun other otherMember => ?_
        simp only [ne_eq, decide_eq_true_eq]
        rintro rfl
        exact notLater (hit ▸ List.mem_map_of_mem otherMember)
      rw [if_neg (by simp [hit]), kept, itemEq]
    · have later : (key, value) ∈ rest := by
        rcases List.mem_cons.mp member with same | later
        · exact absurd (congrArg Prod.fst same).symm hit
        · exact later
      rw [if_pos (by simp [hit]), List.countP_cons, ← ih restNodup later]
      omega

/-- A deleted entry no longer counts. -/
theorem count_erase (dict : Dict Key Value) (test : Value → Bool)
    (found : dict.get key = some value) :
    (dict.erase key).count test + (if test value then 1 else 0) = dict.count test :=
  countP_filter_ne dict.items key value (fun item => test item.2) dict.nodup (mem_items.mpr found)

theorem count_eq_zero :
    dict.count test = 0 ↔ ∀ key value, dict.get key = some value → test value = false := by
  rw [count, List.countP_eq_zero]
  constructor
  · intro none key value found
    simpa using none (key, value) (mem_items.mpr found)
  · intro none item member
    simpa using none item.1 item.2 (mem_items.mp member)

theorem count_pos (found : dict.get key = some value) (holds : test value = true) :
    0 < dict.count test := by
  rw [count, List.countP_pos_iff]
  exact ⟨(key, value), mem_items.mpr found, holds⟩

end Dict

end SerenaLight.Foundation
