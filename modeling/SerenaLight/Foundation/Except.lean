/-
**Runs of fallible code.**

A run of `Except` that ends well is a run of each of its parts that ends well (`bind_eq_ok`), and a
fallible map over a list ends well exactly when it does at every item (`mapM_eq_ok`). Two lists
related item by item are built and read with `exists_forall₂` and `exists_of_forall₂`.
-/

import Mathlib.Data.List.Forall2

namespace SerenaLight.Foundation.Fallible

universe u

variable {Fault : Type*} {First Second : Type u}

theorem bind_eq_ok {first : Except Fault First} {next : First → Except Fault Second}
    {result : Second} :
    (first >>= next) = .ok result ↔ ∃ value, first = .ok value ∧ next value = .ok result := by
  cases first with
  | error fault =>
    refine ⟨fun done => ?_, fun ⟨value, done, _⟩ => ?_⟩
    · cases done
    · cases done
  | ok value =>
    refine ⟨fun done => ⟨value, rfl, done⟩, ?_⟩
    rintro ⟨_, same, done⟩
    cases same
    exact done

theorem mapM_eq_ok {step : First → Except Fault Second} {items : List First}
    {results : List Second} :
    items.mapM step = .ok results ↔
      List.Forall₂ (fun item result => step item = .ok result) items results := by
  induction items generalizing results with
  | nil =>
    rw [List.mapM_nil]
    refine ⟨fun done => ?_, fun done => ?_⟩
    · cases done
      exact .nil
    · cases done
      rfl
  | cons item rest ih =>
    rw [List.mapM_cons, bind_eq_ok]
    constructor
    · rintro ⟨result, done, others⟩
      obtain ⟨tail, below, same⟩ := bind_eq_ok.mp others
      cases same
      exact .cons done (ih.mp below)
    · intro each
      cases each with
      | cons done below => exact ⟨_, done, bind_eq_ok.mpr ⟨_, ih.mpr below, rfl⟩⟩

/-- A related item for each item gives a related list. -/
theorem exists_forall₂ {First Second : Type*} {related : First → Second → Prop}
    {items : List First} (each : ∀ item ∈ items, ∃ result, related item result) :
    ∃ results, List.Forall₂ related items results := by
  induction items with
  | nil => exact ⟨[], .nil⟩
  | cons item rest ih =>
    obtain ⟨result, here⟩ := each item List.mem_cons_self
    obtain ⟨results, later⟩ := ih fun other member => each other (List.mem_cons_of_mem _ member)
    exact ⟨result :: results, .cons here later⟩

/-- The partner of an item of related lists. -/
theorem exists_of_forall₂ {First Second : Type*} {related : First → Second → Prop}
    {items : List First} {results : List Second} (each : List.Forall₂ related items results)
    {item : First} (member : item ∈ items) : ∃ result ∈ results, related item result := by
  induction each with
  | nil => cases member
  | cons here _ ih =>
    rcases List.mem_cons.mp member with rfl | later
    · exact ⟨_, List.mem_cons_self, here⟩
    · obtain ⟨result, inside, found⟩ := ih later
      exact ⟨result, List.mem_cons_of_mem _ inside, found⟩

end SerenaLight.Foundation.Fallible
