import Mathlib.Data.List.Forall2

/-!
# Lists of results

What becomes of the items of a list, one result after another where there is one, and lists
that are related item by item.
-/

namespace AsyncTypes

variable {α β γ : Type} {items : List α} {visit : α → Option β}

theorem map_filterMap_of_forall {name : β → γ} {key : α → γ}
    (each : ∀ item ∈ items, ∃ result, visit item = some result ∧ name result = key item) :
    (items.filterMap visit).map name = items.map key := by
  induction items with
  | nil => rfl
  | cons item rest ih =>
      obtain ⟨result, found, same⟩ := each item List.mem_cons_self
      rw [List.filterMap_cons_some found, List.map_cons, List.map_cons, same]
      exact congrArg _ (ih fun later listed => each later (List.mem_cons_of_mem item listed))

/-- The results that are kept are those of the chosen items, in order. -/
theorem forall₂_filter_filterMap {keep : β → Bool} {chosen : α → Prop} [DecidablePred chosen]
    {relation : β → α → Prop}
    (exact_ : ∀ item ∈ items,
      (∃ result, visit item = some result ∧ keep result = true) ↔ chosen item)
    (related : ∀ item ∈ items, ∀ result, visit item = some result → relation result item) :
    List.Forall₂ relation ((items.filterMap visit).filter keep)
      (items.filter fun item => decide (chosen item)) := by
  induction items with
  | nil => exact .nil
  | cons item rest ih =>
      have further := ih (fun later listed => exact_ later (List.mem_cons_of_mem item listed))
        (fun later listed => related later (List.mem_cons_of_mem item listed))
      have here := exact_ item List.mem_cons_self
      cases found : visit item with
      | none =>
          have apart : ¬ chosen item := by
            intro chosen
            obtain ⟨result, also, -⟩ := here.mpr chosen
            exact nomatch found.symm.trans also
          rw [List.filterMap_cons_none found, List.filter_cons_of_neg (by simpa using apart)]
          exact further
      | some result =>
          rw [List.filterMap_cons_some found]
          by_cases kept : keep result = true
          · have chosen := here.mp ⟨result, found, kept⟩
            rw [List.filter_cons_of_pos kept, List.filter_cons_of_pos (by simpa using chosen)]
            exact .cons (related item List.mem_cons_self result found) further
          · have apart : ¬ chosen item := by
              intro chosen
              obtain ⟨other, also, keptOther⟩ := here.mpr chosen
              cases found.symm.trans also
              exact kept keptOther
            rw [List.filter_cons_of_neg kept, List.filter_cons_of_neg (by simpa using apart)]
            exact further

/-! ## Related lists -/

section

variable {relation : β → α → Prop} {results : List β}

theorem exists_of_forall₂_left (related : List.Forall₂ relation results items)
    {result : β} (listed : result ∈ results) : ∃ item ∈ items, relation result item := by
  induction related with
  | nil => exact absurd listed List.not_mem_nil
  | cons here _ ih =>
      rcases List.mem_cons.mp listed with rfl | later
      · exact ⟨_, List.mem_cons_self, here⟩
      · obtain ⟨item, member, there⟩ := ih later
        exact ⟨item, List.mem_cons_of_mem _ member, there⟩

theorem exists_of_forall₂_right (related : List.Forall₂ relation results items)
    {item : α} (listed : item ∈ items) : ∃ result ∈ results, relation result item :=
  exists_of_forall₂_left related.flip listed

/-- When no result is repeated, two items that only one result can be related to are the same. -/
theorem eq_of_forall₂_nodup (related : List.Forall₂ relation results items)
    (nodup : results.Nodup) {result : β} {first second : α} (listed : first ∈ items)
    (also : second ∈ items) (only : ∀ other, relation other first → other = result)
    (onlyAlso : ∀ other, relation other second → other = result) : first = second := by
  induction related with
  | nil => exact absurd listed List.not_mem_nil
  | @cons other item results items here related ih =>
      rw [List.nodup_cons] at nodup
      rcases List.mem_cons.mp listed with rfl | later <;>
        rcases List.mem_cons.mp also with rfl | laterAlso
      · rfl
      · obtain ⟨further, found, holds⟩ := exists_of_forall₂_right related laterAlso
        exact absurd (only other here ▸ onlyAlso further holds ▸ found) nodup.1
      · obtain ⟨further, found, holds⟩ := exists_of_forall₂_right related later
        exact absurd (onlyAlso other here ▸ only further holds ▸ found) nodup.1
      · exact ih nodup.2 later laterAlso

end

end AsyncTypes
