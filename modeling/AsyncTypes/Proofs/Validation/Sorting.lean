import AsyncTypes.Validation.Order

/-!
# Sorting loses nothing

A sorted list has the items of the list, so no finding is lost when findings are sorted.
-/

namespace AsyncTypes.Validation

variable {α : Type} {before : α → α → Except String Bool}

/-- A sequence that gives a result does so in both parts. -/
theorem exists_of_bind_eq_ok {β γ : Type} {first : Except String β} {next : β → Except String γ}
    {result : γ} (done : (first >>= next) = .ok result) :
    ∃ value, first = .ok value ∧ next value = .ok result := by
  cases first with
  | error message => exact nomatch done
  | ok value => exact ⟨value, rfl, done⟩

theorem perm_ascendingRun {last : α} {items run others : List α}
    (found : ascendingRun before last items = .ok (run, others)) :
    (run ++ others).Perm items := by
  induction items generalizing last run others with
  | nil =>
      cases found
      exact List.Perm.nil
  | cons item rest ih =>
      obtain ⟨isBefore, -, found⟩ := exists_of_bind_eq_ok found
      cases isBefore with
      | true =>
          cases found
          exact List.Perm.refl _
      | false =>
          obtain ⟨⟨run, others⟩, further, ⟨⟩⟩ := exists_of_bind_eq_ok found
          exact (ih further).cons item

theorem perm_descendingRun {last : α} {items run others : List α}
    (found : descendingRun before last items = .ok (run, others)) :
    (run ++ others).Perm items := by
  induction items generalizing last run others with
  | nil =>
      cases found
      exact List.Perm.nil
  | cons item rest ih =>
      obtain ⟨isBefore, -, found⟩ := exists_of_bind_eq_ok found
      cases isBefore with
      | true =>
          obtain ⟨⟨run, others⟩, further, ⟨⟩⟩ := exists_of_bind_eq_ok found
          exact (ih further).cons item
      | false =>
          cases found
          exact List.Perm.refl _

/-- The run at the start of a list and what follows it are the list. -/
theorem perm_firstRun {items run others : List α}
    (found : firstRun before items = .ok (run, others)) : (run ++ others).Perm items := by
  match items with
  | [] =>
      cases found
      exact List.Perm.refl _
  | [item] =>
      cases found
      exact List.Perm.refl _
  | first :: second :: rest =>
      obtain ⟨isBefore, -, found⟩ := exists_of_bind_eq_ok found
      cases isBefore with
      | true =>
          obtain ⟨⟨run, others⟩, further, ⟨⟩⟩ := exists_of_bind_eq_ok found
          have whole := ((perm_descendingRun further).cons second).cons first
          exact ((List.reverse_perm _).append_right others).trans whole
      | false =>
          obtain ⟨⟨run, others⟩, further, ⟨⟩⟩ := exists_of_bind_eq_ok found
          exact ((perm_ascendingRun further).cons second).cons first

theorem perm_insertAll {sorted items result : List α}
    (found : insertAll before sorted items = .ok result) : result.Perm (sorted ++ items) := by
  induction items generalizing sorted with
  | nil =>
      cases found
      rw [List.append_nil]
  | cons item rest ih =>
      obtain ⟨place, -, found⟩ := exists_of_bind_eq_ok found
      have inserted : (sorted.take place ++ item :: sorted.drop place).Perm (item :: sorted) := by
        have middle : (sorted.take place ++ item :: sorted.drop place).Perm
            (item :: (sorted.take place ++ sorted.drop place)) := List.perm_middle
        rwa [List.take_append_drop] at middle
      have whole := (ih found).trans (inserted.append_right rest)
      exact whole.trans List.perm_middle.symm

/-- A sorted list has the items of the list. -/
theorem perm_sortBy {items sorted : List α} (found : sortBy before items = .ok sorted) :
    sorted.Perm items := by
  obtain ⟨⟨run, others⟩, start, found⟩ := exists_of_bind_eq_ok found
  exact (perm_insertAll found).trans (perm_firstRun start)

end AsyncTypes.Validation
