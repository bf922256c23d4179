import Mathlib.Data.List.Nodup
import Mathlib.Data.List.Perm.Subperm
import Mathlib.Order.Bounds.Basic
import AsyncTypes.TypeScript.Compiler

/-!
# Free names are free

The search for a free number tries one candidate more than there are taken names.
The candidates differ, so one of them is free, and the search without any bound ends at the
same number, the least one whose candidate is free.  So a name that is given is never
taken.  Hence the names that are given to the component schemas are distinct.
-/

namespace AsyncTypes.TypeScript

variable {taken : List String} {candidate : Nat → String}

/-! ## The search for a free number -/

/-- The search for a free candidate that has come to a number ends at another one.  It passes over
candidates that are taken and stops at one that is free; nothing else ends it. -/
inductive Search (taken : List String) (candidate : Nat → String) : Nat → Nat → Prop
  | stop {number : Nat} (free : candidate number ∉ taken) : Search taken candidate number number
  | pass {number last : Nat} (isTaken : candidate number ∈ taken)
      (further : Search taken candidate (number + 1) last) : Search taken candidate number last

/-- A search ends at the least number whose candidate is free. -/
theorem search_iff_isLeast {first last : Nat} : Search taken candidate first last ↔
    IsLeast {number | first ≤ number ∧ candidate number ∉ taken} last := by
  constructor
  · intro search
    induction search with
    | stop free => exact ⟨⟨le_rfl, free⟩, fun _ other => other.1⟩
    | @pass number last isTaken _ ih =>
        constructor
        · exact ⟨Nat.le_of_succ_le ih.1.1, ih.1.2⟩
        · rintro other ⟨reached, free⟩
          rcases Nat.eq_or_lt_of_le reached with rfl | beyond
          · exact absurd isTaken free
          · exact ih.2 ⟨beyond, free⟩
  · rintro ⟨⟨reached, free⟩, least⟩
    -- Back from the least number: every candidate before it is passed over.
    induction reached using Nat.decreasingInduction with
    | self => exact .stop free
    | of_succ number before ih =>
        have isTaken : candidate number ∈ taken := by
          by_contra also
          exact absurd (least ⟨le_rfl, also⟩) (Nat.not_le.mpr before)
        exact .pass isTaken (ih fun other later => least ⟨Nat.le_of_succ_le later.1, later.2⟩)

/-- More candidates than taken names cannot all be taken. -/
theorem exists_free (distinct : Function.Injective candidate) (taken : List String) :
    ∃ number < taken.length + 1, candidate (number + 2) ∉ taken := by
  by_contra none
  push Not at none
  have allTaken : (List.range (taken.length + 1)).map (fun number => candidate (number + 2)) ⊆
      taken := by
    intro name member
    obtain ⟨number, listed, rfl⟩ := List.mem_map.mp member
    exact none number (List.mem_range.mp listed)
  have differ : ((List.range (taken.length + 1)).map fun number => candidate (number + 2)).Nodup :=
    List.nodup_range.map (distinct.comp fun _ _ => Nat.add_right_cancel)
  have fits := (differ.subperm allTaken).length_le
  simp only [List.length_map, List.length_range] at fits
  omega

/-- The search from two on ends at the least free number. -/
theorem search_leastFree (distinct : Function.Injective candidate) (taken : List String) :
    Search taken candidate 2 (leastFree taken candidate) := by
  obtain ⟨number, bounded, free⟩ := exists_free distinct taken
  rw [leastFree, List.find?_map]
  cases found : (List.range (taken.length + 1)).find?
      ((fun number => !taken.contains (candidate number)) ∘ (· + 2)) with
  | none =>
      have tried := List.find?_eq_none.mp found number (List.mem_range.mpr bounded)
      simp [free] at tried
  | some index =>
      obtain ⟨isFree, -, before⟩ := List.find?_range_eq_some.mp found
      apply search_iff_isLeast.mpr
      constructor
      · exact ⟨Nat.le_add_left 2 index, by simpa using isFree⟩
      · rintro other ⟨fromTwo, otherFree⟩
        obtain ⟨rest, rfl⟩ := Nat.exists_eq_add_of_le' fromTwo
        by_contra less
        have isTaken := before rest (by simpa using less)
        exact otherFree (by simpa using isTaken)

/-! ## Allotted names -/

/-- The name that is allotted for a wanted one: the wanted name when it is free, and otherwise the
candidate where the search from two on ends, which is the one with the least free number. -/
structure Allotted (taken : List String) (candidate : Nat → String) (wanted name : String) :
    Prop where
  unchanged : wanted ∉ taken → name = wanted
  numbered : wanted ∈ taken → ∃ number, Search taken candidate 2 number ∧
    IsLeast {number | 2 ≤ number ∧ candidate number ∉ taken} number ∧ name = candidate number

/-- An allotted name is not taken. -/
theorem Allotted.notMem {wanted name : String} (allotted : Allotted taken candidate wanted name) :
    name ∉ taken := by
  by_cases isTaken : wanted ∈ taken
  · obtain ⟨number, -, least, rfl⟩ := allotted.numbered isTaken
    exact least.1.2
  · rwa [allotted.unchanged isTaken]

theorem allotted_leastFree (distinct : Function.Injective candidate) (taken : List String)
    (wanted : String) : Allotted taken candidate wanted
      (if taken.contains wanted then candidate (leastFree taken candidate) else wanted) := by
  have search := search_leastFree distinct taken
  constructor
  · intro free
    rw [if_neg (mt List.contains_iff_mem.mp free)]
  · intro isTaken
    rw [if_pos (List.contains_iff_mem.mpr isTaken)]
    exact ⟨_, search, search_iff_isLeast.mp search, rfl⟩

/-- Numbers after one name give different names. -/
theorem numbered_injective (wanted : String) :
    Function.Injective fun number : Nat => wanted ++ toString number := by
  intro first second equal
  have sameDigits : Nat.toDigits 10 first = Nat.toDigits 10 second := by
    rw [← Nat.toList_repr, ← Nat.toList_repr]
    exact congrArg String.toList ((String.append_right_inj wanted).mp equal)
  rw [← Nat.ofDigitChars_ten_toDigits (n := first), sameDigits, Nat.ofDigitChars_ten_toDigits]

/-- A free name is allotted, with numbers right after the wanted name. -/
theorem allotted_freeName (taken : List String) (wanted : String) :
    Allotted taken (fun number => wanted ++ toString number) wanted (freeName taken wanted) :=
  allotted_leastFree (numbered_injective wanted) taken wanted

/-- A free member name is allotted, with numbers after the wanted name and an underscore. -/
theorem allotted_freeMember (taken : List String) (wanted : String) :
    Allotted taken (fun number => wanted ++ "_" ++ toString number) wanted
      (freeMember taken wanted) :=
  allotted_leastFree (numbered_injective (wanted ++ "_")) taken wanted

/-- A free name is not taken. -/
theorem freeName_notMem (taken : List String) (wanted : String) :
    freeName taken wanted ∉ taken :=
  (allotted_freeName taken wanted).notMem

/-- A free name is the wanted name, perhaps with a number after it. -/
theorem freeName_eq (taken : List String) (wanted : String) :
    freeName taken wanted = wanted ∨
      ∃ number : Nat, freeName taken wanted = wanted ++ toString number := by
  unfold freeName
  split
  · exact Or.inr ⟨_, rfl⟩
  · exact Or.inl rfl

/-! ## Several names -/

/-- Free names for some wanted names, in order, each of them taken for those after it. -/
def freeNames (taken : List String) : List String → List String
  | [] => []
  | wanted :: rest => freeName taken wanted :: freeNames (taken ++ [freeName taken wanted]) rest

/-- Free names were not taken before. -/
theorem notMem_of_mem_freeNames {wanted : List String} {name : String}
    (member : name ∈ freeNames taken wanted) : name ∉ taken := by
  induction wanted generalizing taken with
  | nil => exact absurd member List.not_mem_nil
  | cons first rest ih =>
      rcases List.mem_cons.mp member with rfl | later
      · exact freeName_notMem taken first
      · exact fun before => ih later (List.mem_append_left _ before)

/-- Free names are distinct. -/
theorem nodup_freeNames (taken wanted : List String) : (freeNames taken wanted).Nodup := by
  induction wanted generalizing taken with
  | nil => exact List.nodup_nil
  | cons first rest ih =>
      refine List.nodup_cons.mpr ⟨fun repeated => ?_, ih _⟩
      exact notMem_of_mem_freeNames repeated (List.mem_append_right _ List.mem_cons_self)

/-! ## Names for keys -/

/-- The keys that are named are the given keys in order. -/
theorem keys_nameKeys (used keys : List String) :
    (nameKeys used keys).1.map (·.1) = keys := by
  induction keys generalizing used with
  | nil => rfl
  | cons key rest ih => simp [nameKeys, ih]

/-- The names for keys are free names for what the keys are called. -/
theorem names_nameKeys (used keys : List String) :
    (nameKeys used keys).1.map (·.2) =
      freeNames used (keys.map fun key => declarationName key "") := by
  induction keys generalizing used with
  | nil => rfl
  | cons key rest ih => simp [nameKeys, freeNames, ih]

/-- The names for keys are distinct. -/
theorem names_nameKeys_nodup (used keys : List String) :
    ((nameKeys used keys).1.map (·.2)).Nodup := by
  rw [names_nameKeys]
  exact nodup_freeNames used _

end AsyncTypes.TypeScript
