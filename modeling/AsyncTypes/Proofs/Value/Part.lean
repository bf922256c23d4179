import AsyncTypes.Pointer.Resolve

/-!
# Parts of a value

A value is a part of itself, and so are the parts of what it holds.  Looking up a name, taking
a step of a pointer and following a pointer to its end all lead to parts.  The pointers that
are collected from a value are those that its parts hold.
-/

namespace AsyncTypes

/-! ## Looking up a text -/

/-- Only a text is the same key as a text. -/
theorem Scalar.sameKey_text_iff {key : Scalar} {name : String} :
    key.sameKey (.string name) = true ↔ key = .string name := by
  cases key with
  | float value => cases whole : value.toInt? <;> simp [sameKey, whole?, whole]
  | _ => simp [sameKey, whole?]

theorem Entries.mem_of_lookup {entries : Entries} {name : String} {value : Value}
    (found : entries.lookup (.string name) = some value) : (.string name, value) ∈ entries := by
  obtain ⟨⟨key, part⟩, first, rfl⟩ := Option.map_eq_some_iff.mp found
  have same : key.sameKey (.string name) = true := by simpa using List.find?_some first
  obtain rfl := Scalar.sameKey_text_iff.mp same
  exact List.mem_of_find?_eq_some first

namespace Value

/-! ## Parts -/

/-- The first value is the second one or lies inside it. -/
inductive PartOf : Value → Value → Prop
  | refl (value : Value) : PartOf value value
  | child {inner part value : Value} (listed : part ∈ value.children) (inside : PartOf inner part) :
      PartOf inner value

/-- Some part of the value is a reference with the pointer. -/
def Refers (value : Value) (pointer : String) : Prop :=
  ∃ part, PartOf part value ∧ part.reference? = some pointer

variable {value part inner document : Value} {name pointer : String}

theorem PartOf.trans (within : PartOf inner part) (outer : PartOf part value) :
    PartOf inner value := by
  induction outer with
  | refl => exact within
  | child listed _ ih => exact .child listed ih

theorem PartOf.of_mem (listed : part ∈ value.children) : PartOf part value :=
  .child listed (.refl part)

theorem partOf_of_get? (found : value.get? name = some part) : PartOf part value := by
  cases value with
  | map entries =>
      exact .of_mem (List.mem_map.mpr ⟨_, Entries.mem_of_lookup found, rfl⟩)
  | _ => exact nomatch found

/-- What a name holds is a part, or the name holds nothing. -/
theorem field_cases (value : Value) (name : String) :
    PartOf (value.field name) value ∨ value.field name = null := by
  unfold field
  cases found : value.get? name with
  | none => exact Or.inr rfl
  | some part => exact Or.inl (partOf_of_get? found)

theorem Refers.mono (refers : part.Refers pointer) (inside : PartOf part value) :
    value.Refers pointer := by
  obtain ⟨inner, within, holds⟩ := refers
  exact ⟨inner, within.trans inside, holds⟩

theorem Refers.of_mem (refers : part.Refers pointer) (listed : part ∈ value.children) :
    value.Refers pointer :=
  refers.mono (.of_mem listed)

theorem not_refers_scalar (scalar : Scalar) : ¬ (Value.scalar scalar).Refers pointer := by
  rintro ⟨part, inside, holds⟩
  cases inside with
  | refl => exact nomatch holds
  | child listed _ => exact absurd listed List.not_mem_nil

theorem Refers.of_field (refers : (value.field name).Refers pointer) : value.Refers pointer := by
  rcases field_cases value name with inside | nothing
  · exact refers.mono inside
  · rw [nothing] at refers
    exact absurd refers (not_refers_scalar .null)

/-- A value refers by itself or by one of the values that it holds. -/
theorem refers_iff : value.Refers pointer ↔
    value.reference? = some pointer ∨ ∃ part ∈ value.children, part.Refers pointer := by
  constructor
  · rintro ⟨part, inside, holds⟩
    cases inside with
    | refl => exact Or.inl holds
    | child listed inside => exact Or.inr ⟨_, listed, part, inside, holds⟩
  · rintro (holds | ⟨part, listed, refers⟩)
    · exact ⟨value, .refl value, holds⟩
    · exact refers.of_mem listed

/-! ## The collected references -/

theorem mem_addPointer_iff {found : List String} :
    pointer ∈ addPointer found value ↔ pointer ∈ found ∨ value.reference? = some pointer := by
  unfold addPointer
  cases value.reference? with
  | none => simp
  | some other =>
      dsimp only
      split
      · next known =>
          have listed := List.contains_iff_mem.mp known
          constructor
          · exact Or.inl
          · rintro (before | ⟨⟨⟩⟩)
            · exact before
            · exact listed
      · simp [eq_comm]

/-- What is collected is what was found before and what the pending values refer to. -/
theorem mem_collectReferences_iff (found : List String) (pending : List Value) :
    pointer ∈ collectReferences found pending ↔
      pointer ∈ found ∨ ∃ value ∈ pending, value.Refers pointer := by
  induction found, pending using collectReferences.induct with
  | case1 found => simp [collectReferences]
  | case2 found value rest ih =>
      rw [collectReferences, ih, mem_addPointer_iff]
      simp only [List.mem_append, List.mem_cons, or_and_right, exists_or, exists_eq_left,
        @refers_iff value, or_assoc]

/-- The collected references are those of the parts. -/
theorem mem_references_iff : pointer ∈ document.references ↔ document.Refers pointer := by
  simp [references, mem_collectReferences_iff]

end Value

/-! ## Parts at the end of a pointer -/

namespace Pointer

variable {document value next target : Value} {key : String} {keys : List String}
  {pointer : String}

theorem mem_of_itemAt? {items : List Value} {index : Int} (found : itemAt? items index = some next) :
    next ∈ items := by
  unfold itemAt? at found
  split at found
  · exact List.mem_of_getElem? found
  · split at found
    · exact List.mem_of_getElem? found
    · exact nomatch found

theorem partOf_of_step? (found : step? value key = some next) : Value.PartOf next value := by
  cases value with
  | map entries => exact Value.partOf_of_get? found
  | list items =>
      obtain ⟨index, -, taken⟩ := Option.bind_eq_some_iff.mp found
      exact .of_mem (mem_of_itemAt? taken)
  | _ => exact nomatch found

theorem partOf_of_follow? (found : follow? value keys = some target) :
    Value.PartOf target value := by
  induction keys generalizing value with
  | nil =>
      cases found
      exact .refl _
  | cons key rest ih =>
      obtain ⟨next, stepped, later⟩ := Option.bind_eq_some_iff.mp found
      obtain ⟨part, step, shown⟩ := Option.bind_eq_some_iff.mp stepped
      have same : part = next := by
        unfold present? at shown
        split at shown
        · exact nomatch shown
        · exact Option.some.inj shown
      subst same
      exact (ih later).trans (partOf_of_step? step)

/-- A pointer leads to a part of the document. -/
theorem partOf_of_walk? (found : walk? document pointer = some target) :
    Value.PartOf target document := by
  obtain ⟨keys, -, followed⟩ := Option.bind_eq_some_iff.mp found
  exact partOf_of_follow? followed

end Pointer

end AsyncTypes
