import Mathlib.Data.List.Basic
import Mathlib.Data.List.Induction
import AsyncTypes.Proofs.Value.Part

/-!
# References in the order of the document

The references of a value are collected in rounds that take one pending value after another.  The
rounds go through the value as a reader of the document does: a value comes before what it holds,
and one part with all inside it before the next.  After any number of rounds, what is pending
stands for the rest of the way, and the pointers found are those met so far, each where it was met
first.  So the rounds end when every part has been taken once.
-/

namespace AsyncTypes

/-! ## First occurrences -/

section

variable {α : Type} [BEq α] [LawfulBEq α]

/-- An item at the end of a list is a first occurrence exactly when it is not listed before. -/
theorem eraseDups_concat (items : List α) (item : α) :
    (items ++ [item]).eraseDups =
      if items.contains item then items.eraseDups else items.eraseDups ++ [item] := by
  rw [List.eraseDups_append, List.removeAll]
  by_cases listed : item ∈ items
  · simp [listed]
  · simp [listed, List.eraseDups_cons]

/-- First occurrences stand in the order of their places. -/
theorem pairwise_idxOf_eraseDups (items : List α) :
    items.eraseDups.Pairwise fun first second => items.idxOf first < items.idxOf second := by
  induction items using List.reverseRecOn with
  | nil => simp
  | append_singleton items item ih =>
      have place {other : α} (listed : other ∈ items.eraseDups) :
          (items ++ [item]).idxOf other = items.idxOf other :=
        List.idxOf_append_of_mem (List.mem_eraseDups.mp listed)
      have earlier : items.eraseDups.Pairwise fun first second =>
          (items ++ [item]).idxOf first < (items ++ [item]).idxOf second := by
        refine ih.imp_of_mem fun first second before => ?_
        rwa [place first, place second]
      rw [eraseDups_concat]
      split
      · exact earlier
      · next new =>
          refine List.pairwise_append.mpr ⟨earlier, List.pairwise_singleton _ _, ?_⟩
          intro first listed second last
          obtain rfl := List.mem_singleton.mp last
          have atEnd : (items ++ [second]).idxOf second = items.length := by
            rw [List.idxOf_append_of_notMem (by simpa using new)]
            simp
          rw [place listed, atEnd]
          exact List.idxOf_lt_length_iff.mpr (List.mem_eraseDups.mp listed)

theorem nodup_eraseDups (items : List α) : items.eraseDups.Nodup := by
  apply (pairwise_idxOf_eraseDups items).imp
  rintro first second before rfl
  exact absurd before (Nat.lt_irrefl _)

end

namespace Value

variable {value part : Value}

/-! ## The order of the document -/

mutual

/-- The parts of a value in the order of the document: a value stands before what it holds, and
one thing that it holds stands with all inside it before the next. -/
def preorder : Value → List Value
  | .list items => .list items :: preorderOfItems items
  | .map entries => .map entries :: preorderOfEntries entries
  | value => [value]

/-- The parts of some items. -/
def preorderOfItems : List Value → List Value
  | [] => []
  | item :: rest => preorder item ++ preorderOfItems rest

/-- The parts of the values of some entries. -/
def preorderOfEntries : List (Scalar × Value) → List Value
  | [] => []
  | (_, value) :: rest => preorder value ++ preorderOfEntries rest

end

theorem preorderOfItems_eq (items : List Value) :
    preorderOfItems items = items.flatMap preorder := by
  induction items with
  | nil => rfl
  | cons item rest ih => rw [preorderOfItems, ih, List.flatMap_cons]

theorem preorderOfEntries_eq (entries : Entries) :
    preorderOfEntries entries = (entries.map (·.2)).flatMap preorder := by
  induction entries with
  | nil => rfl
  | cons entry rest ih => rw [preorderOfEntries, ih, List.map_cons, List.flatMap_cons]

/-- A value comes first, and then the parts of what it holds. -/
theorem preorder_eq (value : Value) :
    value.preorder = value :: value.children.flatMap preorder := by
  cases value with
  | list items => rw [preorder, preorderOfItems_eq]; rfl
  | map entries => rw [preorder, preorderOfEntries_eq]; rfl
  | _ => rfl

/-! ## References -/

/-- A reference is a mapping with a text under the name of a reference, which is its pointer. -/
theorem reference?_eq_some_iff {pointer : String} : value.reference? = some pointer ↔
    ∃ entries, value = .map entries ∧
      Entries.lookup entries (.string "$ref") = some (.string pointer) := by
  constructor
  · intro refers
    obtain ⟨held, found, text⟩ := Option.bind_eq_some_iff.mp refers
    match value, held, found, text with
    | .map entries, .string _, found, rfl => exact ⟨entries, rfl, found⟩
  · rintro ⟨entries, rfl, found⟩
    rw [reference?, get?, found]
    rfl

/-- The pointers of the references in a value, in the order of the document, as often as they
occur. -/
def occurrences (value : Value) : List String :=
  value.preorder.filterMap reference?

/-! ## Collecting in rounds -/

/-- The pointers found so far, and the values that are still to be taken. -/
structure Collection where
  found : List String
  pending : List Value

namespace Collection

/-- Nothing is found in a value yet. -/
def start (value : Value) : Collection :=
  ⟨[], [value]⟩

/-- One round takes the first pending value: its pointer joins those found, and what it holds is
put in its place.  When nothing is pending, there is no further round. -/
def next? (collection : Collection) : Option Collection :=
  match collection.pending with
  | [] => none
  | value :: rest => some ⟨addPointer collection.found value, value.children ++ rest⟩

/-- A collection after some rounds, if there are as many. -/
def after? (collection : Collection) : Nat → Option Collection
  | 0 => some collection
  | rounds + 1 => (collection.after? rounds).bind next?

/-- The collection has taken some first parts of a value: what is pending stands for the rest, and
the pointers found are the distinct ones of the parts taken, where they occur first. -/
structure HasTaken (value : Value) (taken : List Value) (collection : Collection) : Prop where
  order : value.preorder = taken ++ collection.pending.flatMap preorder
  found : collection.found = (taken.filterMap reference?).eraseDups

variable {collection later : Collection} {taken : List Value}

theorem hasTaken_start (value : Value) : HasTaken value [] (start value) := by
  constructor
  · simp [start]
  · rfl

/-- What a round finds is what the parts refer to with one more of them. -/
theorem addPointer_eraseDups (taken : List Value) (part : Value) :
    addPointer (taken.filterMap reference?).eraseDups part =
      ((taken ++ [part]).filterMap reference?).eraseDups := by
  rw [List.filterMap_append, addPointer]
  cases held : part.reference? with
  | none => simp [held]
  | some pointer =>
      have known : (taken.filterMap reference?).eraseDups.contains pointer =
          (taken.filterMap reference?).contains pointer := by
        rw [Bool.eq_iff_iff, List.contains_iff_mem, List.contains_iff_mem, List.mem_eraseDups]
      rw [List.filterMap_cons_some held, List.filterMap_nil, eraseDups_concat, ← known]

/-- A round takes the next part in the order of the document. -/
theorem HasTaken.next {rest : List Value} (hasTaken : HasTaken value taken collection)
    (pending : collection.pending = part :: rest) : ∃ later, collection.next? = some later ∧
      HasTaken value (taken ++ [part]) later := by
  refine ⟨⟨addPointer collection.found part, part.children ++ rest⟩, ?_, ?_, ?_⟩
  · rw [next?, pending]
  · rw [hasTaken.order, pending, List.flatMap_cons, preorder_eq part]
    simp
  · rw [hasTaken.found, addPointer_eraseDups]

/-- While parts are left, the first pending value is the next of them. -/
theorem HasTaken.pending_eq {rest : List Value} (hasTaken : HasTaken value taken collection)
    (left : value.preorder = taken ++ part :: rest) :
    ∃ others, collection.pending = part :: others := by
  have same := hasTaken.order.symm.trans left
  cases pending : collection.pending with
  | nil => simp [pending] at same
  | cons first others =>
      rw [pending, List.flatMap_cons, preorder_eq first, List.append_cancel_left_eq] at same
      exact ⟨others, congrArg (· :: others) (List.cons.inj same).1⟩

/-- When all parts are taken, nothing is pending. -/
theorem HasTaken.pending_eq_nil (hasTaken : HasTaken value value.preorder collection) :
    collection.pending = [] := by
  have nothing := List.self_eq_append_right.mp hasTaken.order
  cases pending : collection.pending with
  | nil => rfl
  | cons first others => simp [pending, preorder_eq first] at nothing

/-- Every round takes one part, up to the last of them. -/
theorem exists_after? (value : Value) {rounds : Nat} (within : rounds ≤ value.preorder.length) :
    ∃ collection, (start value).after? rounds = some collection ∧
      HasTaken value (value.preorder.take rounds) collection := by
  induction rounds with
  | zero => exact ⟨start value, rfl, hasTaken_start value⟩
  | succ rounds ih =>
      obtain ⟨before, reached, hasTaken⟩ := ih (Nat.le_of_succ_le within)
      have left : value.preorder = value.preorder.take rounds ++
          value.preorder[rounds] :: value.preorder.drop (rounds + 1) := by
        rw [List.getElem_cons_drop, List.take_append_drop]
      obtain ⟨others, pending⟩ := hasTaken.pending_eq left
      obtain ⟨later, made, further⟩ := hasTaken.next pending
      refine ⟨later, ?_, ?_⟩
      · rw [after?, reached, Option.bind_some, made]
      · rwa [List.take_append_getElem] at further

/-- The rounds that are left lead to the pointers that are collected. -/
theorem collectReferences_next? (made : collection.next? = some later) :
    collectReferences collection.found collection.pending =
      collectReferences later.found later.pending := by
  cases pending : collection.pending with
  | nil => simp [next?, pending] at made
  | cons part rest =>
      rw [next?, pending] at made
      cases made
      rw [collectReferences]

theorem collectReferences_after? {rounds : Nat} (reached : collection.after? rounds = some later) :
    collectReferences collection.found collection.pending =
      collectReferences later.found later.pending := by
  induction rounds generalizing later with
  | zero =>
      cases reached
      rfl
  | succ rounds ih =>
      obtain ⟨middle, before, made⟩ := Option.bind_eq_some_iff.mp reached
      rw [ih before, collectReferences_next? made]

/-- After as many rounds as there are parts, the references are found and nothing is pending. -/
theorem after?_preorder (value : Value) :
    (start value).after? value.preorder.length = some ⟨value.references, []⟩ ∧
      value.references = value.occurrences.eraseDups := by
  obtain ⟨last, reached, hasTaken⟩ := exists_after? value (Nat.le_refl _)
  rw [List.take_length] at hasTaken
  have nothing := hasTaken.pending_eq_nil
  have same : value.references = last.found := by
    have collected := collectReferences_after? reached
    rwa [nothing, collectReferences] at collected
  constructor
  · rw [reached, same, ← nothing]
  · rw [same, hasTaken.found, occurrences]

end Collection

/-- The references of a value are found in the order of the document.  Taking one pending value
after another, the collection of a value ends after as many rounds as the value has parts, with the
references of the value.  These are the texts that stand under the name of a reference in some
mapping of the value, each once, in the order in which they occur first. -/
theorem references_in_order (value : Value) :
    (Collection.start value).after? value.preorder.length = some ⟨value.references, []⟩ ∧
      (∀ pointer, pointer ∈ value.references ↔ ∃ entries, PartOf (.map entries) value ∧
        Entries.lookup entries (.string "$ref") = some (.string pointer)) ∧
      value.references.Nodup ∧
      value.references = value.occurrences.eraseDups ∧
      value.references.Pairwise fun first second =>
        value.occurrences.idxOf first < value.occurrences.idxOf second := by
  obtain ⟨ends, collected⟩ := Collection.after?_preorder value
  refine ⟨ends, ?_, ?_, collected, ?_⟩
  · intro pointer
    rw [mem_references_iff]
    constructor
    · rintro ⟨part, inside, refers⟩
      obtain ⟨entries, rfl, found⟩ := reference?_eq_some_iff.mp refers
      exact ⟨entries, inside, found⟩
    · rintro ⟨entries, inside, found⟩
      exact ⟨_, inside, reference?_eq_some_iff.mpr ⟨entries, rfl, found⟩⟩
  · rw [collected]
    exact nodup_eraseDups _
  · rw [collected]
    exact pairwise_idxOf_eraseDups _

/-- A pointer stands before those below it, wherever its entry stands, and is not repeated. -/
example : references (.record [
    ("first", .list [.record [("$ref", .string "#/b")], .record [("$ref", .string "#/a")]]),
    ("$ref", .string "#/a"),
    ("last", .record [("$ref", .string "#/c")])]) = ["#/a", "#/b", "#/c"] := by
  decide +kernel

end Value

end AsyncTypes
