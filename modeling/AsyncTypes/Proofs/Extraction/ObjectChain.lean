import AsyncTypes.Proofs.Extraction.MessageChain

/-!
# Chains of references to objects

A reference in the place of a channel or an operation is resolved along the same chains as that
of a message.  The chain is followed to its last value, for which the budget suffices, and the
object is made of that value: it is the value itself when this is a mapping without a reference,
and otherwise a mapping that stands for a circle, for a pointer that leads nowhere, or for a
value of another kind.  A circle is noted in the log, and nothing else is noted in its words.
-/

namespace AsyncTypes

namespace Pointer

theorem isNull_of_follow? {document target : Value} {keys : List String} (further : keys ≠ [])
    (followed : follow? document keys = some target) : target.isNull = false := by
  induction keys generalizing document with
  | nil => exact absurd rfl further
  | cons key rest ih =>
      obtain ⟨next, stepped, later⟩ := Option.bind_eq_some_iff.mp followed
      cases rest with
      | nil =>
          cases later
          obtain ⟨value, -, present⟩ := Option.bind_eq_some_iff.mp stepped
          rw [present?] at present
          split at present
          · exact nomatch present
          · next other =>
              cases present
              exact Bool.eq_false_iff.mpr other
      | cons key rest => exact ih (List.cons_ne_nil key rest) later

/-- A pointer never leads to null. -/
theorem isNull_of_walk? {document target : Value} {pointer : String}
    (reached : walk? document pointer = some target) : target.isNull = false := by
  obtain ⟨keys, named, followed⟩ := Option.bind_eq_some_iff.mp reached
  obtain ⟨steps, -, rfl⟩ := Option.map_eq_some_iff.mp named
  exact isNull_of_follow? (mt List.map_eq_nil_iff.mp (Text.split_ne_nil '/' steps)) followed

end Pointer

namespace Extraction

open Pointer (circularPlaceholder chainBudget dereference resolveChain)

variable {document value last : Value} {pointers : List String}

/-- The object that a chain with this last value is resolved to.  A last value that refers leads
back into the chain, and null stands where a pointer leads nowhere. -/
def resolved (last : Value) : Value :=
  if last.reference?.isSome then circularPlaceholder
  else if last.isNull then .map []
  else if last.isMap then last
  else .record [("_resolved_value", last)]

/-- A circle is noted in the log. -/
def NotesCircle (log : List Log.Entry) : Prop :=
  ∃ pointer : String, ⟨.debug, .extraction, s!"Circular $ref detected: {pointer}"⟩ ∈ log

/-- Some logs note a circle when one of them does. -/
theorem notesCircle_append {first second : List Log.Entry} :
    NotesCircle (first ++ second) ↔ NotesCircle first ∨ NotesCircle second := by
  simp only [NotesCircle, List.mem_append, exists_or]

theorem not_notesCircle_nil : ¬NotesCircle [] :=
  fun ⟨_, listed⟩ => List.not_mem_nil listed

/-- An entry that starts with another letter does not note a circle. -/
theorem not_notesCircle_debug (text : String) (other : text.toList.head? ≠ some 'C') :
    ¬NotesCircle (Pointer.debug text).log := by
  rintro ⟨pointer, listed⟩
  obtain ⟨-, -, rfl⟩ := Log.Entry.mk.inj (List.mem_singleton.mp listed)
  exact other (by simp [toString])

/-- A warning does not note a circle. -/
theorem not_notesCircle_walk (document : Value) (pointer : String) :
    ¬NotesCircle (Pointer.walk document pointer).log := by
  rintro ⟨other, listed⟩
  unfold Pointer.walk at listed
  split at listed
  · exact absurd listed List.not_mem_nil
  · exact nomatch (Log.Entry.mk.inj (List.mem_singleton.mp listed)).1

/-- The chain with this last value is resolved, and a circle is noted when the value refers. -/
structure ResolvesTo (ran : Logged Value) (last : Value) : Prop where
  value : ran.value = resolved last
  noted : NotesCircle ran.log ↔ last.reference?.isSome = true

section

variable {budget : Nat} {visited : List String} {pointer : String}

theorem resolvesTo_circle (again : pointer ∈ visited) (refers : value.reference? = some pointer) :
    ResolvesTo (resolveChain document (budget + 1) visited pointer) value := by
  rw [resolveChain, if_pos (List.contains_iff_mem.mpr again)]
  constructor
  · rw [resolved, refers]
    rfl
  · rw [refers]
    exact iff_of_true ⟨pointer, List.mem_append_left _ (List.mem_singleton.mpr rfl)⟩ rfl

variable (fresh : pointer ∉ visited)
include fresh

/-- A link to a reference is followed by the chain from there. -/
theorem resolvesTo_link {next : String}
    (refers : ((Pointer.walk? document pointer).getD .null).reference? = some next)
    (onward : ResolvesTo (resolveChain document budget (pointer :: visited) next) last) :
    ResolvesTo (resolveChain document (budget + 1) visited pointer) last := by
  have walked := not_notesCircle_walk document pointer
  rw [resolveChain, if_neg (mt List.contains_iff_mem.mp fresh)]
  cases reached : Pointer.walk? document pointer with
  | none =>
      rw [reached] at refers
      exact nomatch refers
  | some target =>
      rw [reached, Option.getD_some] at refers
      have followed := not_notesCircle_debug s!"Following nested $ref: {pointer} -> {next}"
        (by simp [toString])
      constructor
      · rw [Logged.value_bind, Pointer.value_walk, reached]
        simp only [Value.isMap_of_reference? refers, if_true, refers]
        exact onward.value
      · rw [Logged.log_bind, Pointer.value_walk, reached, notesCircle_append]
        simp only [walked, false_or, Value.isMap_of_reference? refers, if_true, refers,
          Logged.log_bind, notesCircle_append, followed]
        exact onward.noted

/-- Any other link is the last one. -/
theorem resolvesTo_last
    (other : ((Pointer.walk? document pointer).getD .null).reference? = none) :
    ResolvesTo (resolveChain document (budget + 1) visited pointer)
      ((Pointer.walk? document pointer).getD .null) := by
  have walked := not_notesCircle_walk document pointer
  rw [resolveChain, if_neg (mt List.contains_iff_mem.mp fresh)]
  cases reached : Pointer.walk? document pointer with
  | none =>
      constructor
      · rw [Logged.value_bind, Pointer.value_walk, reached]
        rfl
      · rw [Logged.log_bind, Pointer.value_walk, reached, notesCircle_append]
        exact iff_of_false (not_or.mpr ⟨walked, not_notesCircle_nil⟩) nofun
  | some target =>
      rw [reached, Option.getD_some] at other
      have wrapped := not_notesCircle_debug
        s!"Resolved $ref {pointer} to a non-dict value; wrapping." (by simp [toString])
      constructor
      · rw [Logged.value_bind, Pointer.value_walk, reached, Option.getD_some, resolved,
          Pointer.isNull_of_walk? reached]
        simp only [other]
        split
        · rfl
        · rfl
      · rw [Logged.log_bind, Pointer.value_walk, reached, notesCircle_append, Option.getD_some,
          other]
        simp only [walked, false_or, other]
        refine iff_of_false ?_ nofun
        split
        · exact not_notesCircle_nil
        · rw [Logged.log_bind, notesCircle_append]
          exact not_or.mpr ⟨wrapped, not_notesCircle_nil⟩

end

/-- The budget covers a chain past some distinct pointers when it exceeds what is left of the
known ones, and all pointers that the chain can meet are known. -/
theorem exists_chain_of_resolve {known : List String}
    (ofDocument : ∀ pointer, document.Refers pointer → pointer ∈ known) (budget : Nat)
    (visited : List String) (pointer : String) (value : Value) (distinct : visited.Nodup)
    (before : visited ⊆ known) (here : pointer ∈ known)
    (enough : known.length < budget + visited.length)
    (refers : value.reference? = some pointer) :
    ∃ pointers last, Chain document value pointers last ∧ (pointers ++ visited).Nodup ∧
      (∀ next, last.reference? = some next → next ∈ pointers ++ visited) ∧
      ResolvesTo (resolveChain document budget visited pointer) last := by
  induction budget generalizing visited pointer value with
  | zero =>
      have fits := (distinct.subperm before).length_le
      omega
  | succ budget ih =>
      by_cases again : pointer ∈ visited
      · refine ⟨[], value, .here value, distinct, ?_, resolvesTo_circle again refers⟩
        intro next also
        cases refers.symm.trans also
        exact again
      have longer : (pointer :: visited).Nodup := List.nodup_cons.mpr ⟨again, distinct⟩
      cases onward : ((Pointer.walk? document pointer).getD .null).reference? with
      | none =>
          refine ⟨[pointer], _, .link refers (.here _), longer, ?_,
            resolvesTo_last again onward⟩
          exact fun next also => nomatch onward.symm.trans also
      | some next =>
          obtain ⟨pointers, last, chain, fresh, ended, result⟩ := ih (pointer :: visited) next _
            longer (List.cons_subset.mpr ⟨here, before⟩) (ofDocument next (refers_of_walk? onward))
            (by rw [List.length_cons]; omega) onward
          have moved : (pointers ++ pointer :: visited).Perm (pointer :: pointers ++ visited) :=
            List.perm_middle
          refine ⟨pointer :: pointers, last, .link refers chain, moved.nodup_iff.mp fresh, ?_,
            resolvesTo_link again onward result⟩
          exact fun other meets => moved.subset (ended other meets)

/-- The chain of references from a value that refers is followed to an end, and the budget
suffices for it. -/
theorem exists_resolve {pointer : String} (refers : value.reference? = some pointer) :
    ∃ pointers last, Followed document value pointers last ∧
      ResolvesTo (Pointer.resolve document pointer) last := by
  have ofDocument : ∀ next, document.Refers next → next ∈ pointer :: document.references :=
    fun next held => List.mem_cons_of_mem pointer (Value.mem_references_iff.mpr held)
  have enough : (pointer :: document.references).length <
      chainBudget document + ([] : List String).length := by
    rw [List.length_cons, chainBudget, List.length_nil]
    omega
  obtain ⟨pointers, last, chain, distinct, ended, result⟩ :=
    exists_chain_of_resolve ofDocument (chainBudget document) [] pointer value List.nodup_nil
      (List.nil_subset _) List.mem_cons_self enough refers
  rw [List.append_nil] at distinct ended
  exact ⟨pointers, last, ⟨chain, distinct, ended⟩, result⟩

/-- A value in the place of an object is what its chain of references is resolved to, or is
itself when it is no reference. -/
theorem exists_resolved (document value : Value) :
    ∃ pointers last, Followed document value pointers last ∧
      (dereference document value).value =
        if value.reference?.isSome then resolved last else value := by
  cases refers : value.reference? with
  | none =>
      refine ⟨[], value, ⟨.here value, List.nodup_nil, ?_⟩, ?_⟩
      · exact fun _ also => nomatch refers.symm.trans also
      · rw [dereference, refers]
        rfl
  | some pointer =>
      obtain ⟨pointers, last, followed, result⟩ := exists_resolve refers
      refine ⟨pointers, last, followed, ?_⟩
      rw [dereference, refers]
      exact result.value

end Extraction

end AsyncTypes
