import Mathlib.Data.List.Forall2
import Mathlib.Data.Option.Defs
import AsyncTypes.Proofs.Value.Part

/-!
# Values up to the texts of their pointers

Erasing the pointers of a value leaves of every text under `$ref` only that it is a text.  Two
values with one erasure have the same mappings and lists with the same keys, and differ in the
texts of pointers at most.  So they nest equally deep, and where one of them has a given part
under a name, the other one has it, too.
-/

namespace AsyncTypes

namespace Value

/-! ## Erasing -/

/-- The key under which a reference holds its pointer. -/
abbrev pointerKey : Scalar := .string "$ref"

/-- What is left of the value under a key, given the value without its pointers: of a pointer
only that it is a text. -/
def erasedUnder (key : Scalar) (value erased : Value) : Value :=
  if key = pointerKey ∧ value.text?.isSome then .string "" else erased

mutual

/-- The value without the texts of its pointers. -/
def erasePointers : Value → Value
  | .scalar value => .scalar value
  | .list items => .list (eraseItems items)
  | .map entries => .map (eraseEntries entries)
  | .set members => .set members
  | .pair first second => .pair (erasePointers first) (erasePointers second)

/-- The items without the texts of their pointers. -/
def eraseItems : List Value → List Value
  | [] => []
  | item :: rest => erasePointers item :: eraseItems rest

/-- The entries without the texts of their pointers. -/
def eraseEntries : List (Scalar × Value) → List (Scalar × Value)
  | [] => []
  | (key, value) :: rest =>
      (key, erasedUnder key value (erasePointers value)) :: eraseEntries rest

end

/-- A mapping without the texts of its pointers, but with what `keep` leaves of the value under
a name. -/
def eraseBeside (name : String) (keep : Value → Value) : Value → Value
  | .map entries => .map (entries.map fun entry =>
      (entry.1, if entry.1 = .string name then keep entry.2
        else erasedUnder entry.1 entry.2 entry.2.erasePointers))
  | value => value.erasePointers

/-- A document without the texts of the pointers outside its component schemas. -/
def eraseOutsideSchemas (document : Value) : Value :=
  document.eraseBeside "components" (eraseBeside "schemas" id)

/-! ## Values with one erasure -/

/-- The values differ in the texts of pointers only, or both are texts, as two pointers are. -/
def Alike (first second : Value) : Prop :=
  first.erasePointers = second.erasePointers ∨
    (first.text?.isSome = true ∧ second.text?.isSome = true)

/-- The entries have one key, and their values are alike; only pointers differ in their texts. -/
structure EntriesAlike (first second : Scalar × Value) : Prop where
  key : first.1 = second.1
  alike : Alike first.2 second.2
  erased : first.1 ≠ pointerKey → first.2.erasePointers = second.2.erasePointers

variable {first second : Value} {items others : List Value} {entries further : Entries}
  {name : String}

theorem text?_erasePointers (value : Value) : value.erasePointers.text? = value.text? := by
  cases value <;> rfl

theorem Alike.of_eq (same : first.erasePointers = second.erasePointers) : Alike first second :=
  Or.inl same

theorem Alike.refl (value : Value) : Alike value value :=
  Or.inl rfl

/-- Values with one erasure under a key are alike. -/
theorem entriesAlike_of_erasedUnder {key : Scalar}
    (same : erasedUnder key first first.erasePointers =
      erasedUnder key second second.erasePointers) :
    EntriesAlike (key, first) (key, second) := by
  have texts (value : Value) (erased : value.erasePointers = .string "") :
      value.text?.isSome = true := by
    rw [← text?_erasePointers, erased]
    rfl
  unfold erasedUnder at same
  split at same
  · next held =>
      refine ⟨rfl, Or.inr ⟨held.2, ?_⟩, fun other => absurd held.1 other⟩
      split at same
      · next heldAlso => exact heldAlso.2
      · exact texts second same.symm
  · next free =>
      split at same
      · next held => exact absurd ⟨held.1, texts first same⟩ free
      · exact ⟨rfl, .of_eq same, fun _ => same⟩

theorem eraseItems_eq_map (items : List Value) : eraseItems items = items.map erasePointers := by
  induction items with
  | nil => rfl
  | cons item rest ih => rw [eraseItems, ih, List.map_cons]

theorem eraseEntries_eq_map (entries : Entries) : eraseEntries entries =
    entries.map fun entry => (entry.1, erasedUnder entry.1 entry.2 entry.2.erasePointers) := by
  induction entries with
  | nil => rfl
  | cons entry rest ih => rw [eraseEntries, ih, List.map_cons]

/-- Lists with one erasure have items with one erasure. -/
theorem items_alike (same : (Value.list items).erasePointers = (Value.list others).erasePointers) :
    List.Forall₂ (fun first second => first.erasePointers = second.erasePointers) items others := by
  have listed := Value.list.inj same
  rw [eraseItems_eq_map, eraseItems_eq_map] at listed
  rw [← List.forall₂_eq_eq_eq, List.forall₂_map_left_iff, List.forall₂_map_right_iff] at listed
  exact listed

/-- Entries with one image agree pairwise, when single entries with one image do. -/
theorem forall₂_of_map_eq {image : Scalar × Value → Scalar × Value}
    {agree : Scalar × Value → Scalar × Value → Prop}
    (each : ∀ first second, image first = image second → agree first second)
    (same : entries.map image = further.map image) : List.Forall₂ agree entries further := by
  rw [← List.forall₂_eq_eq_eq, List.forall₂_map_left_iff, List.forall₂_map_right_iff] at same
  exact same.imp each

/-- Mappings with one erasure have entries that are alike. -/
theorem entries_alike
    (same : (Value.map entries).erasePointers = (Value.map further).erasePointers) :
    List.Forall₂ EntriesAlike entries further := by
  have listed := Value.map.inj same
  rw [eraseEntries_eq_map, eraseEntries_eq_map] at listed
  refine forall₂_of_map_eq ?_ listed
  rintro ⟨key, first⟩ ⟨other, second⟩ same
  obtain ⟨rfl, erased⟩ := Prod.mk.inj same
  exact entriesAlike_of_erasedUnder erased

/-- Two values with one erasure, seen from their parts. -/
inductive PartsAlike : Value → Value → Prop
  | scalar (scalar : Scalar) : PartsAlike (.scalar scalar) (.scalar scalar)
  | list {items others : List Value}
      (each : List.Forall₂ (fun item other => item.erasePointers = other.erasePointers)
        items others) : PartsAlike (.list items) (.list others)
  | map {entries further : Entries} (each : List.Forall₂ EntriesAlike entries further) :
      PartsAlike (.map entries) (.map further)
  | set (members : List Scalar) : PartsAlike (.set members) (.set members)
  | pair {first second other another : Value} (firsts : first.erasePointers = other.erasePointers)
      (seconds : second.erasePointers = another.erasePointers) :
      PartsAlike (.pair first second) (.pair other another)

theorem partsAlike_of_erase_eq (same : first.erasePointers = second.erasePointers) :
    PartsAlike first second := by
  cases first with
  | scalar value =>
      cases second <;> simp only [erasePointers, reduceCtorEq] at same
      cases same
      exact .scalar value
  | list items =>
      cases second <;> simp only [erasePointers, reduceCtorEq] at same
      exact .list (items_alike (by simp only [erasePointers, same]))
  | map entries =>
      cases second <;> simp only [erasePointers, reduceCtorEq] at same
      exact .map (entries_alike (by simp only [erasePointers, same]))
  | set members =>
      cases second <;> simp only [erasePointers, reduceCtorEq] at same
      cases same
      exact .set members
  | pair one two =>
      cases second <;> simp only [erasePointers, reduceCtorEq] at same
      obtain ⟨firsts, seconds⟩ := Value.pair.inj same
      exact .pair firsts seconds

/-! ## What values with one erasure share -/

theorem isMap_eq_of_erase_eq (same : first.erasePointers = second.erasePointers) :
    first.isMap = second.isMap := by
  cases partsAlike_of_erase_eq same <;> rfl

theorem isNull_eq_of_erase_eq (same : first.erasePointers = second.erasePointers) :
    first.isNull = second.isNull := by
  cases partsAlike_of_erase_eq same <;> rfl

theorem isGiven_eq_of_erase_eq (same : first.erasePointers = second.erasePointers) :
    first.isGiven = second.isGiven := by
  cases partsAlike_of_erase_eq same with
  | list each => cases each <;> rfl
  | map each => cases each <;> rfl
  | _ => rfl

/-- Entries that are alike hold alike values under a name. -/
theorem lookup_alike (each : List.Forall₂ EntriesAlike entries further) (name : String) :
    Option.Rel (fun first second => EntriesAlike (.string name, first) (.string name, second))
      (entries.lookup (.string name)) (Entries.lookup further (.string name)) := by
  induction each with
  | nil => exact .none
  | @cons entry other rest others alike _ ih =>
      obtain ⟨key, value⟩ := entry
      obtain ⟨otherKey, otherValue⟩ := other
      obtain rfl : key = otherKey := alike.key
      unfold Entries.lookup
      rw [List.find?_cons, List.find?_cons]
      by_cases found : key.sameKey (.string name) = true
      · obtain rfl := Scalar.sameKey_text_iff.mp found
        rw [found]
        exact .some alike
      · rw [Bool.not_eq_true] at found
        rw [found]
        exact ih

/-- Values with one erasure hold alike values under a name. -/
theorem get?_alike (same : first.erasePointers = second.erasePointers) (name : String) :
    Option.Rel (fun first second => EntriesAlike (.string name, first) (.string name, second))
      (first.get? name) (second.get? name) := by
  cases partsAlike_of_erase_eq same with
  | map each => exact lookup_alike each name
  | _ => exact .none

theorem get?_isNone_eq_of_erase_eq (same : first.erasePointers = second.erasePointers)
    (name : String) : (first.get? name).isNone = (second.get? name).isNone := by
  have held := get?_alike same name
  generalize first.get? name = found at held
  generalize second.get? name = foundAlso at held
  cases held <;> rfl

/-- Under every name but that of a pointer, values with one erasure hold values with one
erasure. -/
theorem field_erase_eq (same : first.erasePointers = second.erasePointers) (other : name ≠ "$ref") :
    (first.field name).erasePointers = (second.field name).erasePointers := by
  have held := get?_alike same name
  unfold field
  generalize first.get? name = part at held
  generalize second.get? name = part' at held
  cases held with
  | none => rfl
  | some alike => exact alike.erased (by simpa using other)

/-- The entries of values with one erasure are alike. -/
theorem entriesAlike_of_erase_eq (same : first.erasePointers = second.erasePointers) :
    List.Forall₂ EntriesAlike (first.entries?.getD []) (second.entries?.getD []) := by
  cases partsAlike_of_erase_eq same with
  | map each => exact each
  | _ => exact .nil

/-- The items of values with one erasure have one erasure. -/
theorem itemsAlike_of_erase_eq (same : first.erasePointers = second.erasePointers) :
    List.Forall₂ (fun item other => item.erasePointers = other.erasePointers)
      (first.items?.getD []) (second.items?.getD []) := by
  cases partsAlike_of_erase_eq same with
  | list each => exact each
  | _ => exact .nil

/-- What values with one erasure hold is alike. -/
theorem children_alike (same : first.erasePointers = second.erasePointers) :
    List.Forall₂ Alike first.children second.children := by
  cases partsAlike_of_erase_eq same with
  | list each => exact each.imp fun _ _ => Alike.of_eq
  | map each =>
      exact List.forall₂_map_left_iff.mpr (List.forall₂_map_right_iff.mpr
        (each.imp fun _ _ alike => alike.alike))
  | _ => exact .nil

theorem Alike.children (alike : Alike first second) :
    List.Forall₂ Alike first.children second.children := by
  rcases alike with same | ⟨text, textAlso⟩
  · exact children_alike same
  · match first, second with
    | .string _, .string _ => exact .nil

theorem Alike.isContainer_eq (alike : Alike first second) :
    first.isContainer = second.isContainer := by
  rcases alike with same | ⟨text, textAlso⟩
  · cases partsAlike_of_erase_eq same <;> rfl
  · match first, second with
    | .string _, .string _ => rfl

/-! ## Nesting -/

/-- Values that are alike nest equally deep. -/
theorem anyDeeper_alike (limit : Nat) (pending : List (Nat × Value)) {others : List (Nat × Value)}
    (each : List.Forall₂ (fun first second => first.1 = second.1 ∧ Alike first.2 second.2)
      pending others) : anyDeeper limit pending = anyDeeper limit others := by
  induction pending using anyDeeper.induct limit generalizing others with
  | case1 =>
      cases each
      rfl
  | case2 depth value rest container deep =>
      obtain ⟨⟨_, other⟩, others, ⟨rfl, alike⟩, later, rfl⟩ := List.forall₂_cons_left_iff.mp each
      have containerAlso := alike.isContainer_eq ▸ container
      rw [anyDeeper, if_pos container, if_pos deep, anyDeeper, if_pos containerAlso, if_pos deep]
  | case3 depth value rest container shallow ih =>
      obtain ⟨⟨_, other⟩, others, ⟨rfl, alike⟩, later, rfl⟩ := List.forall₂_cons_left_iff.mp each
      have containerAlso := alike.isContainer_eq ▸ container
      rw [anyDeeper, if_pos container, if_neg shallow, anyDeeper, if_pos containerAlso,
        if_neg shallow]
      apply ih
      refine List.rel_append ?_ later
      refine List.forall₂_map_left_iff.mpr (List.forall₂_map_right_iff.mpr ?_)
      exact alike.children.imp fun _ _ alike => ⟨rfl, alike⟩
  | case4 depth value rest single ih =>
      obtain ⟨⟨_, other⟩, others, ⟨rfl, alike⟩, later, rfl⟩ := List.forall₂_cons_left_iff.mp each
      have singleAlso := alike.isContainer_eq ▸ single
      rw [anyDeeper, if_neg single, anyDeeper, if_neg singleAlso]
      exact ih later

theorem exceedsDepth_eq_of_erase_eq (same : first.erasePointers = second.erasePointers)
    (limit : Nat) : first.exceedsDepth limit = second.exceedsDepth limit :=
  anyDeeper_alike limit _ (.cons ⟨rfl, .of_eq same⟩ .nil)

/-! ## Pointers outside the component schemas -/

section

variable {keep : Value → Value}

/-- What `keep` does not tell apart has one erasure. -/
def Coarse (keep : Value → Value) : Prop :=
  ∀ first second, keep first = keep second → first.erasePointers = second.erasePointers

theorem isMap_eraseBeside (value : Value) (name : String) (keep : Value → Value) :
    (value.eraseBeside name keep).isMap = value.isMap := by
  cases value <;> rfl

theorem eraseBeside_of_not_isMap (other : first.isMap = false) :
    first.eraseBeside name keep = first.erasePointers := by
  cases first <;> first | rfl | exact nomatch other

/-- Where nothing is told apart beside one part but what differs in more than pointers, the
entries are alike. -/
theorem entriesAlike_of_eraseBeside (coarse : Coarse keep) (other : name ≠ "$ref")
    (same : (Value.map entries).eraseBeside name keep = (Value.map further).eraseBeside name keep) :
    List.Forall₂ (fun first second => first.1 = second.1 ∧
      (first.1 = .string name → keep first.2 = keep second.2) ∧
      erasedUnder first.1 first.2 first.2.erasePointers =
        erasedUnder second.1 second.2 second.2.erasePointers) entries further := by
  refine forall₂_of_map_eq ?_ (Value.map.inj same)
  rintro ⟨key, first⟩ ⟨key', second⟩ pairSame
  obtain ⟨rfl, kept⟩ := Prod.mk.inj pairSame
  refine ⟨rfl, ?_⟩
  dsimp only at kept ⊢
  by_cases named : key = .string name
  · rw [if_pos named, if_pos named] at kept
    have ordinary : ¬ key = pointerKey := by
      rw [named]
      simpa using other
    rw [erasedUnder, erasedUnder, if_neg fun held => ordinary held.1,
      if_neg fun held => ordinary held.1]
    exact ⟨fun _ => kept, coarse first second kept⟩
  · rw [if_neg named, if_neg named] at kept
    exact ⟨fun named' => absurd named' named, kept⟩

/-- A value that is erased but for one part tells more than its erasure. -/
theorem coarse_eraseBeside (coarse : Coarse keep) (other : name ≠ "$ref") :
    Coarse (eraseBeside name keep) := by
  intro first second same
  have mapping : first.isMap = second.isMap := by
    rw [← isMap_eraseBeside first name keep, same, isMap_eraseBeside]
  cases isMap : first.isMap with
  | false =>
      rwa [eraseBeside_of_not_isMap isMap, eraseBeside_of_not_isMap (mapping ▸ isMap)] at same
  | true =>
      match first, second with
      | .map entries, .map further =>
          have each := entriesAlike_of_eraseBeside coarse other same
          rw [erasePointers, erasePointers, eraseEntries_eq_map, eraseEntries_eq_map]
          refine congrArg Value.map ?_
          rw [← List.forall₂_eq_eq_eq, List.forall₂_map_left_iff, List.forall₂_map_right_iff]
          exact each.imp fun _ _ agree => Prod.ext agree.1 agree.2.2

/-- Under its name, a mapping that is erased beside one part holds what is left of that part. -/
theorem get?_eraseBeside (value : Value) (name : String) (keep : Value → Value) :
    (value.eraseBeside name keep).get? name = (value.get? name).map keep := by
  cases value with
  | map entries =>
      rw [eraseBeside, get?, get?, Entries.lookup, Entries.lookup, List.find?_map, Option.map_map,
        Option.map_map]
      apply Option.map_congr
      intro entry found
      have named : entry.1.sameKey (.string name) = true := by
        simpa using List.find?_some (Option.mem_def.mp found)
      exact if_pos (Scalar.sameKey_text_iff.mp named)
  | _ => rfl

end

variable {document other : Value}

/-- Documents that differ only in pointers outside the component schemas have one erasure. -/
theorem erase_eq_of_eraseOutside_eq
    (same : document.eraseOutsideSchemas = other.eraseOutsideSchemas) :
    document.erasePointers = other.erasePointers :=
  coarse_eraseBeside (coarse_eraseBeside (fun _ _ same => congrArg erasePointers same) (by decide))
    (by decide) document other same

/-- Documents that differ only in pointers outside the component schemas have the same component
schemas. -/
theorem schemas_eq_of_eraseOutside_eq
    (same : document.eraseOutsideSchemas = other.eraseOutsideSchemas) :
    (document.field "components").field "schemas" = (other.field "components").field "schemas" := by
  have schemas (value : Value) : (value.field "components").field "schemas" =
      ((value.eraseOutsideSchemas).field "components").field "schemas" := by
    simp only [field, eraseOutsideSchemas, get?_eraseBeside]
    cases value.get? "components" with
    | none => rfl
    | some components =>
        change _ = ((components.eraseBeside "schemas" id).get? "schemas").getD null
        rw [get?_eraseBeside, Option.map_id_apply]
        rfl
  rw [schemas, same, ← schemas]

end Value

end AsyncTypes
