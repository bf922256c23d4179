import Mathlib.Data.List.Nodup
import AsyncTypes.Proofs.Value.Part

/-!
# JSON values

What a JSON text decodes to: the keys of a mapping are texts, no two of them the same, and
there are no dates, bytes, sets and pairs.  In such a mapping, what is looked up under a name
is what stands there.
-/

namespace AsyncTypes

/-- The scalar can stand in a JSON text. -/
def Scalar.isJson : Scalar → Bool
  | .null | .bool _ | .int _ | .float _ | .string _ => true
  | .date _ | .dateTime _ | .bytes _ => false

/-- The scalar is a text. -/
def Scalar.isText : Scalar → Bool
  | .string _ => true
  | _ => false

namespace Value

mutual

/-- The value can be decoded from a JSON text. -/
def isJson : Value → Bool
  | .scalar value => value.isJson
  | .list items => areJson items
  | .map entries => decide (entries.map (·.1)).Nodup && holdJson entries
  | .set _ | .pair _ _ => false

/-- All items can be decoded from JSON texts. -/
def areJson : List Value → Bool
  | [] => true
  | item :: rest => isJson item && areJson rest

/-- The entries have texts for keys, and their values can be decoded from JSON texts. -/
def holdJson : List (Scalar × Value) → Bool
  | [] => true
  | (key, value) :: rest => key.isText && isJson value && holdJson rest

end

theorem areJson_iff {items : List Value} :
    areJson items = true ↔ ∀ item ∈ items, item.isJson = true := by
  induction items with
  | nil => simp [areJson]
  | cons item rest ih => simp [areJson, ih]

theorem holdJson_iff {entries : Entries} :
    holdJson entries = true ↔
      ∀ entry ∈ entries, entry.1.isText = true ∧ entry.2.isJson = true := by
  induction entries with
  | nil => simp [holdJson]
  | cons entry rest ih => simp [holdJson, ih]

theorem isJson_map_iff {entries : Entries} :
    (Value.map entries).isJson = true ↔ (entries.map (·.1)).Nodup ∧
      ∀ entry ∈ entries, entry.1.isText = true ∧ entry.2.isJson = true := by
  rw [isJson, Bool.and_eq_true, decide_eq_true_eq, holdJson_iff]

variable {value part : Value} {entries : Entries} {name : String}

/-- The keys of a JSON mapping are texts. -/
theorem exists_text_of_isJson (json : (Value.map entries).isJson = true)
    {entry : Scalar × Value} (listed : entry ∈ entries) : ∃ name, entry.1 = .string name := by
  have text := ((isJson_map_iff.mp json).2 entry listed).1
  obtain ⟨key, value⟩ := entry
  cases key with
  | string name => exact ⟨name, rfl⟩
  | _ => exact nomatch text

theorem isJson_of_mem_children (json : value.isJson = true) (listed : part ∈ value.children) :
    part.isJson = true := by
  cases value with
  | list items => exact areJson_iff.mp json part listed
  | map entries =>
      obtain ⟨entry, member, rfl⟩ := List.mem_map.mp listed
      exact ((isJson_map_iff.mp json).2 entry member).2
  | _ => exact absurd listed List.not_mem_nil

/-- The parts of a JSON value are JSON values. -/
theorem isJson_of_partOf (inside : PartOf part value) (json : value.isJson = true) :
    part.isJson = true := by
  induction inside with
  | refl => exact json
  | child listed _ ih => exact ih (isJson_of_mem_children json listed)

theorem isJson_field (json : value.isJson = true) (name : String) :
    (value.field name).isJson = true := by
  rcases field_cases value name with inside | nothing
  · exact isJson_of_partOf inside json
  · rw [nothing]
    rfl

/-- The keys of a JSON value are texts, and they are distinct. -/
theorem keys_of_isJson (json : value.isJson = true) :
    ((value.entries?.getD []).map (·.1)).Nodup ∧
      ∀ entry ∈ value.entries?.getD [], entry.1 = .string entry.1.shown := by
  cases value with
  | map entries =>
      refine ⟨(isJson_map_iff.mp json).1, fun entry listed => ?_⟩
      obtain ⟨name, text⟩ := exists_text_of_isJson json listed
      rw [text, Scalar.shown_string]
  | _ => exact ⟨List.nodup_nil, fun _ listed => absurd listed List.not_mem_nil⟩

theorem nodup_names (json : value.isJson = true) :
    ((value.entries?.getD []).map fun entry => entry.1.shown).Nodup := by
  obtain ⟨distinct, texts⟩ := keys_of_isJson json
  apply List.Nodup.of_map Scalar.string
  have same : (value.entries?.getD []).map (fun entry => Scalar.string entry.1.shown) =
      (value.entries?.getD []).map (·.1) :=
    List.map_congr_left fun entry listed => (texts entry listed).symm
  rw [List.map_map]
  exact same ▸ distinct

/-- In a JSON mapping, a name holds what stands under it. -/
theorem get?_of_mem (json : (Value.map entries).isJson = true)
    (listed : (.string name, part) ∈ entries) : (Value.map entries).get? name = some part := by
  cases found : (Value.map entries).get? name with
  | none =>
      rw [get?, Entries.lookup, Option.map_eq_none_iff, List.find?_eq_none] at found
      exact absurd (Scalar.sameKey_text_iff.mpr rfl) (found _ listed)
  | some other =>
      have member := Entries.mem_of_lookup found
      have same := List.inj_on_of_nodup_map (isJson_map_iff.mp json).1 member listed rfl
      cases same
      rfl

/-- In a JSON value, a name holds what stands under it. -/
theorem get?_of_mem_entries (json : value.isJson = true)
    (listed : (.string name, part) ∈ value.entries?.getD []) : value.get? name = some part := by
  cases value with
  | map entries => exact get?_of_mem json listed
  | _ => exact absurd listed List.not_mem_nil

end Value

end AsyncTypes
