import AsyncTypes.Proofs.Validation.Aggregation
import AsyncTypes.Proofs.Validation.Clean

/-!
# The shape of a valid document

A document without findings against the skeleton has mappings where its channels, its operations
and its component schemas stand, and every channel and every operation is a mapping.
-/

namespace AsyncTypes

namespace Validation

/-! ## Parts without findings -/

section

variable {isSchema : Value → List Finding} {value : Value} {rules : List Rule}

theorem isMap_of_mem (nothing : checkAll isSchema rules value = [])
    (listed : Rule.kinds [.object] ∈ rules) : value.isMap = true := by
  obtain ⟨kind, one, holds⟩ := exists_kind_of_check (check_eq_nil_of_mem nothing listed)
  rw [List.mem_singleton.mp one] at holds
  exact isMap_of_holds holds

theorem part_eq_nil_of_mem {parts : List (String × List Rule)} {name : String}
    {partRules : List Rule} {part : Value} (nothing : checkAll isSchema rules value = [])
    (listed : Rule.properties parts ∈ rules) (described : (name, partRules) ∈ parts)
    (found : value.get? name = some part) : checkAll isSchema partRules part = [] :=
  checkAll_part_eq_nil (check_eq_nil_of_mem nothing listed) described found

theorem value_eq_nil_of_mem {valueRules : List Rule} (nothing : checkAll isSchema rules value = [])
    (listed : Rule.values valueRules ∈ rules) {entry : Scalar × Value}
    (member : entry ∈ value.entries?.getD []) : checkAll isSchema valueRules entry.2 = [] := by
  have each := check_eq_nil_of_mem nothing listed
  rw [Rule.check, List.flatMap_eq_nil_iff] at each
  exact List.map_eq_nil_iff.mp (each entry member)

end

/-- The value is null or a mapping. -/
def NullOrMap (value : Value) : Prop :=
  value = .null ∨ value.isMap = true

/-- Where a mapping is expected, a value that does not count as given stands for none. -/
theorem NullOrMap.entries? {value : Value} (shape : NullOrMap value) :
    (if value.isGiven then value else .map []).entries? = some (value.entries?.getD []) := by
  rcases shape with rfl | mapping
  · rfl
  · cases value with
    | map entries => cases entries <;> rfl
    | _ => exact nomatch mapping

section

variable {isSchema : Value → List Finding} {value : Value} {rules : List Rule}
  {parts : List (String × List Rule)} {name : String}

/-- A part that has to be a mapping is absent or one. -/
theorem nullOrMap_of_mem {partRules : List Rule} (nothing : checkAll isSchema rules value = [])
    (listed : Rule.properties parts ∈ rules) (described : (name, partRules) ∈ parts)
    (mapping : Rule.kinds [.object] ∈ partRules) : NullOrMap (value.field name) := by
  unfold Value.field
  cases found : value.get? name with
  | none => exact Or.inl rfl
  | some part =>
      exact Or.inr (isMap_of_mem (part_eq_nil_of_mem nothing listed described found) mapping)

/-- What a part holds has no findings for the rules of its values. -/
theorem values_eq_nil_of_mem {partRules valueRules : List Rule}
    (nothing : checkAll isSchema rules value = [])
    (listed : Rule.properties parts ∈ rules) (described : (name, partRules) ∈ parts)
    (values : Rule.values valueRules ∈ partRules) :
    ∀ entry ∈ (value.field name).entries?.getD [], checkAll isSchema valueRules entry.2 = [] := by
  unfold Value.field
  cases found : value.get? name with
  | none => exact fun _ member => absurd member List.not_mem_nil
  | some part =>
      intro entry member
      have whole := part_eq_nil_of_mem nothing listed described found
      exact value_eq_nil_of_mem whole values member

/-- What a part holds are mappings when they have to be. -/
theorem maps_of_mem {partRules valueRules : List Rule}
    (nothing : checkAll isSchema rules value = [])
    (listed : Rule.properties parts ∈ rules) (described : (name, partRules) ∈ parts)
    (values : Rule.values valueRules ∈ partRules) (mappings : Rule.kinds [.object] ∈ valueRules) :
    ∀ entry ∈ (value.field name).entries?.getD [], entry.2.isMap = true :=
  fun entry member =>
    isMap_of_mem (values_eq_nil_of_mem nothing listed described values entry member) mappings

end

/-! ## The shape of a valid document -/

/-- The channels of a document under their names. -/
def channelEntries (document : Value) : Entries :=
  (document.field "channels").entries?.getD []

/-- Channels, operations and component schemas stand in mappings, and every channel and every
operation is a mapping. -/
structure Shaped (document : Value) : Prop where
  channels : NullOrMap (document.field "channels")
  channelMaps : ∀ entry ∈ channelEntries document, entry.2.isMap = true
  operations : NullOrMap (document.field "operations")
  operationMaps : ∀ entry ∈ operationEntries document, entry.2.isMap = true
  components : NullOrMap (document.field "components")
  schemas : NullOrMap ((document.field "components").field "schemas")

theorem shaped_of_skeleton {document : Value} (nothing : Skeleton.findings document = []) :
    Shaped document where
  channels := nullOrMap_of_mem nothing (.tail _ (.tail _ (.head _)))
    (.tail _ (.tail _ (.head _))) (.head _)
  channelMaps := maps_of_mem nothing (.tail _ (.tail _ (.head _)))
    (.tail _ (.tail _ (.head _))) (.tail _ (.head _)) (.head _)
  operations := nullOrMap_of_mem nothing (.tail _ (.tail _ (.head _)))
    (.tail _ (.tail _ (.tail _ (.head _)))) (.head _)
  operationMaps := maps_of_mem nothing (.tail _ (.tail _ (.head _)))
    (.tail _ (.tail _ (.tail _ (.head _)))) (.tail _ (.head _)) (.head _)
  components := nullOrMap_of_mem nothing (.tail _ (.tail _ (.head _)))
    (.tail _ (.tail _ (.tail _ (.tail _ (.head _))))) (.head _)
  schemas := by
    cases found : document.get? "components" with
    | none =>
        have absent : document.field "components" = .null := by rw [Value.field, found]; rfl
        rw [absent]
        exact Or.inl rfl
    | some components =>
        have held : document.field "components" = components := by rw [Value.field, found]; rfl
        rw [held]
        have inside := part_eq_nil_of_mem nothing (.tail _ (.tail _ (.head _)))
          (.tail _ (.tail _ (.tail _ (.tail _ (.head _))))) found
        exact nullOrMap_of_mem inside (.tail _ (.head _)) (.head _) (.head _)

end Validation

end AsyncTypes
