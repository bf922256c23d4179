import Mathlib.Data.List.Nodup
import AsyncTypes.Extraction.Document
import AsyncTypes.Proofs.Expression.Lexeme
import AsyncTypes.TypeScript.Generation

/-!
# References and declarations

A reference of a schema stands *outside* interfaces when no record lies between it and
the root of the schema: it is the schema itself, a branch of its composition or the item
of an array.  Only such a reference can make one alias mention another.
-/

namespace AsyncTypes

/-! ## References of a schema -/

/-- The branches of all keywords. -/
def Composition.allBranches {Node : Type} (composition : Composition Node) : List Node :=
  branches composition.allOf ++ branches composition.anyOf ++ branches composition.oneOf

theorem Composition.mem_allBranches {Node : Type} {composition : Composition Node} {node : Node} :
    node ∈ composition.allBranches ↔ node ∈ branches composition.allOf ∨
      node ∈ branches composition.anyOf ∨ node ∈ branches composition.oneOf := by
  simp [allBranches]

/-- A composition without branches is not used. -/
theorem Composition.allBranches_of_not_isUsed {Node : Type} {composition : Composition Node}
    (unused : composition.isUsed = false) : composition.allBranches = [] := by
  simp only [isUsed, Bool.or_eq_false_iff, Bool.not_eq_false', List.isEmpty_iff] at unused
  obtain ⟨⟨all, any⟩, one⟩ := unused
  simp [allBranches, all, any, one]

/-- One of the type names of the shape is that of an array. -/
def Shape.admitsArray {Node : Type} (shape : Shape Node) : Bool :=
  match shape.types with
  | .several names => names.contains "array"
  | _ => shape.isArray

/-- A reference of the schema with this pointer stands outside interfaces. -/
inductive SchemaNode.RefersOutside : SchemaNode → String → Prop
  | reference (pointer : String) : RefersOutside (.reference pointer) pointer
  | branch {annotations : Annotations} {composition : Composition SchemaNode}
      {shape : Shape SchemaNode} {node : SchemaNode} {pointer : String}
      (listed : node ∈ composition.allBranches) (refers : RefersOutside node pointer) :
      RefersOutside (.schema annotations [] composition shape) pointer
  | item {annotations : Annotations} {composition : Composition SchemaNode}
      {shape : Shape SchemaNode} {node : SchemaNode} {pointer : String}
      (reached : composition.isUsed = true → shape.properties.isSome = true)
      (array : shape.admitsArray = true) (items : shape.items = some node)
      (refers : RefersOutside node pointer) :
      RefersOutside (.schema annotations [] composition shape) pointer

/-! ## Keys of the component schemas -/

/-- No two component schemas have the same key. -/
def Document.KeysDistinct (document : Document) : Prop :=
  (document.schemas.map (·.1)).Nodup

instance (document : Document) : Decidable document.KeysDistinct :=
  inferInstanceAs (Decidable (document.schemas.map (·.1)).Nodup)

namespace SchemaNode

/-- Putting a property under a name adds at most that name. -/
theorem mem_keys_insertProperty {name other : String} {node : SchemaNode}
    {properties : List (String × SchemaNode)}
    (member : other ∈ (insertProperty name node properties).map (·.1)) :
    other = name ∨ other ∈ properties.map (·.1) := by
  induction properties with
  | nil => exact Or.inl (List.mem_singleton.mp member)
  | cons property rest ih =>
      rw [insertProperty] at member
      split at member
      · rcases List.mem_cons.mp member with rfl | later
        · exact Or.inl rfl
        · exact Or.inr (List.mem_cons_of_mem _ later)
      · rcases List.mem_cons.mp member with rfl | later
        · exact Or.inr List.mem_cons_self
        · exact (ih later).imp_right (List.mem_cons_of_mem _)

theorem nodup_insertProperty (name : String) (node : SchemaNode)
    {properties : List (String × SchemaNode)} (distinct : (properties.map (·.1)).Nodup) :
    ((insertProperty name node properties).map (·.1)).Nodup := by
  induction properties with
  | nil => exact List.nodup_cons.mpr ⟨List.not_mem_nil, List.nodup_nil⟩
  | cons property rest ih =>
      obtain ⟨fresh, distinctRest⟩ := List.nodup_cons.mp distinct
      rw [insertProperty]
      split
      · next same =>
          rw [beq_iff_eq] at same
          subst same
          exact List.nodup_cons.mpr ⟨fresh, distinctRest⟩
      · next apart =>
          apply List.nodup_cons.mpr
          constructor
          · intro member
            rcases mem_keys_insertProperty member with same | listed
            · exact apart (beq_iff_eq.mpr same)
            · exact fresh listed
          · exact ih distinctRest

theorem nodup_propertiesOf (pairs : List (String × SchemaNode)) :
    ((propertiesOf pairs).map (·.1)).Nodup := by
  have gathered : ∀ (rest properties : List (String × SchemaNode)),
      (properties.map (·.1)).Nodup →
        ((rest.foldl (fun properties pair => insertProperty pair.1 pair.2 properties)
          properties).map (·.1)).Nodup := by
    intro rest
    induction rest with
    | nil => exact fun _ distinct => distinct
    | cons pair rest ih =>
        intro properties distinct
        exact ih _ (nodup_insertProperty pair.1 pair.2 distinct)
  exact gathered pairs [] List.nodup_nil

end SchemaNode

/-- A document that is read has distinct keys. -/
theorem keysDistinct_read (document : Value) (references : Extraction.References)
    (identity : Extraction.Identity) (warnings : List String) :
    (Extraction.read document references identity warnings).value.KeysDistinct := by
  have schemas : (((Extraction.schemas document references).value).map (·.1)).Nodup := by
    unfold Extraction.schemas
    split
    · exact List.nodup_nil
    · exact SchemaNode.nodup_propertiesOf _
  exact schemas

namespace TypeScript

/-! ## Declarations -/

namespace Declaration

/-- The types that a declaration is made of. -/
def types : Declaration → List TypeExpr
  | .alias _ _ type => [type]
  | .enumeration _ _ _ => []
  | .interface _ _ fields index => fields.map (·.type) ++ index.toList

/-- The declaration is an alias. -/
def isAlias : Declaration → Bool
  | .alias _ _ _ => true
  | _ => false

/-- The declaration is an interface. -/
def isInterface : Declaration → Bool
  | .interface _ _ _ _ => true
  | _ => false

/-- The name of a declaration stands in one of the types. -/
def Mentions (declaration : Declaration) (name : String) : Prop :=
  ∃ type ∈ declaration.types, type.Mentions name

end Declaration

/-! ## Names of the component schemas -/

namespace Task

/-- A node refers to the component schema of a key by a reference outside interfaces. -/
def RefersTo (task : Task) (node : SchemaNode) (key : String) : Prop :=
  ∃ pointer, node.RefersOutside pointer ∧ schemaKey? pointer = some key ∧
    (task.schemaName? key).isSome = true

/-- Every component schema has one key and one name, and no two have the same. -/
structure Coherent (task : Task) : Prop where
  keysDistinct : task.document.KeysDistinct
  keysNamed : task.schemaNames.map (·.1) = task.document.schemas.map (·.1)
  namesDistinct : (task.schemaNames.map (·.2)).Nodup
  namesShaped : ∀ entry ∈ task.schemaNames, IsName entry.2

/-- The names that are given up front cohere when the keys of a document are distinct. -/
theorem coherent_ofDocument {document : Document}
    (distinct : document.KeysDistinct) (options : Options) :
    (ofDocument document options).Coherent where
  keysDistinct := distinct
  keysNamed := keys_nameKeys [] _
  namesDistinct := names_nameKeys_nodup [] _
  namesShaped := fun _ member => isName_of_mem_nameKeys member

variable {task : Task}

theorem mem_schemaNames_of_schemaName? {key name : String}
    (named : task.schemaName? key = some name) : (key, name) ∈ task.schemaNames := by
  obtain ⟨entry, found, rfl⟩ := Option.map_eq_some_iff.mp named
  have same : entry.1 = key := by simpa using List.find?_some found
  rw [← same]
  exact List.mem_of_find?_eq_some found

/-- A key has a declaration name exactly when it is the key of a component schema. -/
theorem Coherent.schemaName?_isSome_iff (coherent : task.Coherent) (key : String) :
    (task.schemaName? key).isSome = true ↔ key ∈ task.document.schemas.map (·.1) := by
  rw [← coherent.keysNamed]
  simp [schemaName?, List.find?_isSome]

theorem schema?_isSome_iff (document : Document) (key : String) :
    (document.schema? key).isSome = true ↔ key ∈ document.schemas.map (·.1) := by
  simp [Document.schema?, List.find?_isSome]

/-- Where there is a declaration name, there is a component schema. -/
theorem Coherent.exists_schema (coherent : task.Coherent) {key name : String}
    (named : task.schemaName? key = some name) :
    ∃ node, task.document.schema? key = some node := by
  rw [← Option.isSome_iff_exists, schema?_isSome_iff, ← coherent.schemaName?_isSome_iff, named]
  rfl

/-- The component schema that has a declaration name is listed under its key. -/
theorem Coherent.mem_keys (coherent : task.Coherent) {key name : String}
    (named : task.schemaName? key = some name) : key ∈ task.document.schemas.map (·.1) := by
  rw [← coherent.schemaName?_isSome_iff, named]
  rfl

/-- Different component schemas have different names. -/
theorem Coherent.schemaName?_injective (coherent : task.Coherent) {first second name : String}
    (named : task.schemaName? first = some name) (also : task.schemaName? second = some name) :
    first = second := by
  have same := List.inj_on_of_nodup_map coherent.namesDistinct
    (mem_schemaNames_of_schemaName? named) (mem_schemaNames_of_schemaName? also) rfl
  exact congrArg Prod.fst same

/-- Every name that is given up front is the name of a component schema. -/
theorem Coherent.schemaName?_of_mem (coherent : task.Coherent) {name : String}
    (listed : name ∈ task.schemaNames.map (·.2)) :
    ∃ key, task.schemaName? key = some name := by
  obtain ⟨entry, member, rfl⟩ := List.mem_map.mp listed
  have keys : (task.schemaNames.map (·.1)).Nodup := coherent.keysNamed ▸ coherent.keysDistinct
  have known : (task.schemaName? entry.1).isSome = true := by
    rw [coherent.schemaName?_isSome_iff, ← coherent.keysNamed]
    exact List.mem_map_of_mem member
  obtain ⟨name, named⟩ := Option.isSome_iff_exists.mp known
  have same := List.inj_on_of_nodup_map keys (mem_schemaNames_of_schemaName? named) member rfl
  exact ⟨entry.1, by rw [named, ← same]⟩

theorem Coherent.isName (coherent : task.Coherent) {key name : String}
    (named : task.schemaName? key = some name) : IsName name :=
  coherent.namesShaped _ (mem_schemaNames_of_schemaName? named)

end Task

end TypeScript

end AsyncTypes
