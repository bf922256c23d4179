import AsyncTypes.Proofs.Compilation.Confined
import AsyncTypes.Proofs.Schema.Script
import AsyncTypes.Proofs.Value.Part

/-!
# Where the references of a node come from

The references in the node of a schema are references in the schema, in its raw view, or in
what the inliner puts in.  So, when references are kept, every pointer that a node holds is
held by a reference inside the schema.
-/

namespace AsyncTypes

/-! ## The raw view -/

/-- What is looked up under any key stands in the entries. -/
theorem Entries.exists_of_lookup {entries : Entries} {key : Scalar} {value : Value}
    (found : entries.lookup key = some value) : ∃ entry ∈ entries, entry.2 = value := by
  obtain ⟨entry, first, same⟩ := Option.map_eq_some_iff.mp found
  exact ⟨entry, List.mem_of_find?_eq_some first, same⟩

namespace Value

/-- All pointers that the parts of the value refer to are known. -/
def Within (known : String → Prop) (value : Value) : Prop :=
  ∀ pointer, value.Refers pointer → known pointer

variable {known : String → Prop} {value part : Value}

theorem Within.mono (within : value.Within known) (inside : PartOf part value) :
    part.Within known :=
  fun pointer refers => within pointer (refers.mono inside)

theorem Within.of_mem (within : value.Within known) (listed : part ∈ value.children) :
    part.Within known :=
  within.mono (.of_mem listed)

/-- A value that is no reference refers by what it holds. -/
theorem within_of_children (other : value.reference? = none)
    (parts : ∀ part ∈ value.children, part.Within known) : value.Within known := by
  intro pointer refers
  rcases refers_iff.mp refers with isReference | ⟨part, listed, inside⟩
  · exact nomatch other.symm.trans isReference
  · exact parts part listed pointer inside

theorem within_scalar (scalar : Scalar) : (Value.scalar scalar).Within known :=
  fun _ refers => absurd refers (not_refers_scalar scalar)

theorem Within.of_reference? {pointer : String} (within : value.Within known)
    (isReference : value.reference? = some pointer) : known pointer :=
  within pointer ⟨value, .refl value, isReference⟩

theorem Within.field (within : value.Within known) (name : String) :
    (value.field name).Within known :=
  fun pointer refers => within pointer refers.of_field

/-- A step leads to a part of the value, or to null. -/
theorem child_cases (value : Value) (step : Step) :
    value.child step ∈ value.children ∨ value.child step = .null := by
  have listedItem : ∀ (items : List Value) (index : Nat),
      items[index]?.getD .null ∈ items ∨ items[index]?.getD .null = .null := by
    intro items index
    cases found : items[index]? with
    | none => exact Or.inr rfl
    | some item => exact Or.inl (List.mem_of_getElem? found)
  cases value with
  | map entries =>
      cases step with
      | key name =>
          cases found : Entries.lookup entries name with
          | none => exact Or.inr (by simp [child, child?, found])
          | some part =>
              obtain ⟨entry, listed, rfl⟩ := Entries.exists_of_lookup found
              have same : (Value.map entries).child (.key name) = entry.2 := by
                simp [child, child?, found]
              rw [same]
              exact Or.inl (List.mem_map_of_mem listed)
      | index position => exact Or.inr rfl
  | list items =>
      cases step with
      | key name => exact Or.inr rfl
      | index position =>
          rw [child, child?]
          split
          · exact listedItem items _
          · split
            · exact listedItem items _
            · exact Or.inr rfl
  | _ => exact Or.inr rfl

theorem Within.child (within : value.Within known) (step : Step) :
    (value.child step).Within known := by
  rcases child_cases value step with listed | nothing
  · exact within.of_mem listed
  · rw [nothing]
    exact within_scalar .null

end Value

/-! ## Nodes made of parts -/

namespace SchemaNode

variable {known : String → Prop}

theorem mem_insertProperty {name : String} {node : SchemaNode} {property : String × SchemaNode}
    {properties : List (String × SchemaNode)}
    (listed : property ∈ insertProperty name node properties) :
    property = (name, node) ∨ property ∈ properties := by
  induction properties with
  | nil => exact Or.inl (List.mem_singleton.mp listed)
  | cons first rest ih =>
      rw [insertProperty] at listed
      split at listed
      · rcases List.mem_cons.mp listed with same | later
        · exact Or.inl same
        · exact Or.inr (List.mem_cons_of_mem first later)
      · rcases List.mem_cons.mp listed with rfl | later
        · exact Or.inr List.mem_cons_self
        · exact (ih later).imp_right (List.mem_cons_of_mem first)

/-- Every property is one of the pairs that it was made from. -/
theorem mem_of_mem_propertiesOf {pairs : List (String × SchemaNode)}
    {property : String × SchemaNode} (listed : property ∈ propertiesOf pairs) :
    property ∈ pairs := by
  have gathered : ∀ (rest properties : List (String × SchemaNode)),
      property ∈ rest.foldl (fun properties pair => insertProperty pair.1 pair.2 properties)
        properties → property ∈ properties ∨ property ∈ rest := by
    intro rest
    induction rest with
    | nil => exact fun _ before => Or.inl before
    | cons pair rest ih =>
        intro properties member
        rcases ih _ member with before | later
        · rcases mem_insertProperty before with rfl | before
          · exact Or.inr List.mem_cons_self
          · exact Or.inl before
        · exact Or.inr (List.mem_cons_of_mem pair later)
  exact (gathered pairs [] listed).resolve_left List.not_mem_nil

theorem within_empty : empty.Within known :=
  within_schema_iff.mpr fun _ listed => absurd listed List.not_mem_nil

/-- A node that is made of nodes with known pointers holds known pointers. -/
theorem within_ofParts (schema : Value) {properties : Option (List (String × SchemaNode))}
    {items additional : Option SchemaNode} {composition : Composition SchemaNode}
    (listed : ∀ property ∈ properties.getD [], property.2.Within known)
    (item : ∀ node ∈ items, node.Within known)
    (branches : ∀ node ∈ composition.allBranches, node.Within known)
    (further : ∀ node ∈ additional, node.Within known) :
    (ofParts schema properties items composition additional).Within known := by
  unfold ofParts
  rw [within_schema_iff]
  intro part member
  rcases List.mem_append.mp member with branch | member
  · exact branches part branch
  · rcases List.mem_append.mp member with member | rest
    · rcases List.mem_append.mp member with member | ofItems
      · obtain ⟨property, inside, rfl⟩ := List.mem_map.mp member
        exact listed property inside
      · exact item part (Option.mem_toList.mp ofItems)
    · apply further part
      dsimp only at rest
      split at rest
      · exact absurd rest List.not_mem_nil
      · cases List.mem_singleton.mp rest
        rfl
      · exact absurd rest List.not_mem_nil

/-! ## Conversions -/

/-- Whatever state it begins in, the computation gives a value of this kind. -/
def Gives {σ α : Type} (kind : α → Prop) (computation : StateM σ α) : Prop :=
  ∀ state, kind (computation.run state).1

section

variable {σ α β : Type} {kind : α → Prop}

theorem Gives.pure {value : α} (holds : kind value) :
    Gives kind (Pure.pure value : StateM σ α) :=
  fun _ => holds

theorem Gives.bind {other : β → Prop} {first : StateM σ α} {next : α → StateM σ β}
    (gives : Gives kind first) (rest : ∀ value, kind value → Gives other (next value)) :
    Gives other (first >>= next) :=
  fun state => rest _ (gives state) _

end

/-- All nodes that are given hold known pointers. -/
def AllWithin (known : String → Prop) (nodes : Option (List SchemaNode)) : Prop :=
  ∀ node ∈ Composition.branches nodes, node.Within known

section

variable {kept : String → Prop} {σ : Type} {inline : String → StateM σ SchemaNode}

/-- What is no mapping gives the empty node, unless the raw view is a reference. -/
theorem gives_other {raw : Value} (within : raw.Within known) :
    Gives (Within known) (match raw.reference? with
      | some pointer => return .reference pointer
      | none => return empty : StateM σ SchemaNode) := by
  cases isReference : raw.reference? with
  | some pointer => exact .pure (within_reference_iff.mpr (within.of_reference? isReference))
  | none => exact .pure within_empty

-- One theorem for each function of the conversion, by recursion on the schema.
mutual

/-- Converting a schema with known pointers gives a node whose pointers are kept, when what is
inlined for known pointers is such a node. -/
theorem gives_convert
    (inlines : ∀ pointer, known pointer → Gives (Within kept) (inline pointer)) :
    ∀ (schema raw : Value), schema.Within known → raw.Within kept →
      Gives (Within kept) (convert inline schema raw)
  | .map entries, raw, within, rawWithin => by
      have parts : ∀ entry ∈ entries, entry.2.Within known :=
        fun entry listed => within.of_mem (List.mem_map_of_mem listed)
      simp only [convert]
      cases isReference : raw.reference? with
      | some pointer =>
          exact .pure (within_reference_iff.mpr (rawWithin.of_reference? isReference))
      | none =>
          cases isReference : (Value.map entries).reference? with
          | some pointer => exact inlines pointer (within.of_reference? isReference)
          | none =>
              refine (gives_convertPropertiesIn inlines raw entries parts rawWithin).bind ?_
              intro properties listed
              refine (gives_convertSchemaIn inlines "items" raw entries parts rawWithin).bind ?_
              intro items item
              refine (gives_convertBranchesIn inlines "allOf" raw entries parts rawWithin).bind ?_
              intro allOf all
              refine (gives_convertBranchesIn inlines "anyOf" raw entries parts rawWithin).bind ?_
              intro anyOf any
              refine (gives_convertBranchesIn inlines "oneOf" raw entries parts rawWithin).bind ?_
              intro oneOf one
              refine (gives_convertSchemaIn inlines "additionalProperties" raw entries parts
                rawWithin).bind ?_
              intro additional further
              have branches : ∀ node ∈ (Composition.mk allOf anyOf oneOf).allBranches,
                  node.Within kept := by
                intro node member
                rcases Composition.mem_allBranches.mp member with member | member | member
                · exact all node member
                · exact any node member
                · exact one node member
              exact .pure (within_ofParts (.map entries) listed item branches further)
  | .scalar value, raw, _, rawWithin => by
      simp only [convert]
      exact gives_other rawWithin
  | .list items, raw, _, rawWithin => by
      simp only [convert]
      exact gives_other rawWithin
  | .set members, raw, _, rawWithin => by
      simp only [convert]
      exact gives_other rawWithin
  | .pair first second, raw, _, rawWithin => by
      simp only [convert]
      exact gives_other rawWithin
termination_by schema => sizeOf schema

theorem gives_convertPropertiesIn
    (inlines : ∀ pointer, known pointer → Gives (Within kept) (inline pointer)) :
    ∀ (raw : Value) (entries : List (Scalar × Value)),
      (∀ entry ∈ entries, entry.2.Within known) → raw.Within kept →
        Gives (fun properties => ∀ property ∈ properties.getD [], property.2.Within kept)
          (convertPropertiesIn inline raw entries)
  | raw, [], _, _ => by
      simp only [convertPropertiesIn]
      exact .pure fun _ listed => absurd listed List.not_mem_nil
  | raw, (key, value) :: rest, parts, rawWithin => by
      have here := parts (key, value) List.mem_cons_self
      have later := fun entry listed => parts entry (List.mem_cons_of_mem (key, value) listed)
      by_cases found : key.sameKey (.string "properties") = true
      · match value with
        | .map properties =>
            rw [convertPropertiesIn, if_pos found]
            refine (gives_convertProperties inlines _ properties
              (fun entry listed => here.of_mem (List.mem_map_of_mem listed))
              (rawWithin.child _)).bind fun pairs listed => ?_
            exact .pure fun property member => listed property (mem_of_mem_propertiesOf member)
        | .scalar _ | .list _ | .set _ | .pair _ _ =>
            simp only [convertPropertiesIn, found, if_true]
            exact .pure fun _ listed => absurd listed List.not_mem_nil
      · have skipped : convertPropertiesIn inline raw ((key, value) :: rest) =
            convertPropertiesIn inline raw rest := by
          cases value <;> simp [convertPropertiesIn, found]
        rw [skipped]
        exact gives_convertPropertiesIn inlines raw rest later rawWithin
termination_by _ entries => sizeOf entries

theorem gives_convertProperties
    (inlines : ∀ pointer, known pointer → Gives (Within kept) (inline pointer)) :
    ∀ (raw : Value) (entries : List (Scalar × Value)),
      (∀ entry ∈ entries, entry.2.Within known) → raw.Within kept →
        Gives (fun pairs => ∀ pair ∈ pairs, pair.2.Within kept)
          (convertProperties inline raw entries)
  | raw, [], _, _ => by
      simp only [convertProperties]
      exact .pure fun _ listed => absurd listed List.not_mem_nil
  | raw, (key, value) :: rest, parts, rawWithin => by
      have here := parts (key, value) List.mem_cons_self
      have later := fun entry listed => parts entry (List.mem_cons_of_mem (key, value) listed)
      simp only [convertProperties]
      refine (gives_convert inlines value _ here (rawWithin.child _)).bind fun node first => ?_
      refine (gives_convertProperties inlines raw rest later rawWithin).bind fun others rest => ?_
      exact .pure (List.forall_mem_cons.mpr ⟨first, rest⟩)
termination_by _ entries => sizeOf entries

theorem gives_convertSchemaIn
    (inlines : ∀ pointer, known pointer → Gives (Within kept) (inline pointer))
    (keyword : String) : ∀ (raw : Value) (entries : List (Scalar × Value)),
      (∀ entry ∈ entries, entry.2.Within known) → raw.Within kept →
        Gives (fun held => ∀ node ∈ held, node.Within kept)
          (convertSchemaIn inline keyword raw entries)
  | raw, [], _, _ => by
      simp only [convertSchemaIn]
      exact .pure fun _ held => nomatch held
  | raw, (key, value) :: rest, parts, rawWithin => by
      have here := parts (key, value) List.mem_cons_self
      have later := fun entry listed => parts entry (List.mem_cons_of_mem (key, value) listed)
      by_cases found : key.sameKey (.string keyword) = true
      · by_cases mapping : value.isMap = true
        · rw [convertSchemaIn, if_pos found, if_pos mapping]
          refine (gives_convert inlines value _ here (rawWithin.child _)).bind fun node first => ?_
          refine .pure fun other held => ?_
          cases held
          exact first
        · rw [convertSchemaIn, if_pos found, if_neg mapping]
          exact .pure fun _ held => nomatch held
      · rw [convertSchemaIn, if_neg found]
        exact gives_convertSchemaIn inlines keyword raw rest later rawWithin
termination_by _ entries => sizeOf entries

theorem gives_convertBranchesIn
    (inlines : ∀ pointer, known pointer → Gives (Within kept) (inline pointer))
    (keyword : String) : ∀ (raw : Value) (entries : List (Scalar × Value)),
      (∀ entry ∈ entries, entry.2.Within known) → raw.Within kept →
        Gives (AllWithin kept) (convertBranchesIn inline keyword raw entries)
  | raw, [], _, _ => by
      simp only [convertBranchesIn]
      exact .pure fun _ listed => absurd listed List.not_mem_nil
  | raw, (key, value) :: rest, parts, rawWithin => by
      have here := parts (key, value) List.mem_cons_self
      have later := fun entry listed => parts entry (List.mem_cons_of_mem (key, value) listed)
      by_cases found : key.sameKey (.string keyword) = true
      · match value with
        | .list branches =>
            rw [convertBranchesIn, if_pos found]
            refine (gives_convertBranches inlines _ 0 branches (fun part => here.of_mem)
              (rawWithin.child _)).bind fun nodes listed => ?_
            exact .pure listed
        | .scalar _ | .map _ | .set _ | .pair _ _ =>
            simp only [convertBranchesIn, found, if_true]
            exact .pure fun _ listed => absurd listed List.not_mem_nil
      · have skipped : convertBranchesIn inline keyword raw ((key, value) :: rest) =
            convertBranchesIn inline keyword raw rest := by
          cases value <;> simp [convertBranchesIn, found]
        rw [skipped]
        exact gives_convertBranchesIn inlines keyword raw rest later rawWithin
termination_by _ entries => sizeOf entries

theorem gives_convertBranches
    (inlines : ∀ pointer, known pointer → Gives (Within kept) (inline pointer)) :
    ∀ (raw : Value) (index : Nat) (branches : List Value),
      (∀ branch ∈ branches, branch.Within known) → raw.Within kept →
        Gives (fun nodes => ∀ node ∈ nodes, node.Within kept)
          (convertBranches inline raw index branches)
  | raw, index, [], _, _ => by
      simp only [convertBranches]
      exact .pure fun _ listed => absurd listed List.not_mem_nil
  | raw, index, value :: rest, parts, rawWithin => by
      have here := parts value List.mem_cons_self
      have later := fun branch listed => parts branch (List.mem_cons_of_mem value listed)
      simp only [convertBranches]
      refine (gives_convert inlines value _ here (rawWithin.child _)).bind fun node first => ?_
      refine (gives_convertBranches inlines raw (index + 1) rest later rawWithin).bind ?_
      exact fun others rest => .pure (List.forall_mem_cons.mpr ⟨first, rest⟩)
termination_by _ _ branches => sizeOf branches

end

end

/-- The pointers that the node of a schema holds are those of references in the schema. -/
theorem within_ofValue {schema : Value} (within : schema.Within known) :
    (ofValue schema).Within known :=
  gives_convert (fun _ isKnown => .pure (within_reference_iff.mpr isKnown)) schema schema within
    within ()

end SchemaNode

end AsyncTypes
