import Mathlib.Logic.Relation
import AsyncTypes.Proofs.Extraction.Channels
import AsyncTypes.Proofs.Schema.Source
import AsyncTypes.Schema.Inlining

/-!
# References are preserved

A schema and its raw view are followed side by side, along properties, items, branches and
additional properties.  The node at the end of a way is the conversion of the two places that
the way leads to.  So a reference of the raw view is a reference of the node, however deep it
stands and whatever stands at its place in the schema.
-/

namespace AsyncTypes

/-! ## Ways into a schema -/

/-- The keywords that list branches. -/
inductive Keyword
  | allOf | anyOf | oneOf
deriving DecidableEq

/-- One step from a schema to a schema in it. -/
inductive SchemaStep
  | property (name : String)
  | items
  | branch (keyword : Keyword) (index : Nat)
  | additional
deriving DecidableEq

namespace Keyword

/-- The name under which a schema lists the branches. -/
def text : Keyword → String
  | allOf => "allOf"
  | anyOf => "anyOf"
  | oneOf => "oneOf"

/-- The branches that are listed under the keyword. -/
def branches? {Node : Type} (composition : Composition Node) : Keyword → Option (List Node)
  | allOf => composition.allOf
  | anyOf => composition.anyOf
  | oneOf => composition.oneOf

end Keyword

namespace SchemaStep

/-- What a value holds one step further. -/
def part? (value : Value) : SchemaStep → Option Value
  | property name => (value.get? "properties").bind fun properties => properties.get? name
  | items => value.get? "items"
  | branch keyword index =>
      ((value.get? keyword.text).bind Value.items?).bind fun branches => branches[index]?
  | additional => value.get? "additionalProperties"

/-- The conversion of a schema takes the step to this part: properties and branches are converted
whatever they are, items and additional properties when they are mappings. -/
def takes (part : Value) : SchemaStep → Bool
  | property _ | branch _ _ => true
  | items | additional => part.isMap

/-- The node that a node holds one step further. -/
def node? (step : SchemaStep) : SchemaNode → Option SchemaNode
  | .reference _ => none
  | .schema _ _ composition shape =>
      match step with
      | property name => shape.properties.bind fun properties =>
          (properties.find? fun property => property.1 == name).map (·.2)
      | items => shape.items
      | branch keyword index =>
          (keyword.branches? composition).bind fun branches => branches[index]?
      | additional =>
          match shape.additional with
          | .schema node => some node
          | _ => none

end SchemaStep

/-- The value at the end of a way. -/
def Value.along? : List SchemaStep → Value → Option Value
  | [], value => some value
  | step :: rest, value => (step.part? value).bind (along? rest)

/-- The node at the end of a way. -/
def SchemaNode.along? : List SchemaStep → SchemaNode → Option SchemaNode
  | [], node => some node
  | step :: rest, node => (step.node? node).bind (along? rest)

/-- The conversion of the schema descends along the way, as long as it meets no reference. -/
def Descends : List SchemaStep → Value → Prop
  | [], _ => True
  | step :: rest, schema =>
      ∃ part, step.part? schema = some part ∧ step.takes part = true ∧ Descends rest part

/-- The value has no reference on the way, unless at its end. -/
def PlainAlong (way : List SchemaStep) (value : Value) : Prop :=
  ∀ before after, way = before ++ after → after ≠ [] →
    (value.along? before).bind Value.reference? = none

section

variable {step : SchemaStep} {rest : List SchemaStep} {value part : Value}

theorem plainAlong_nil (value : Value) : PlainAlong [] value :=
  fun _ _ split more => absurd (List.append_eq_nil_iff.mp split.symm).2 more

/-- A value is plain along a way when it is no reference and what it holds one step further is
plain along the rest. -/
theorem plainAlong_cons (plain : value.reference? = none)
    (further : ∀ part, step.part? value = some part → PlainAlong rest part) :
    PlainAlong (step :: rest) value := by
  intro before after split more
  cases before with
  | nil => exact plain
  | cons first before =>
      obtain ⟨rfl, rfl⟩ := List.cons.inj split
      rw [Value.along?]
      cases held : step.part? value with
      | none => rfl
      | some part => exact further part held before after rfl more

theorem PlainAlong.here (plain : PlainAlong (step :: rest) value) : value.reference? = none :=
  plain [] (step :: rest) rfl (List.cons_ne_nil step rest)

theorem PlainAlong.further (plain : PlainAlong (step :: rest) value)
    (held : step.part? value = some part) : PlainAlong rest part := by
  intro before after split more
  have free := plain (step :: before) after (congrArg (step :: ·) split) more
  rwa [Value.along?, held] at free

/-- Null holds nothing further. -/
theorem getD_along?_null (way : List SchemaStep) : (Value.null.along? way).getD .null = .null := by
  cases way with
  | nil => rfl
  | cons step rest => cases step <;> rfl

theorem plainAlong_null (way : List SchemaStep) : PlainAlong way .null := by
  rintro before after - -
  cases before with
  | nil => rfl
  | cons step rest => cases step <;> rfl

/-- One step further, the rest of the way leads to the same part. -/
theorem getD_along?_cons (step : SchemaStep) (rest : List SchemaStep) (value : Value) :
    (value.along? (step :: rest)).getD .null =
      (((step.part? value).getD .null).along? rest).getD .null := by
  rw [Value.along?]
  cases step.part? value with
  | none => exact (getD_along?_null rest).symm
  | some part => rfl

theorem PlainAlong.getD_further (plain : PlainAlong (step :: rest) value) :
    PlainAlong rest ((step.part? value).getD .null) := by
  cases held : step.part? value with
  | none => exact plainAlong_null rest
  | some part => exact plain.further held

end

/-! ## Nodes as records of fields -/

/-- All that a node says, with one field for each thing that may be said. -/
structure SchemaFields where
  reference : Option String
  types : TypeNames
  description : Option String
  format : Option String
  properties : Option (List (String × SchemaNode))
  items : Option SchemaNode
  required : List String
  values : List Value
  allOf : Option (List SchemaNode)
  anyOf : Option (List SchemaNode)
  oneOf : Option (List SchemaNode)
  additional : Additional SchemaNode

namespace SchemaFields

/-- Nothing is said. -/
def unset : SchemaFields :=
  ⟨none, .absent, none, none, none, none, [], [], none, none, none, .absent⟩

/-- A pointer is given, and nothing else is said. -/
def pureReference (pointer : String) : SchemaFields :=
  { unset with reference := some pointer }

end SchemaFields

namespace SchemaNode

/-- What a node says. -/
def fields : SchemaNode → SchemaFields
  | .reference pointer => .pureReference pointer
  | .schema annotations values composition shape =>
      { reference := none
        types := shape.types
        description := annotations.description
        format := annotations.format
        properties := shape.properties
        items := shape.items
        required := shape.required
        values := values
        allOf := composition.allOf
        anyOf := composition.anyOf
        oneOf := composition.oneOf
        additional := shape.additional }

/-- The node is the whole, or a part of it at some depth. -/
def Inside : SchemaNode → SchemaNode → Prop :=
  Relation.ReflTransGen fun whole part => part ∈ whole.parts

/-- A node with a pointer says nothing else. -/
theorem fields_of_reference {node : SchemaNode} {pointer : String}
    (holds : node.fields.reference = some pointer) : node.fields = .pureReference pointer := by
  cases node with
  | reference other =>
      cases holds
      rfl
  | schema annotations values composition shape => contradiction

end SchemaNode

/-! ## Steps into values -/

namespace Value

variable {value : Value}

/-- A step by a name leads to what a mapping holds under the name. -/
theorem child_key (value : Value) (name : String) :
    value.child (.key (.string name)) = (value.get? name).getD null := by
  cases value <;> rfl

/-- A step by a position leads to the item there. -/
theorem child_index (value : Value) (index : Nat) :
    value.child (.index index) = (value.items?.bind fun items => items[index]?).getD null := by
  cases value with
  | list items =>
      rw [child, child?, if_pos (Int.natCast_nonneg index), Int.toNat_natCast]
      rfl
  | _ => rfl

theorem getD_bind_get? (found : Option Value) (name : String) :
    (found.bind fun part => part.get? name).getD null =
      ((found.getD null).get? name).getD null := by
  cases found <;> rfl

theorem getD_bind_items? (found : Option Value) (index : Nat) :
    ((found.bind items?).bind fun items => items[index]?).getD null =
      ((found.getD null).items?.bind fun items => items[index]?).getD null := by
  cases found <;> rfl

end Value

/-! ## Conversions of the parts -/

namespace SchemaNode

variable {σ : Type} {inline : String → StateM σ SchemaNode} {schema raw part rawPart : Value}
  {entries : Entries} {name keyword : String}

section

variable {α β : Type} {kind other : α → Prop} {first : StateM σ α}

theorem Gives.both (gives : Gives kind first) (givesAlso : Gives other first) :
    Gives (fun value => kind value ∧ other value) first :=
  fun state => ⟨gives state, givesAlso state⟩

/-- What comes later may not depend on the value of a computation. -/
theorem Gives.skip {kind : β → Prop} {next : α → StateM σ β}
    (rest : ∀ value, Gives kind (next value)) : Gives kind (first >>= next) :=
  fun _ => rest _ _

end

/-- The node is what the conversion of a schema and its raw view gives in some state. -/
def Converts (inline : String → StateM σ SchemaNode) (schema raw : Value) (node : SchemaNode) :
    Prop :=
  ∃ state, ((convert inline schema raw).run state).1 = node

theorem gives_converts (schema raw : Value) :
    Gives (Converts inline schema raw) (convert inline schema raw) :=
  fun state => ⟨state, rfl⟩

/-- The properties are named as they are listed. -/
theorem gives_names (raw : Value) (entries : Entries) :
    Gives (fun pairs => pairs.map (·.1) = entries.map fun entry => entry.1.shown)
      (convertProperties inline raw entries) := by
  induction entries with
  | nil =>
      rw [convertProperties]
      exact .pure rfl
  | cons entry rest ih =>
      obtain ⟨key, value⟩ := entry
      rw [convertProperties]
      refine .skip fun node => ih.bind fun pairs names => .pure ?_
      rw [List.map_cons, List.map_cons, names]

/-- Each listed property is converted, next to the raw view of its place. -/
theorem gives_property (listed : (.string name, part) ∈ entries) :
    Gives (fun pairs => ∃ node, (name, node) ∈ pairs ∧
        Converts inline part (raw.child (.key (.string name))) node)
      (convertProperties inline raw entries) := by
  induction entries with
  | nil => exact absurd listed List.not_mem_nil
  | cons entry rest ih =>
      obtain ⟨key, value⟩ := entry
      rw [convertProperties]
      rcases List.mem_cons.mp listed with same | later
      · cases same
        refine (gives_converts part _).bind fun node converted => .skip fun pairs => .pure ?_
        exact ⟨node, List.mem_cons_self, converted⟩
      · refine .skip fun node => (ih later).bind fun pairs found => .pure ?_
        obtain ⟨inner, member, converted⟩ := found
        exact ⟨inner, List.mem_cons_of_mem _ member, converted⟩

/-- Each branch is converted, next to the raw view of its place. -/
theorem gives_branch {branches : List Value} {index : Nat} (start : Nat)
    (found : branches[index]? = some part) :
    Gives (fun nodes => ∃ node, nodes[index]? = some node ∧
        Converts inline part (raw.child (.index ((start + index : Nat) : Int))) node)
      (convertBranches inline raw start branches) := by
  induction branches generalizing start index with
  | nil => exact nomatch found
  | cons branch rest ih =>
      rw [convertBranches]
      cases index with
      | zero =>
          cases found
          refine (gives_converts part _).bind fun node converted => .skip fun nodes => .pure ?_
          exact ⟨node, rfl, converted⟩
      | succ index =>
          refine .skip fun node => (ih (start + 1) found).bind fun nodes held => .pure ?_
          obtain ⟨inner, listed, converted⟩ := held
          rw [Nat.succ_add_eq_add_succ] at converted
          exact ⟨inner, listed, converted⟩

/-! ## Keywords in a list of entries -/

theorem lookup_cons {key : Scalar} {value : Value} {rest : Entries} {name : Scalar} :
    Entries.lookup ((key, value) :: rest) name =
      if key.sameKey name then some value else Entries.lookup rest name := by
  rw [Entries.lookup, List.find?_cons]
  split <;> rename_i same <;> simp [same, Entries.lookup]

/-- A visit that passes over the entries before a name gives what it makes of the first entry under
the name. -/
theorem visit_eq_of_lookup {α : Type} {visit : Entries → α} {result : α} {name : Scalar}
    (here : ∀ key rest, key.sameKey name = true → visit ((key, part) :: rest) = result)
    (later : ∀ key value rest, ¬ key.sameKey name = true →
      visit ((key, value) :: rest) = visit rest)
    (found : entries.lookup name = some part) : visit entries = result := by
  induction entries with
  | nil => exact nomatch found
  | cons entry rest ih =>
      obtain ⟨key, value⟩ := entry
      rw [lookup_cons] at found
      split at found
      · next same =>
          cases found
          exact here key rest same
      · next apart => rw [later key value rest apart, ih found]

theorem convertPropertiesIn_of_lookup {properties : Entries}
    (found : entries.lookup (.string "properties") = some (.map properties)) :
    convertPropertiesIn inline raw entries = do
      let pairs ← convertProperties inline (raw.child (.key (.string "properties"))) properties
      return some (propertiesOf pairs) := by
  refine visit_eq_of_lookup (fun key rest same => ?_) (fun key value rest apart => ?_) found
  · rw [convertPropertiesIn, if_pos same]
  · cases value <;> simp [convertPropertiesIn, apart]

theorem convertSchemaIn_of_lookup (found : entries.lookup (.string keyword) = some part)
    (mapping : part.isMap = true) :
    convertSchemaIn inline keyword raw entries = do
      let node ← convert inline part (raw.child (.key (.string keyword)))
      return some node := by
  refine visit_eq_of_lookup (fun key rest same => ?_) (fun key value rest apart => ?_) found
  · rw [convertSchemaIn, if_pos same, if_pos mapping]
  · rw [convertSchemaIn, if_neg apart]

theorem convertBranchesIn_of_lookup {branches : List Value}
    (found : entries.lookup (.string keyword) = some (.list branches)) :
    convertBranchesIn inline keyword raw entries = do
      let nodes ← convertBranches inline (raw.child (.key (.string keyword))) 0 branches
      return some nodes := by
  refine visit_eq_of_lookup (fun key rest same => ?_) (fun key value rest apart => ?_) found
  · rw [convertBranchesIn, if_pos same]
  · cases value <;> simp [convertBranchesIn, apart]

/-! ## One step of a conversion -/

/-- The part of a value that a step leads to is a part of it. -/
theorem partOf_of_part? {step : SchemaStep} {value : Value} (held : step.part? value = some part) :
    Value.PartOf part value := by
  cases step with
  | items | additional => exact Value.partOf_of_get? held
  | property name =>
      obtain ⟨properties, outer, inner⟩ := Option.bind_eq_some_iff.mp held
      exact (Value.partOf_of_get? inner).trans (Value.partOf_of_get? outer)
  | branch keyword index =>
      obtain ⟨branches, listed, item⟩ := Option.bind_eq_some_iff.mp held
      obtain ⟨value, outer, items⟩ := Option.bind_eq_some_iff.mp listed
      cases value with
      | list items =>
          cases items
          exact .trans (.of_mem (List.mem_of_getElem? item)) (Value.partOf_of_get? outer)
      | _ => exact nomatch items

/-- Among properties with distinct names, a name leads to its property. -/
theorem find?_of_mem {pairs : List (String × SchemaNode)} (distinct : (pairs.map (·.1)).Nodup)
    {node : SchemaNode} (listed : (name, node) ∈ pairs) :
    (pairs.find? fun pair => pair.1 == name).map (·.2) = some node := by
  cases found : pairs.find? fun pair => pair.1 == name with
  | none =>
      rw [List.find?_eq_none] at found
      exact absurd (beq_self_eq_true name) (found _ listed)
  | some pair =>
      have named : pair.1 = name := by simpa using List.find?_some found
      cases List.inj_on_of_nodup_map distinct (List.mem_of_find?_eq_some found) listed named
      rfl

theorem gives_convertPropertiesIn_of_part? (json : (Value.map entries).isJson = true)
    (held : (SchemaStep.property name).part? (.map entries) = some part) :
    Gives (fun properties => ∃ node,
        (properties.bind fun listed =>
          (listed.find? fun property => property.1 == name).map (·.2)) = some node ∧
        Converts inline part (((SchemaStep.property name).part? raw).getD .null) node)
      (convertPropertiesIn inline raw entries) := by
  obtain ⟨properties, outer, inner⟩ := Option.bind_eq_some_iff.mp held
  have jsonInside := Value.isJson_of_partOf (Value.partOf_of_get? outer) json
  cases properties with
  | map properties =>
      rw [convertPropertiesIn_of_lookup outer]
      refine ((gives_names _ properties).both
        (gives_property (Entries.mem_of_lookup inner))).bind ?_
      rintro pairs ⟨names, node, listed, converted⟩
      have distinct : (pairs.map (·.1)).Nodup := names ▸ Value.nodup_names jsonInside
      refine .pure ⟨node, ?_, ?_⟩
      · rw [Option.bind_some, Extraction.propertiesOf_of_nodup distinct]
        exact find?_of_mem distinct listed
      · rw [Value.child_key, Value.child_key] at converted
        rw [SchemaStep.part?, Value.getD_bind_get?]
        exact converted
  | _ => exact nomatch inner

theorem gives_convertSchemaIn_of_get? (held : (Value.map entries).get? keyword = some part)
    (mapping : part.isMap = true) :
    Gives (fun held => ∃ node, held = some node ∧
        Converts inline part ((raw.get? keyword).getD .null) node)
      (convertSchemaIn inline keyword raw entries) := by
  rw [convertSchemaIn_of_lookup held mapping, Value.child_key]
  exact (gives_converts part _).bind fun node converted => .pure ⟨node, rfl, converted⟩

theorem gives_convertBranchesIn_of_part? {keyword : Keyword} {index : Nat}
    (held : (SchemaStep.branch keyword index).part? (.map entries) = some part) :
    Gives (fun nodes => ∃ node, (nodes.bind fun listed => listed[index]?) = some node ∧
        Converts inline part (((SchemaStep.branch keyword index).part? raw).getD .null) node)
      (convertBranchesIn inline keyword.text raw entries) := by
  obtain ⟨branches, listed, item⟩ := Option.bind_eq_some_iff.mp held
  obtain ⟨value, outer, items⟩ := Option.bind_eq_some_iff.mp listed
  cases value with
  | list items =>
      cases items
      rw [convertBranchesIn_of_lookup outer]
      refine (gives_branch 0 item).bind ?_
      rintro nodes ⟨node, inside, converted⟩
      refine .pure ⟨node, inside, ?_⟩
      rw [Nat.zero_add, Value.child_index, Value.child_key] at converted
      rw [SchemaStep.part?, Value.getD_bind_items?]
      exact converted
  | _ => exact nomatch items

/-- Without a reference the parts of a mapping are converted. -/
theorem convert_of_plain (plain : (Value.map entries).reference? = none)
    (rawPlain : raw.reference? = none) : convert inline (.map entries) raw = do
      let properties ← convertPropertiesIn inline raw entries
      let items ← convertSchemaIn inline "items" raw entries
      let allOf ← convertBranchesIn inline "allOf" raw entries
      let anyOf ← convertBranchesIn inline "anyOf" raw entries
      let oneOf ← convertBranchesIn inline "oneOf" raw entries
      let additional ← convertSchemaIn inline "additionalProperties" raw entries
      return ofParts (.map entries) properties items ⟨allOf, anyOf, oneOf⟩ additional := by
  rw [convert, rawPlain]
  simp only [plain]
  rfl

/-- What a mapping holds one step further is converted, next to the raw view of its place, and
the node holds the result one step further. -/
theorem gives_step {step : SchemaStep} (json : (Value.map entries).isJson = true)
    (plain : (Value.map entries).reference? = none) (rawPlain : raw.reference? = none)
    (held : step.part? (.map entries) = some part) (taken : step.takes part = true) :
    Gives (fun node => ∃ inner, step.node? node = some inner ∧
        Converts inline part ((step.part? raw).getD .null) inner)
      (convert inline (.map entries) raw) := by
  rw [convert_of_plain plain rawPlain]
  cases step with
  | property name =>
      refine (gives_convertPropertiesIn_of_part? json held).bind fun properties found => ?_
      exact .skip fun _ => .skip fun _ => .skip fun _ => .skip fun _ => .skip fun _ => .pure found
  | items =>
      refine .skip fun _ => (gives_convertSchemaIn_of_get? held taken).bind fun items found => ?_
      exact .skip fun _ => .skip fun _ => .skip fun _ => .skip fun _ => .pure found
  | branch keyword index =>
      cases keyword with
      | allOf =>
          refine .skip fun _ => .skip fun _ => ?_
          refine (gives_convertBranchesIn_of_part? held).bind fun allOf found => ?_
          exact .skip fun _ => .skip fun _ => .skip fun _ => .pure found
      | anyOf =>
          refine .skip fun _ => .skip fun _ => .skip fun _ => ?_
          refine (gives_convertBranchesIn_of_part? held).bind fun anyOf found => ?_
          exact .skip fun _ => .skip fun _ => .pure found
      | oneOf =>
          refine .skip fun _ => .skip fun _ => .skip fun _ => .skip fun _ => ?_
          refine (gives_convertBranchesIn_of_part? held).bind fun oneOf found => ?_
          exact .skip fun _ => .pure found
  | additional =>
      refine .skip fun _ => .skip fun _ => .skip fun _ => .skip fun _ => .skip fun _ => ?_
      refine (gives_convertSchemaIn_of_get? held taken).bind fun additional found => .pure ?_
      obtain ⟨node, rfl, converted⟩ := found
      refine ⟨node, ?_, converted⟩
      have field : (Value.map entries).field "additionalProperties" = part := by
        rw [Value.field, show (Value.map entries).get? "additionalProperties" = some part from held]
        rfl
      simp only [ofParts, field, SchemaStep.node?]
      cases part with
      | map inside => rfl
      | _ => exact absurd taken Bool.false_ne_true

/-! ## Along a way -/

/-- The node at the end of a way is the conversion of the place that the way leads to, next to
the raw view of the place; where that holds nothing, there is null. -/
theorem converts_alongside {way : List SchemaStep} (json : schema.isJson = true)
    (descends : Descends way schema) (plain : PlainAlong way schema)
    (rawPlain : PlainAlong way raw) {node : SchemaNode} (converted : Converts inline schema raw node) :
    ∃ part inner, schema.along? way = some part ∧ node.along? way = some inner ∧
      Converts inline part ((raw.along? way).getD .null) inner := by
  induction way generalizing schema raw node with
  | nil => exact ⟨schema, node, rfl, rfl, converted⟩
  | cons step rest ih =>
      obtain ⟨part, held, taken, further⟩ := descends
      obtain ⟨state, rfl⟩ := converted
      have jsonPart := Value.isJson_of_partOf (partOf_of_part? held) json
      cases schema with
      | map entries =>
          have gives : Gives _ (convert inline (.map entries) raw) :=
            gives_step json plain.here rawPlain.here held taken
          obtain ⟨next, nextHeld, nextConverted⟩ := gives state
          obtain ⟨last, inner, lastHeld, innerHeld, innerConverted⟩ :=
            ih jsonPart further (plain.further held) rawPlain.getD_further nextConverted
          rw [getD_along?_cons]
          refine ⟨last, inner, ?_, ?_, innerConverted⟩
          · rw [Value.along?, held]
            exact lastHeld
          · rw [along?, nextHeld]
            exact innerHeld
      | _ => cases step <;> exact nomatch held

/-- The node at the end of a way is the conversion of the places that the way leads to. -/
theorem converts_along {way : List SchemaStep} (json : schema.isJson = true)
    (descends : Descends way schema) (plain : PlainAlong way schema)
    (rawPlain : PlainAlong way raw) (reached : raw.along? way = some rawPart) {node : SchemaNode}
    (converted : Converts inline schema raw node) :
    ∃ part inner, schema.along? way = some part ∧ node.along? way = some inner ∧
      Converts inline part rawPart inner := by
  have alongside := converts_alongside json descends plain rawPlain converted
  rwa [reached, Option.getD_some] at alongside

/-- A reference in the raw view is converted to a pure reference, whatever the schema is. -/
theorem Converts.of_reference? {pointer : String} {node : SchemaNode}
    (converted : Converts inline schema raw node) (isReference : raw.reference? = some pointer) :
    node = .reference pointer := by
  obtain ⟨state, rfl⟩ := converted
  cases schema <;> simp only [convert, isReference] <;> rfl

/-- References are preserved: when the conversion of a schema descends along a way on which neither
the schema nor its raw view has a reference before the end, and the raw view has one at the end, the
node has the same reference there and says nothing else; and wherever a node with a pointer is put
in the result, by the conversion or by what inlines references, it says nothing else. -/
theorem reference_preserved {way : List SchemaStep} {pointer : String} (state : σ)
    (json : schema.isJson = true) (descends : Descends way schema)
    (plain : PlainAlong way schema) (rawPlain : PlainAlong way raw)
    (isReference : (raw.along? way).bind Value.reference? = some pointer) :
    ((((convert inline schema raw).run state).1.along? way).map fields =
        some (.pureReference pointer)) ∧
      ∀ part, Inside ((convert inline schema raw).run state).1 part →
        ∀ other, part.fields.reference = some other → part.fields = .pureReference other := by
  constructor
  · obtain ⟨rawPart, reached, held⟩ := Option.bind_eq_some_iff.mp isReference
    obtain ⟨part, node, -, nodeReached, converted⟩ :=
      converts_along json descends plain rawPlain reached ⟨state, rfl⟩
    rw [nodeReached, converted.of_reference? held]
    rfl
  · exact fun part _ other holds => fields_of_reference holds

/-! ## An example -/

/-- Where the item of a line of an order stands in the schema of the order. -/
def itemOfLine : List SchemaStep :=
  [.property "lines", .items, .branch .anyOf 1]

/-- An order whose lines hold items. -/
def orderOf (item : Value) : Value :=
  .record [("type", .string "object"), ("properties", .record [
    ("lines", .record [("type", .string "array"), ("items", .record [
      ("anyOf", .list [.record [("type", .string "null")], item])])])])]

theorem plainAlong_orderOf (item : Value) : PlainAlong itemOfLine (orderOf item) := by
  refine plainAlong_cons rfl fun lines held => ?_
  cases held
  refine plainAlong_cons rfl fun line held => ?_
  cases held
  exact plainAlong_cons rfl fun item _ => plainAlong_nil item

/-- The pointer to an item is kept where its target was put, when references are inlined as they
are for the document. -/
theorem orderOf_preserved :
    let target := Value.record [("type", .string "string")]
    let pointer := "#/components/schemas/Item"
    let document := Value.record [("components", .record [("schemas", .record [("Item", target)])])]
    let raw := orderOf (.record [("$ref", .string pointer)])
    let node := ((convert (Inlining.inline document Inlining.maxTrail []) (orderOf target) raw).run
      Inlining.fresh).1
    (orderOf target).isJson = true ∧ Descends itemOfLine (orderOf target) ∧
      PlainAlong itemOfLine (orderOf target) ∧ PlainAlong itemOfLine raw ∧
      (raw.along? itemOfLine).bind Value.reference? = some pointer ∧
      (node.along? itemOfLine).map fields = some (.pureReference pointer) ∧
      ∀ part, Inside node part → ∀ other, part.fields.reference = some other →
        part.fields = .pureReference other := by
  intro target pointer document raw node
  have json : (orderOf target).isJson = true := by decide
  have descends : Descends itemOfLine (orderOf target) :=
    ⟨_, rfl, rfl, _, rfl, rfl, _, rfl, rfl, trivial⟩
  have plain := plainAlong_orderOf target
  have rawPlain := plainAlong_orderOf (.record [("$ref", .string pointer)])
  have isReference : (raw.along? itemOfLine).bind Value.reference? = some pointer := rfl
  exact ⟨json, descends, plain, rawPlain, isReference,
    reference_preserved Inlining.fresh json descends plain rawPlain isReference⟩

end SchemaNode

end AsyncTypes
