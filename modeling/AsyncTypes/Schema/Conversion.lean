import AsyncTypes.Schema.Node
import AsyncTypes.Value.Text

/-!
# From values to schema nodes

A schema is converted together with the *raw* view of the same place: the schema
as it was written.  A reference in the raw view becomes a reference node, whatever
stands at that place otherwise.  A reference that only the converted view holds is
handed to `inline`, which may keep it or put its target there.

Children are visited in the order properties, items, `allOf`, `anyOf`, `oneOf`,
additional properties, since `inline` may keep a state.
-/

namespace AsyncTypes

/-! ## The raw view -/

namespace Value

/-- One step into a value. -/
inductive Step
  | key (name : Scalar)
  | index (position : Int)

/-- The value one step further, null when the step does not fit; there is no answer
when an index points before the start of a list. -/
def child? : Value → Step → Option Value
  | .map entries, .key name => some ((Entries.lookup entries name).getD null)
  | .list items, .index position =>
      if 0 ≤ position then some (items[position.toNat]?.getD null)
      else if -position ≤ items.length then items[items.length - (-position).toNat]?
      else none
  | _, _ => some null

/-- The value at the end of some steps. -/
def descend? : Value → List Step → Option Value
  | value, [] => some value
  | value, step :: rest => (child? value step).bind fun next => descend? next rest

/-- The value one step further, null when there is none. -/
def child (value : Value) (step : Step) : Value :=
  (value.child? step).getD null

/-- The step to the entry under a key.  Numbers and Booleans are taken for indices. -/
def stepTo : Scalar → Step
  | .int value => .index value
  | .bool value => .index (if value then 1 else 0)
  | name => .key name

end Value

/-! ## Parts without children -/

namespace SchemaNode

/-- A text that is not empty. -/
def nonEmptyText? (value : Value) : Option String :=
  value.text?.filter (· != "")

/-- The type names: a text, or a list of texts. -/
def typeNames (value : Value) : TypeNames :=
  match value with
  | .scalar (.string name) => .single name
  | .list items =>
      match items.mapM Value.text? with
      | some names => .several names
      | none => .absent
  | _ => .absent

/-- The annotations of a schema. -/
def annotationsOf (schema : Value) : Annotations :=
  ⟨nonEmptyText? (schema.field "description"), nonEmptyText? (schema.field "format")⟩

/-- The names of the required properties. -/
def requiredOf (schema : Value) : List String :=
  ((schema.field "required").items?.getD []).map Value.shown

/-- The allowed values, none when the list is empty. -/
def valuesOf (schema : Value) : List Value :=
  (schema.field "enum").items?.getD []

/-- Put a property under a name: a new name goes to the end, a known one keeps its
place. -/
def insertProperty (name : String) (node : SchemaNode) :
    List (String × SchemaNode) → List (String × SchemaNode)
  | [] => [(name, node)]
  | property :: rest =>
      if property.1 == name then (name, node) :: rest
      else property :: insertProperty name node rest

/-- Properties in the order of their first mention, each with its last node. -/
def propertiesOf (pairs : List (String × SchemaNode)) : List (String × SchemaNode) :=
  pairs.foldl (fun properties pair => insertProperty pair.1 pair.2 properties) []

/-! ## Conversion -/

section

variable {σ : Type} (inline : String → StateM σ SchemaNode)

mutual

/-- The node for a schema and the raw view of its place. -/
def convert : Value → Value → StateM σ SchemaNode
  | .map entries, raw =>
      match raw.reference? with
      | some pointer => return .reference pointer
      | none =>
          match (Value.map entries).reference? with
          | some pointer => inline pointer
          | none => do
              let properties ← convertPropertiesIn raw entries
              let items ← convertSchemaIn "items" raw entries
              let allOf ← convertBranchesIn "allOf" raw entries
              let anyOf ← convertBranchesIn "anyOf" raw entries
              let oneOf ← convertBranchesIn "oneOf" raw entries
              let additional ← convertSchemaIn "additionalProperties" raw entries
              let schema := Value.map entries
              return .schema (annotationsOf schema) (valuesOf schema) ⟨allOf, anyOf, oneOf⟩
                { types := typeNames (schema.field "type")
                  properties := properties
                  required := requiredOf schema
                  items := items
                  additional :=
                    match schema.field "additionalProperties", additional with
                    | .scalar (.bool flag), _ => .allowed flag
                    | _, some node => .schema node
                    | _, none => .absent }
  | _, raw =>
      match raw.reference? with
      | some pointer => return .reference pointer
      | none => return empty
termination_by structural x => x

/-- The properties that a schema lists. -/
def convertPropertiesIn (raw : Value) : List (Scalar × Value) →
    StateM σ (Option (List (String × SchemaNode)))
  | [] => return none
  | (key, value) :: rest =>
      if key.sameKey (.string "properties") then
        match value with
        | .map properties => do
            let pairs ← convertProperties (raw.child (.key (.string "properties"))) properties
            return some (propertiesOf pairs)
        | _ => return none
      else convertPropertiesIn raw rest
termination_by structural x => x

/-- The nodes for the entries of a mapping of properties. -/
def convertProperties (raw : Value) : List (Scalar × Value) →
    StateM σ (List (String × SchemaNode))
  | [] => return []
  | (key, value) :: rest => do
      let node ← convert value (raw.child (Value.stepTo key))
      let others ← convertProperties raw rest
      return (key.shown, node) :: others
termination_by structural x => x

/-- The schema that a keyword holds, when it holds a mapping. -/
def convertSchemaIn (keyword : String) (raw : Value) : List (Scalar × Value) →
    StateM σ (Option SchemaNode)
  | [] => return none
  | (key, value) :: rest =>
      if key.sameKey (.string keyword) then
        if value.isMap then do
          let node ← convert value (raw.child (.key (.string keyword)))
          return some node
        else return none
      else convertSchemaIn keyword raw rest
termination_by structural x => x

/-- The branches that a composition keyword holds, when it holds a list. -/
def convertBranchesIn (keyword : String) (raw : Value) : List (Scalar × Value) →
    StateM σ (Option (List SchemaNode))
  | [] => return none
  | (key, value) :: rest =>
      if key.sameKey (.string keyword) then
        match value with
        | .list branches => do
            let nodes ← convertBranches (raw.child (.key (.string keyword))) 0 branches
            return some nodes
        | _ => return none
      else convertBranchesIn keyword raw rest
termination_by structural x => x

/-- The nodes for the items of a list of branches. -/
def convertBranches (raw : Value) (index : Nat) : List Value → StateM σ (List SchemaNode)
  | [] => return []
  | value :: rest => do
      let node ← convert value (raw.child (.index index))
      let others ← convertBranches raw (index + 1) rest
      return node :: others
termination_by structural x => x

end

end

/-- The node for a schema with every reference kept, given the raw view. -/
def ofViews (schema raw : Value) : SchemaNode :=
  ((convert (σ := Unit) (fun pointer => return .reference pointer) schema raw).run ()).1

/-- The node for a schema with every reference kept. -/
def ofValue (schema : Value) : SchemaNode :=
  ofViews schema schema

end SchemaNode

end AsyncTypes
