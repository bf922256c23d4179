import AsyncTypes.Value.Basic

/-!
# Schema nodes

A schema node is either a pure reference, which carries a pointer and nothing
else, or a schema of its own.  A schema has annotations, a list of allowed values
(empty when every value is allowed), the branches of its composition keywords, and
a shape: its types, properties, items and further properties.
-/

namespace AsyncTypes

/-- The type names of a schema. -/
inductive TypeNames
  | absent
  | single (name : String)
  | several (names : List String)
deriving DecidableEq, Inhabited

/-- What a schema says about properties that it does not list. -/
inductive Additional (Node : Type)
  | absent
  | allowed (flag : Bool)
  | schema (node : Node)
deriving Inhabited

/-- The free text that comes with a schema. -/
structure Annotations where
  description : Option String
  format : Option String
deriving DecidableEq, Inhabited

/-- The branches of the composition keywords; a keyword may be given without branches. -/
structure Composition (Node : Type) where
  allOf : Option (List Node)
  anyOf : Option (List Node)
  oneOf : Option (List Node)
deriving Inhabited

/-- The types of a schema and the parts of its lists and records. -/
structure Shape (Node : Type) where
  types : TypeNames
  properties : Option (List (String × Node))
  required : List String
  items : Option Node
  additional : Additional Node
deriving Inhabited

/-- One schema location. -/
inductive SchemaNode
  | reference (pointer : String)
  | schema (annotations : Annotations) (values : List Value)
      (composition : Composition SchemaNode) (shape : Shape SchemaNode)

namespace SchemaNode

/-- The schema that says nothing. -/
def empty : SchemaNode :=
  .schema ⟨none, none⟩ [] ⟨none, none, none⟩ ⟨.absent, none, [], none, .absent⟩

instance : Inhabited SchemaNode := ⟨empty⟩

/-- The description of a schema; a reference has none. -/
def description : SchemaNode → Option String
  | .reference _ => none
  | .schema annotations _ _ _ => annotations.description

/-- The shape of a schema; a reference has none. -/
def shape? : SchemaNode → Option (Shape SchemaNode)
  | .reference _ => none
  | .schema _ _ _ shape => some shape

end SchemaNode

namespace Composition

/-- The branches of one keyword. -/
def branches {Node : Type} (keyword : Option (List Node)) : List Node :=
  keyword.getD []

/-- Some keyword has a branch. -/
def isUsed {Node : Type} (composition : Composition Node) : Bool :=
  !(branches composition.allOf).isEmpty || !(branches composition.anyOf).isEmpty ||
    !(branches composition.oneOf).isEmpty

end Composition

namespace Shape

/-- The shape of an array: its type says so, or it has items and no type. -/
def isArray {Node : Type} (shape : Shape Node) : Bool :=
  match shape.types with
  | .single name => name == "array"
  | .absent => shape.items.isSome
  | .several _ => false

/-- The schema says something about properties that it does not list. -/
def hasAdditional {Node : Type} (shape : Shape Node) : Bool :=
  match shape.additional with
  | .absent => false
  | _ => true

/-- The shape of a record: it lists properties, its type says so, or it speaks of
further properties and has no type. -/
def isObject {Node : Type} (shape : Shape Node) : Bool :=
  shape.properties.isSome ||
    match shape.types with
    | .single name => name == "object"
    | .absent => shape.hasAdditional
    | .several _ => false

end Shape

end AsyncTypes
