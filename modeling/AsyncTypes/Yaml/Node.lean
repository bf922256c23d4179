import AsyncTypes.Text.Split

/-!
# Nodes

A document is a tree of scalars, sequences and mappings, each with a tag that says what
it denotes.  An alias inside the node that it repeats would make the tree endless; such
a place is marked.
-/

namespace AsyncTypes.Yaml

/-- What a node is said to denote. -/
inductive Tag
  | null
  | bool
  | int
  | float
  | binary
  | timestamp
  | str
  | seq
  | map
  | set
  | omap
  | pairs
  | merge
  | value
  | unknown
deriving DecidableEq, Inhabited

namespace Tag

/-- What the names of the common tags start with. -/
def commonBeginning : String := "tag:yaml.org,2002:"

/-- The common tags and their names. -/
def names : List (String × Tag) :=
  [("null", .null), ("bool", .bool), ("int", .int), ("float", .float), ("binary", .binary),
    ("timestamp", .timestamp), ("str", .str), ("seq", .seq), ("map", .map), ("set", .set),
    ("omap", .omap), ("pairs", .pairs), ("merge", .merge), ("value", .value)]

/-- The tag with a name. -/
def ofName (name : String) : Tag :=
  ((Text.afterBeginning? commonBeginning name).bind fun word => List.lookup word names).getD .unknown

/-- The tag is one of a collection. -/
def isCollection : Tag → Bool
  | .seq | .map | .set | .omap | .pairs => true
  | _ => false

/-- The tag is one of a scalar. -/
def isScalar : Tag → Bool
  | .null | .bool | .int | .float | .binary | .timestamp | .str => true
  | _ => false

end Tag

/-- A node of a document. -/
inductive Node
  | scalar (tag : Tag) (text : String)
  | sequence (tag : Tag) (items : List Node)
  | mapping (tag : Tag) (entries : List (Node × Node))
  | endless
deriving Inhabited

namespace Node

/-- The tag of a node. -/
def tag : Node → Tag
  | .scalar tag _ => tag
  | .sequence tag _ => tag
  | .mapping tag _ => tag
  | .endless => .seq

/-- A node that was left out. -/
def empty : Node :=
  .scalar .null ""

end Node

end AsyncTypes.Yaml
