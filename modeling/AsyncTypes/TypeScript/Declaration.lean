import AsyncTypes.Options
import AsyncTypes.TypeScript.Expression
import AsyncTypes.TypeScript.Name

/-!
# Declarations

A declaration is an alias, an enumeration or an interface.  Its block of text is
its documentation comment, perhaps the word `export`, and the declaration.
-/

namespace AsyncTypes.TypeScript

/-- A property of an interface. -/
structure Field where
  key : String
  optional : Bool
  description : Option String
  type : TypeExpr
deriving Inhabited

/-- A top-level declaration. -/
inductive Declaration
  | alias (name : String) (description : Option String) (type : TypeExpr)
  | enumeration (name : String) (description : Option String) (members : List (String × String))
  | interface (name : String) (description : Option String) (fields : List Field)
      (index : Option TypeExpr)
deriving Inhabited

/-- A description that says something. -/
def given? (description : Option String) : Option String :=
  description.filter (· != "")

/-- The documentation comment in front of a declaration. -/
def blockComment (description : Option String) : String :=
  match given? description with
  | some text => "/**\n * " ++ commentText text ++ "\n */\n"
  | none => ""

namespace Field

/-- The lines of a field: its comment, when it has one, and the property. -/
def lines (fallback : String) (field : Field) : List String :=
  let property := "  " ++ propertyKey field.key ++ (if field.optional then "?" else "") ++
    ": " ++ field.type.render fallback ++ ";"
  match given? field.description with
  | some text => ["  /** " ++ commentText text ++ " */", property]
  | none => [property]

end Field

namespace Declaration

/-- The name that is declared. -/
def name : Declaration → String
  | .alias name _ _ => name
  | .enumeration name _ _ => name
  | .interface name _ _ _ => name

/-- The lines between the braces of an interface. -/
def bodyLines (fallback : String) (fields : List Field) (index : Option TypeExpr) :
    List String :=
  fields.flatMap (Field.lines fallback) ++
    (index.map fun type => "  [key: string]: " ++ type.render fallback ++ ";").toList

/-- The line of one member of an enumeration. -/
def memberLine (member : String × String) : String :=
  "  " ++ member.1 ++ " = " ++ stringLiteral member.2 ++ ","

/-- The block of text of a declaration. -/
def render (options : Options) : Declaration → String
  | .alias name description type =>
      blockComment description ++ options.exportWord ++ "type " ++ name ++ " = " ++
        type.render options.fallback ++ ";"
  | .enumeration name description members =>
      blockComment description ++ options.exportWord ++ "enum " ++ name ++ " \x7b\n" ++
        String.intercalate "\n" (members.map memberLine ++ ["\x7d"])
  | .interface name description fields index =>
      let head := blockComment description ++ options.exportWord ++ "interface " ++ name
      match bodyLines options.fallback fields index with
      | [] => head ++ " \x7b\x7d"
      | body => head ++ " \x7b\n" ++ String.intercalate "\n" body ++ "\n\x7d"

/-- The enumeration of some texts, with a member for each. -/
def enumerationOf (name : String) (description : Option String) (values : List String) :
    Declaration :=
  .enumeration name description ((enumMembers values).zip values)

end Declaration

end AsyncTypes.TypeScript
