import AsyncTypes.Json.Writer
import AsyncTypes.TypeScript.Text

/-!
# Type expressions

The types that a declaration is made of, and their text.  In the text of an array,
a union or an intersection, a part that is itself a union or an intersection stands
in parentheses.  Whether it does is read off the part's text: an operator counts
only outside brackets and string literals.
-/

namespace AsyncTypes.TypeScript

/-! ## Operators in a text -/

/-- A character that opens a bracket. -/
def opensBracket (c : Char) : Bool :=
  c == '(' || c == '[' || c == '\x7b'

/-- A character that closes a bracket. -/
def closesBracket (c : Char) : Bool :=
  c == ')' || c == ']' || c == '\x7d'

/-- The text starts with a union or intersection operator between blanks. -/
def startsWithOperator (text : List Char) : Bool :=
  [' ', '|', ' '].isPrefixOf text || [' ', '&', ' '].isPrefixOf text

/-- An operator occurs in the text outside string literals and at bracket depth zero,
when the text starts inside a literal or not and at some depth. -/
def hasOperatorFrom : Bool → Int → List Char → Bool
  | _, _, [] => false
  | true, depth, '\\' :: _ :: rest => hasOperatorFrom true depth rest
  | true, depth, c :: rest => hasOperatorFrom (c != '\'') depth rest
  | false, depth, c :: rest =>
      if c == '\'' then hasOperatorFrom true depth rest
      else if opensBracket c then hasOperatorFrom false (depth + 1) rest
      else if closesBracket c then hasOperatorFrom false (depth - 1) rest
      else if depth == 0 && startsWithOperator (c :: rest) then true
      else hasOperatorFrom false depth rest

/-- The text is a union or an intersection at its top level. -/
def hasOperator (text : String) : Bool :=
  hasOperatorFrom false 0 text.toList

/-- A text that may stand beside an operator. -/
def parenthesize (text : String) : String :=
  if hasOperator text then "(" ++ text ++ ")" else text

/-! ## Repetitions -/

/-- The items whose texts are neither in `seen` nor the text of an item before them. -/
def distinctFrom {α : Type} (text : α → String) (seen : List String) : List α → List α
  | [] => []
  | item :: rest =>
      if seen.contains (text item) then distinctFrom text seen rest
      else item :: distinctFrom text (text item :: seen) rest

/-- The first of all items with one text. -/
def distinct {α : Type} (text : α → String) (items : List α) : List α :=
  distinctFrom text [] items

/-! ## Expressions -/

/-- A type.  The fallback stands for a type that a schema leaves open. -/
inductive TypeExpr
  | fallback
  | named (name : String)
  | keyword (word : String)
  | literal (text : String)
  | array (item : TypeExpr)
  | union (members : List TypeExpr)
  | intersection (members : List TypeExpr)
deriving Inhabited

namespace TypeExpr

mutual

/-- The text of a type, given the word for the fallback. -/
def render (fallback : String) : TypeExpr → String
  | .fallback => fallback
  | .named name => name
  | .keyword word => word
  | .literal text => text
  | .array item => parenthesize (render fallback item) ++ "[]"
  | .union members => String.intercalate " | " (renderMembers fallback members)
  | .intersection members => String.intercalate " & " (renderMembers fallback members)

/-- The texts of the members of a union or an intersection. -/
def renderMembers (fallback : String) : List TypeExpr → List String
  | [] => []
  | member :: rest => parenthesize (render fallback member) :: renderMembers fallback rest

end

/-- One member stands for itself, several are joined. -/
def joined (join : List TypeExpr → TypeExpr) (members : List TypeExpr) : TypeExpr :=
  match members with
  | [member] => member
  | members => join members

/-- The union of the members that differ in their texts. -/
def unionOf (fallback : String) (members : List TypeExpr) : TypeExpr :=
  joined union (distinct (render fallback) members)

/-- The intersection of the members that differ in their texts. -/
def intersectionOf (fallback : String) (members : List TypeExpr) : TypeExpr :=
  joined intersection (distinct (render fallback) members)

/-! ## Literals and type names -/

/-- The text of a scalar that can stand in a type. -/
def literalText? : Value → Option String
  | .scalar (.bool value) => some (if value then "true" else "false")
  | .scalar .null => some "null"
  | .scalar (.string text) => some (stringLiteral text)
  | .scalar (.int value) => some (Json.writeScalar (.int value))
  | .scalar (.float value) => some (Json.writeScalar (.float value))
  | _ => none

/-- The type that allows one value; only scalars can be told in a type. -/
def ofValue (value : Value) : TypeExpr :=
  match literalText? value with
  | some text => .literal text
  | none => .fallback

/-- The type that allows the listed values. -/
def ofValues (fallback : String) (values : List Value) : TypeExpr :=
  unionOf fallback (values.map ofValue)

/-- The type names that are known by a keyword. -/
def keywords : List (String × String) :=
  [("string", "string"), ("number", "number"), ("integer", "number"),
    ("boolean", "boolean"), ("null", "null")]

/-- The type for a type name that is neither an array nor a record. -/
def ofTypeName (name : String) : TypeExpr :=
  match keywords.find? fun entry => entry.1 == name with
  | some entry => .keyword entry.2
  | none => .fallback

end TypeExpr

end AsyncTypes.TypeScript
