/-!
# Generation options

How string enumerations are declared, what stands for a type that a schema leaves
open, and whether declarations are exported.
-/

namespace AsyncTypes

/-- How an enumeration of texts is declared. -/
inductive EnumStyle
  | enumeration
  | union
deriving DecidableEq, Inhabited

namespace EnumStyle

/-- The word for a style. -/
def word : EnumStyle → String
  | .enumeration => "enum"
  | .union => "union"

/-- All styles, in the order in which they are listed to a reader. -/
def all : List EnumStyle :=
  [.enumeration, .union]

/-- The style that a word names. -/
def ofWord? (word : String) : Option EnumStyle :=
  all.find? fun style => style.word == word

/-- Every style is named by its word. -/
@[simp]
theorem ofWord?_word (style : EnumStyle) : ofWord? style.word = some style := by
  cases style <;> decide

end EnumStyle

/-- The options of a generation. -/
structure Options where
  enumStyle : EnumStyle
  useUnknown : Bool
  exportEverything : Bool
deriving DecidableEq, Inhabited

namespace Options

/-- Unions, `unknown` and exported declarations. -/
def default : Options :=
  ⟨.union, true, true⟩

/-- The word for a type that a schema leaves open. -/
def fallback (options : Options) : String :=
  if options.useUnknown then "unknown" else "any"

/-- What stands in front of a declaration. -/
def exportWord (options : Options) : String :=
  if options.exportEverything then "export " else ""

end Options

end AsyncTypes
