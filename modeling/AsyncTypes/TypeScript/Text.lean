import AsyncTypes.Unicode.Blank

/-!
# Text inside declarations

String literals, property keys and documentation comments.  A literal escapes
quotes, backslashes and line ends; a comment cannot be ended by the text in it
and stays on one line.
-/

namespace AsyncTypes.TypeScript

/-! ## String literals -/

/-- One character of a string literal. -/
def escapeCharacter (c : Char) : List Char :=
  if c == '\\' then ['\\', '\\']
  else if c == '\'' then ['\\', '\'']
  else if c == '\n' then ['\\', 'n']
  else if c == '\r' then ['\\', 'r']
  else [c]

/-- A text as a literal in single quotes. -/
def stringLiteral (text : String) : String :=
  String.ofList ('\'' :: text.toList.flatMap escapeCharacter ++ ['\''])

/-! ## Property keys -/

/-- A character that may start an identifier. -/
def startsIdentifier (c : Char) : Bool :=
  c.isAlpha || c == '_' || c == '$'

/-- A character that may continue an identifier. -/
def continuesIdentifier (c : Char) : Bool :=
  c.isAlphanum || c == '_' || c == '$'

/-- The text is an ASCII identifier. -/
def isIdentifier : List Char → Bool
  | [] => false
  | c :: rest => startsIdentifier c && rest.all continuesIdentifier

/-- A text without the line feed at its end, if it has one. -/
def dropFinalNewline (text : List Char) : List Char :=
  if text.getLast? == some '\n' then text.dropLast else text

/-- A key that is written without quotes: an identifier, or one before a final line
feed. -/
def isBareKey (key : String) : Bool :=
  isIdentifier (dropFinalNewline key.toList)

/-- A property key, in quotes unless it may stand bare. -/
def propertyKey (key : String) : String :=
  if isBareKey key then key else stringLiteral key

/-! ## Documentation comments -/

/-- Break every comment terminator with a backslash. -/
def breakTerminators : List Char → List Char
  | '*' :: '/' :: rest => '*' :: '\\' :: '/' :: breakTerminators rest
  | c :: rest => c :: breakTerminators rest
  | [] => []

/-- A character that ends a line. -/
def isLineEnd (c : Char) : Bool :=
  c == '\n' || c == '\r'

/-- A run of blanks, most recent first: one space when it holds a line end. -/
def settleBlanks (run : List Char) : List Char :=
  if run.any isLineEnd then [' '] else run.reverse

/-- Every run of blanks that holds a line end becomes one space; `run` holds the
blanks just met, most recent first. -/
def joinLines (run : List Char) : List Char → List Char
  | [] => settleBlanks run
  | c :: rest =>
      if Unicode.isBlank c then joinLines (c :: run) rest
      else settleBlanks run ++ c :: joinLines [] rest

/-- A text that is safe on one line of a documentation comment. -/
def commentText (text : String) : String :=
  String.ofList (Unicode.trim (joinLines [] (breakTerminators text.toList)))

end AsyncTypes.TypeScript
