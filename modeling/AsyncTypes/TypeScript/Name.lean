import AsyncTypes.Unicode.Word
import AsyncTypes.Unicode.Digit
import AsyncTypes.Unicode.Case
import AsyncTypes.Text.Split

/-!
# Names of declarations

Keys of a document are arbitrary text.  A declaration name is made of the words
of its key, each with a capital first letter; it never starts with a digit and
never spells a reserved word.  Names that are already taken get the least free
number, and so do the members of an enumeration.
-/

namespace AsyncTypes.TypeScript

/-! ## Words -/

/-- The maximal runs of letters and numbers in a text. -/
def words : List Char → List (List Char)
  | [] => []
  | c :: rest =>
      if Unicode.isAlphanumeric c then
        match rest with
        | [] => [[c]]
        | next :: _ =>
            if Unicode.isAlphanumeric next then Text.extendFirst c (words rest)
            else [c] :: words rest
      else words rest

/-- A word with its first character in upper case. -/
def capitalized : List Char → List Char
  | [] => []
  | c :: rest => Unicode.upper c ++ rest

/-- The words of a text, capitalized and joined. -/
def pascalCase (text : String) : String :=
  String.ofList ((words text.toList).flatMap capitalized)

/-! ## Declaration names -/

/-- Words that no declaration is called, in any spelling of upper and lower case. -/
def reservedWords : List String :=
  ["break", "case", "catch", "class", "const", "continue", "debugger",
    "default", "delete", "do", "else", "enum", "export", "extends",
    "false", "finally", "for", "function", "if", "import", "in",
    "instanceof", "new", "null", "return", "super", "switch", "this",
    "throw", "true", "try", "typeof", "var", "void", "while", "with",
    "implements", "interface", "let", "package", "private", "protected",
    "public", "static", "yield", "await",
    "type", "namespace", "module", "declare", "abstract", "readonly",
    "keyof", "infer", "is", "as", "unique",
    "any", "unknown", "never", "object", "string", "number", "boolean",
    "symbol", "bigint", "undefined"]

/-- The name spells a reserved word. -/
def isReserved (name : String) : Bool :=
  reservedWords.contains (String.ofList (Unicode.lowerText name.toList))

/-- The first character is a digit. -/
def startsWithDigit (name : String) : Bool :=
  match name.toList with
  | c :: _ => Unicode.isDigit c
  | [] => false

/-- An underscore in front of a name that starts with a digit. -/
def guardDigit (name : String) : String :=
  if startsWithDigit name then "_" ++ name else name

/-- An underscore after a name that spells a reserved word. -/
def guardReserved (name : String) : String :=
  if isReserved name then name ++ "_" else name

/-- The declaration name for a key, with an ending that belongs to the name. -/
def declarationName (key : String) (ending : String) : String :=
  let name := pascalCase key ++ ending
  if name = "" then "Unnamed" else guardReserved (guardDigit name)

/-! ## Members of enumerations -/

/-- An underscore between a lower-case letter or digit and an upper-case letter. -/
def separateHumps : List Char → List Char
  | c :: next :: rest =>
      if (c.isLower || c.isDigit) && next.isUpper then
        c :: '_' :: separateHumps (next :: rest)
      else c :: separateHumps (next :: rest)
  | short => short

/-- The member name for a value: its words in upper case, joined by underscores. -/
def enumMember (value : String) : String :=
  let parts := words (separateHumps value.toList)
  let name := String.ofList (Unicode.upperText (['_'].intercalate parts))
  if name = "" then "EMPTY" else guardDigit name

/-! ## Free names -/

/-- The least number from two on whose candidate is not taken. Among one candidate
more than there are taken names, one is free. -/
def leastFree (taken : List String) (candidate : Nat → String) : Nat :=
  (((List.range (taken.length + 1)).map (· + 2)).find? fun number =>
    !taken.contains (candidate number)).getD 2

/-- The wanted name when it is free, otherwise the name with the least free number. -/
def freeName (taken : List String) (wanted : String) : String :=
  if taken.contains wanted then
    wanted ++ toString (leastFree taken fun number => wanted ++ toString number)
  else wanted

/-- The member name when it is free, otherwise with an underscore and the least free
number. -/
def freeMember (taken : List String) (wanted : String) : String :=
  if taken.contains wanted then
    wanted ++ "_" ++ toString (leastFree taken fun number => wanted ++ "_" ++ toString number)
  else wanted

/-- Member names for values, given the names taken by the values before them. -/
def enumMembersFrom (taken : List String) : List String → List String
  | [] => []
  | value :: rest =>
      let member := freeMember taken (enumMember value)
      member :: enumMembersFrom (member :: taken) rest

/-- Distinct member names for values, in order. -/
def enumMembers (values : List String) : List String :=
  enumMembersFrom [] values

end AsyncTypes.TypeScript
