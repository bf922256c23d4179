import AsyncTypes.Value.Text

/-!
# Writing JSON text

Members and items are separated by a comma and a blank, names and values by a
colon and a blank, and every character beyond ASCII is escaped, so that the text
is plain ASCII on one line.
-/

namespace AsyncTypes.Json

/-- The escape of a code unit. -/
def unitEscape (unit : Nat) : List Char :=
  '\\' :: 'u' :: Quoted.hex 4 unit

/-- One character of a string. -/
def writeCharacter (c : Char) : List Char :=
  if c == '"' then ['\\', '"']
  else if c == '\\' then ['\\', '\\']
  else if c == '\n' then ['\\', 'n']
  else if c == '\r' then ['\\', 'r']
  else if c == '\t' then ['\\', 't']
  else if c == '\x0c' then ['\\', 'f']
  else if c == '\x08' then ['\\', 'b']
  else if 0x20 ≤ c.toNat && c.toNat < 0x7f then [c]
  else if c.toNat < 0x10000 then unitEscape c.toNat
  else
    let above := c.toNat - 0x10000
    unitEscape (0xd800 + above / 0x400) ++ unitEscape (0xdc00 + above % 0x400)

/-- A string in double quotes. -/
def writeString (text : String) : String :=
  String.ofList ('"' :: text.toList.flatMap writeCharacter ++ ['"'])

/-- A number; a double has the fewest digits that read back. -/
def writeScalar : Scalar → String
  | .null => "null"
  | .bool value => if value then "true" else "false"
  | .int value => toString value
  | .float value => value.shortestText Number.Binary64.jsonNames
  | other => writeString other.shown

mutual

/-- The JSON text of a value. -/
def write : Value → String
  | .scalar value => writeScalar value
  | .list items => "[" ++ String.intercalate ", " (writeItems items) ++ "]"
  | .map entries => "\x7b" ++ String.intercalate ", " (writeEntries entries) ++ "\x7d"
  | .set members => "[" ++ String.intercalate ", " (members.map writeScalar) ++ "]"
  | .pair first second => "[" ++ write first ++ ", " ++ write second ++ "]"

/-- The JSON texts of items. -/
def writeItems : List Value → List String
  | [] => []
  | item :: rest => write item :: writeItems rest

/-- The JSON texts of members. -/
def writeEntries : List (Scalar × Value) → List String
  | [] => []
  | (key, value) :: rest =>
      (writeString key.shown ++ ": " ++ write value) :: writeEntries rest

end

end AsyncTypes.Json
