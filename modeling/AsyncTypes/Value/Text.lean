import AsyncTypes.Value.Basic
import AsyncTypes.Number.Format
import AsyncTypes.Unicode.Printable

/-!
# Values in running text

Messages mention values in two forms.  The *shown* form of a text is the text
itself; the *quoted* form puts it in quotes and escapes what cannot be printed.
Inside a container every value is quoted.
-/

namespace AsyncTypes

/-! ## Quoted text -/

namespace Quoted

/-- A digit of a hexadecimal numeral. -/
def hexDigit (value : Nat) : Char :=
  (Nat.digitChar value)

/-- A hexadecimal numeral of at least the given width. -/
def hex (width value : Nat) : List Char :=
  let digits := Nat.toDigits 16 value
  Number.zeros (width - digits.length) ++ digits

/-- The escape of a character that cannot be printed, by the size of its code. -/
def escapeCode (code : Nat) : List Char :=
  if code < 0x100 then '\\' :: 'x' :: hex 2 code
  else if code < 0x10000 then '\\' :: 'u' :: hex 4 code
  else '\\' :: 'U' :: hex 8 code

/-- One character between quotes of the given kind. -/
def character (quote c : Char) : List Char :=
  if c == quote || c == '\\' then ['\\', c]
  else if c == '\n' then ['\\', 'n']
  else if c == '\r' then ['\\', 'r']
  else if c == '\t' then ['\\', 't']
  else if Unicode.isPrintable c then [c]
  else escapeCode c.toNat

/-- Single quotes, unless the text holds a single quote and no double one. -/
def quoteFor (text : List Char) : Char :=
  if text.contains '\'' && !text.contains '"' then '"' else '\''

/-- A text in quotes. -/
def text (content : String) : String :=
  let quote := quoteFor content.toList
  String.ofList (quote :: content.toList.flatMap (character quote) ++ [quote])

/-- One byte between quotes of the given kind. -/
def byte (quote : Char) (value : UInt8) : List Char :=
  let c := Char.ofNat value.toNat
  if c == quote || c == '\\' then ['\\', c]
  else if c == '\n' then ['\\', 'n']
  else if c == '\r' then ['\\', 'r']
  else if c == '\t' then ['\\', 't']
  else if 0x20 ≤ value && value < 0x7f then [c]
  else escapeCode value.toNat

/-- Bytes in quotes, marked as bytes. -/
def bytes (content : List UInt8) : String :=
  let quote := quoteFor (content.map fun value => Char.ofNat value.toNat)
  String.ofList ('b' :: quote :: content.flatMap (byte quote) ++ [quote])

end Quoted

/-! ## Dates -/

/-- A natural number with leading zeros up to a width. -/
def padded (width value : Nat) : String :=
  let digits := Number.digitsOf value
  String.ofList (Number.zeros (width - digits.length) ++ digits)

namespace Date

/-- Year, month and day, joined by hyphens. -/
def isoText (date : Date) : String :=
  padded 4 date.year ++ "-" ++ padded 2 date.month ++ "-" ++ padded 2 date.day

/-- The quoted form of a date. -/
def quoted (date : Date) : String :=
  s!"datetime.date({date.year}, {date.month}, {date.day})"

end Date

namespace DateTime

/-- The distance to universal time, as hours and minutes. -/
def offsetText (offset : Int) : String :=
  (if offset < 0 then "-" else "+") ++
    padded 2 (offset.natAbs / 60) ++ ":" ++ padded 2 (offset.natAbs % 60)

/-- Date and time with a separator between them; microseconds only when there are some. -/
def isoText (separator : String) (time : DateTime) : String :=
  time.date.isoText ++ separator ++
    padded 2 time.hour ++ ":" ++ padded 2 time.minute ++ ":" ++ padded 2 time.second ++
    (if time.microsecond = 0 then "" else "." ++ padded 6 time.microsecond) ++
    (time.offset.map offsetText).getD ""

/-- A span of time in whole days and seconds of a day. -/
def spanQuoted (seconds : Int) : String :=
  let days := seconds.fdiv 86400
  let rest := seconds.fmod 86400
  let parts := (if days = 0 then [] else [s!"days={days}"]) ++
    (if rest = 0 then [] else [s!"seconds={rest}"])
  let listed := String.intercalate ", " (if parts.isEmpty then ["0"] else parts)
  s!"datetime.timedelta({listed})"

/-- The quoted form of a distance to universal time. -/
def zoneQuoted (offset : Int) : String :=
  if offset = 0 then "datetime.timezone.utc"
  else s!"datetime.timezone({spanQuoted (offset * 60)})"

/-- The quoted form of a time; seconds and microseconds only when they are needed. -/
def quoted (time : DateTime) : String :=
  let small := if time.microsecond ≠ 0 then [time.second, time.microsecond]
    else if time.second ≠ 0 then [time.second] else []
  let parts := [time.date.year, time.date.month, time.date.day, time.hour, time.minute] ++ small
  let zone := (time.offset.map fun offset => s!", tzinfo={zoneQuoted offset}").getD ""
  let listed := String.intercalate ", " (parts.map toString)
  s!"datetime.datetime({listed}{zone})"

end DateTime

/-! ## Scalars -/

namespace Scalar

/-- The quoted form of a scalar. -/
def quoted : Scalar → String
  | .null => "None"
  | .bool value => if value then "True" else "False"
  | .int value => toString value
  | .float value => value.shortestText Number.Binary64.plainNames
  | .string text => Quoted.text text
  | .date value => value.quoted
  | .dateTime value => value.quoted
  | .bytes content => Quoted.bytes content

/-- The shown form of a scalar. -/
def shown : Scalar → String
  | .string text => text
  | .date value => value.isoText
  | .dateTime value => value.isoText " "
  | other => other.quoted

/-- A text is shown as it is. -/
@[simp]
theorem shown_string (text : String) : shown (.string text) = text :=
  rfl

/-- The name of a scalar's kind. -/
def kind : Scalar → String
  | .null => "NoneType"
  | .bool _ => "bool"
  | .int _ => "int"
  | .float _ => "float"
  | .string _ => "str"
  | .date _ => "date"
  | .dateTime _ => "datetime"
  | .bytes _ => "bytes"

end Scalar

/-! ## Values -/

namespace Value

mutual

/-- The quoted form of a value. -/
def quoted : Value → String
  | .scalar value => value.quoted
  | .list items => "[" ++ String.intercalate ", " (quotedItems items) ++ "]"
  | .map entries => "\x7b" ++ String.intercalate ", " (quotedEntries entries) ++ "\x7d"
  | .set [] => "set()"
  | .set members => "\x7b" ++ String.intercalate ", " (members.map Scalar.quoted) ++ "\x7d"
  | .pair first second => "(" ++ quoted first ++ ", " ++ quoted second ++ ")"

/-- The quoted forms of the items of a list. -/
def quotedItems : List Value → List String
  | [] => []
  | item :: rest => quoted item :: quotedItems rest

/-- The quoted forms of the entries of a mapping. -/
def quotedEntries : List (Scalar × Value) → List String
  | [] => []
  | (key, value) :: rest => (key.quoted ++ ": " ++ quoted value) :: quotedEntries rest

end

/-- The shown form of a value. -/
def shown : Value → String
  | .scalar value => value.shown
  | other => other.quoted

/-- The name of a value's kind. -/
def kind : Value → String
  | .scalar value => value.kind
  | .list _ => "list"
  | .map _ => "dict"
  | .set _ => "set"
  | .pair _ _ => "tuple"

end Value

end AsyncTypes
