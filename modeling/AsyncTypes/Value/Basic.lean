import AsyncTypes.Number.Binary64

/-!
# Document values

The data of a decoded document.  Mappings keep their entries in document order,
and their keys are scalars: text in a JSON document, any scalar in a YAML one.
Sets, pairs, dates and bytes come from YAML only.

A name that is absent and a name that holds null are mostly treated alike, so
besides `get?` there is `field`, which answers null for an absent name.
-/

namespace AsyncTypes

/-! ## Scalars -/

/-- A day of the calendar. -/
structure Date where
  year : Nat
  month : Nat
  day : Nat
deriving DecidableEq, Inhabited

/-- A time of a day, with its distance to universal time in minutes when it is known. -/
structure DateTime where
  date : Date
  hour : Nat
  minute : Nat
  second : Nat
  microsecond : Nat
  offset : Option Int
deriving DecidableEq, Inhabited

/-- A value without parts. -/
inductive Scalar
  | null
  | bool (value : Bool)
  | int (value : Int)
  | float (value : Number.Binary64)
  | string (text : String)
  | date (value : Date)
  | dateTime (value : DateTime)
  | bytes (content : List UInt8)
deriving DecidableEq, Inhabited

/-- Days before a date, counted from the first day of the year zero of the
calendar without gaps. -/
def Date.dayNumber (date : Date) : Int :=
  let march := (date.month + 9) % 12
  let year := date.year - march / 10
  365 * (year : Int) + year / 4 - year / 100 + year / 400 + ((march * 306 + 5) / 10 : Nat) + date.day

/-- The microseconds from a fixed instant to a time in universal time. -/
def DateTime.instant (time : DateTime) (offset : Int) : Int :=
  let minutes := (time.date.dayNumber * 24 + time.hour) * 60 + time.minute - offset
  (minutes * 60 + time.second) * 1000000 + time.microsecond

/-- Two times name the same instant, or agree in all parts when neither knows its
distance to universal time. -/
def DateTime.sameTime (first second : DateTime) : Bool :=
  match first.offset, second.offset with
  | some here, some there => first.instant here == second.instant there
  | none, none => first == second
  | _, _ => false

namespace Scalar

/-- The integer that a Boolean or an integer stands for as a key. -/
def whole? : Scalar → Option Int
  | .bool value => some (if value then 1 else 0)
  | .int value => some value
  | .float value => value.toInt?
  | _ => none

/-- Two scalars are one key: `1`, `1.0` and `true` are, `1` and `"1"` are not. -/
def sameKey (first second : Scalar) : Bool :=
  match first.whole?, second.whole? with
  | some here, some there => here == there
  | some _, none => false
  | none, some _ => false
  | none, none =>
      match first, second with
      | .dateTime here, .dateTime there => here.sameTime there
      | _, _ => first == second

/-- For text, one key is one text. -/
@[simp]
theorem sameKey_string (first second : String) :
    sameKey (.string first) (.string second) = (first == second) := by
  rw [Bool.eq_iff_iff]
  simp [sameKey, whole?]

end Scalar

/-! ## Values -/

/-- A value of a document. -/
inductive Value
  | scalar (value : Scalar)
  | list (items : List Value)
  | map (entries : List (Scalar × Value))
  | set (members : List Scalar)
  | pair (first second : Value)
deriving Inhabited

/-- The entries of a mapping. -/
abbrev Entries := List (Scalar × Value)

namespace Entries

/-- The value under a key. -/
def lookup (entries : Entries) (key : Scalar) : Option Value :=
  (entries.find? fun entry => entry.1.sameKey key).map (·.2)

/-- Put a value under a key: a new key goes to the end, a known one keeps its place
and its spelling. -/
def insert (key : Scalar) (value : Value) : Entries → Entries
  | [] => [(key, value)]
  | entry :: rest =>
      if entry.1.sameKey key then (entry.1, value) :: rest
      else entry :: insert key value rest

/-- Entries in the order of their first mention, each with its last value. -/
def ofList (pairs : List (Scalar × Value)) : Entries :=
  pairs.foldl (fun entries pair => insert pair.1 pair.2 entries) []

end Entries

namespace Value

/-- Null. -/
@[match_pattern] abbrev null : Value := .scalar .null

/-- A Boolean. -/
@[match_pattern] abbrev bool (value : Bool) : Value := .scalar (.bool value)

/-- An integer. -/
@[match_pattern] abbrev int (value : Int) : Value := .scalar (.int value)

/-- A text. -/
@[match_pattern] abbrev string (text : String) : Value := .scalar (.string text)

/-- A mapping with text keys. -/
def record (fields : List (String × Value)) : Value :=
  .map (fields.map fun field => (.string field.1, field.2))

/-- The value that a mapping holds under a name. -/
def get? : Value → String → Option Value
  | .map entries, name => Entries.lookup entries (.string name)
  | _, _ => none

/-- The value that a mapping holds under a name, null when it holds none. -/
def field (value : Value) (name : String) : Value :=
  (value.get? name).getD null

/-- The value is null. -/
def isNull : Value → Bool
  | .scalar .null => true
  | _ => false

/-- The value is a mapping. -/
def isMap : Value → Bool
  | .map _ => true
  | _ => false

/-- The entries of a mapping. -/
def entries? : Value → Option Entries
  | .map entries => some entries
  | _ => none

/-- The items of a list. -/
def items? : Value → Option (List Value)
  | .list items => some items
  | _ => none

/-- The text of a string. -/
def text? : Value → Option String
  | .scalar (.string text) => some text
  | _ => none

/-- The pointer of a reference: a mapping whose `$ref` is text. -/
def reference? (value : Value) : Option String :=
  (value.get? "$ref").bind text?

/-- What a mapping or a list holds. -/
def children : Value → List Value
  | .map entries => entries.map (·.2)
  | .list items => items
  | _ => []

/-- The value is a mapping or a list. -/
def isContainer : Value → Bool
  | .map _ | .list _ => true
  | _ => false

/-- A value that counts as given: neither null, false, zero nor empty. -/
def isGiven : Value → Bool
  | .scalar .null => false
  | .scalar (.bool value) => value
  | .scalar (.int value) => value != 0
  | .scalar (.float value) => !value.isZero
  | .scalar (.string text) => text != ""
  | .scalar (.bytes content) => !content.isEmpty
  | .scalar (.date _) | .scalar (.dateTime _) => true
  | .list items => !items.isEmpty
  | .map entries => !entries.isEmpty
  | .set members => !members.isEmpty
  | .pair _ _ => true

/-- A reference is a mapping. -/
theorem isMap_of_reference? {value : Value} {pointer : String}
    (found : value.reference? = some pointer) : value.isMap = true := by
  cases value <;> simp_all [reference?, get?, isMap]

end Value

end AsyncTypes
