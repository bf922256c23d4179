import AsyncTypes.Value.Basic
import AsyncTypes.Number.Decimal

/-!
# Reading JSON text

A recursive-descent reader over the characters of a text.  Positions count
characters from zero and are carried along, since a fault is reported with the
position at which it was met.  The reader also accepts `NaN` and the infinities,
and an integer of more than 4300 digits is refused.

A name that occurs twice in an object keeps its first place and its last value.
-/

namespace AsyncTypes.Json

/-! ## Faults -/

/-- What was wrong at a position. -/
inductive Problem
  | expectedValue
  | expectedName
  | expectedColon
  | expectedComma
  | extraData
  | controlCharacter
  | badEscape
  | badUnicodeEscape
  | unterminatedString
  | byteOrderMark
deriving DecidableEq

/-- The wording of a problem. -/
def Problem.message : Problem → String
  | .expectedValue => "Expecting value"
  | .expectedName => "Expecting property name enclosed in double quotes"
  | .expectedColon => "Expecting ':' delimiter"
  | .expectedComma => "Expecting ',' delimiter"
  | .extraData => "Extra data"
  | .controlCharacter => "Invalid control character at"
  | .badEscape => "Invalid \\escape"
  | .badUnicodeEscape => "Invalid \\uXXXX escape"
  | .unterminatedString => "Unterminated string starting at"
  | .byteOrderMark => "Unexpected UTF-8 BOM (decode using utf-8-sig)"

/-- Why a text could not be read. -/
inductive Fault
  | malformed (problem : Problem) (position : Nat)
  | numberTooLong (digits : Nat)
deriving DecidableEq

/-- The longest integer that is read, in digits. -/
def maxIntegerDigits : Nat := 4300

/-! ## Places -/

/-- What is left of a text, and the position where it starts. -/
structure Place where
  rest : List Char
  position : Nat

namespace Place

/-- The place after some characters. -/
def skip (place : Place) (count : Nat) : Place :=
  ⟨place.rest.drop count, place.position + count⟩

/-- A fault at this place. -/
def fail {α : Type} (place : Place) (problem : Problem) : Except Fault α :=
  .error (.malformed problem place.position)

end Place

/-- A blank between tokens. -/
def isSpace (c : Char) : Bool :=
  c == ' ' || c == '\t' || c == '\n' || c == '\r'

/-- The next place that holds no blank. -/
def skipSpace (place : Place) : Place :=
  place.skip (place.rest.takeWhile isSpace).length

/-! ## Strings -/

/-- The character for a one-letter escape. -/
def escaped? : Char → Option Char
  | '"' => some '"'
  | '\\' => some '\\'
  | '/' => some '/'
  | 'b' => some '\x08'
  | 'f' => some '\x0c'
  | 'n' => some '\n'
  | 'r' => some '\r'
  | 't' => some '\t'
  | _ => none

/-- The value of a hexadecimal digit. -/
def hexValue? (c : Char) : Option Nat :=
  if '0' ≤ c && c ≤ '9' then some (c.toNat - '0'.toNat)
  else if 'a' ≤ c && c ≤ 'f' then some (c.toNat - 'a'.toNat + 10)
  else if 'A' ≤ c && c ≤ 'F' then some (c.toNat - 'A'.toNat + 10)
  else none

/-- The value of a hexadecimal numeral. -/
def hexNumber? (digits : List Char) : Option Nat :=
  digits.foldlM (fun total c => (hexValue? c).map (total * 16 + ·)) 0

/-- The first half of a pair of code units. -/
def isHighSurrogate (unit : Nat) : Bool :=
  0xd800 ≤ unit && unit ≤ 0xdbff

/-- The second half of a pair of code units. -/
def isLowSurrogate (unit : Nat) : Bool :=
  0xdc00 ≤ unit && unit ≤ 0xdfff

/-- The character of a pair of code units. -/
def joinSurrogates (high low : Nat) : Char :=
  Char.ofNat (0x10000 + (high - 0xd800) * 0x400 + (low - 0xdc00))

/-- The characters read so far, most recent first, with one more code unit.  Half of a
pair is kept as a replacement character until its other half arrives; `high` is
the first half when the last unit was one. -/
def pushUnit (high : Option Nat) (done : List Char) (unit : Nat) : List Char :=
  match high with
  | some first =>
      if isLowSurrogate unit then joinSurrogates first unit :: done.tail
      else if isHighSurrogate unit then '\ufffd' :: done
      else Char.ofNat unit :: done
  | none =>
      if isLowSurrogate unit || isHighSurrogate unit then '\ufffd' :: done
      else Char.ofNat unit :: done

/-- The characters of a string after its opening quote, most recent first in `done`;
`opening` is the position of the quote. -/
def readString (opening : Nat) :
    Option Nat → List Char → List Char → Nat → Except Fault (String × Place)
  | _, _, [], _ => .error (.malformed .unterminatedString opening)
  | _, done, '"' :: rest, position =>
      .ok (String.ofList done.reverse, ⟨rest, position + 1⟩)
  | _, _, ['\\'], _ => .error (.malformed .unterminatedString opening)
  | high, done, '\\' :: 'u' :: a :: b :: c :: d :: next :: rest, position =>
      match hexNumber? [a, b, c, d] with
      | none => .error (.malformed .badUnicodeEscape (position + 1))
      | some unit =>
          readString opening (if isHighSurrogate unit then some unit else none)
            (pushUnit high done unit) (next :: rest) (position + 6)
  | _, _, '\\' :: 'u' :: _, position => .error (.malformed .badUnicodeEscape (position + 1))
  | _, done, '\\' :: c :: rest, position =>
      match escaped? c with
      | some value => readString opening none (value :: done) rest (position + 2)
      | none => .error (.malformed .badEscape position)
  | _, done, c :: rest, position =>
      if c.toNat < 0x20 then .error (.malformed .controlCharacter position)
      else readString opening none (c :: done) rest (position + 1)

/-! ## Numbers -/

/-- The digits at a place and the place after them. -/
def readDigits (place : Place) : List Char × Place :=
  let digits := place.rest.takeWhile Char.isDigit
  (digits, place.skip digits.length)

/-- The value of decimal digits. -/
def natOfDigits (digits : List Char) : Nat :=
  digits.foldl (fun total c => total * 10 + (c.toNat - '0'.toNat)) 0

/-- The fraction of a number: a point with digits after it. -/
def readFraction (place : Place) : Option (List Char × Place) :=
  match place.rest with
  | '.' :: c :: _ => if c.isDigit then some (readDigits (place.skip 1)) else none
  | _ => none

/-- The exponent of a number: a letter, perhaps a sign, and digits. -/
def readExponent (place : Place) : Option (Int × Place) :=
  let signed (negative : Bool) (after : Place) : Option (Int × Place) :=
    let (digits, next) := readDigits after
    if digits.isEmpty then none
    else
      let value : Int := natOfDigits digits
      some (if negative then -value else value, next)
  match place.rest with
  | c :: sign :: _ =>
      if c == 'e' || c == 'E' then
        if sign == '-' then signed true (place.skip 2)
        else if sign == '+' then signed false (place.skip 2)
        else signed false (place.skip 1)
      else none
  | _ => none

/-- A number from its parts: an integer when it has neither fraction nor exponent. -/
def numberOf (negative : Bool) (whole : List Char) (fraction : Option (List Char))
    (exponent : Option Int) : Except Fault Scalar :=
  match fraction, exponent with
  | none, none =>
      if maxIntegerDigits < whole.length then .error (.numberTooLong whole.length)
      else
        let value : Int := natOfDigits whole
        .ok (.int (if negative then -value else value))
  | _, _ =>
      let places := fraction.getD []
      .ok (.float (.ofDecimal negative (natOfDigits (whole ++ places))
        (exponent.getD 0 - places.length)))

/-- A number at a place. -/
def readNumber (start : Place) : Except Fault (Scalar × Place) :=
  let negative := start.rest.head? == some '-'
  let first := if negative then start.skip 1 else start
  match first.rest with
  | [] => start.fail .expectedValue
  | c :: _ =>
      if !c.isDigit then start.fail .expectedValue
      else
        let (whole, afterWhole) :=
          if c == '0' then (['0'], first.skip 1) else readDigits first
        let fraction := readFraction afterWhole
        let afterFraction := (fraction.map (·.2)).getD afterWhole
        let exponent := readExponent afterFraction
        let after := (exponent.map (·.2)).getD afterFraction
        (numberOf negative whole (fraction.map (·.1)) (exponent.map (·.1))).map fun number =>
          (number, after)

/-! ## Values -/

/-- The words that stand for values. -/
def words : List (String × Scalar) :=
  [("null", .null), ("true", .bool true), ("false", .bool false),
    ("NaN", .float .nan), ("Infinity", .float (.infinity false)),
    ("-Infinity", .float (.infinity true))]

/-- A word at a place. -/
def readWord? (place : Place) : Option (Scalar × Place) :=
  (words.find? fun word => word.1.toList.isPrefixOf place.rest).map fun word =>
    (word.2, place.skip word.1.length)

mutual

/-- A value at a place.  A bracket costs two units of the budget, one here and one in
the reader of its content, so twice the text's length is never used up. -/
def readValue : Nat → Place → Except Fault (Value × Place)
  | 0, place => place.fail .expectedValue
  | budget + 1, place =>
      match place.rest with
      | '"' :: rest =>
          (readString place.position none [] rest (place.position + 1)).map fun result =>
            (.string result.1, result.2)
      | '\x7b' :: _ =>
          let inside := skipSpace (place.skip 1)
          match inside.rest with
          | '\x7d' :: _ => .ok (.map [], inside.skip 1)
          | _ => readMembers budget [] inside
      | '[' :: _ =>
          let inside := skipSpace (place.skip 1)
          match inside.rest with
          | ']' :: _ => .ok (.list [], inside.skip 1)
          | _ => readItems budget [] inside
      | _ =>
          match readWord? place with
          | some (word, after) => .ok (.scalar word, after)
          | none => (readNumber place).map fun result => (.scalar result.1, result.2)

/-- The members of an object from a name on, most recent first in `done`. -/
def readMembers : Nat → List (Scalar × Value) → Place → Except Fault (Value × Place)
  | 0, _, place => place.fail .expectedName
  | budget + 1, done, place =>
      match place.rest with
      | '"' :: rest => do
          let (name, afterName) ← readString place.position none [] rest (place.position + 1)
          let colon := skipSpace afterName
          match colon.rest with
          | ':' :: _ => do
              let (value, afterValue) ← readValue budget (skipSpace (colon.skip 1))
              let members := (Scalar.string name, value) :: done
              let separator := skipSpace afterValue
              match separator.rest with
              | '\x7d' :: _ => .ok (.map (Entries.ofList members.reverse), separator.skip 1)
              | ',' :: _ => readMembers budget members (skipSpace (separator.skip 1))
              | _ => separator.fail .expectedComma
          | _ => colon.fail .expectedColon
      | _ => place.fail .expectedName

/-- The items of an array from a value on, most recent first in `done`. -/
def readItems : Nat → List Value → Place → Except Fault (Value × Place)
  | 0, _, place => place.fail .expectedValue
  | budget + 1, done, place => do
      let (value, afterValue) ← readValue budget place
      let separator := skipSpace afterValue
      match separator.rest with
      | ']' :: _ => .ok (.list (value :: done).reverse, separator.skip 1)
      | ',' :: _ => readItems budget (value :: done) (skipSpace (separator.skip 1))
      | _ => separator.fail .expectedComma

end

/-- The value that a text holds. -/
def read (text : String) : Except Fault Value := do
  let characters := text.toList
  if characters.head? == some '\ufeff' then .error (.malformed .byteOrderMark 0)
  else
    let (value, after) ← readValue (2 * characters.length + 2) (skipSpace ⟨characters, 0⟩)
    let finish := skipSpace after
    if finish.rest.isEmpty then .ok value else finish.fail .extraData

/-! ## Wording of faults -/

/-- The line and the column of a position, both counted from one. -/
def lineAndColumn (text : List Char) (position : Nat) : Nat × Nat :=
  let before := text.take position
  (before.count '\n' + 1, (before.reverse.takeWhile (· != '\n')).length + 1)

/-- The wording of a problem at a position of a text. -/
def positionedMessage (text : String) (problem : Problem) (position : Nat) : String :=
  let (line, column) := lineAndColumn text.toList position
  s!"{problem.message}: line {line} column {column} (char {position})"

/-- The wording of the refusal of a long integer. -/
def tooLongMessage (digits : Nat) : String :=
  s!"Exceeds the limit ({maxIntegerDigits} digits) for integer string conversion: value has {digits} digits; use sys.set_int_max_str_digits() to increase the limit"

end AsyncTypes.Json
