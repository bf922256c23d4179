import AsyncTypes.Json.Reader
import AsyncTypes.Number.Integer
import AsyncTypes.Value.Text

/-!
# Refusals of numerals

What is said about a text that spells no number.
-/

namespace AsyncTypes.Number

/-- How much of a refused numeral is repeated. -/
def repeatedLength : Nat := 200

/-- What is said about a text that spells no integer in a base. -/
def integerRefusal (base : Nat) (text : String) : String :=
  let shown := String.ofList ((Quoted.text text).toList.take repeatedLength)
  s!"invalid literal for int() with base {base}: {shown}"

/-- What is said about a text that spells no double. -/
def realRefusal (text : String) : String :=
  s!"could not convert string to float: {Quoted.text text}"

/-- The integer that a text spells in a base, or why it spells none.  In base ten the
number of digits is limited. -/
def readInteger (base : Nat) (text : List Char) : Except String Int :=
  let digits := countDigits text
  if base = 10 && Json.maxIntegerDigits < digits then .error (Json.tooLongMessage digits)
  else
    match integer? base text with
    | some value => .ok value
    | none => .error (integerRefusal base (String.ofList text))

end AsyncTypes.Number
