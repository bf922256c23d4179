import AsyncTypes.Number.Decimal
import AsyncTypes.Number.Integer
import AsyncTypes.Unicode.Case

/-!
# Doubles in running text

A liberal numeral: blanks around it, one sign, decimal digits of any script with single
underscores between them, perhaps a point and an exponent; or the word for an infinity
or for not-a-number, in any spelling of upper and lower case.
-/

namespace AsyncTypes.Number

/-- The decimal digits of a numeral that may be left out. -/
def optionalDigits? (text : List Char) : Option (List Nat) :=
  if text.isEmpty then some []
  else
    (Text.split '_' text).foldlM
      (fun digits group =>
        if group.isEmpty then none
        else (group.mapM Unicode.decimalValue?).map (digits ++ ·)) []

/-- The number that decimal digits spell. -/
def ofDigits (digits : List Nat) : Nat :=
  digits.foldl (fun total digit => total * 10 + digit) 0

/-- A character that starts the exponent of a numeral. -/
def startsExponent (c : Char) : Bool :=
  c == 'e' || c == 'E'

/-- The exponent of a numeral: a letter, perhaps a sign, and digits. -/
def exponent? : List Char → Option Int
  | [] => some 0
  | _ :: rest =>
      let (negative, body) := takeSign rest
      (natural? 10 body).map fun value => if negative then -(value : Int) else value

/-- A double without a sign, from a numeral with digits before or after its point. -/
def unsigned? (negative : Bool) (text : List Char) : Option Binary64 := do
  let mantissa := text.takeWhile (!startsExponent ·)
  let exponent ← exponent? (text.drop mantissa.length)
  let whole := mantissa.takeWhile (· != '.')
  let wholeDigits ← optionalDigits? whole
  let fractionDigits ← optionalDigits? (mantissa.drop (whole.length + 1))
  if wholeDigits.isEmpty && fractionDigits.isEmpty then none
  else
    some (.ofDecimal negative (ofDigits (wholeDigits ++ fractionDigits))
      (exponent - fractionDigits.length))

/-- The double that a text denotes. -/
def real? (text : List Char) : Option Binary64 :=
  let (negative, body) := takeSign (Unicode.trim text)
  let word := String.ofList (body.map Char.toLower)
  if word == "inf" || word == "infinity" then some (.infinity negative)
  else if word == "nan" then some .nan
  else unsigned? negative body

end AsyncTypes.Number
