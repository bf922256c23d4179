import AsyncTypes.Json.Reader
import AsyncTypes.Yaml.Node
import AsyncTypes.Yaml.Timestamp

/-!
# Forms of plain scalars

A plain scalar without a tag is read by its form: words for truth values and for null,
numbers, timestamps, and the two signs that are keys of their own.  All other texts are
just texts.
-/

namespace AsyncTypes.Yaml.Form

/-! ## Numbers -/

/-- A text without a sign in front of it. -/
def withoutSign : List Char → List Char
  | '-' :: rest => rest
  | '+' :: rest => rest
  | text => text

/-- A digit or an underscore. -/
def isLooseDigit (c : Char) : Bool :=
  c.isDigit || c == '_'

/-- A digit, and then digits and underscores. -/
def isLooseNumber : List Char → Bool
  | [] => false
  | c :: rest => c.isDigit && rest.all isLooseDigit

/-- A number below sixty in one or two digits. -/
def isSixtieth : List Char → Bool
  | [c] => c.isDigit
  | [tens, units] => '0' ≤ tens && tens ≤ '5' && units.isDigit
  | _ => false

/-- A loose number and at least one sixtieth behind it, joined by colons. -/
def isSexagesimal (text : List Char) : Bool :=
  match Text.split ':' text with
  | first :: second :: rest => isLooseNumber first && (second :: rest).all isSixtieth
  | _ => false

/-- An integer in base two, eight, ten, sixteen or sixty. -/
def isInteger (text : List Char) : Bool :=
  match withoutSign text with
  | [] => false
  | ['0'] => true
  | '0' :: 'b' :: c :: rest => (c :: rest).all fun d => d == '0' || d == '1' || d == '_'
  | '0' :: 'x' :: c :: rest => (c :: rest).all fun d => (Json.hexValue? d).isSome || d == '_'
  | '0' :: rest => rest.all fun d => ('0' ≤ d && d ≤ '7') || d == '_'
  | body => isLooseNumber body || isSexagesimal body

/-- An exponent with a sign, or nothing. -/
def isExponent : List Char → Bool
  | [] => true
  | letter :: sign :: c :: rest =>
      (letter == 'e' || letter == 'E') && (sign == '-' || sign == '+') && (c :: rest).all Char.isDigit
  | _ => false

/-- A word for an infinity. -/
def isInfinity (text : List Char) : Bool :=
  [".inf", ".Inf", ".INF"].contains (String.ofList text)

/-- A word for not-a-number. -/
def isNotANumber (text : List Char) : Bool :=
  [".nan", ".NaN", ".NAN"].contains (String.ofList text)

/-- A number with a point. -/
def isReal (text : List Char) : Bool :=
  let body := withoutSign text
  let whole := body.takeWhile (· != '.')
  match body.drop whole.length with
  | '.' :: fraction =>
      let tail := fraction.dropWhile isLooseDigit
      (isLooseNumber whole && isExponent tail) ||
        (isSexagesimal whole && tail.isEmpty) ||
        (text.head? == some '.' && isLooseNumber (fraction.take (fraction.length - tail.length)) &&
          isExponent tail) ||
        isInfinity body || isNotANumber text
  | _ => false

/-! ## Words -/

/-- The words for truth values. -/
def truthWords : List String :=
  ["yes", "Yes", "YES", "no", "No", "NO", "true", "True", "TRUE", "false", "False", "FALSE",
    "on", "On", "ON", "off", "Off", "OFF"]

/-- The words for null. -/
def nullWords : List String := ["~", "null", "Null", "NULL"]

/-- A text without the newline at its end. -/
def withoutFinalNewline (text : List Char) : List Char :=
  if text.getLast? == some '\n' then text.dropLast else text

/-- The tag of a scalar without one, by the form of its text.  A newline at its end does
not count. -/
def tagOf (text : List Char) : Tag :=
  let body := withoutFinalNewline text
  let word := String.ofList body
  if text.isEmpty then .null
  else if truthWords.contains word then .bool
  else if isReal body then .float
  else if isInteger body then .int
  else if word == "<<" then .merge
  else if nullWords.contains word then .null
  else if Timestamp.isPlainForm body then .timestamp
  else if word == "=" then .value
  else if word == "!" || word == "&" || word == "*" then .unknown
  else .str

end AsyncTypes.Yaml.Form
