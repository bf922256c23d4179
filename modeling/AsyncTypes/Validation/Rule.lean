import AsyncTypes.Unicode.Digit
import AsyncTypes.Value.Text
import AsyncTypes.Validation.Pattern

/-!
# Rules for documents

A rule says what a value has to be like, in the manner of a schema: its kind, its
required names, and rules for what is inside.  Checking a value against a list of
rules gives the findings in the order of the rules, and within a rule in the order
of the rule's names or of the value's parts.  A rule ignores values of kinds that it
does not speak of.

The rule `valid` asks that a value is a schema; what that means is given from
outside, so that rules about schemas can speak of the schemas inside a schema.
-/

namespace AsyncTypes.Validation

/-! ## Kinds -/

/-- The kinds of values that a rule can ask for. -/
inductive Kind
  | object
  | array
  | string
  | integer
  | number
  | boolean
  | null
deriving DecidableEq

namespace Kind

/-- The word for a kind. -/
def word : Kind → String
  | .object => "object"
  | .array => "array"
  | .string => "string"
  | .integer => "integer"
  | .number => "number"
  | .boolean => "boolean"
  | .null => "null"

/-- A value is of a kind.  A double without a fraction is an integer. -/
def holds : Kind → Value → Bool
  | .object, .map _ => true
  | .array, .list _ => true
  | .string, .scalar (.string _) => true
  | .integer, .scalar (.int _) => true
  | .integer, .scalar (.float value) => value.toInt?.isSome
  | .number, .scalar (.int _) => true
  | .number, .scalar (.float _) => true
  | .boolean, .scalar (.bool _) => true
  | .null, .scalar .null => true
  | _, _ => false

end Kind

/-! ## Rules -/

/-- Patterns that some texts have to match. -/
inductive TextPattern
  | identifier
  | withoutFragment
deriving DecidableEq

/-- One rule. -/
inductive Rule
  | kinds (allowed : List Kind)
  | required (names : List String)
  | properties (rules : List (String × List Rule))
  | values (rules : List Rule)
  | names (rules : List Rule)
  | items (rules : List Rule)
  | oneOf (words : List String)
  | nonEmpty
  | distinct
  | atLeastZero
  | aboveZero
  | matching (pattern : TextPattern)
  | expression
  | anyOf (alternatives : List (List Rule))
  | valid

/-- Why a check could not be finished: a value that it cannot work with, which the
validation reports, or a number beyond its range, which ends the validation. -/
inductive Breakdown
  | refused (message : String)
  | overflow (message : String)
deriving DecidableEq

/-- Something wrong at a place inside a value.  A place is given by the keys and indices
that lead to it.  A finding may also be that the check broke down there. -/
structure Finding where
  path : List Scalar
  message : String
  breakdown : Option Breakdown
deriving DecidableEq

/-- A finding in a part of a value, seen from the value. -/
def Finding.under (key : Scalar) (finding : Finding) : Finding :=
  { finding with path := key :: finding.path }

/-! ## Parts of the check -/

/-- A finding at the value itself. -/
def finding (message : String) : List Finding :=
  [⟨[], message, none⟩]

/-- The finding for a text that is no regular expression. -/
def patternFinding (value : Value) : Pattern.Problem → List Finding
  | .invalid => finding s!"{value.quoted} is not a 'regex'"
  | .flagsExclusive =>
      [⟨[], "", some (.refused "ASCII and UNICODE flags are incompatible")⟩]
  | .repetitionTooLarge =>
      [⟨[], "", some (.overflow "the repetition number is too large")⟩]

/-- A text without the line feed at its end, if it has one. -/
def dropFinalLineFeed (text : List Char) : List Char :=
  if text.getLast? == some '\n' then text.dropLast else text

namespace TextPattern

/-- The pattern as it is written. -/
def source : TextPattern → String
  | .identifier => "^[A-Za-z_][-A-Za-z0-9._]*$"
  | .withoutFragment => "^[^#]*#?$"

/-- The identifier pattern, on a whole text. -/
def isIdentifier : List Char → Bool
  | [] => false
  | c :: rest => (c.isAlpha || c == '_') &&
      rest.all fun c => c.isAlphanum || c == '-' || c == '.' || c == '_'

/-- The pattern for texts whose only hash may be the last character, on a whole text. -/
def isWithoutFragment (text : List Char) : Bool :=
  let body := text.dropWhile (· != '#')
  body.isEmpty || body == ['#']

/-- A text matches the pattern; the end of the pattern also matches in front of a final
line feed. -/
def accepts (pattern : TextPattern) (text : String) : Bool :=
  let whole := text.toList
  let check := match pattern with
    | .identifier => isIdentifier
    | .withoutFragment => isWithoutFragment
  check whole || check (dropFinalLineFeed whole)

end TextPattern

/-- A value below a limit of zero, or at it when `strict`. -/
def belowZero (strict : Bool) : Value → Bool
  | .scalar (.int value) => value < 0 || (strict && value == 0)
  | .scalar (.float value) => value.isBelowZero || (strict && value.isZero)
  | _ => false

/-- Two items of a list of scalars repeat each other. -/
def hasRepetition : List Value → Bool
  | [] => false
  | item :: rest =>
      (rest.any fun other =>
        match item, other with
        | .scalar (.bool first), .scalar (.bool second) => first == second
        | .scalar (.bool _), _ => false
        | _, .scalar (.bool _) => false
        | .scalar first, .scalar second => first.sameKey second
        | _, _ => false) || hasRepetition rest

/-! ## The check -/

section

variable (isSchema : Value → List Finding)

mutual

/-- The findings of one rule. -/
def Rule.check : Rule → Value → List Finding
  | .kinds allowed, value =>
      if allowed.any fun kind => kind.holds value then []
      else
        let words := String.intercalate ", " (allowed.map fun kind => Quoted.text kind.word)
        finding s!"{value.quoted} is not of type {words}"
  | .required names, value =>
      if value.isMap then
        (names.filter fun name => (value.get? name).isNone).flatMap fun name =>
          finding s!"{Quoted.text name} is a required property"
      else []
  | .properties rules, value => checkProperties rules value
  | .values rules, value =>
      (value.entries?.getD []).flatMap fun entry =>
        (checkAll rules entry.2).map (Finding.under entry.1)
  | .names rules, value =>
      (value.entries?.getD []).flatMap fun entry => checkAll rules (.scalar entry.1)
  | .items rules, value =>
      ((value.items?.getD []).zipIdx).flatMap fun item =>
        (checkAll rules item.1).map (Finding.under (.int item.2))
  | .oneOf words, value =>
      if words.any fun word => value.text? == some word then []
      else
        let listed := (Value.list (words.map Value.string)).quoted
        finding s!"{value.quoted} is not one of {listed}"
  | .nonEmpty, value =>
      match value with
      | .list [] | .scalar (.string "") => finding s!"{value.quoted} should be non-empty"
      | _ => []
  | .distinct, value =>
      if hasRepetition (value.items?.getD []) then
        finding s!"{value.quoted} has non-unique elements"
      else []
  | .atLeastZero, value =>
      if belowZero false value then finding s!"{value.quoted} is less than the minimum of 0"
      else []
  | .aboveZero, value =>
      if belowZero true value then
        finding s!"{value.quoted} is less than or equal to the minimum of 0"
      else []
  | .matching pattern, value =>
      match value.text? with
      | some text =>
          if pattern.accepts text then []
          else finding s!"{value.quoted} does not match {Quoted.text pattern.source}"
      | none => []
  | .expression, value =>
      match value.text? with
      | some text => ((Pattern.problem? text).map (patternFinding value)).getD []
      | none => []
  | .anyOf alternatives, value =>
      if checkAny alternatives value then []
      else finding s!"{value.quoted} is not valid under any of the given schemas"
  | .valid, value => isSchema value
termination_by structural x => x

/-- The findings of some rules, in order. -/
def checkAll : List Rule → Value → List Finding
  | [], _ => []
  | rule :: rest, value => rule.check value ++ checkAll rest value
termination_by structural x => x

/-- The findings in the named parts of a mapping, in the order of the names. -/
def checkProperties : List (String × List Rule) → Value → List Finding
  | [], _ => []
  | (name, rules) :: rest, value =>
      (match value.get? name with
        | some part => (checkAll rules part).map (Finding.under (.string name))
        | none => []) ++ checkProperties rest value
termination_by structural x => x

/-- Some alternative has no finding. -/
def checkAny : List (List Rule) → Value → Bool
  | [], _ => false
  | rules :: rest, value => (checkAll rules value).isEmpty || checkAny rest value
termination_by structural x => x

end

end

end AsyncTypes.Validation
