import AsyncTypes.Failure
import AsyncTypes.Number.Integer
import AsyncTypes.Options
import AsyncTypes.Unicode.Blank
import AsyncTypes.Unicode.Case

/-!
# Settings

Settings come from environment variables, whose names are matched in any spelling of
upper and lower case.  Every setting has a default.  All settings that cannot be read
are reported together, in a fixed order.
-/

namespace AsyncTypes

/-- The settings of a run. -/
structure Settings where
  logLevel : String
  maxFileSize : Int
  defaultOutput : String
  options : Options
deriving DecidableEq, Inhabited

namespace Settings

/-- The settings of an empty environment. -/
def default : Settings :=
  ⟨"warning", 10 * 1024 * 1024, "generated-types.ts", .default⟩

/-! ## Reading one setting -/

/-- Why a value was refused: a name of the kind of refusal, and its wording. -/
structure Refusal where
  kind : String
  message : String
deriving DecidableEq

/-- A text is not the word of a style. -/
def Refusal.style : Refusal :=
  ⟨"enum", "Input should be 'enum' or 'union'"⟩

/-- A text does not say yes or no. -/
def Refusal.boolText : Refusal :=
  ⟨"bool_parsing", "Input should be a valid boolean, unable to interpret input"⟩

/-- A value is not of a kind that can say yes or no. -/
def Refusal.boolKind : Refusal :=
  ⟨"bool_type", "Input should be a valid boolean"⟩

/-- A text is no integer. -/
def Refusal.integer : Refusal :=
  ⟨"int_parsing", "Input should be a valid integer, unable to parse string as an integer"⟩

/-- A number is not positive. -/
def Refusal.positive : Refusal :=
  ⟨"greater_than", "Input should be greater than 0"⟩

/-- Words for yes. -/
def yesWords : List String := ["1", "t", "true", "y", "yes", "on"]

/-- Words for no. -/
def noWords : List String := ["0", "f", "false", "n", "no", "off"]

/-- A word for yes or no, in any spelling of upper and lower case. -/
def flagOfText (text : String) : Except Refusal Bool :=
  let word := String.ofList (text.toList.map Char.toLower)
  if yesWords.contains word then .ok true
  else if noWords.contains word then .ok false
  else .error .boolText

/-- An integer that says yes or no. -/
def flagOfInt (value : Int) : Except Refusal Bool :=
  if value = 1 then .ok true
  else if value = 0 then .ok false
  else .error .boolText

/-- A value that says yes or no. -/
def flagOfValue : Value → Except Refusal Bool
  | .scalar (.bool value) => .ok value
  | .scalar (.string text) => flagOfText text
  | .scalar (.int value) => flagOfInt value
  | .scalar (.float value) =>
      match value.toInt? with
      | some whole => flagOfInt whole
      | none => .error .boolKind
  | _ => .error .boolKind

/-- A value that names a style. -/
def styleOfValue (value : Value) : Except Refusal EnumStyle :=
  match value.text?.bind EnumStyle.ofWord? with
  | some style => .ok style
  | none => .error .style

/-- A fraction without a value: a point with nothing but zeros after it. -/
def isNullFraction : List Char → Bool
  | [] => true
  | '.' :: rest => rest.all (· == '0')
  | _ => false

/-- An integer in a text: blanks around it, a sign, digits with single underscores
between them, and perhaps a fraction of zeros. -/
def integerOfText (text : String) : Except Refusal Int :=
  let (negative, body) := Number.takeSign (Unicode.trim text.toList)
  let whole := body.takeWhile (· != '.')
  let digits := whole.all fun c => c.isDigit || c == '_'
  if digits && isNullFraction (body.drop whole.length) then
    match Number.natural? 10 whole with
    | some value => .ok (if negative then -(value : Int) else value)
    | none => .error .integer
  else .error .integer

/-- A positive integer in a text. -/
def positiveOfText (text : String) : Except Refusal Int := do
  let value ← integerOfText text
  if 0 < value then return value else .error .positive

/-! ## Reading several settings -/

/-- A reading that collects everything it refuses. -/
structure Reading (α : Type) where
  value : α
  issues : List SettingIssue

/-- A setting with its default, read from a value that may be absent. -/
def readOr {α β : Type} (place : String) (read : β → Except Refusal α) (default : α)
    (given : Option β) : Reading α :=
  match given with
  | none => ⟨default, []⟩
  | some value =>
      match read value with
      | .ok result => ⟨result, []⟩
      | .error refusal => ⟨default, [⟨place, refusal.kind, refusal.message⟩]⟩

/-- A reading without issues, or all issues. -/
def Reading.outcome {α : Type} (reading : Reading α) : Except (List SettingIssue) α :=
  if reading.issues.isEmpty then .ok reading.value else .error reading.issues

/-- The value of an environment variable; the last one of a name counts. -/
def valueOf? (environment : List (String × String)) (name : String) : Option String :=
  let same (other : String) : Bool :=
    Unicode.lowerText other.toList == Unicode.lowerText name.toList
  (environment.reverse.find? fun entry => same entry.1).map (·.2)

/-- The settings that an environment gives. -/
def ofEnvironment (environment : List (String × String)) :
    Except (List SettingIssue) Settings :=
  let text (name : String) : Option String := valueOf? environment name
  let value (name : String) : Option Value := (text name).map Value.string
  let size := readOr "TYPEGEN_MAX_FILE_SIZE" positiveOfText default.maxFileSize
    (text "TYPEGEN_MAX_FILE_SIZE")
  let style := readOr "TYPEGEN_ENUM_TYPE" styleOfValue default.options.enumStyle
    (value "TYPEGEN_ENUM_TYPE")
  let unknown := readOr "TYPEGEN_USE_UNKNOWN" flagOfValue default.options.useUnknown
    (value "TYPEGEN_USE_UNKNOWN")
  let exported := readOr "TYPEGEN_EXPORT_EVERYTHING" flagOfValue
    default.options.exportEverything (value "TYPEGEN_EXPORT_EVERYTHING")
  Reading.outcome
    { value := {
        logLevel := (text "LOG_LEVEL").getD default.logLevel
        maxFileSize := size.value
        defaultOutput := (text "TYPEGEN_DEFAULT_OUTPUT").getD default.defaultOutput
        options := ⟨style.value, unknown.value, exported.value⟩ }
      issues := size.issues ++ style.issues ++ unknown.issues ++ exported.issues }

/-! ## Options -/

/-- Options with some of them replaced by named values.  Names that are no option are
ignored. -/
def optionsFrom (base : Options) (given : Value) : Except (List SettingIssue) Options :=
  let style := readOr "enum_type" styleOfValue base.enumStyle (given.get? "enum_type")
  let unknown := readOr "use_unknown" flagOfValue base.useUnknown (given.get? "use_unknown")
  let exported := readOr "export_everything" flagOfValue base.exportEverything
    (given.get? "export_everything")
  Reading.outcome
    { value := ⟨style.value, unknown.value, exported.value⟩
      issues := style.issues ++ unknown.issues ++ exported.issues }

/-- The options of some settings with overrides; an override that is null is ignored. -/
def optionsWith (settings : Settings) (overrides : Value) :
    Except (List SettingIssue) Options :=
  optionsFrom settings.options
    (.map ((overrides.entries?.getD []).filter fun entry => !entry.2.isNull))

end Settings

end AsyncTypes
