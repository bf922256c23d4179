import AsyncTypes.Json.Reader
import AsyncTypes.Log
import AsyncTypes.Number.Format
import AsyncTypes.Yaml.Fault

/-!
# Failures

A failure is one of the ways in which a run ends without its result, given by its
cause.  Every failure has a wording and an exit code.  Besides failures there are
stops: a value that is refused by a part of the program that has no failure for it.
-/

namespace AsyncTypes

/-! ## Causes -/

/-- Why a text or a document could not be read. -/
inductive ParsingCause
  | detail (text : String)
  | notUtf8 (path : String)
  | malformedJson (source text : String) (problem : Json.Problem) (position : Nat)
  | malformedYaml (source : String) (level : Yaml.Level)
  | rootNotMapping (source kind : String)
  | documentNotMapping (kind : String)
  | missingInfo
  | missingIdentity

/-- The wording of a cause. -/
def ParsingCause.message : ParsingCause → String
  | .detail text => text
  | .notUtf8 path => s!"File is not valid UTF-8: {path}"
  | .malformedJson source text problem position =>
      s!"Failed to parse {source}: {Json.positionedMessage text problem position}"
  | .malformedYaml source level => s!"Failed to parse {source}: {level.complaint}"
  | .rootNotMapping source kind =>
      s!"Failed to parse {source}: expected a mapping at the root, got {kind}"
  | .documentNotMapping kind =>
      s!"Failed to parse AsyncAPI document: expected a mapping at the root, got {kind}."
  | .missingInfo => "AsyncAPI spec is missing the required 'info' object."
  | .missingIdentity =>
      "AsyncAPI spec is missing the required 'info.title' or 'info.version' field."

/-! ## Failures -/

/-- A way in which a run fails. -/
inductive Failure
  | general (detail : String) (exitCode : Int)
  | input (detail : String)
  | fileNotFound (path : String)
  | notAFile (path : String)
  | permissionDenied (path : String)
  | fileTooLarge (path : String) (size limit : Int)
  | parsing (cause : ParsingCause)
  | validation (errors warnings : List String)
  | configuration (detail : String)
  | output (detail : String)

namespace Failure

/-- A number of bytes in mebibytes. -/
def mebibytes (size : Int) : Number.Binary64 :=
  .ofQuotient (size < 0) size.natAbs (1024 * 1024)

/-- The wording of a failed validation: a headline and one line for every error. -/
def validationMessage (errors : List String) : String :=
  String.intercalate "\n"
    (s!"Failed to parse AsyncAPI specification ({errors.length} error(s)):" ::
      errors.map fun error => "  - " ++ error)

/-- The wording of a failure. -/
def message : Failure → String
  | .general detail _ => detail
  | .input detail => detail
  | .fileNotFound path => s!"File not found: {path}"
  | .notAFile path => s!"Path is not a file: {path}"
  | .permissionDenied path => s!"Permission denied: {path}"
  | .fileTooLarge _ size limit =>
      s!"File too large ({(mebibytes size).fixedText}MB). Maximum size is {(mebibytes limit).compactText}MB"
  | .parsing cause => cause.message
  | .validation errors _ => validationMessage errors
  | .configuration detail => detail
  | .output detail => detail

/-- The exit code of a run that ends with a failure. -/
def exitCode : Failure → Int
  | .general _ exitCode => exitCode
  | .input _ | .fileNotFound _ | .notAFile _ | .permissionDenied _ | .fileTooLarge _ _ _ => 2
  | .parsing _ => 3
  | .validation _ _ => 4
  | .configuration _ => 2
  | .output _ => 5

end Failure

/-! ## Stops -/

/-- A setting that was refused. -/
structure SettingIssue where
  place : String
  kind : String
  message : String
deriving DecidableEq

/-- A way in which a run ends without its result. -/
inductive Stop
  | failure (failure : Failure)
  | wrongType (message : String)
  | badValue (message : String)
  | badKey (message : String)
  | badIndex (message : String)
  | badAttribute (message : String)
  | overflow (message : String)
  | system (message : String)
  | settings (issues : List SettingIssue)

/-- Work that is logged and may end early. -/
abbrev Work := ExceptT Stop Logged

namespace Work

/-- End with a failure. -/
def fail {α : Type} (failure : Failure) : Work α :=
  throw (.failure failure)

/-- Write one entry. -/
def note (level : Log.Level) (source : Log.Source) (text : String) : Work Unit :=
  ExceptT.lift (Logged.note level source text)

/-- The result of the work and its log. -/
def outcome {α : Type} (work : Work α) : Except Stop α × List Log.Entry :=
  (work.run.value, work.run.log)

end Work

end AsyncTypes
