import AsyncTypes.Number.Refusal
import AsyncTypes.Pointer.Walk
import AsyncTypes.Validation.Order
import AsyncTypes.Validation.SchemaRules
import AsyncTypes.Validation.Skeleton
import AsyncTypes.Value.Worklist

/-!
# Validating a document

A document is checked in steps, each of which adds errors and warnings.  A document
that is no mapping, has no version or nests too deep is not checked any further.
References that lead nowhere only give warnings.

A step can break down at a value that it cannot work with.  The breakdown is
reported as an error and ends the validation; the errors and warnings found before
stay.
-/

namespace AsyncTypes.Validation

/-! ## Checks -/

/-- What a step of the validation found. -/
structure Check where
  errors : List String
  warnings : List String
  breakdown : Option Breakdown
deriving DecidableEq

namespace Check

/-- Nothing was found. -/
def clean : Check :=
  ⟨[], [], none⟩

/-- One error. -/
def error (message : String) : Check :=
  ⟨[message], [], none⟩

/-- One warning. -/
def warning (message : String) : Check :=
  ⟨[], [message], none⟩

/-- The check broke down. -/
def broken (breakdown : Breakdown) : Check :=
  ⟨[], [], some breakdown⟩

/-- One check after another, unless the first one broke down. -/
def andThen (first second : Check) : Check :=
  match first.breakdown with
  | some _ => first
  | none => ⟨first.errors ++ second.errors, first.warnings ++ second.warnings, second.breakdown⟩

/-- Some checks, one after another. -/
def all (checks : List Check) : Check :=
  checks.foldr andThen clean

end Check

/-! ## The steps -/

/-- Mappings and lists may nest this deep. -/
def maxDepth : Nat := 64

/-- The version has to belong to the third edition. -/
def checkVersion (version : Value) : Check :=
  if Text.startsWith "3." version.shown then .clean
  else .error s!"Unsupported AsyncAPI version: {version.quoted} (expected 3.x)"

/-- The keys and indices of a path, joined by points. -/
def pathText (path : List Scalar) : String :=
  if path.isEmpty then "(root)" else String.intercalate "." (path.map Scalar.shown)

/-- The document has the skeleton of an AsyncAPI document. -/
def checkSkeleton (document : Value) : Check :=
  match sortFindings (Skeleton.findings document) with
  | .ok findings =>
      ⟨findings.map fun finding => s!"{pathText finding.path}: {finding.message}", [], none⟩
  | .error message => .broken (.refused message)

/-- The document declares channels. -/
def checkChannels (document : Value) : Check :=
  if (document.field "channels").isNull then .warning "Document declares no 'channels'"
  else .clean

/-- The refusal of an index that cannot be read. -/
def indexMessage : Pointer.IndexFault → String
  | .notDecimal key => Number.integerRefusal 10 key
  | .tooLong digits => Json.tooLongMessage digits

/-- A warning, unless a pointer leads somewhere. -/
def checkPointer (document : Value) (pointer : String) (message : String) : Check :=
  match Pointer.lookup document pointer with
  | .ok (some _) => .clean
  | .ok none => .warning message
  | .error fault => .broken (.refused (indexMessage fault))

/-- The name of a kind of value that nothing can be taken from one after another. -/
def singleKind? : Value → Option String
  | .scalar (.int _) => some "int"
  | .scalar (.float _) => some "float"
  | .scalar (.bool _) => some "bool"
  | .scalar (.date _) => some "datetime.date"
  | .scalar (.dateTime _) => some "datetime.datetime"
  | _ => none

/-- The values that may be references among the messages of an operation. -/
def messageEntries : Value → List Value
  | .list items => items
  | .pair first second => [first, second]
  | _ => []

/-- The messages of an operation lead somewhere. -/
def checkMessages (document : Value) (operation : String) (messages : Value) : Check :=
  if !messages.isGiven then .clean
  else
    match singleKind? messages with
    | some kind => .broken (.refused s!"'{kind}' object is not iterable")
    | none =>
        .all ((messageEntries messages).map fun entry =>
          match entry.reference? with
          | some pointer =>
              checkPointer document pointer
                s!"Operation '{operation}' references undefined message: {pointer}"
          | none => .clean)

/-- The channel that a pointer names, in the words of a warning. -/
def channelText (pointer : String) : String :=
  (Text.afterBeginning? Pointer.channelRoot pointer).getD pointer

/-- An operation names a channel, and its channel and messages lead somewhere. -/
def checkOperation (document : Value) (name : Scalar) (operation : Value) : Check :=
  if !operation.isMap then .clean
  else
    let channel := operation.field "channel"
    if channel.isNull then .error s!"Operation '{name.shown}' missing required field: channel"
    else
      let channelCheck := match channel.reference? with
        | some pointer =>
            checkPointer document pointer
              s!"Operation '{name.shown}' references undefined channel: {channelText pointer}"
        | none => .clean
      channelCheck.andThen (checkMessages document name.shown (operation.field "messages"))

/-- The operations of a document. -/
def checkOperations (document : Value) : Check :=
  .all (((document.field "operations").entries?.getD []).map fun entry =>
    checkOperation document entry.1 entry.2)

/-- A component schema is a schema. -/
def checkSchema (name : Scalar) (schema : Value) : Check :=
  if !Kind.holds .object schema && !Kind.holds .boolean schema then
    .error s!"Component schema '{name.shown}' is not an object"
  else
    match SchemaRules.firstFinding? schema with
    | none => .clean
    | some finding =>
        match finding.breakdown with
        | some breakdown => .broken breakdown
        | none =>
            .error s!"Invalid JSON Schema in components.schemas.{name.shown}: {finding.message}"

/-- The component schemas of a document. -/
def checkSchemas (document : Value) : Check :=
  .all ((((document.field "components").field "schemas").entries?.getD []).map fun entry =>
    checkSchema entry.1 entry.2)

/-- The references to component schemas lead somewhere. -/
def checkReferences (document : Value) : Check :=
  .all (document.references.map fun pointer =>
    if Text.startsWith Pointer.schemaRoot pointer then
      checkPointer document pointer s!"Unresolved schema reference: {pointer}"
    else .clean)

/-- The steps for a document that does not nest too deep. -/
def checkContent (document : Value) : Check :=
  .all [checkSkeleton document, checkChannels document, checkOperations document,
    checkSchemas document, checkReferences document]

/-! ## The validation -/

/-- What the validation of a document found.  A number beyond its range escapes the
validation. -/
structure Verdict where
  errors : List String
  warnings : List String
  escape : Option String
deriving DecidableEq

namespace Verdict

/-- No error was found. -/
def isValid (verdict : Verdict) : Bool :=
  verdict.errors.isEmpty

/-- What a check means for the validation. -/
def ofCheck (check : Check) : Verdict :=
  match check.breakdown with
  | none => ⟨check.errors, check.warnings, none⟩
  | some (.refused message) =>
      ⟨check.errors ++ [s!"Unexpected validation error: {message}"], check.warnings, none⟩
  | some (.overflow message) => ⟨check.errors, check.warnings, some message⟩

end Verdict

/-- The check of a whole document. -/
def checkDocument (document : Value) : Check :=
  if !document.isMap then .error "Spec must be a dict"
  else
    let version := document.field "asyncapi"
    if version.isNull then .error "Missing required key: 'asyncapi'"
    else
      (checkVersion version).andThen <|
        if document.exceedsDepth maxDepth then
          .error s!"Document nesting too deep: more than {maxDepth} levels"
        else checkContent document

/-- The validation of a document. -/
def validate (document : Value) : Verdict :=
  .ofCheck (checkDocument document)

end AsyncTypes.Validation
