import AsyncTypes.Extraction.Operations
import AsyncTypes.Failure
import AsyncTypes.Validation.Check

/-!
# From a decoded document to its model

A document is validated first.  Only a valid one is read: its identity, its component
schemas and messages, and its channels with their operations.
-/

namespace AsyncTypes.Extraction

/-- Title, version and description of a document. -/
structure Identity where
  title : String
  version : String
  description : Option String
deriving DecidableEq, Inhabited

/-- The identity that a document gives itself. -/
def identity (document : Value) : Except ParsingCause Identity :=
  let info := document.field "info"
  if !info.isMap then .error .missingInfo
  else
    let title := info.field "title"
    let version := info.field "version"
    if title.isGiven && version.isGiven then
      .ok ⟨title.shown, version.shown, describe? (info.field "description")⟩
    else .error .missingIdentity

/-- The log entries of a validation. -/
def validationEntries (verdict : Validation.Verdict) : List Log.Entry :=
  verdict.warnings.map (fun warning => ⟨.warning, .extraction, s!"AsyncAPI warning: {warning}"⟩) ++
    verdict.errors.map fun error => ⟨.error, .extraction, s!"AsyncAPI error: {error}"⟩

/-- The parts of a valid document. -/
def read (document : Value) (references : References) (identity : Identity)
    (warnings : List String) : Logged Document := do
  let edition := (document.field "asyncapi").shown
  Logged.note .info .extraction
    s!"Parsing AsyncAPI {edition} spec: '{identity.title}' v{identity.version}"
  let schemas ← schemas document references
  let messages ← messages document references
  let channels ← channels document references
  Logged.note .info .extraction
    s!"Parsed spec '{identity.title}' v{identity.version}: {channels.length} channels, {messages.length} messages, {schemas.length} schemas."
  return {
    title := identity.title
    version := identity.version
    description := identity.description
    asyncapiVersion := edition
    channels := channels
    messages := messages
    schemas := schemas
    warnings := warnings }

/-- The model of a document. -/
def extract (document : Value) (references : References) : Work Document := do
  if !document.isMap then
    throw (.wrongType s!"Expected a dict for the AsyncAPI spec, got {document.kind}.")
  let verdict := Validation.validate document
  match verdict.escape with
  | some message => throw (.overflow message)
  | none => pure ()
  ExceptT.lift (⟨(), validationEntries verdict⟩ : Logged Unit)
  if !verdict.isValid then
    Work.fail (.validation verdict.errors verdict.warnings)
  match identity document with
  | .error cause => Work.fail (.parsing cause)
  | .ok identity => ExceptT.lift (read document references identity verdict.warnings)

end AsyncTypes.Extraction
