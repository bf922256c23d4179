import AsyncTypes.Model
import AsyncTypes.Pointer.Resolve
import AsyncTypes.Schema.Inlining

/-!
# Schemas and messages of a document

Schemas are converted with their references kept or with their targets put in.  A
message may be given by a chain of references; its name is the key of the last
component message of the chain, else of the last channel message, else the key
under which it is used.
-/

namespace AsyncTypes.Extraction

open Pointer (debug warn walk)

/-- What becomes of references in schemas. -/
inductive References
  | kept
  | inlined
deriving DecidableEq, Inhabited

/-! ## Schemas -/

/-- The node for a schema of a document, met along a trail. -/
def schemaAlong (document : Value) (references : References) (trail : Trail)
    (schema : Value) : Logged SchemaNode :=
  match references with
  | .kept => return .ofValue schema
  | .inlined => Inlining.convertFresh document trail schema .null

/-- A part of the components, empty when there are no components. -/
def component (document : Value) (name : String) : Value :=
  let components := document.field "components"
  let part := components.field name
  if components.isMap && part.isGiven then part else .map []

/-- One component schema; a reference to the schema itself is cut. -/
def componentSchema (document : Value) (references : References) (key : Scalar)
    (schema : Value) : Logged (String × SchemaNode) := do
  let own := Pointer.schemaRoot ++ key.shown
  let node ← schemaAlong document references [own] schema
  return (key.shown, node)

/-- The component schemas under their keys. -/
def schemas (document : Value) (references : References) :
    Logged (List (String × SchemaNode)) := do
  match (component document "schemas").entries? with
  | none =>
      warn "'components.schemas' is not a dict; skipping."
      return []
  | some entries =>
      let found ← Logged.collect
        (fun entry => do
          let schema ← componentSchema document references entry.1 entry.2
          return some schema)
        entries
      let schemas := SchemaNode.propertiesOf found
      debug s!"Parsed {schemas.length} component schemas."
      return schemas

/-! ## Messages -/

/-- The name of a message after one more pointer of its chain. -/
def nameAfter (name pointer : String) : String :=
  match Pointer.keyBelow? Pointer.messageRoot pointer with
  | some key => key
  | none =>
      if Text.startsWith Pointer.channelRoot pointer &&
          Text.occursIn "/messages/".toList pointer.toList then
        Pointer.lastKey pointer
      else name

/-- The name and the object at the end of a chain of message references; there is no
object when the chain runs in a circle or ends elsewhere.  `seen` holds the pointers
before the value. -/
def followMessageChain (document : Value) :
    Nat → List String → String → Value → Logged (String × Option Value)
  | budget, seen, name, value =>
      match value.reference? with
      | none => return (name, if value.isMap then some value else none)
      | some pointer => do
          if seen.contains pointer then
            warn s!"Circular message $ref detected: {pointer}"
            return (name, none)
          match budget with
          | 0 => return (name, none)
          | budget + 1 =>
              let target ← walk document pointer
              followMessageChain document budget (pointer :: seen) (nameAfter name pointer)
                (target.getD .null)

/-- The name and the object of a message. -/
def followMessage (document : Value) (name : String) (value : Value) :
    Logged (String × Option Value) :=
  followMessageChain document (Pointer.chainBudget document) [] name value

/-- A text that describes something, when a value is given. -/
def describe? (value : Value) : Option String :=
  if value.isGiven then some value.shown else none

/-- The schema of a payload: the payload itself, or the schema that it comes with when
it names its format. -/
def payloadSchema (object : Value) : Value :=
  let payload := object.field "payload"
  match payload.get? "schemaFormat", payload.get? "schema" with
  | some _, some schema => schema
  | _, _ => payload

/-- The node for the headers of a message; headers that are no mapping are ignored. -/
def headersOf (document : Value) (references : References) (name : String)
    (headers : Value) : Logged (Option SchemaNode) := do
  if headers.isMap then
    let node ← schemaAlong document references [] headers
    return some node
  if headers.isNull then
    return none
  warn s!"Message '{name}' has non-dict headers ({headers.kind}); ignoring."
  return none

/-- The message that an object describes. -/
def messageOf (document : Value) (references : References) (name : String)
    (object : Value) : Logged Message := do
  let schema := payloadSchema object
  let payload ←
    if schema.isNull then pure SchemaNode.empty
    else schemaAlong document references [] schema
  let headers ← headersOf document references name (object.field "headers")
  return {
    name := name
    description := describe? (object.field "description")
    payload := payload
    headers := headers }

/-- The component messages, each under its own key. -/
def messages (document : Value) (references : References) : Logged (List Message) := do
  match (component document "messages").entries? with
  | none =>
      warn "'components.messages' is not a dict; skipping."
      return []
  | some entries =>
      let messages ← Logged.collect
        (fun entry => do
          let (_, object) ← followMessage document entry.1.shown entry.2
          match object with
          | none =>
              warn s!"Message '{entry.1.shown}' could not be resolved; skipping."
              return none
          | some object =>
              let message ← messageOf document references entry.1.shown object
              return some message)
        entries
      debug s!"Parsed {messages.length} component messages."
      return messages

/-- The messages of a channel, named by the chains that lead to them. -/
def channelMessages (document : Value) (references : References) (channel : String)
    (object : Value) : Logged (List Message) := do
  let listed := object.field "messages"
  match (if listed.isGiven then listed else .map []).entries? with
  | none =>
      warn s!"Channel '{channel}' has non-dict 'messages' ({listed.kind}); ignoring."
      return []
  | some entries =>
      Logged.collect
        (fun entry => do
          let (name, object) ← followMessage document entry.1.shown entry.2
          match object with
          | none =>
              warn (s!"Channel '{channel}' message '{entry.1.shown}' " ++
                "could not be resolved; skipping.")
              return none
          | some object =>
              let message ← messageOf document references name object
              return some message)
        entries

end AsyncTypes.Extraction
