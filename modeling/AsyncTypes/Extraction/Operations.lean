import AsyncTypes.Extraction.Messages
import AsyncTypes.Unicode.Case

/-!
# Operations and channels of a document

An operation carries the messages that it lists, or all messages of its channel
when it lists none, and is attached to the channel that it points at.  Of two
channels with one name, the later one receives the operations.
-/

namespace AsyncTypes.Extraction

open Pointer (debug warn)

/-! ## Operations -/

/-- The name of the channel that an operation points at, empty when it points at none. -/
def operationChannel (value : Value) : String :=
  ((value.reference?).bind (Pointer.keyBelow? Pointer.channelRoot)).getD ""

/-- The word of an operation's action in lower case. -/
def actionWord (object : Value) : String :=
  let action := (object.get? "action").getD (.string "")
  String.ofList (Unicode.lowerText action.shown.toList)

/-- The messages in a list of an operation, from an index on. -/
def listedMessages (document : Value) (references : References) (operation : String) :
    Nat → List Value → Logged (List Message)
  | _, [] => return []
  | index, entry :: rest => do
      let (name, object) ← followMessage document s!"{operation}Message{index + 1}" entry
      match object with
      | none =>
          warn s!"Operation '{operation}' message #{index} could not be resolved; skipping."
          listedMessages document references operation (index + 1) rest
      | some object => do
          let message ← messageOf document references name object
          let others ← listedMessages document references operation (index + 1) rest
          return message :: others

/-- The messages that a channel of some name has: those of its last mention. -/
def messagesUnder (channels : List (String × List Message)) (name : String) : List Message :=
  ((channels.reverse.find? fun channel => channel.1 == name).map (·.2)).getD []

/-- One operation, if it is an object with a known action. -/
def operationOf (document : Value) (channels : List (String × List Message))
    (references : References) (name : String) (value : Value) :
    Logged (Option Operation) := do
  let object ← Pointer.dereference document value
  if !object.isMap then
    warn s!"Operation '{name}' resolved to non-dict; skipping."
    return none
  match Direction.ofWord? (actionWord object) with
  | none =>
      warn s!"Operation '{name}' has unrecognised action '{actionWord object}'; skipping."
      return none
  | some action =>
      let channel := operationChannel (object.field "channel")
      let messages ← match (object.field "messages").items? with
        | some listed => listedMessages document references name 0 listed
        | none => pure (messagesUnder channels channel)
      return some {
        name := name
        action := action
        channel := channel
        messages := messages
        description := describe? (object.field "description") }

/-- The operations of a document, given the messages of its channels. -/
def operations (document : Value) (channels : List (String × List Message))
    (references : References) : Logged (List Operation) := do
  let listed := document.field "operations"
  match (if listed.isGiven then listed else .map []).entries? with
  | none =>
      warn "'operations' is not a dict; skipping."
      return []
  | some entries =>
      let operations ← Logged.collect
        (fun entry => operationOf document channels references entry.1.shown entry.2) entries
      debug s!"Parsed {operations.length} operations."
      return operations

/-! ## Channels -/

/-- One channel without its operations. -/
def channelOf (document : Value) (references : References) (name : String) (value : Value) :
    Logged (Option Channel) := do
  let object ← Pointer.dereference document value
  if !object.isMap then
    warn s!"Channel '{name}' resolved to non-dict; skipping."
    return none
  let address := object.field "address"
  let messages ← channelMessages document references name object
  return some {
    name := name
    address := if address.isNull then none else some address.shown
    description := describe? (object.field "description")
    messages := messages
    send := []
    receive := [] }

/-- The channels with an operation attached to the last one of its name, if there is one. -/
def attachToLast (operation : Operation) : List Channel → Option (List Channel)
  | [] => none
  | channel :: rest =>
      match attachToLast operation rest with
      | some attached => some (channel :: attached)
      | none =>
          if channel.name = operation.channel then some (channel.attach operation :: rest)
          else none

/-- The channels with operations attached, and a warning for every operation without a
channel. -/
def attachAll (channels : List Channel) : List Operation → Logged (List Channel)
  | [] => return channels
  | operation :: rest =>
      match attachToLast operation channels with
      | some attached => attachAll attached rest
      | none => do
          warn (s!"Operation '{operation.name}' is bound to unknown channel " ++
            s!"'{operation.channel}'; ignoring.")
          attachAll channels rest

/-- The channels of a document with their operations. -/
def channels (document : Value) (references : References) : Logged (List Channel) := do
  let listed := document.field "channels"
  match (if listed.isGiven then listed else .map []).entries? with
  | none =>
      warn "'channels' is not a dict; skipping channel parsing."
      return []
  | some entries =>
      let found ← Logged.collect
        (fun entry => channelOf document references entry.1.shown entry.2) entries
      let operations ← operations document
        (found.map fun channel => (channel.name, channel.messages)) references
      let channels ← attachAll found operations
      debug s!"Parsed {channels.length} channels."
      return channels

end AsyncTypes.Extraction
