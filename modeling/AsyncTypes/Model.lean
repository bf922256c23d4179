import AsyncTypes.Schema.Node

/-!
# The document model

What is left of an AsyncAPI document once it has been read: its identity, its
component schemas and messages, and its channels with their messages and
operations.
-/

namespace AsyncTypes

/-- A message of a channel or of the components. -/
structure Message where
  name : String
  description : Option String
  payload : SchemaNode
  headers : Option SchemaNode
deriving Inhabited

/-- Which way an operation moves messages. -/
inductive Direction
  | send
  | receive
deriving DecidableEq, Inhabited

/-- The word for a direction. -/
def Direction.word : Direction → String
  | .send => "send"
  | .receive => "receive"

/-- The direction that a word names. -/
def Direction.ofWord? (word : String) : Option Direction :=
  [.send, .receive].find? fun direction => direction.word == word

/-- An operation bound to a channel. -/
structure Operation where
  name : String
  action : Direction
  channel : String
  messages : List Message
  description : Option String
deriving Inhabited

/-- A channel with its own messages and the operations bound to it. -/
structure Channel where
  name : String
  address : Option String
  description : Option String
  messages : List Message
  send : List Operation
  receive : List Operation
deriving Inhabited

namespace Channel

/-- The operations of one direction. -/
def operations (channel : Channel) : Direction → List Operation
  | .send => channel.send
  | .receive => channel.receive

/-- A channel with one more operation, in the direction that the operation has. -/
def attach (channel : Channel) (operation : Operation) : Channel :=
  match operation.action with
  | .send => { channel with send := channel.send ++ [operation] }
  | .receive => { channel with receive := channel.receive ++ [operation] }

end Channel

/-- A document as the generation of declarations sees it. -/
structure Document where
  title : String
  version : String
  description : Option String
  asyncapiVersion : String
  channels : List Channel
  messages : List Message
  schemas : List (String × SchemaNode)
  warnings : List String
deriving Inhabited

namespace Document

/-- The component schema under a key. -/
def schema? (document : Document) (key : String) : Option SchemaNode :=
  (document.schemas.find? fun entry => entry.1 == key).map (·.2)

/-- The distinct names of the messages of the components and of the channels. -/
def messageNames (document : Document) : List String :=
  let names := document.messages.map (·.name) ++
    document.channels.flatMap fun channel => channel.messages.map (·.name)
  names.eraseDups

end Document

end AsyncTypes
