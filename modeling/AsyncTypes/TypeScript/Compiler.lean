import AsyncTypes.Log
import AsyncTypes.Model
import AsyncTypes.Pointer.Basic
import AsyncTypes.TypeScript.Declaration
import AsyncTypes.Value.Text

/-!
# Declaring the schemas of a document

A compilation visits schema nodes and collects declarations.  Records and string
enumerations inside other types are *hoisted*: they become declarations of their own
under a fresh name.  A declaration is collected when its body is complete, so a
referenced schema comes before the declaration that refers to it.

While the body of a component schema is being compiled, its key is *active*.  A
reference to an active schema is written by name inside an interface; anywhere else
the name could close a circle of aliases, and the fallback is written.

Reaching a component schema adds its key to the active ones until its body is complete.
So a budget of one more than the number of component schemas never runs out.
-/

namespace AsyncTypes.TypeScript

/-! ## What a compilation keeps -/

/-- What a compilation has to say about its document.  A circular reference has a place,
the component schema in whose declaration it stands. -/
inductive Notice
  | unsupportedReference (pointer : String)
  | unresolvedReference (pointer : String)
  | circularReference (place key fallback : String)
  | repeatedMessage (name : String)
deriving DecidableEq

namespace Notice

/-- The warning that a notice gives to the reader of the output. -/
def warning? : Notice → Option String
  | .unsupportedReference pointer => some s!"Unsupported reference: {pointer}"
  | .unresolvedReference pointer => some s!"Unresolved reference: {pointer}"
  | .circularReference _ key fallback =>
      some s!"Circular reference to '{key}' outside an interface; using '{fallback}'"
  | .repeatedMessage _ => none

/-- The log entry of a notice. -/
def entry : Notice → Log.Entry
  | .repeatedMessage name =>
      ⟨.debug, .generation, s!"Message '{name}' already emitted; skipping."⟩
  | notice => ⟨.warning, .generation, notice.warning?.getD ""⟩

end Notice

/-- The state of a compilation: its declarations in order, those that came too late
because their name was declared, the names that are taken, the keys of the active
component schemas, the innermost first, the interface names of the messages met so far,
and the notices in order. -/
structure Compilation where
  declarations : List Declaration
  refused : List Declaration
  used : List String
  active : List String
  messageNames : List (String × String)
  notices : List Notice
deriving Inhabited

namespace Compilation

/-- The warnings of a compilation. -/
def warnings (compilation : Compilation) : List String :=
  compilation.notices.filterMap Notice.warning?

/-- The declared names in order. -/
def names (compilation : Compilation) : List String :=
  compilation.declarations.map (·.name)

/-- A name is declared already. -/
def isDeclared (compilation : Compilation) (name : String) : Bool :=
  compilation.declarations.any fun declaration => declaration.name == name

/-- The interface name of a message. -/
def messageName? (compilation : Compilation) (message : String) : Option String :=
  (compilation.messageNames.find? fun entry => entry.1 == message).map (·.2)

end Compilation

/-- What a compilation works from: the document, the options and the declaration names
of the component schemas. -/
structure Task where
  document : Document
  options : Options
  schemaNames : List (String × String)
deriving Inhabited

/-- Names for some keys, in order, none of them taken before. -/
def nameKeys : List String → List String → List (String × String) × List String
  | used, [] => ([], used)
  | used, key :: rest =>
      let name := freeName used (declarationName key "")
      let (others, after) := nameKeys (used ++ [name]) rest
      ((key, name) :: others, after)

namespace Task

/-- The component schemas are named before anything is compiled, so that no hoisted
name takes the name of a component. -/
def ofDocument (document : Document) (options : Options) : Task :=
  ⟨document, options, (nameKeys [] (document.schemas.map (·.1))).1⟩

/-- The declaration name of a component schema. -/
def schemaName? (task : Task) (key : String) : Option String :=
  (task.schemaNames.find? fun entry => entry.1 == key).map (·.2)

/-- The word for a type that a schema leaves open. -/
def fallback (task : Task) : String :=
  task.options.fallback

/-- The compilation before anything is compiled. -/
def start (task : Task) : Compilation :=
  ⟨[], [], task.schemaNames.map (·.2), [], [], []⟩

/-- The allowed values are declared as an enumeration. -/
def declaresEnumeration (task : Task) (values : List Value) : Bool :=
  task.options.enumStyle == .enumeration && values.all fun value => value.text?.isSome

end Task

/-- A step of a compilation. -/
abbrev Compile := StateM Compilation

namespace Compile

/-- Take a free name. -/
def reserve (wanted : String) : Compile String := do
  let compilation ← get
  let name := freeName compilation.used wanted
  set { compilation with used := compilation.used ++ [name] }
  return name

/-- Collect a declaration, unless its name is declared. -/
def declare (declaration : Declaration) : Compile Unit :=
  modify fun compilation =>
    if compilation.isDeclared declaration.name then
      { compilation with refused := compilation.refused ++ [declaration] }
    else { compilation with declarations := compilation.declarations ++ [declaration] }

/-- Give notice. -/
def notify (notice : Notice) : Compile Unit :=
  modify fun compilation => { compilation with notices := compilation.notices ++ [notice] }

/-- Keep the interface name of a message. -/
def nameMessage (message name : String) : Compile Unit :=
  modify fun compilation =>
    { compilation with messageNames := compilation.messageNames ++ [(message, name)] }

/-- The body of a component schema begins. -/
def enter (key : String) : Compile Unit :=
  modify fun compilation => { compilation with active := key :: compilation.active }

/-- The body of a component schema is complete. -/
def leave (key : String) : Compile Unit :=
  modify fun compilation => { compilation with active := compilation.active.erase key }

/-- Take a step while exactly the given component schemas are active. -/
def amid {α : Type} (active : List String) (step : Compile α) : Compile α := do
  modify fun compilation => { compilation with active := active }
  step

end Compile

open Compile

/-- How a reference is written: by its pointer, inside an interface or not. -/
abbrev Resolver := String → Bool → Compile TypeExpr

/-! ## Expressions -/

/-- A declaration of its own for an enumeration of texts. -/
def hoistEnumeration (name : String) (description : Option String) (values : List Value) :
    Compile TypeExpr := do
  let own ← reserve name
  declare (.enumerationOf own description (values.map Value.shown))
  return .named own

/-- A declaration of its own for a record, given the compilation of its body under the
name that it gets. -/
def hoistInterface (name : String) (description : Option String)
    (body : String → Compile (List Field × Option TypeExpr)) : Compile TypeExpr := do
  let own ← reserve name
  let (fields, index) ← body own
  declare (.interface own description fields index)
  return .named own

/-- The types that some type names give, one after another. -/
def eachType (compile : TypeNames → Compile TypeExpr) : List String → Compile (List TypeExpr)
  | [] => return []
  | name :: rest => do
      let type ← compile (.single name)
      let others ← eachType compile rest
      return type :: others

/-- The type of a shape under one type name, given the compilations of its items and of
its record. -/
def typedExpression (shape : Shape SchemaNode) (item record : Compile TypeExpr)
    (types : TypeNames) : Compile TypeExpr :=
  let shown := { shape with types := types }
  if shown.isArray then do
    let type ← item
    return .array type
  else if shown.isObject then record
  else
    match types with
    | .single typeName => return .ofTypeName typeName
    | _ => return .fallback

/-- The type of a shape: under several type names, the union of what each of them gives. -/
def plainExpression (task : Task) (shape : Shape SchemaNode) (item record : Compile TypeExpr) :
    Compile TypeExpr :=
  match shape.types with
  | .several names => do
      let types ← eachType (typedExpression shape item record) names
      return if types.isEmpty then .fallback else .unionOf task.fallback types
  | types => typedExpression shape item record types

/-- The group of a keyword's branches, when it has any. -/
def groupOf (join : List TypeExpr → TypeExpr) (branches : List TypeExpr) : List TypeExpr :=
  if branches.isEmpty then [] else [join branches]

section

variable (task : Task) (resolve : Resolver)

mutual

/-- The type of a node; `name` is what its hoisted parts are called after. -/
def expression (name : String) (inRecord : Bool) : SchemaNode → Compile TypeExpr
  | .reference pointer => resolve pointer inRecord
  | .schema annotations values composition shape =>
      let plain (name : String) (description : Option String) : Compile TypeExpr :=
        plainExpression task shape (itemExpression (name ++ "Item") inRecord shape)
          (hoistInterface name description fun own => interfaceBody own shape)
      if !values.isEmpty then
        if task.declaresEnumeration values then
          hoistEnumeration name annotations.description values
        else return .ofValues task.fallback values
      else if composition.isUsed then do
        let (groups, next) ← compositionGroups name inRecord composition
        if shape.properties.isSome then
          let rest ← plain (name ++ "Part" ++ toString next) none
          return .intersectionOf task.fallback (groups ++ [rest])
        else return .intersectionOf task.fallback groups
      else plain name annotations.description
termination_by structural x => x

/-- The type of the items of an array. -/
def itemExpression (name : String) (inRecord : Bool) : Shape SchemaNode → Compile TypeExpr
  | ⟨_, _, _, some node, _⟩ => expression name inRecord node
  | ⟨_, _, _, none, _⟩ => return .fallback
termination_by structural x => x

/-- The fields and the index signature of a record that is declared as `own`. -/
def interfaceBody (own : String) : Shape SchemaNode →
    Compile (List Field × Option TypeExpr)
  | ⟨_, properties, required, _, additional⟩ => do
      let fields ← listedFields own required properties
      let index ← indexType own additional
      return (fields, index)
termination_by structural x => x

/-- The fields for the properties that are listed, if any are. -/
def listedFields (own : String) (required : List String) :
    Option (List (String × SchemaNode)) → Compile (List Field)
  | some properties => interfaceFields own required properties
  | none => return []
termination_by structural x => x

/-- The type of the index signature, if there is one. -/
def indexType (own : String) : Additional SchemaNode → Compile (Option TypeExpr)
  | .absent => return none
  | .allowed flag => return if flag then some .fallback else none
  | .schema node => do
      let type ← expression (own ++ "Value") true node
      return some type
termination_by structural x => x

/-- The fields for some properties. -/
def interfaceFields (own : String) (required : List String) :
    List (String × SchemaNode) → Compile (List Field)
  | [] => return []
  | (key, node) :: rest => do
      let type ← expression (own ++ pascalCase key) true node
      let others ← interfaceFields own required rest
      return ⟨key, !required.contains key, node.description, type⟩ :: others
termination_by structural x => x

/-- The groups of the composition keywords, and the number after that of their last
branch. -/
def compositionGroups (name : String) (inRecord : Bool) :
    Composition SchemaNode → Compile (List TypeExpr × Nat)
  | ⟨allOf, anyOf, oneOf⟩ => do
      let all ← keywordExpressions name inRecord 1 allOf
      let any ← keywordExpressions name inRecord (1 + all.length) anyOf
      let one ← keywordExpressions name inRecord (1 + all.length + any.length) oneOf
      return (groupOf (.intersectionOf task.fallback) all ++
          groupOf (.unionOf task.fallback) any ++ groupOf (.unionOf task.fallback) one,
        1 + all.length + any.length + one.length)
termination_by structural x => x

/-- The types of the branches of a keyword, if it is given. -/
def keywordExpressions (name : String) (inRecord : Bool) (number : Nat) :
    Option (List SchemaNode) → Compile (List TypeExpr)
  | some branches => branchExpressions name inRecord number branches
  | none => return []
termination_by structural x => x

/-- The types of some branches, numbered from `number` on. -/
def branchExpressions (name : String) (inRecord : Bool) (number : Nat) :
    List SchemaNode → Compile (List TypeExpr)
  | [] => return []
  | node :: rest => do
      let type ← expression (name ++ "Part" ++ toString number) inRecord node
      let others ← branchExpressions name inRecord (number + 1) rest
      return type :: others
termination_by structural x => x

end

/-! ## Declarations -/

/-- The shape is declared as an alias: it is no record, or not a record alone. -/
def declaresAlias (composition : Composition SchemaNode) (shape : Shape SchemaNode) : Bool :=
  composition.isUsed || (match shape.types with | .several _ => true | _ => false) ||
    shape.isArray || !shape.isObject

/-- The declaration of a node under a name that is reserved for it. -/
def declarationOf (name : String) : SchemaNode → Compile Declaration
  | .reference pointer => do
      let type ← resolve pointer false
      return .alias name none type
  | .schema annotations values composition shape =>
      if !values.isEmpty && task.declaresEnumeration values then
        return .enumerationOf name annotations.description (values.map Value.shown)
      else if declaresAlias composition shape then do
        let type ← expression task resolve name false
          (.schema annotations values composition shape)
        return .alias name annotations.description type
      else do
        let (fields, index) ← interfaceBody task resolve name shape
        return .interface name annotations.description fields index

/-- Declare a node under a name that is reserved for it. -/
def declareNode (name : String) (node : SchemaNode) : Compile Unit := do
  let declaration ← declarationOf task resolve name node
  declare declaration

end

/-! ## Component schemas -/

/-- The key of the component schema that a pointer names. -/
def schemaKey? (pointer : String) : Option String :=
  (Text.after? Pointer.schemaRoot.toList pointer.toList).map Pointer.stepKey

/-- How a reference is written: by the declaration name of its target, which is declared
first unless it is active. -/
def resolveReference (task : Task) (ensure : String → Compile Unit) : Resolver :=
  fun pointer inRecord =>
    match schemaKey? pointer with
    | none => do
        notify (.unsupportedReference pointer)
        return .fallback
    | some key =>
        match task.schemaName? key with
        | none => do
            notify (.unresolvedReference pointer)
            return .fallback
        | some name => do
            let active := (← get).active
            if active.contains key then
              if inRecord then return .named name
              else
                notify (.circularReference (active.headD "") key task.fallback)
                return .fallback
            else
              ensure key
              return .named name

/-- Declare a component schema, unless it is declared or active. -/
def ensureWithin (task : Task) : Nat → String → Compile Unit
  | 0, _ => return ()
  | budget + 1, key => do
      match task.schemaName? key, task.document.schema? key with
      | some name, some node =>
          let compilation ← get
          if compilation.isDeclared name || compilation.active.contains key then return ()
          else
            enter key
            declareNode task (resolveReference task (ensureWithin task budget)) name node
            leave key
      | _, _ => return ()

namespace Task

/-- One more than the number of component schemas. -/
def budget (task : Task) : Nat :=
  task.document.schemas.length + 1

/-- Declare a component schema. -/
def ensureSchema (task : Task) (key : String) : Compile Unit :=
  ensureWithin task task.budget key

/-- How a reference is written. -/
def reference (task : Task) : Resolver :=
  resolveReference task task.ensureSchema

/-! ## Messages and channels -/

/-- The interface of a message, with a field for its payload and one for its headers. -/
def messageInterface (name : String) (description : Option String) (payload : String)
    (headers : Option String) : Declaration :=
  let headersField := headers.map fun name => (⟨"headers", true, none, .named name⟩ : Field)
  .interface name description (⟨"payload", false, none, .named payload⟩ :: headersField.toList)
    none

/-- Declare the payload and the headers of a message and then its interface, under names
that are reserved for them. -/
def declareParts (task : Task) (message : Message) (payload : String)
    (headers : Option (String × SchemaNode)) (name : String) : Compile Unit := do
  declareNode task task.reference payload message.payload
  match headers with
  | some (headersName, node) => declareNode task task.reference headersName node
  | none => pure ()
  declare (messageInterface name message.description payload (headers.map (·.1)))

/-- Collect the declarations of a message: its payload, its headers and its interface.
Of the messages of one name only the first is declared. -/
def collectMessage (task : Task) (message : Message) : Compile Unit := do
  if ((← get).messageName? message.name).isSome then
    notify (.repeatedMessage message.name)
  else
    let base := declarationName message.name ""
    let payload ← reserve (base ++ "Payload")
    let headers ← match message.headers with
      | some node => do
          let name ← reserve (base ++ "Headers")
          pure (some (name, node))
      | none => pure none
    let name ← reserve (base ++ "Message")
    nameMessage message.name name
    task.declareParts message payload headers name

/-- Collect the declarations of some messages in order. -/
def collectMessages (task : Task) : List Message → Compile Unit
  | [] => return ()
  | message :: rest => do
      task.collectMessage message
      collectMessages task rest

/-- The messages of a channel and of its operations, in the order in which they are
declared. -/
def channelMessages (channel : Channel) : List Message :=
  channel.messages ++ (channel.send ++ channel.receive).flatMap (·.messages)

/-- The ending of the name of a channel's union. -/
def unionEnding : Direction → String
  | .send => "SendMessages"
  | .receive => "ReceiveMessages"

/-- The distinct interface names of the messages of some operations. -/
def unionMembers (compilation : Compilation) (operations : List Operation) : List String :=
  distinct id ((operations.flatMap (·.messages)).filterMap fun message =>
    compilation.messageName? message.name)

/-- Declare the union of the messages that a channel moves in one direction, if it moves
any. -/
def declareUnion (channel : Channel) (direction : Direction) : Compile Unit := do
  let members := unionMembers (← get) (channel.operations direction)
  if members.isEmpty then return ()
  else
    let name ← reserve (declarationName channel.name (unionEnding direction))
    declare (.alias name none (TypeExpr.joined .union (members.map .named)))

/-- Declare the unions of a channel. -/
def declareUnions (channel : Channel) : Compile Unit := do
  declareUnion channel .send
  declareUnion channel .receive

/-! ## Whole documents -/

/-- Declare some component schemas in order. -/
def ensureAll (task : Task) : List String → Compile Unit
  | [] => return ()
  | key :: rest => do
      task.ensureSchema key
      ensureAll task rest

/-- Declare the unions of some channels in order. -/
def declareAllUnions : List Channel → Compile Unit
  | [] => return ()
  | channel :: rest => do
      declareUnions channel
      declareAllUnions rest

/-- Collect the declarations of a whole document: its component schemas, its messages,
and the unions of its channels. -/
def collect (task : Task) : Compile Unit := do
  task.ensureAll (task.document.schemas.map (·.1))
  task.collectMessages task.document.messages
  task.collectMessages (task.document.channels.flatMap channelMessages)
  declareAllUnions task.document.channels

/-! ## Steps amid active schemas -/

/-- Declare a component schema while some schemas are active. -/
def ensure (task : Task) (active : List String) (key : String) : Compile Unit :=
  amid active (task.ensureSchema key)

/-- How a reference is written while some schemas are active. -/
def resolver (task : Task) (active : List String) : Resolver :=
  fun pointer inRecord => amid active (task.reference pointer inRecord)

/-- Collect the declarations of a message while some schemas are active. -/
def declareMessage (task : Task) (active : List String) (message : Message) : Compile Unit :=
  amid active (task.collectMessage message)

/-- Collect the declarations of a whole document while some schemas are active. -/
def compileAll (task : Task) (active : List String) : Compile Unit :=
  amid active task.collect

end Task

end AsyncTypes.TypeScript
