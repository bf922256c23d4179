import AsyncTypes.Proofs.Compilation.Growth

/-!
# The compilation as a plain recursion

The functions of a compilation call each other without any bound: a reference calls for
the component that it names, a node with several type names calls for a copy of itself
with one of them, and a composition beside properties calls for a copy without the
composition.  Here these functions are written as *routines*, in which a call is a
request and not yet its answer, so that nothing is assumed about their end.

A routine *halts* when all its calls do.  The calls that are made on the way are the
relation that has to be well-founded.
-/

namespace AsyncTypes.TypeScript

/-! ## Routines -/

/-- A call of one of the functions that a compilation is made of. -/
inductive Call
  | ensure (key : String)
  | resolve (pointer : String) (inRecord : Bool)
  | declare (name : String) (node : SchemaNode)
  | interface (name : String) (annotations : Annotations) (shape : Shape SchemaNode)
  | hoist (name : String) (node : SchemaNode)
  | expression (name : String) (inRecord : Bool) (node : SchemaNode)
  | composition (name : String) (inRecord : Bool) (annotations : Annotations)
      (composition : Composition SchemaNode) (shape : Shape SchemaNode)

/-- What a call answers: a type, or nothing when it only adds declarations. -/
def Call.Answer : Call → Type
  | .ensure _ | .declare _ _ | .interface _ _ _ => Unit
  | .resolve _ _ | .hoist _ _ | .expression _ _ _ | .composition _ _ _ _ _ => TypeExpr

/-- Steps of a compilation and calls, one after another. -/
inductive Routine (α : Type) : Type 1
  | done (value : α)
  | step {β : Type} (action : Compile β) (next : β → Routine α)
  | call (called : Call) (next : called.Answer → Routine α)

namespace Routine

variable {α β : Type}

/-- One routine after another. -/
def bind : Routine α → (α → Routine β) → Routine β
  | .done value, rest => rest value
  | .step action next, rest => .step action fun value => (next value).bind rest
  | .call called next, rest => .call called fun answer => (next answer).bind rest

instance : Monad Routine where
  pure := .done
  bind := bind

/-- A step of the compilation as a routine. -/
def take (action : Compile α) : Routine α :=
  .step action .done

/-- A call as a routine. -/
def ask (called : Call) : Routine called.Answer :=
  .call called .done

/-- The results for the items of a list, in order. -/
def each (visit : α → Routine β) : List α → Routine (List β)
  | [] => return []
  | item :: rest => do
      let result ← visit item
      let others ← each visit rest
      return result :: others

/-- A visit to each item of a list, in order. -/
def visitAll (visit : α → Routine Unit) : List α → Routine Unit
  | [] => return ()
  | item :: rest => do
      visit item
      visitAll visit rest

end Routine

open Routine

/-! ## The functions of a compilation -/

section

variable (task : Task)

/-- Declare a component schema, unless it is declared or active. -/
def ensureRoutine (key : String) : Routine Unit :=
  match task.schemaName? key, task.document.schema? key with
  | some name, some node => do
      let compilation ← take get
      if compilation.isDeclared name || compilation.active.contains key then return ()
      else
        take (Compile.enter key)
        ask (.declare name node)
        take (Compile.leave key)
  | _, _ => return ()

/-- How a reference is written. -/
def resolveRoutine (pointer : String) (inRecord : Bool) : Routine TypeExpr :=
  match schemaKey? pointer with
  | none => do
      take (Compile.notify (.unsupportedReference pointer))
      return .fallback
  | some key =>
      match task.schemaName? key with
      | none => do
          take (Compile.notify (.unresolvedReference pointer))
          return .fallback
      | some name => do
          let active := (← take get).active
          if active.contains key then
            if inRecord then return .named name
            else
              take (Compile.notify (.circularReference (active.headD "") key task.fallback))
              return .fallback
          else
            ask (.ensure key)
            return .named name

/-- Declare a node under a name that is reserved for it. -/
def declareRoutine (name : String) : SchemaNode → Routine Unit
  | .reference pointer => do
      let type ← ask (.resolve pointer false)
      take (Compile.declare (.alias name none type))
  | .schema annotations values composition shape =>
      if !values.isEmpty && task.declaresEnumeration values then
        take (Compile.declare
          (.enumerationOf name annotations.description (values.map Value.shown)))
      else if declaresAlias composition shape then do
        let type ← ask (.expression name false (.schema annotations values composition shape))
        take (Compile.declare (.alias name annotations.description type))
      else ask (.interface name annotations shape)

/-- The field for a property of an interface. -/
def fieldRoutine (own : String) (required : List String) (property : String × SchemaNode) :
    Routine Field := do
  let type ← ask (.expression (own ++ pascalCase property.1) true property.2)
  return ⟨property.1, !required.contains property.1, property.2.description, type⟩

/-- The type of the index signature of an interface. -/
def indexRoutine (own : String) : Additional SchemaNode → Routine (Option TypeExpr)
  | .absent => return none
  | .allowed flag => return if flag then some .fallback else none
  | .schema node => do
      let type ← ask (.expression (own ++ "Value") true node)
      return some type

/-- The fields and the index signature of a record. -/
def bodyRoutine (own : String) (shape : Shape SchemaNode) :
    Routine (List Field × Option TypeExpr) := do
  let fields ← each (fieldRoutine own shape.required) (shape.properties.getD [])
  let index ← indexRoutine own shape.additional
  return (fields, index)

/-- Declare an interface for a record. -/
def interfaceRoutine (name : String) (annotations : Annotations) (shape : Shape SchemaNode) :
    Routine Unit := do
  let (fields, index) ← bodyRoutine name shape
  take (Compile.declare (.interface name annotations.description fields index))

/-- Declare a node under a fresh name and answer the name. -/
def hoistRoutine (name : String) (node : SchemaNode) : Routine TypeExpr := do
  let own ← take (Compile.reserve name)
  ask (.declare own node)
  return .named own

/-- The type of the items of an array. -/
def itemRoutine (name : String) (inRecord : Bool) (shape : Shape SchemaNode) :
    Routine TypeExpr :=
  match shape.items with
  | some item => ask (.expression name inRecord item)
  | none => return .fallback

/-- The type of a node with one type name at most, without values and composition. -/
def typedRoutine (name : String) (inRecord : Bool) (annotations : Annotations)
    (composition : Composition SchemaNode) (shape : Shape SchemaNode) : Routine TypeExpr :=
  if shape.isArray then do
    let type ← itemRoutine (name ++ "Item") inRecord shape
    return .array type
  else if shape.isObject then ask (.hoist name (.schema annotations [] composition shape))
  else
    match shape.types with
    | .single typeName => return .ofTypeName typeName
    | _ => return .fallback

/-- The type of a node.  A node with several type names is replaced by its copies with one
type name each. -/
def expressionRoutine (name : String) (inRecord : Bool) : SchemaNode → Routine TypeExpr
  | .reference pointer => ask (.resolve pointer inRecord)
  | .schema annotations (value :: values) composition shape =>
      if task.declaresEnumeration (value :: values) then
        ask (.hoist name (.schema annotations (value :: values) composition shape))
      else return .ofValues task.fallback (value :: values)
  | .schema annotations [] composition shape =>
      if composition.isUsed then
        ask (.composition name inRecord annotations composition shape)
      else
        match shape.types with
        | .several names => do
            let types ← each (fun typeName => ask (.expression name inRecord
              (.schema annotations [] composition { shape with types := .single typeName }))) names
            return if types.isEmpty then .fallback else .unionOf task.fallback types
        | _ => typedRoutine name inRecord annotations composition shape

/-- The types of the branches of a composition keyword, numbered from `number` on. -/
def branchesRoutine (name : String) (inRecord : Bool) (number : Nat)
    (branches : List SchemaNode) : Routine (List TypeExpr) :=
  each (fun branch : SchemaNode × Nat =>
    ask (.expression (name ++ "Part" ++ toString branch.2) inRecord branch.1))
    (branches.zipIdx number)

/-- The groups of the composition keywords, and the number after that of their last
branch. -/
def groupsRoutine (name : String) (inRecord : Bool) (composition : Composition SchemaNode) :
    Routine (List TypeExpr × Nat) := do
  let all ← branchesRoutine name inRecord 1 (Composition.branches composition.allOf)
  let any ← branchesRoutine name inRecord (1 + all.length)
    (Composition.branches composition.anyOf)
  let one ← branchesRoutine name inRecord (1 + all.length + any.length)
    (Composition.branches composition.oneOf)
  return (groupOf (.intersectionOf task.fallback) all ++
      groupOf (.unionOf task.fallback) any ++ groupOf (.unionOf task.fallback) one,
    1 + all.length + any.length + one.length)

/-- The type of a composition.  Properties beside it are one more part: a copy of the node
without the composition and its description. -/
def compositionRoutine (name : String) (inRecord : Bool) (annotations : Annotations)
    (composition : Composition SchemaNode) (shape : Shape SchemaNode) : Routine TypeExpr := do
  let (groups, next) ← groupsRoutine task name inRecord composition
  if shape.properties.isSome then
    let rest : TypeExpr ← ask (.expression (name ++ "Part" ++ toString next) inRecord
      (.schema { annotations with description := none } [] ⟨none, none, none⟩ shape))
    return .intersectionOf task.fallback (groups ++ [rest])
  else return .intersectionOf task.fallback groups

/-- What is done for a call. -/
def routineOf : (called : Call) → Routine called.Answer
  | .ensure key => ensureRoutine task key
  | .resolve pointer inRecord => resolveRoutine task pointer inRecord
  | .declare name node => declareRoutine task name node
  | .interface name annotations shape => interfaceRoutine name annotations shape
  | .hoist name node => hoistRoutine name node
  | .expression name inRecord node => expressionRoutine task name inRecord node
  | .composition name inRecord annotations branches shape =>
      compositionRoutine task name inRecord annotations branches shape

/-! ## Whole documents -/

/-- Collect the declarations of a message. -/
def messageRoutine (message : Message) : Routine Unit := do
  if ((← take get).messageName? message.name).isSome then
    take (Compile.notify (.repeatedMessage message.name))
  else
    let base := declarationName message.name ""
    let payload ← take (Compile.reserve (base ++ "Payload"))
    let headers ← match message.headers with
      | some node => do
          let name ← take (Compile.reserve (base ++ "Headers"))
          pure (some (name, node))
      | none => pure none
    let name ← take (Compile.reserve (base ++ "Message"))
    take (Compile.nameMessage message.name name)
    ask (.declare payload message.payload)
    match headers with
    | some (headersName, node) => ask (.declare headersName node)
    | none => pure ()
    take (Compile.declare
      (Task.messageInterface name message.description payload (headers.map (·.1))))

/-- Collect the declarations of a whole document. -/
def Task.routine : Routine Unit := do
  visitAll (fun key => ask (.ensure key)) (task.document.schemas.map (·.1))
  visitAll messageRoutine task.document.messages
  visitAll messageRoutine (task.document.channels.flatMap Task.channelMessages)
  take (Task.declareAllUnions task.document.channels)

end

/-! ## Halting -/

/-- Taken from a state, a routine halts with a value in a state after it. -/
inductive Halts (task : Task) : {α : Type} → Routine α → Compilation → α → Compilation → Prop
  | done {α : Type} (value : α) (state : Compilation) :
      Halts task (.done value) state value state
  | step {α β : Type} {action : Compile β} {next : β → Routine α} {state after : Compilation}
      {value : α}
      (rest : Halts task (next (action.run state).1) (action.run state).2 value after) :
      Halts task (.step action next) state value after
  | call {α : Type} {called : Call} {next : called.Answer → Routine α}
      {state middle after : Compilation} {answer : called.Answer} {value : α}
      (answered : Halts task (routineOf task called) state answer middle)
      (rest : Halts task (next answer) middle value after) :
      Halts task (.call called next) state value after

/-- On its way from a state, a routine makes a call in a state. -/
inductive Makes (task : Task) : {α : Type} → Routine α → Compilation → Call → Compilation → Prop
  | step {α β : Type} {action : Compile β} {next : β → Routine α} {state place : Compilation}
      {made : Call}
      (later : Makes task (next (action.run state).1) (action.run state).2 made place) :
      Makes task (.step action next) state made place
  | here {α : Type} {called : Call} {next : called.Answer → Routine α} {state : Compilation} :
      Makes task (.call called next) state called state
  | later {α : Type} {called : Call} {next : called.Answer → Routine α}
      {state middle place : Compilation} {answer : called.Answer} {made : Call}
      (answered : Halts task (routineOf task called) state answer middle)
      (later : Makes task (next answer) middle made place) :
      Makes task (.call called next) state made place

/-- The first call is made by the second one, each in its own state. -/
def MadeBy (task : Task) (inner outer : Call × Compilation) : Prop :=
  Makes task (routineOf task outer.1) outer.2 inner.1 inner.2

section

variable {task : Task} {α β : Type} {state middle after : Compilation}

theorem Halts.bind {routine : Routine α} {next : α → Routine β} {value : α} {result : β}
    (first : Halts task routine state value middle)
    (rest : Halts task (next value) middle result after) :
    Halts task (routine >>= next) state result after := by
  change Halts task (routine.bind next) state result after
  induction first with
  | done value state => exact rest
  | step _ ih => exact .step (ih rest)
  | call answered _ _ ih => exact .call answered (ih rest)

/-- A routine halts in one way at most. -/
theorem Halts.unique {routine : Routine α} {value other : α} {last : Compilation}
    (first : Halts task routine state value after) (second : Halts task routine state other last) :
    value = other ∧ after = last := by
  induction first generalizing last with
  | done value state =>
      cases second
      exact ⟨rfl, rfl⟩
  | step _ ih =>
      cases second with
      | step rest => exact ih rest
  | call _ _ answers ih =>
      cases second with
      | call answered rest =>
          obtain ⟨rfl, rfl⟩ := answers answered
          exact ih rest

/-- Below the calls of a routine that halts there is no endless descent. -/
theorem Halts.acc_of_makes {routine : Routine α} {value : α} {made : Call} {place : Compilation}
    (halts : Halts task routine state value after)
    (makes : Makes task routine state made place) : Acc (MadeBy task) (made, place) := by
  induction halts generalizing made place with
  | done value state => cases makes
  | step _ ih =>
      cases makes with
      | step later => exact ih later
  | call answered _ below ih =>
      cases makes with
      | here => exact ⟨_, fun _ inner => below inner⟩
      | later again later =>
          obtain ⟨rfl, rfl⟩ := answered.unique again
          exact ih later

/-- When every call halts, the calls are well-founded. -/
theorem wellFounded_madeBy (halts : ∀ (called : Call) (state : Compilation),
    ∃ answer after, Halts task (routineOf task called) state answer after) :
    WellFounded (MadeBy task) := by
  constructor
  rintro ⟨called, state⟩
  obtain ⟨answer, after, ends⟩ := halts called state
  exact ⟨_, fun inner makes => ends.acc_of_makes makes⟩

end

end AsyncTypes.TypeScript
