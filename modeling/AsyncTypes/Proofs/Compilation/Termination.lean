import Mathlib.Data.Finset.Card
import AsyncTypes.Proofs.Compilation.Outline
import AsyncTypes.Proofs.Compilation.Recursion

/-!
# Every compilation comes to an end

Each function of the compilation does what its routine does, and its routine halts.  Inside
a node the parts become smaller, and the copies of a node that its routine goes on with are
done with before any part: a copy has one type name, or no composition.  A reference leaves
the node, but every component that is entered on the way is active from then on, and there
are only so many components.
-/

namespace AsyncTypes.TypeScript

open Compilation Routine

variable {task : Task} {active : List String} {α β : Type}

/-! ## Routines that are performed by a step -/

/-- While the given components are active, the routine halts with what the step gives, and
the step leaves the same components active. -/
structure Performs (task : Task) (active : List String) (routine : Routine α)
    (action : Compile α) : Prop where
  steady : Leads SteadyTo action
  halts : ∀ state : Compilation, state.active = active →
    Halts task routine state (action.run state).1 (action.run state).2

namespace Performs

theorem pure (value : α) : Performs task active (Pure.pure value) (Pure.pure value) :=
  ⟨Leads.pure value, fun state _ => .done value state⟩

theorem take {action : Compile α} (steady : Leads SteadyTo action) :
    Performs task active (take action) action :=
  ⟨steady, fun _ _ => .step (.done _ _)⟩

theorem bind {routine : Routine α} {action : Compile α} {next : α → Routine β}
    {rest : α → Compile β} (first : Performs task active routine action)
    (then_ : ∀ value, Performs task active (next value) (rest value)) :
    Performs task active (routine >>= next) (action >>= rest) where
  steady := first.steady.bind fun value => (then_ value).steady
  halts := by
    intro state amid
    have still : (action.run state).2.active = active := (first.steady state).1.trans amid
    exact (first.halts state amid).bind ((then_ _).halts _ still)

/-- Both branches of a condition are performed, each where it is taken. -/
theorem ite {condition : Prop} [Decidable condition] {routine other : Routine α}
    {action also : Compile α} (holds : condition → Performs task active routine action)
    (fails : ¬ condition → Performs task active other also) :
    Performs task active (if condition then routine else other)
      (if condition then action else also) := by
  by_cases decided : condition
  · rw [if_pos decided, if_pos decided]
    exact holds decided
  · rw [if_neg decided, if_neg decided]
    exact fails decided

/-- A routine that begins by reading the state is performed when it is for every state
with the given components active. -/
theorem get {next : Compilation → Routine α} {rest : Compilation → Compile α}
    (steady : Leads SteadyTo (MonadState.get >>= rest))
    (performs : ∀ known : Compilation, known.active = active →
      Performs task active (next known) (rest known)) :
    Performs task active (Routine.take MonadState.get >>= next) (MonadState.get >>= rest) where
  steady := steady
  halts := fun state amid => .step ((performs state amid).halts state amid)

/-- A call is performed when its routine is. -/
theorem ask {called : Call} {action : Compile called.Answer}
    (performs : Performs task active (routineOf task called) action) :
    Performs task active (ask called) action where
  steady := performs.steady
  halts := fun state amid => .call (performs.halts state amid) (.done _ _)

end Performs

/-! ## Records and arrays -/

/-- The references of a node are resolved as their routines say. -/
def Answers (task : Task) (active : List String) (resolve : Resolver) : Prop :=
  ∀ pointer inRecord,
    Performs task active (ask (.resolve pointer inRecord)) (resolve pointer inRecord)

theorem performs_hoist {name : String} {node : SchemaNode} {declared : String → Compile Unit}
    (declares : ∀ own, Performs task active (ask (.declare own node)) (declared own)) :
    Performs task active (ask (.hoist name node)) (do
      let own ← Compile.reserve name
      declared own
      return .named own) := by
  apply Performs.ask
  apply (Performs.take (Leads.reserve name)).bind
  intro own
  exact (declares own).bind fun _ => Performs.pure _

/-- A string enumeration is hoisted. -/
theorem performs_hoistEnumeration (name : String) {annotations : Annotations}
    {values : List Value} {composition : Composition SchemaNode} {shape : Shape SchemaNode}
    (some : values.isEmpty = false) (enumerated : task.declaresEnumeration values = true) :
    Performs task active (ask (.hoist name (.schema annotations values composition shape)))
      (hoistEnumeration name annotations.description values) := by
  apply performs_hoist
  intro own
  apply Performs.ask
  simp only [routineOf, declareRoutine, some, enumerated]
  exact Performs.take (Leads.declare _)

theorem performs_interface {resolve : Resolver} {own : String} {annotations : Annotations}
    {shape : Shape SchemaNode}
    (body : Performs task active (bodyRoutine own shape) (interfaceBody task resolve own shape)) :
    Performs task active (ask (.interface own annotations shape)) (do
      let (fields, index) ← interfaceBody task resolve own shape
      Compile.declare (.interface own annotations.description fields index)) := by
  apply Performs.ask
  apply body.bind
  rintro ⟨fields, index⟩
  exact Performs.take (Leads.declare _)

/-- A record that is nothing else is hoisted. -/
theorem performs_hoistInterface {resolve : Resolver} (name : String) {annotations : Annotations}
    {composition : Composition SchemaNode} {shape : Shape SchemaNode}
    (record : declaresAlias composition shape = false)
    (body : ∀ own, Performs task active (bodyRoutine own shape)
      (interfaceBody task resolve own shape)) :
    Performs task active (ask (.hoist name (.schema annotations [] composition shape)))
      (hoistInterface name annotations.description fun own =>
        interfaceBody task resolve own shape) := by
  have declares : ∀ own, Performs task active
      (ask (.declare own (.schema annotations [] composition shape))) (do
        let (fields, index) ← interfaceBody task resolve own shape
        Compile.declare (.interface own annotations.description fields index)) := by
    intro own
    apply Performs.ask
    simp only [routineOf, declareRoutine, record]
    exact performs_interface (body own)
  exact performs_hoist declares

/-! ## Nodes without values and composition -/

section

variable {resolve : Resolver} {name : String} {inRecord : Bool} {annotations : Annotations}
  {composition : Composition SchemaNode} {shape : Shape SchemaNode}

/-- The body of a record does not depend on its type names. -/
theorem interfaceBody_withTypes (own : String) (types : TypeNames) :
    interfaceBody task resolve own { shape with types := types } =
      interfaceBody task resolve own shape := by
  cases shape
  rw [interfaceBody, interfaceBody]

/-- Under one type name at most, a node goes on with its items or with its record. -/
theorem performs_typedRoutine {types : TypeNames} (single : ∀ names, types ≠ .several names)
    (unused : composition.isUsed = false)
    (item : Performs task active (itemRoutine (name ++ "Item") inRecord shape)
      (itemExpression task resolve (name ++ "Item") inRecord shape))
    (body : ∀ own, Performs task active (bodyRoutine own shape)
      (interfaceBody task resolve own shape)) :
    Performs task active
      (typedRoutine name inRecord annotations composition { shape with types := types })
      (typedExpression shape (itemExpression task resolve (name ++ "Item") inRecord shape)
        (hoistInterface name annotations.description fun own =>
          interfaceBody task resolve own shape) types) := by
  apply Performs.ite
  · intro _
    exact item.bind fun type => Performs.pure _
  · intro noArray
    apply Performs.ite
    · intro object
      simp only [← interfaceBody_withTypes _ types] at body ⊢
      refine performs_hoistInterface name ?_ body
      cases types with
      | several names => exact absurd rfl (single names)
      | absent => simp [declaresAlias, unused, noArray, object]
      | single typeName => simp [declaresAlias, unused, noArray, object]
    · intro _
      cases types with
      | several names => exact absurd rfl (single names)
      | absent => exact Performs.pure _
      | single typeName => exact Performs.pure _

theorem performs_eachType {visit : String → Routine TypeExpr}
    {compile : TypeNames → Compile TypeExpr}
    (performs : ∀ typeName, Performs task active (visit typeName) (compile (.single typeName)))
    (names : List String) : Performs task active (each visit names) (eachType compile names) := by
  induction names with
  | nil => exact Performs.pure _
  | cons typeName rest ih =>
      exact (performs typeName).bind fun _ => ih.bind fun _ => Performs.pure _

/-- A node without values and composition is compiled, under several type names as its
copies under each of them. -/
theorem performs_plainExpression (unused : composition.isUsed = false)
    (item : Performs task active (itemRoutine (name ++ "Item") inRecord shape)
      (itemExpression task resolve (name ++ "Item") inRecord shape))
    (body : ∀ own, Performs task active (bodyRoutine own shape)
      (interfaceBody task resolve own shape)) :
    Performs task active
      (ask (.expression name inRecord (.schema annotations [] composition shape)))
      (plainExpression task shape (itemExpression task resolve (name ++ "Item") inRecord shape)
        (hoistInterface name annotations.description fun own =>
          interfaceBody task resolve own shape)) := by
  have typed := fun types single =>
    @performs_typedRoutine task active resolve name inRecord annotations composition shape types
      single unused item body
  apply Performs.ask
  simp only [routineOf, expressionRoutine, unused, Bool.false_eq_true, plainExpression]
  obtain ⟨types, properties, required, items, additional⟩ := shape
  cases types with
  | absent => exact typed _ (by simp)
  | single typeName => exact typed _ (by simp)
  | several names =>
      refine (performs_eachType (fun typeName => ?_) names).bind fun _ => Performs.pure _
      apply Performs.ask
      simp only [routineOf, expressionRoutine, unused, Bool.false_eq_true]
      exact typed _ (by simp)

/-- Properties beside a composition are compiled as a copy of the node without it. -/
theorem performs_composition
    (groups : Performs task active (groupsRoutine task name inRecord composition)
      (compositionGroups task resolve name inRecord composition))
    (item : ∀ part, Performs task active (itemRoutine (part ++ "Item") inRecord shape)
      (itemExpression task resolve (part ++ "Item") inRecord shape))
    (body : ∀ own, Performs task active (bodyRoutine own shape)
      (interfaceBody task resolve own shape)) :
    Performs task active (ask (.composition name inRecord annotations composition shape)) (do
      let (groups, next) ← compositionGroups task resolve name inRecord composition
      if shape.properties.isSome then
        let part := name ++ "Part" ++ toString next
        let rest ← plainExpression task shape
          (itemExpression task resolve (part ++ "Item") inRecord shape)
          (hoistInterface part none fun own => interfaceBody task resolve own shape)
        return .intersectionOf task.fallback (groups ++ [rest])
      else return .intersectionOf task.fallback groups) := by
  apply Performs.ask
  apply groups.bind
  rintro ⟨groups, next⟩
  apply Performs.ite
  · intro _
    exact (performs_plainExpression rfl (item _) body).bind fun _ => Performs.pure _
  · exact fun _ => Performs.pure _

end

/-! ## Nodes -/

section

variable {resolve : Resolver}

mutual

/-- Compiling a node does what its routine does, when resolving its references does. -/
theorem performs_expression (answers : Answers task active resolve) :
    ∀ (name : String) (inRecord : Bool) (node : SchemaNode),
      Performs task active (ask (.expression name inRecord node))
        (expression task resolve name inRecord node)
  | name, inRecord, .reference pointer => by
      rw [expression]
      exact Performs.ask (answers pointer inRecord)
  | name, inRecord, .schema annotations values composition shape => by
      have item := fun part => performs_itemExpression answers part inRecord shape
      have body := fun own => performs_interfaceBody answers own shape
      rw [expression]
      cases values with
      | cons value rest =>
          apply Performs.ask
          exact Performs.ite (performs_hoistEnumeration name rfl) fun _ => Performs.pure _
      | nil =>
          by_cases used : composition.isUsed = true
          · have groups := performs_compositionGroups answers name inRecord composition
            apply Performs.ask
            simp only [routineOf, expressionRoutine, List.isEmpty_nil, Bool.not_true, used]
            exact performs_composition groups (fun part => item (part ++ "Item")) body
          · simp only [List.isEmpty_nil, Bool.not_true, used]
            exact performs_plainExpression (Bool.eq_false_iff.mpr used) (item _) body

theorem performs_itemExpression (answers : Answers task active resolve) :
    ∀ (name : String) (inRecord : Bool) (shape : Shape SchemaNode),
      Performs task active (itemRoutine name inRecord shape)
        (itemExpression task resolve name inRecord shape)
  | name, inRecord, ⟨_, _, _, some node, _⟩ => by
      rw [itemExpression]
      exact performs_expression answers name inRecord node
  | name, inRecord, ⟨_, _, _, none, _⟩ => by
      rw [itemExpression]
      exact Performs.pure _

theorem performs_interfaceBody (answers : Answers task active resolve) :
    ∀ (own : String) (shape : Shape SchemaNode),
      Performs task active (bodyRoutine own shape) (interfaceBody task resolve own shape)
  | own, ⟨_, properties, required, _, additional⟩ => by
      rw [interfaceBody]
      exact (performs_listedFields answers own required properties).bind fun _ =>
        (performs_indexType answers own additional).bind fun _ => Performs.pure _

theorem performs_listedFields (answers : Answers task active resolve) :
    ∀ (own : String) (required : List String)
      (properties : Option (List (String × SchemaNode))),
      Performs task active (each (fieldRoutine own required) (properties.getD []))
        (listedFields task resolve own required properties)
  | own, required, some properties => by
      rw [listedFields]
      exact performs_interfaceFields answers own required properties
  | own, required, none => by
      rw [listedFields]
      exact Performs.pure _

theorem performs_indexType (answers : Answers task active resolve) :
    ∀ (own : String) (additional : Additional SchemaNode),
      Performs task active (indexRoutine own additional) (indexType task resolve own additional)
  | own, .absent => by
      rw [indexType]
      exact Performs.pure _
  | own, .allowed flag => by
      rw [indexType]
      exact Performs.pure _
  | own, .schema node => by
      rw [indexType]
      exact (performs_expression answers _ true node).bind fun _ => Performs.pure _

theorem performs_interfaceFields (answers : Answers task active resolve) :
    ∀ (own : String) (required : List String) (properties : List (String × SchemaNode)),
      Performs task active (each (fieldRoutine own required) properties)
        (interfaceFields task resolve own required properties)
  | own, required, [] => by
      rw [interfaceFields]
      exact Performs.pure _
  | own, required, (key, node) :: rest => by
      rw [interfaceFields]
      have type := performs_expression answers (own ++ pascalCase key) true node
      have field := type.bind fun type => Performs.pure
        (⟨key, !required.contains key, node.description, type⟩ : Field)
      exact field.bind fun _ =>
        (performs_interfaceFields answers own required rest).bind fun _ => Performs.pure _

theorem performs_compositionGroups (answers : Answers task active resolve) :
    ∀ (name : String) (inRecord : Bool) (composition : Composition SchemaNode),
      Performs task active (groupsRoutine task name inRecord composition)
        (compositionGroups task resolve name inRecord composition)
  | name, inRecord, ⟨allOf, anyOf, oneOf⟩ => by
      rw [compositionGroups]
      exact (performs_keywordExpressions answers name inRecord _ allOf).bind fun _ =>
        (performs_keywordExpressions answers name inRecord _ anyOf).bind fun _ =>
          (performs_keywordExpressions answers name inRecord _ oneOf).bind fun _ =>
            Performs.pure _

theorem performs_keywordExpressions (answers : Answers task active resolve) :
    ∀ (name : String) (inRecord : Bool) (number : Nat) (keyword : Option (List SchemaNode)),
      Performs task active
        (branchesRoutine name inRecord number (Composition.branches keyword))
        (keywordExpressions task resolve name inRecord number keyword)
  | name, inRecord, number, some branches => by
      rw [keywordExpressions]
      exact performs_branchExpressions answers name inRecord number branches
  | name, inRecord, number, none => by
      rw [keywordExpressions]
      exact Performs.pure _

theorem performs_branchExpressions (answers : Answers task active resolve) :
    ∀ (name : String) (inRecord : Bool) (number : Nat) (branches : List SchemaNode),
      Performs task active (branchesRoutine name inRecord number branches)
        (branchExpressions task resolve name inRecord number branches)
  | name, inRecord, number, [] => by
      rw [branchExpressions]
      exact Performs.pure _
  | name, inRecord, number, node :: rest => by
      rw [branchExpressions]
      exact (performs_expression answers _ inRecord node).bind fun _ =>
        (performs_branchExpressions answers name inRecord (number + 1) rest).bind fun _ =>
          Performs.pure _

end

end

/-! ## Declarations -/

theorem performs_declareNode {resolve : Resolver} (answers : Answers task active resolve)
    (name : String) (node : SchemaNode) :
    Performs task active (ask (.declare name node)) (declareNode task resolve name node) := by
  apply Performs.ask
  cases node with
  | reference pointer =>
      exact (answers pointer false).bind fun _ => Performs.take (Leads.declare _)
  | schema annotations values composition shape =>
      by_cases enumerated : (!values.isEmpty && task.declaresEnumeration values) = true
      · simp only [routineOf, declareRoutine, declareNode, declarationOf, enumerated, if_true]
        exact Performs.take (Leads.declare _)
      · by_cases aliased : declaresAlias composition shape = true
        · simp only [routineOf, declareRoutine, declareNode, declarationOf, enumerated, aliased,
            if_true]
          exact (performs_expression answers name false _).bind fun _ =>
            Performs.take (Leads.declare _)
        · simp only [routineOf, declareRoutine, declareNode, declarationOf, enumerated, aliased]
          exact performs_interface (performs_interfaceBody answers name shape)

/-! ## References and components -/

/-- References are resolved as their routines say when components are declared so. -/
theorem performs_resolveReference {ensure : String → Compile Unit}
    (steady : ∀ key, Leads SteadyTo (ensure key))
    (ensures : ∀ key, key ∉ active → Performs task active (ask (.ensure key)) (ensure key)) :
    Answers task active (resolveReference task ensure) := by
  intro pointer inRecord
  apply Performs.ask
  simp only [routineOf, resolveRoutine, resolveReference]
  cases schemaKey? pointer with
  | none => exact (Performs.take (Leads.notify _)).bind fun _ => Performs.pure _
  | some key =>
      dsimp only
      cases task.schemaName? key with
      | none => exact (Performs.take (Leads.notify _)).bind fun _ => Performs.pure _
      | some name =>
          apply Performs.get
          · exact Leads.get.bind fun _ => Leads.ite
              (Leads.ite (Leads.pure _) ((Leads.notify _).bind fun _ => Leads.pure _))
              ((steady key).bind fun _ => Leads.pure _)
          · intro known amid
            apply Performs.ite
            · intro _
              apply Performs.ite
              · exact fun _ => Performs.pure _
              · exact fun _ => (Performs.take (Leads.notify _)).bind fun _ => Performs.pure _
            · intro inactive
              rw [amid, List.contains_iff_mem] at inactive
              exact (ensures key inactive).bind fun _ => Performs.pure _

/-- The component schemas that are not active. -/
def Task.inactive (task : Task) (active : List String) : Finset String :=
  (task.document.schemas.map (·.1)).toFinset \ active.toFinset

/-- With a component that is entered, fewer are inactive. -/
theorem Task.card_inactive_lt {key : String} (known : key ∈ task.document.schemas.map (·.1))
    (fresh : key ∉ active) :
    (task.inactive (key :: active)).card < (task.inactive active).card := by
  apply Finset.card_lt_card
  rw [Finset.ssubset_iff_of_subset]
  · refine ⟨key, ?_, ?_⟩
    · simp [inactive, known, fresh]
    · simp [inactive]
  · intro other inside
    simp only [inactive, List.toFinset_cons, Finset.mem_sdiff, Finset.mem_insert,
      not_or] at inside ⊢
    exact ⟨inside.1, inside.2.2⟩

/-- Among the inactive components are no more than the document has. -/
theorem Task.card_inactive_lt_budget (task : Task) (active : List String) :
    (task.inactive active).card < task.budget := by
  let keys := task.document.schemas.map (·.1)
  have few : (task.inactive active).card ≤ keys.toFinset.card :=
    Finset.card_le_card Finset.sdiff_subset
  have fewer : keys.toFinset.card ≤ keys.length := keys.toFinset_card_le
  rw [List.length_map] at fewer
  unfold budget
  omega

/-- A component is declared as its routine says, when references are resolved so while it
is active. -/
theorem performs_component {resolve : Resolver} {key : String}
    (answers : Answers task (key :: active) resolve)
    (steady : ∀ pointer inRecord, Leads SteadyTo (resolve pointer inRecord)) (name : String)
    (node : SchemaNode) :
    Performs task active (do
        take (Compile.enter key)
        ask (.declare name node)
        take (Compile.leave key))
      (do
        Compile.enter key
        declareNode task resolve name node
        Compile.leave key) := by
  refine ⟨leads_component steady key name node, ?_⟩
  intro state amid
  apply Halts.step
  have entered : ((Compile.enter key).run state).2.active = key :: active := by
    rw [← amid]
    rfl
  have body := (performs_declareNode answers name node).halts _ entered
  exact body.bind (.step (.done _ _))

/-- Declaring a component does what its routine does while the budget exceeds the number of
inactive components. -/
theorem performs_ensureWithin (budget : Nat) (active : List String)
    (enough : (task.inactive active).card < budget) (key : String) :
    Performs task active (ask (.ensure key)) (ensureWithin task budget key) := by
  induction budget generalizing active key with
  | zero => exact absurd enough (Nat.not_lt_zero _)
  | succ budget ih =>
      have steady : ∀ pointer inRecord, Leads SteadyTo
          (resolveReference task (ensureWithin task budget) pointer inRecord) :=
        leads_resolveReference (leads_ensureWithin budget)
      apply Performs.ask
      simp only [routineOf, ensureRoutine, ensureWithin]
      cases task.schemaName? key with
      | none => exact Performs.pure _
      | some name =>
          cases found : task.document.schema? key with
          | none => exact Performs.pure _
          | some node =>
              apply Performs.get
              · exact Leads.get.bind fun _ =>
                  Leads.ite (Leads.pure _) (leads_component steady key name node)
              · intro known amid
                apply Performs.ite
                · exact fun _ => Performs.pure _
                · intro absent
                  simp only [amid, Bool.or_eq_true, List.contains_iff_mem, not_or] at absent
                  have listed := (Task.schema?_isSome_iff task.document key).mp (by rw [found]; rfl)
                  have fewer := Task.card_inactive_lt listed absent.2
                  refine performs_component (performs_resolveReference
                    (leads_ensureWithin budget) ?_) steady name node
                  intro other _
                  exact ih (key :: active) (by omega) other

/-- Whatever components are active, declaring a component does what its routine does. -/
theorem performs_ensureSchema (active : List String) (key : String) :
    Performs task active (ask (.ensure key)) (task.ensureSchema key) :=
  performs_ensureWithin task.budget active (task.card_inactive_lt_budget active) key

theorem answers_reference (active : List String) : Answers task active task.reference :=
  performs_resolveReference leads_ensureSchema fun key _ => performs_ensureSchema active key

/-! ## Whole documents -/

/-- Once its names are reserved, the parts of a message are declared. -/
theorem performs_declareParts (message : Message) (payload : String)
    (headers : Option (String × SchemaNode)) (name : String) :
    Performs task active (do
        ask (.declare payload message.payload)
        match headers with
        | some (headersName, node) => ask (.declare headersName node)
        | none => pure ()
        take (Compile.declare
          (Task.messageInterface name message.description payload (headers.map (·.1)))))
      (task.declareParts message payload headers name) := by
  have node : ∀ name node, Performs task active (ask (.declare name node))
      (declareNode task task.reference name node) :=
    performs_declareNode (answers_reference active)
  apply (node payload message.payload).bind
  intro _
  cases headers with
  | none => exact (Performs.pure ()).bind fun _ => Performs.take (Leads.declare _)
  | some part => exact (node part.1 part.2).bind fun _ => Performs.take (Leads.declare _)

/-- Collecting a message does what its routine does. -/
theorem performs_collectMessage (message : Message) :
    Performs task active (messageRoutine message) (task.collectMessage message) := by
  apply Performs.get (leads_collectMessage steadyTo_nameMessage message)
  intro known _
  apply Performs.ite
  · exact fun _ => Performs.take (Leads.notify _)
  · intro _
    apply (Performs.take (Leads.reserve _)).bind
    intro payload
    have named : ∀ headers, Performs task active _ (do
        let name ← Compile.reserve (declarationName message.name "" ++ "Message")
        Compile.nameMessage message.name name
        task.declareParts message payload headers name) := fun headers =>
      (Performs.take (Leads.reserve _)).bind fun name =>
        (Performs.take (steadyTo_nameMessage _ _)).bind fun _ =>
          performs_declareParts message payload headers name
    cases message.headers with
    | none => exact (Performs.pure none).bind named
    | some node =>
        exact (Performs.take (Leads.reserve _)).bind fun name =>
          (Performs.pure (some (name, node))).bind named

theorem performs_collectMessages (messages : List Message) :
    Performs task active (visitAll messageRoutine messages) (task.collectMessages messages) := by
  induction messages with
  | nil => exact Performs.pure ()
  | cons message rest ih => exact (performs_collectMessage message).bind fun _ => ih

theorem performs_ensureAll (keys : List String) :
    Performs task active (visitAll (fun key => ask (.ensure key)) keys) (task.ensureAll keys) := by
  induction keys with
  | nil => exact Performs.pure ()
  | cons key rest ih => exact (performs_ensureSchema active key).bind fun _ => ih

/-- Compiling a document does what its routine does. -/
theorem performs_collect : Performs task active task.routine task.collect :=
  (performs_ensureAll _).bind fun _ => (performs_collectMessages _).bind fun _ =>
    (performs_collectMessages _).bind fun _ => Performs.take (leads_declareAllUnions _)

/-! ## Every call -/

/-- What a call does in a compilation, by the functions that are run. -/
def Task.action (task : Task) : (called : Call) → Compile called.Answer
  | .ensure key => task.ensureSchema key
  | .resolve pointer inRecord => task.reference pointer inRecord
  | .declare name node => declareNode task task.reference name node
  | .interface name annotations shape => do
      let (fields, index) ← interfaceBody task task.reference name shape
      Compile.declare (.interface name annotations.description fields index)
  | .hoist name node => do
      let own ← Compile.reserve name
      declareNode task task.reference own node
      return .named own
  | .expression name inRecord node => expression task task.reference name inRecord node
  | .composition name inRecord _ composition shape => do
      let (groups, next) ← compositionGroups task task.reference name inRecord composition
      if shape.properties.isSome then
        let part := name ++ "Part" ++ toString next
        let rest ← plainExpression task shape
          (itemExpression task task.reference (part ++ "Item") inRecord shape)
          (hoistInterface part none fun own => interfaceBody task task.reference own shape)
        return .intersectionOf task.fallback (groups ++ [rest])
      else return .intersectionOf task.fallback groups

theorem performs_action (called : Call) :
    Performs task active (ask called) (task.action called) := by
  have answers : Answers task active task.reference := answers_reference active
  cases called with
  | ensure key => exact performs_ensureSchema active key
  | resolve pointer inRecord => exact answers pointer inRecord
  | declare name node => exact performs_declareNode answers name node
  | interface name annotations shape =>
      exact performs_interface (performs_interfaceBody answers name shape)
  | hoist name node => exact performs_hoist fun own => performs_declareNode answers own node
  | expression name inRecord node => exact performs_expression answers name inRecord node
  | composition name inRecord annotations composition shape =>
      exact performs_composition (performs_compositionGroups answers name inRecord composition)
        (fun part => performs_itemExpression answers (part ++ "Item") inRecord shape)
        fun own => performs_interfaceBody answers own shape

/-- Every call halts in every state, with what its function gives. -/
theorem halts_action (called : Call) (state : Compilation) :
    Halts task (routineOf task called) state ((task.action called).run state).1
      ((task.action called).run state).2 := by
  cases (performs_action called).halts state rfl with
  | call answered rest =>
      cases rest
      exact answered

/-- The routine of a document halts in the compilation of the document, and only there. -/
theorem halts_iff_compile (document : Document) (options : Options) (final : Compilation) :
    Halts (Task.ofDocument document options) (Task.ofDocument document options).routine
        (Task.ofDocument document options).start () final ↔
      final = compile document options := by
  let task := Task.ofDocument document options
  have halts : Halts task task.routine task.start () (compile document options) :=
    performs_collect.halts task.start rfl
  constructor
  · exact fun ends => (ends.unique halts).2
  · rintro rfl
    exact halts

/-- The compilation of every document comes to an end: below its calls, among them those
for the copies of a node with fewer type names or without its composition, there is no
endless descent, every call halts in every state with what its function gives, and the
whole run halts in the compilation of the document. -/
theorem compilation_terminates (document : Document) (options : Options) :
    let task := Task.ofDocument document options
    WellFounded (MadeBy task) ∧
      (∀ (called : Call) (state : Compilation), Halts task (routineOf task called) state
        ((task.action called).run state).1 ((task.action called).run state).2) ∧
      ∀ final, Halts task task.routine task.start () final ↔ final = compile document options :=
  ⟨wellFounded_madeBy fun called state => ⟨_, _, halts_action called state⟩, halts_action,
    halts_iff_compile document options⟩

end AsyncTypes.TypeScript
