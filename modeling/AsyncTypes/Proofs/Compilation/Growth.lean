import AsyncTypes.TypeScript.Generation

/-!
# What every step of a compilation preserves

A relation that leads from before to after the operations of a compilation leads from
before to after whatever is built from them.  So, whatever state a compilation is in, its
steps leave the declarations that it has in place and in order; when a step ends, the same
components are active as when it began; and only the collection of a message names one.
-/

namespace AsyncTypes.TypeScript

variable {α β : Type} {task : Task} {relation : Compilation → Compilation → Prop}

/-! ## Steps along a relation -/

/-- Whatever state the step begins in, the relation leads from it to the state in which the
step ends. -/
def Leads (relation : Compilation → Compilation → Prop) (step : Compile α) : Prop :=
  ∀ state : Compilation, relation state (step.run state).2

/-- The relation leads along every number of operations, also along those that are made
while one component more is active. -/
class Respected (relation : Compilation → Compilation → Prop) : Prop where
  refl : ∀ state, relation state state
  trans : ∀ {state middle after}, relation state middle → relation middle after →
    relation state after
  reserve : ∀ wanted, Leads relation (Compile.reserve wanted)
  notify : ∀ notice, Leads relation (Compile.notify notice)
  declare : ∀ declaration, Leads relation (Compile.declare declaration)
  enclose : ∀ key state after, relation { state with active := key :: state.active } after →
    relation state { after with active := after.active.erase key }

section

variable [Respected relation]

namespace Leads

theorem pure (value : α) : Leads relation (Pure.pure value : Compile α) :=
  fun state => Respected.refl state

theorem get : Leads relation (MonadState.get : Compile Compilation) :=
  fun state => Respected.refl state

theorem bind {step : Compile α} {next : α → Compile β} (leads : Leads relation step)
    (rest : ∀ value, Leads relation (next value)) : Leads relation (step >>= next) :=
  fun state => Respected.trans (leads state) (rest _ _)

omit [Respected relation] in
theorem ite {condition : Prop} [Decidable condition] {first second : Compile α}
    (leads : Leads relation first) (also : Leads relation second) :
    Leads relation (if condition then first else second) := by
  split
  · exact leads
  · exact also

theorem reserve (wanted : String) : Leads relation (Compile.reserve wanted) :=
  Respected.reserve wanted

theorem notify (notice : Notice) : Leads relation (Compile.notify notice) :=
  Respected.notify notice

theorem declare (declaration : Declaration) : Leads relation (Compile.declare declaration) :=
  Respected.declare declaration

end Leads

/-! ### Expressions -/

theorem leads_hoistEnumeration (name : String) (description : Option String)
    (values : List Value) : Leads relation (hoistEnumeration name description values) :=
  (Leads.reserve name).bind fun _ => (Leads.declare _).bind fun _ => Leads.pure _

theorem leads_hoistInterface (name : String) (description : Option String)
    {body : String → Compile (List Field × Option TypeExpr)}
    (leads : ∀ own, Leads relation (body own)) :
    Leads relation (hoistInterface name description body) :=
  (Leads.reserve name).bind fun own => (leads own).bind fun _ =>
    (Leads.declare _).bind fun _ => Leads.pure _

theorem leads_typedExpression (shape : Shape SchemaNode) {item record : Compile TypeExpr}
    (items : Leads relation item) (records : Leads relation record) (types : TypeNames) :
    Leads relation (typedExpression shape item record types) := by
  refine Leads.ite (items.bind fun _ => Leads.pure _) (Leads.ite records ?_)
  cases types with
  | absent => exact Leads.pure _
  | single name => exact Leads.pure _
  | several names => exact Leads.pure _

theorem leads_eachType {compile : TypeNames → Compile TypeExpr}
    (leads : ∀ types, Leads relation (compile types)) (names : List String) :
    Leads relation (eachType compile names) := by
  induction names with
  | nil => exact Leads.pure _
  | cons name rest ih => exact (leads _).bind fun _ => ih.bind fun _ => Leads.pure _

theorem leads_plainExpression (shape : Shape SchemaNode) {item record : Compile TypeExpr}
    (items : Leads relation item) (records : Leads relation record) :
    Leads relation (plainExpression task shape item record) := by
  have typed := leads_typedExpression shape items records
  unfold plainExpression
  split
  · exact (leads_eachType typed _).bind fun _ => Leads.pure _
  · exact typed _

section

variable {resolve : Resolver}

mutual

/-- The relation leads along compiling a node when it leads along resolving references. -/
theorem leads_expression
    (resolves : ∀ pointer inRecord, Leads relation (resolve pointer inRecord)) :
    ∀ (name : String) (inRecord : Bool) (node : SchemaNode),
      Leads relation (expression task resolve name inRecord node)
  | name, inRecord, .reference pointer => by
      rw [expression]
      exact resolves pointer inRecord
  | name, inRecord, .schema annotations values composition shape => by
      rw [expression]
      have plain : ∀ part description, Leads relation (plainExpression task shape
          (itemExpression task resolve (part ++ "Item") inRecord shape)
          (hoistInterface part description fun own => interfaceBody task resolve own shape)) :=
        fun part description => leads_plainExpression shape
          (leads_itemExpression resolves _ inRecord shape)
          (leads_hoistInterface part description fun own =>
            leads_interfaceBody resolves own shape)
      refine Leads.ite (Leads.ite (leads_hoistEnumeration name _ values) (Leads.pure _))
        (Leads.ite ?_ (plain name _))
      refine (leads_compositionGroups resolves name inRecord composition).bind fun groups => ?_
      exact Leads.ite ((plain _ none).bind fun _ => Leads.pure _) (Leads.pure _)

theorem leads_itemExpression
    (resolves : ∀ pointer inRecord, Leads relation (resolve pointer inRecord)) :
    ∀ (name : String) (inRecord : Bool) (shape : Shape SchemaNode),
      Leads relation (itemExpression task resolve name inRecord shape)
  | name, inRecord, ⟨_, _, _, some node, _⟩ => by
      rw [itemExpression]
      exact leads_expression resolves name inRecord node
  | name, inRecord, ⟨_, _, _, none, _⟩ => by
      rw [itemExpression]
      exact Leads.pure _

theorem leads_interfaceBody
    (resolves : ∀ pointer inRecord, Leads relation (resolve pointer inRecord)) :
    ∀ (own : String) (shape : Shape SchemaNode),
      Leads relation (interfaceBody task resolve own shape)
  | own, ⟨_, properties, required, _, additional⟩ => by
      rw [interfaceBody]
      exact (leads_listedFields resolves own required properties).bind fun _ =>
        (leads_indexType resolves own additional).bind fun _ => Leads.pure _

theorem leads_listedFields
    (resolves : ∀ pointer inRecord, Leads relation (resolve pointer inRecord)) :
    ∀ (own : String) (required : List String)
      (properties : Option (List (String × SchemaNode))),
      Leads relation (listedFields task resolve own required properties)
  | own, required, some properties => by
      rw [listedFields]
      exact leads_interfaceFields resolves own required properties
  | own, required, none => by
      rw [listedFields]
      exact Leads.pure _

theorem leads_indexType
    (resolves : ∀ pointer inRecord, Leads relation (resolve pointer inRecord)) :
    ∀ (own : String) (additional : Additional SchemaNode),
      Leads relation (indexType task resolve own additional)
  | own, .absent => by
      rw [indexType]
      exact Leads.pure _
  | own, .allowed flag => by
      rw [indexType]
      exact Leads.pure _
  | own, .schema node => by
      rw [indexType]
      exact (leads_expression resolves _ true node).bind fun _ => Leads.pure _

theorem leads_interfaceFields
    (resolves : ∀ pointer inRecord, Leads relation (resolve pointer inRecord)) :
    ∀ (own : String) (required : List String) (properties : List (String × SchemaNode)),
      Leads relation (interfaceFields task resolve own required properties)
  | own, required, [] => by
      rw [interfaceFields]
      exact Leads.pure _
  | own, required, (key, node) :: rest => by
      rw [interfaceFields]
      exact (leads_expression resolves _ true node).bind fun _ =>
        (leads_interfaceFields resolves own required rest).bind fun _ => Leads.pure _

theorem leads_compositionGroups
    (resolves : ∀ pointer inRecord, Leads relation (resolve pointer inRecord)) :
    ∀ (name : String) (inRecord : Bool) (composition : Composition SchemaNode),
      Leads relation (compositionGroups task resolve name inRecord composition)
  | name, inRecord, ⟨allOf, anyOf, oneOf⟩ => by
      rw [compositionGroups]
      exact (leads_keywordExpressions resolves name inRecord _ allOf).bind fun _ =>
        (leads_keywordExpressions resolves name inRecord _ anyOf).bind fun _ =>
          (leads_keywordExpressions resolves name inRecord _ oneOf).bind fun _ => Leads.pure _

theorem leads_keywordExpressions
    (resolves : ∀ pointer inRecord, Leads relation (resolve pointer inRecord)) :
    ∀ (name : String) (inRecord : Bool) (number : Nat) (keyword : Option (List SchemaNode)),
      Leads relation (keywordExpressions task resolve name inRecord number keyword)
  | name, inRecord, number, some branches => by
      rw [keywordExpressions]
      exact leads_branchExpressions resolves name inRecord number branches
  | name, inRecord, number, none => by
      rw [keywordExpressions]
      exact Leads.pure _

theorem leads_branchExpressions
    (resolves : ∀ pointer inRecord, Leads relation (resolve pointer inRecord)) :
    ∀ (name : String) (inRecord : Bool) (number : Nat) (branches : List SchemaNode),
      Leads relation (branchExpressions task resolve name inRecord number branches)
  | name, inRecord, number, [] => by
      rw [branchExpressions]
      exact Leads.pure _
  | name, inRecord, number, node :: rest => by
      rw [branchExpressions]
      exact (leads_expression resolves _ inRecord node).bind fun _ =>
        (leads_branchExpressions resolves name inRecord (number + 1) rest).bind fun _ =>
          Leads.pure _

end

/-- The relation leads along declaring a node when it leads along resolving references. -/
theorem leads_declareNode
    (resolves : ∀ pointer inRecord, Leads relation (resolve pointer inRecord)) (name : String)
    (node : SchemaNode) : Leads relation (declareNode task resolve name node) := by
  refine Leads.bind ?_ fun _ => Leads.declare _
  cases node with
  | reference pointer => exact (resolves pointer false).bind fun _ => Leads.pure _
  | schema annotations values composition shape =>
      refine Leads.ite (Leads.pure _) (Leads.ite ?_ ?_)
      · exact (leads_expression resolves name false _).bind fun _ => Leads.pure _
      · exact (leads_interfaceBody resolves name shape).bind fun _ => Leads.pure _

end

/-! ### References and components -/

theorem leads_resolveReference {ensure : String → Compile Unit}
    (ensures : ∀ key, Leads relation (ensure key)) (pointer : String) (inRecord : Bool) :
    Leads relation (resolveReference task ensure pointer inRecord) := by
  unfold resolveReference
  split
  · exact (Leads.notify _).bind fun _ => Leads.pure _
  · split
    · exact (Leads.notify _).bind fun _ => Leads.pure _
    · exact Leads.get.bind fun _ => Leads.ite
        (Leads.ite (Leads.pure _) ((Leads.notify _).bind fun _ => Leads.pure _))
        ((ensures _).bind fun _ => Leads.pure _)

/-- The body of a component is compiled while the component is active. -/
theorem leads_component {resolve : Resolver}
    (resolves : ∀ pointer inRecord, Leads relation (resolve pointer inRecord)) (key name : String)
    (node : SchemaNode) : Leads relation (do
      Compile.enter key
      declareNode task resolve name node
      Compile.leave key) :=
  fun state => Respected.enclose key state _ (leads_declareNode resolves name node _)

theorem leads_ensureWithin (budget : Nat) (key : String) :
    Leads relation (ensureWithin task budget key) := by
  induction budget generalizing key with
  | zero => exact Leads.pure _
  | succ budget ih =>
      unfold ensureWithin
      split
      · exact Leads.get.bind fun _ => Leads.ite (Leads.pure _)
          (leads_component (leads_resolveReference ih) key _ _)
      · exact Leads.pure _

theorem leads_ensureSchema (key : String) : Leads relation (task.ensureSchema key) :=
  leads_ensureWithin task.budget key

theorem leads_ensureAll (keys : List String) : Leads relation (task.ensureAll keys) := by
  induction keys with
  | nil => exact Leads.pure _
  | cons key rest ih => exact (leads_ensureSchema key).bind fun _ => ih

/-! ### Messages and channels -/

theorem leads_declareParts (message : Message) (payload : String)
    (headers : Option (String × SchemaNode)) (name : String) :
    Leads relation (task.declareParts message payload headers name) := by
  have node : ∀ name node, Leads relation (declareNode task task.reference name node) :=
    leads_declareNode (leads_resolveReference leads_ensureSchema)
  refine (node payload message.payload).bind fun _ => ?_
  cases headers with
  | none => exact Leads.declare _
  | some entry => exact (node entry.1 entry.2).bind fun _ => Leads.declare _

/-- Collecting a message leads along the relation when naming one does. -/
theorem leads_collectMessage
    (nameMessage : ∀ message name, Leads relation (Compile.nameMessage message name))
    (message : Message) : Leads relation (task.collectMessage message) := by
  refine Leads.get.bind fun _ => Leads.ite (Leads.notify _) ?_
  refine (Leads.reserve _).bind fun payload => ?_
  have named : ∀ headers, Leads relation (do
      let name ← Compile.reserve (declarationName message.name "" ++ "Message")
      Compile.nameMessage message.name name
      task.declareParts message payload headers name) := fun headers =>
    (Leads.reserve _).bind fun name => (nameMessage _ _).bind fun _ =>
      leads_declareParts message payload headers name
  cases message.headers with
  | none => exact named none
  | some node => exact (Leads.reserve _).bind fun name => named (some (name, node))

theorem leads_collectMessages
    (nameMessage : ∀ message name, Leads relation (Compile.nameMessage message name))
    (messages : List Message) : Leads relation (task.collectMessages messages) := by
  induction messages with
  | nil => exact Leads.pure _
  | cons message rest ih => exact (leads_collectMessage nameMessage message).bind fun _ => ih

theorem leads_declareUnion (channel : Channel) (direction : Direction) :
    Leads relation (Task.declareUnion channel direction) :=
  Leads.get.bind fun _ => Leads.ite (Leads.pure _)
    ((Leads.reserve _).bind fun _ => Leads.declare _)

theorem leads_declareAllUnions (channels : List Channel) :
    Leads relation (Task.declareAllUnions channels) := by
  induction channels with
  | nil => exact Leads.pure _
  | cons channel rest ih =>
      exact ((leads_declareUnion channel .send).bind fun _ =>
        leads_declareUnion channel .receive).bind fun _ => ih

theorem leads_collect
    (nameMessage : ∀ message name, Leads relation (Compile.nameMessage message name)) :
    Leads relation task.collect :=
  (leads_ensureAll _).bind fun _ => (leads_collectMessages nameMessage _).bind fun _ =>
    (leads_collectMessages nameMessage _).bind fun _ => leads_declareAllUnions _

end

/-! ## Names of messages -/

namespace Compilation

/-- A declaration is refused when its name is declared. -/
theorem after_declare (state : Compilation) (declaration : Declaration) :
    ((Compile.declare declaration).run state).2 =
      if state.isDeclared declaration.name then
        { state with refused := state.refused ++ [declaration] }
      else { state with declarations := state.declarations ++ [declaration] } :=
  rfl

/-- A declaration is collected or refused. -/
theorem run_declare_cases (state : Compilation) (declaration : Declaration) :
    ((Compile.declare declaration).run state).2 =
        { state with refused := state.refused ++ [declaration] } ∨
      ((Compile.declare declaration).run state).2 =
        { state with declarations := state.declarations ++ [declaration] } := by
  rw [after_declare]
  split
  · exact Or.inl rfl
  · exact Or.inr rfl

/-- The same messages have the same names. -/
def SameMessages (state after : Compilation) : Prop :=
  after.messageNames = state.messageNames

instance : Respected SameMessages where
  refl := fun _ => rfl
  trans := fun first second => Eq.trans second first
  reserve := fun _ _ => rfl
  notify := fun _ _ => rfl
  declare := by
    intro declaration state
    rcases run_declare_cases state declaration with refused | collected
    · rw [SameMessages, refused]
    · rw [SameMessages, collected]
  enclose := fun _ _ _ same => same

/-! ## Declarations and active components -/

/-- The declarations are continued, and the same components are active. -/
def SteadyTo (state after : Compilation) : Prop :=
  after.active = state.active ∧ state.declarations <+: after.declarations

instance : Respected SteadyTo where
  refl := fun _ => ⟨rfl, List.prefix_refl _⟩
  trans := fun first second => ⟨second.1.trans first.1, first.2.trans second.2⟩
  reserve := fun _ _ => ⟨rfl, List.prefix_refl _⟩
  notify := fun _ _ => ⟨rfl, List.prefix_refl _⟩
  declare := by
    intro declaration state
    rcases run_declare_cases state declaration with refused | collected
    · rw [SteadyTo, refused]
      exact ⟨rfl, List.prefix_refl _⟩
    · rw [SteadyTo, collected]
      exact ⟨rfl, List.prefix_append _ _⟩
  enclose := by
    rintro key state after ⟨active, grown⟩
    exact ⟨by rw [active, List.erase_cons_head], grown⟩

end Compilation

/-- The step only adds declarations, and it leaves the same components active. -/
def Steady (step : Compile α) : Prop :=
  ∀ state : Compilation, (step.run state).2.active = state.active ∧
    state.declarations <+: (step.run state).2.declarations

theorem steady_of_leads {step : Compile α} (leads : Leads Compilation.SteadyTo step) :
    Steady step :=
  leads

theorem steadyTo_nameMessage (message name : String) :
    Leads Compilation.SteadyTo (Compile.nameMessage message name) :=
  fun _ => ⟨rfl, List.prefix_refl _⟩

theorem steady_ensureWithin (budget : Nat) (key : String) :
    Steady (ensureWithin task budget key) :=
  steady_of_leads (leads_ensureWithin budget key)

theorem steady_collectMessage (message : Message) : Steady (task.collectMessage message) :=
  steady_of_leads (leads_collectMessage steadyTo_nameMessage message)

theorem steady_declareUnion (channel : Channel) (direction : Direction) :
    Steady (Task.declareUnion channel direction) :=
  steady_of_leads (leads_declareUnion channel direction)

/-- A whole compilation is steady. -/
theorem steady_collect : Steady task.collect :=
  steady_of_leads (leads_collect steadyTo_nameMessage)

end AsyncTypes.TypeScript
