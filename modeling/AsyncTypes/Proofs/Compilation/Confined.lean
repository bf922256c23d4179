import AsyncTypes.Proofs.Compilation.Outline
import AsyncTypes.Proofs.Compilation.Termination

/-!
# References that a compilation cannot resolve

A node holds the pointers of the references in it.  The calls of a compilation work on nodes
of the document, so the pointers that they meet are held by nodes of the document; and a
compilation gives notice of an unresolved reference only where the whole way below the
component schemas, read as one key, is the key of none of them.
-/

namespace AsyncTypes

/-! ## Held pointers -/

/-- The node that further properties have to match. -/
def Additional.node? {Node : Type} : Additional Node → Option Node
  | .schema node => some node
  | _ => none

/-- The nodes of the properties, of the items and of further properties. -/
def Shape.parts {Node : Type} (shape : Shape Node) : List Node :=
  (shape.properties.getD []).map (·.2) ++ shape.items.toList ++ shape.additional.node?.toList

namespace SchemaNode

/-- The nodes that a node is made of. -/
def parts : SchemaNode → List SchemaNode
  | .reference _ => []
  | .schema _ _ composition shape => composition.allBranches ++ shape.parts

/-- The pointer is that of a reference in the node. -/
inductive Holds : SchemaNode → String → Prop
  | reference (pointer : String) : Holds (.reference pointer) pointer
  | part {node part : SchemaNode} {pointer : String} (listed : part ∈ node.parts)
      (holds : Holds part pointer) : Holds node pointer

/-- All pointers that the node holds are known. -/
def Within (known : String → Prop) (node : SchemaNode) : Prop :=
  ∀ pointer, node.Holds pointer → known pointer

variable {known : String → Prop} {node : SchemaNode} {pointer : String}

theorem within_reference_iff : (reference pointer).Within known ↔ known pointer := by
  constructor
  · exact fun within => within pointer (.reference pointer)
  · intro isKnown other holds
    cases holds with
    | reference => exact isKnown
    | part listed _ => exact absurd listed List.not_mem_nil

theorem within_schema_iff {annotations : Annotations} {values : List Value}
    {composition : Composition SchemaNode} {shape : Shape SchemaNode} :
    (schema annotations values composition shape).Within known ↔
      ∀ part ∈ composition.allBranches ++ shape.parts, part.Within known := by
  constructor
  · exact fun within part listed pointer holds => within pointer (.part listed holds)
  · intro within pointer holds
    cases holds with
    | part listed holds => exact within _ listed pointer holds

end SchemaNode

namespace Shape

variable {Node : Type} {shape : Shape Node} {node : Node}

theorem mem_parts_of_property {property : String × Node}
    (listed : property ∈ shape.properties.getD []) : property.2 ∈ shape.parts :=
  List.mem_append_left _ (List.mem_append_left _ (List.mem_map_of_mem listed))

theorem mem_parts_of_items (items : shape.items = some node) : node ∈ shape.parts := by
  apply List.mem_append_left
  apply List.mem_append_right
  rw [items]
  exact List.mem_singleton_self node

theorem mem_parts_of_additional (additional : shape.additional = .schema node) :
    node ∈ shape.parts := by
  apply List.mem_append_right
  rw [additional]
  exact List.mem_singleton_self node

end Shape

namespace TypeScript

open Routine

/-! ## Confined routines -/

section

variable (task : Task) (known : String → Prop)

/-- If the notice is about an unresolved reference, its pointer is known, and the key that it
names is that of no component schema. -/
def Founded (notice : Notice) : Prop :=
  ∀ pointer, notice = .unresolvedReference pointer →
    known pointer ∧ ∃ key, schemaKey? pointer = some key ∧ task.schemaName? key = none

/-- The notices that the step gives are founded. -/
def Warns {α : Type} (step : Compile α) : Prop :=
  ∀ state : Compilation, ∀ notice ∈ (step.run state).2.notices,
    notice ∈ state.notices ∨ Founded task known notice

/-- The nodes that a call works on hold known pointers only. -/
def Call.Within : Call → Prop
  | .ensure _ => True
  | .resolve pointer _ => known pointer
  | .declare _ node | .hoist _ node | .expression _ _ node => node.Within known
  | .interface _ _ shape => ∀ part ∈ shape.parts, part.Within known
  | .composition _ _ _ branches shape =>
      ∀ part ∈ branches.allBranches ++ shape.parts, part.Within known

/-- The steps of the routine give founded notices only, and its calls work on nodes that hold
known pointers. -/
def Confined {α : Type} : Routine α → Prop
  | .done _ => True
  | .step action next => Warns task known action ∧ ∀ value, Confined (next value)
  | .call called next => called.Within known ∧ ∀ answer, Confined (next answer)

end

variable {task : Task} {known : String → Prop} {α β : Type}

namespace Warns

/-- A step that gives no notice. -/
theorem of_silent {step : Compile α}
    (silent : ∀ state : Compilation, (step.run state).2.notices = state.notices) :
    Warns task known step := by
  intro state notice listed
  rw [silent state] at listed
  exact Or.inl listed

theorem notify {notice : Notice} (founded : Founded task known notice) :
    Warns task known (Compile.notify notice) := by
  intro state other listed
  rcases List.mem_append.mp listed with before | last
  · exact Or.inl before
  · rw [List.mem_singleton.mp last]
    exact Or.inr founded

theorem declare (declaration : Declaration) : Warns task known (Compile.declare declaration) := by
  apply of_silent
  intro state
  change (if state.isDeclared declaration.name then _ else _ : Compilation).notices = state.notices
  split <;> rfl

theorem bind {step : Compile α} {next : α → Compile β} (warns : Warns task known step)
    (rest : ∀ value, Warns task known (next value)) : Warns task known (step >>= next) := by
  intro state notice listed
  rcases rest _ _ notice listed with before | founded
  · exact warns state notice before
  · exact Or.inr founded

theorem declareUnion (channel : Channel) (direction : Direction) :
    Warns task known (Task.declareUnion channel direction) := by
  refine bind (.of_silent fun _ => rfl) fun compilation => ?_
  dsimp only
  split
  · exact .of_silent fun _ => rfl
  · exact bind (.of_silent fun _ => rfl) fun _ => .declare _

theorem declareAllUnions (channels : List Channel) :
    Warns task known (Task.declareAllUnions channels) := by
  induction channels with
  | nil => exact .of_silent fun _ => rfl
  | cons channel rest ih =>
      exact bind (bind (declareUnion channel .send) fun _ => declareUnion channel .receive)
        fun _ => ih

end Warns

namespace Confined

theorem pure (value : α) : Confined task known (Pure.pure value : Routine α) :=
  trivial

theorem bind {routine : Routine α} {next : α → Routine β} (confined : Confined task known routine)
    (rest : ∀ value, Confined task known (next value)) :
    Confined task known (routine >>= next) := by
  change Confined task known (routine.bind next)
  induction routine with
  | done value => exact rest value
  | step action after ih => exact ⟨confined.1, fun value => ih value (confined.2 value)⟩
  | call called after ih => exact ⟨confined.1, fun answer => ih answer (confined.2 answer)⟩

theorem take {step : Compile α} (warns : Warns task known step) :
    Confined task known (Routine.take step) :=
  ⟨warns, fun _ => trivial⟩

theorem silent {step : Compile α}
    (silent : ∀ state : Compilation, (step.run state).2.notices = state.notices) :
    Confined task known (Routine.take step) :=
  take (.of_silent silent)

theorem ask {called : Call} (within : called.Within known) :
    Confined task known (Routine.ask called) :=
  ⟨within, fun _ => trivial⟩

theorem ite {condition : Prop} [Decidable condition] {first second : Routine α}
    (confined : Confined task known first) (also : Confined task known second) :
    Confined task known (if condition then first else second) := by
  split
  · exact confined
  · exact also

theorem each {visit : α → Routine β} {items : List α}
    (confined : ∀ item ∈ items, Confined task known (visit item)) :
    Confined task known (Routine.each visit items) := by
  induction items with
  | nil => exact pure []
  | cons item rest ih =>
      refine (confined item List.mem_cons_self).bind fun result => ?_
      refine (ih fun later listed => confined later (List.mem_cons_of_mem item listed)).bind ?_
      exact fun others => pure (result :: others)

theorem visitAll {visit : α → Routine Unit} {items : List α}
    (confined : ∀ item ∈ items, Confined task known (visit item)) :
    Confined task known (Routine.visitAll visit items) := by
  induction items with
  | nil => exact pure ()
  | cons item rest ih =>
      exact (confined item List.mem_cons_self).bind fun _ =>
        ih fun later listed => confined later (List.mem_cons_of_mem item listed)

end Confined

/-! ## The functions of a compilation -/

theorem confined_ensure (schemas : ∀ entry ∈ task.document.schemas, entry.2.Within known)
    (key : String) : Confined task known (ensureRoutine task key) := by
  unfold ensureRoutine
  split
  · next name node named found =>
      refine Confined.bind (.silent fun _ => rfl) fun compilation => ?_
      split
      · exact .pure ()
      · obtain ⟨entry, first, rfl⟩ := Option.map_eq_some_iff.mp found
        have within := schemas entry (List.mem_of_find?_eq_some first)
        refine Confined.bind (.silent fun _ => rfl) fun _ => ?_
        exact Confined.bind (.ask within) fun _ => .silent fun _ => rfl
  · exact .pure ()

/-- Notice of an unresolved reference is given where the key of the pointer has no name. -/
theorem confined_resolve {pointer : String} (isKnown : known pointer) (inRecord : Bool) :
    Confined task known (resolveRoutine task pointer inRecord) := by
  unfold resolveRoutine
  split
  · have founded : Founded task known (.unsupportedReference pointer) :=
      fun _ same => nomatch same
    exact Confined.bind (.take (.notify founded)) fun _ => .pure _
  · next key below =>
      split
      · next unnamed =>
          have founded : Founded task known (.unresolvedReference pointer) := by
            intro other same
            cases same
            exact ⟨isKnown, key, below, unnamed⟩
          exact Confined.bind (.take (.notify founded)) fun _ => .pure _
      · next name _ =>
          refine Confined.bind (.silent fun _ => rfl) fun compilation => ?_
          dsimp only
          split
          · split
            · exact .pure _
            · have founded : Founded task known
                  (.circularReference (compilation.active.headD "") key task.fallback) :=
                fun _ same => nomatch same
              exact Confined.bind (.take (.notify founded)) fun _ => .pure _
          · exact Confined.bind (.ask trivial) fun _ => .pure _

theorem confined_declare {node : SchemaNode} (within : node.Within known) (name : String) :
    Confined task known (declareRoutine task name node) := by
  cases node with
  | reference pointer =>
      exact Confined.bind (.ask (SchemaNode.within_reference_iff.mp within)) fun _ =>
        .take (.declare _)
  | schema annotations values composition shape =>
      have parts : ∀ part ∈ shape.parts, part.Within known := fun part listed =>
        SchemaNode.within_schema_iff.mp within part (List.mem_append_right _ listed)
      rw [declareRoutine]
      refine Confined.ite (.take (.declare _)) (Confined.ite ?_ (.ask parts))
      exact Confined.bind (.ask within) fun _ => .take (.declare _)

section

variable {shape : Shape SchemaNode}

theorem confined_index (within : ∀ part ∈ shape.parts, part.Within known) (own : String) :
    Confined task known (indexRoutine own shape.additional) := by
  unfold indexRoutine
  split
  · exact .pure _
  · exact .pure _
  · next node additional =>
      exact Confined.bind (.ask (within node (Shape.mem_parts_of_additional additional)))
        fun _ => .pure _

theorem confined_interface (within : ∀ part ∈ shape.parts, part.Within known) (name : String)
    (annotations : Annotations) : Confined task known (interfaceRoutine name annotations shape) := by
  have body : Confined task known (bodyRoutine name shape) := by
    refine Confined.bind (.each fun property listed => ?_) fun fields => ?_
    · exact Confined.bind (.ask (within _ (Shape.mem_parts_of_property listed))) fun _ => .pure _
    · exact (confined_index within name).bind fun _ => .pure _
  exact body.bind fun _ => .take (.declare _)

end

theorem confined_hoist {node : SchemaNode} (within : node.Within known) (name : String) :
    Confined task known (hoistRoutine name node) :=
  Confined.bind (.silent fun _ => rfl) fun _ => Confined.bind (.ask within) fun _ => .pure _

section

variable {annotations : Annotations} {composition : Composition SchemaNode}
  {shape : Shape SchemaNode}

theorem confined_typed (name : String) (inRecord : Bool)
    (within : ∀ part ∈ composition.allBranches ++ shape.parts, part.Within known) :
    Confined task known (typedRoutine name inRecord annotations composition shape) := by
  have item : Confined task known (itemRoutine (name ++ "Item") inRecord shape) := by
    unfold itemRoutine
    split
    · next item items =>
        exact .ask (within item (List.mem_append_right _ (Shape.mem_parts_of_items items)))
    · exact .pure _
  unfold typedRoutine
  refine Confined.ite (item.bind fun _ => .pure _)
    (Confined.ite (.ask (SchemaNode.within_schema_iff.mpr within)) ?_)
  split
  · exact .pure _
  · exact .pure _

theorem confined_expression {node : SchemaNode} (within : node.Within known) (name : String)
    (inRecord : Bool) : Confined task known (expressionRoutine task name inRecord node) := by
  unfold expressionRoutine
  split
  · exact .ask (SchemaNode.within_reference_iff.mp within)
  · exact Confined.ite (.ask within) (.pure _)
  · next annotations composition shape =>
      have parts := SchemaNode.within_schema_iff.mp within
      refine Confined.ite (.ask parts) ?_
      split
      · -- a copy with one type name has the parts of the node
        exact Confined.bind (.each fun _ _ => .ask (SchemaNode.within_schema_iff.mpr parts))
          fun _ => .pure _
      · exact confined_typed name inRecord parts

theorem confined_composition (name : String) (inRecord : Bool)
    (within : ∀ part ∈ composition.allBranches ++ shape.parts, part.Within known) :
    Confined task known
      (compositionRoutine task name inRecord annotations composition shape) := by
  have keyword : ∀ number (branches : List SchemaNode),
      (∀ branch ∈ branches, branch ∈ composition.allBranches) →
        Confined task known (branchesRoutine name inRecord number branches) := by
    intro number branches listed
    refine .each fun branch numbered => .ask ?_
    exact within _ (List.mem_append_left _ (listed _ (List.fst_mem_of_mem_zipIdx numbered)))
  have groups : Confined task known (groupsRoutine task name inRecord composition) := by
    refine (keyword _ _ fun _ listed => Composition.mem_allBranches.mpr (Or.inl listed)).bind ?_
    intro all
    refine (keyword _ _ fun _ listed =>
      Composition.mem_allBranches.mpr (Or.inr (Or.inl listed))).bind ?_
    intro any
    refine (keyword _ _ fun _ listed =>
      Composition.mem_allBranches.mpr (Or.inr (Or.inr listed))).bind ?_
    exact fun one => .pure _
  refine groups.bind fun made => ?_
  dsimp only
  split
  · -- the copy without the composition has fewer parts
    have rest : SchemaNode.Within known (.schema { annotations with description := none } []
        ⟨none, none, none⟩ shape) :=
      SchemaNode.within_schema_iff.mpr fun part listed => within part (List.mem_append_right _ listed)
    exact Confined.bind (.ask rest) fun _ => .pure _
  · exact .pure _

end

/-- What is done for a call is confined when the call and the component schemas are. -/
theorem confined_routineOf (schemas : ∀ entry ∈ task.document.schemas, entry.2.Within known)
    {called : Call} (within : called.Within known) :
    Confined task known (routineOf task called) := by
  cases called with
  | ensure key => exact confined_ensure schemas key
  | resolve pointer inRecord => exact confined_resolve within inRecord
  | declare name node => exact confined_declare within name
  | interface name annotations shape => exact confined_interface within name annotations
  | hoist name node => exact confined_hoist within name
  | expression name inRecord node => exact confined_expression within name inRecord
  | composition name inRecord annotations composition shape =>
      exact confined_composition name inRecord within

/-! ## Whole documents -/

/-- The payload and the headers of the message hold known pointers only. -/
def MessageWithin (known : String → Prop) (message : Message) : Prop :=
  message.payload.Within known ∧ ∀ headers, message.headers = some headers → headers.Within known

theorem confined_message {message : Message} (within : MessageWithin known message) :
    Confined task known (messageRoutine message) := by
  refine Confined.bind (.silent fun _ => rfl) fun compilation => ?_
  refine Confined.ite ?_ ?_
  · have founded : Founded task known (.repeatedMessage message.name) := by
      rintro _ ⟨⟩
    exact .take (.notify founded)
  · refine Confined.bind (.silent fun _ => rfl) fun payload => ?_
    have rest : ∀ headers : Option (String × SchemaNode),
        (∀ entry, headers = some entry → entry.2.Within known) →
        Confined task known (do
          let name ← Routine.take (Compile.reserve (declarationName message.name "" ++ "Message"))
          Routine.take (Compile.nameMessage message.name name)
          Routine.ask (.declare payload message.payload)
          headers.elim (pure ()) fun entry => Routine.ask (.declare entry.1 entry.2)
          Routine.take (Compile.declare
            (Task.messageInterface name message.description payload (headers.map (·.1))))) := by
      intro headers headersWithin
      refine Confined.bind (.silent fun _ => rfl) fun name => ?_
      refine Confined.bind (.silent fun _ => rfl) fun _ => ?_
      refine Confined.bind (.ask within.1) fun _ => ?_
      cases headers with
      | none => exact .take (.declare _)
      | some entry =>
          exact Confined.bind (.ask (headersWithin entry rfl)) fun _ => .take (.declare _)
    cases given : message.headers with
    | none => exact rest none (by rintro _ ⟨⟩)
    | some node =>
        refine Confined.bind (.silent fun _ => rfl) fun name => rest (some (name, node)) ?_
        rintro entry ⟨⟩
        exact within.2 node given

/-- The routine of a document is confined when its messages are. -/
theorem confined_routine
    (messages : ∀ message ∈ task.document.messages, MessageWithin known message)
    (channels : ∀ message ∈ task.document.channels.flatMap Task.channelMessages,
      MessageWithin known message) : Confined task known task.routine := by
  refine Confined.bind (.visitAll fun key _ => .ask trivial) fun _ => ?_
  refine Confined.bind (.visitAll fun message listed => confined_message (messages message listed))
    fun _ => ?_
  refine Confined.bind (.visitAll fun message listed => confined_message (channels message listed))
    fun _ => ?_
  exact .take (.declareAllUnions _)

/-- A confined routine that halts gives founded notices only. -/
theorem Halts.founded (schemas : ∀ entry ∈ task.document.schemas, entry.2.Within known)
    {routine : Routine α} {state after : Compilation} {value : α}
    (halts : Halts task routine state value after) (confined : Confined task known routine) :
    ∀ notice ∈ after.notices, notice ∈ state.notices ∨ Founded task known notice := by
  induction halts with
  | done value state => exact fun _ listed => Or.inl listed
  | step _ ih =>
      intro notice listed
      rcases ih (confined.2 _) notice listed with before | founded
      · exact confined.1 _ notice before
      · exact Or.inr founded
  | call _ _ answers ih =>
      intro notice listed
      rcases ih (confined.2 _) notice listed with before | founded
      · exact answers (confined_routineOf schemas confined.1) notice before
      · exact Or.inr founded

/-- Compiling a document, of which all nodes hold known pointers, gives founded notices. -/
theorem founded_of_mem_notices {document : Document} (options : Options)
    (schemas : ∀ entry ∈ document.schemas, entry.2.Within known)
    (messages : ∀ message ∈ document.messages, MessageWithin known message)
    (channels : ∀ message ∈ document.channels.flatMap Task.channelMessages,
      MessageWithin known message) {notice : Notice}
    (listed : notice ∈ (compile document options).notices) :
    Founded (Task.ofDocument document options) known notice := by
  have halts := (halts_iff_compile document options _).mpr rfl
  rcases halts.founded schemas (confined_routine messages channels) notice listed with
    before | founded
  · exact absurd before List.not_mem_nil
  · exact founded

end TypeScript

end AsyncTypes
