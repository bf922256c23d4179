import AsyncTypes.Proofs.Compilation.Depiction
import AsyncTypes.Proofs.Compilation.Invariant
import AsyncTypes.Proofs.Name.Reserved

/-!
# Reserved words among the declared names

A key never gives a reserved name, and neither does a number or a fixed word after a name.  The
type of a property is declared apart under the name of its interface and the words of its key,
though, and these two together may spell a reserved word.  So a reserved name is declared exactly
when some property of an interface completes it.

What calls are made for which names is read off the routines: a routine *observes* a condition on
calls and a property of states when each call that it makes meets the condition, and each of its
steps keeps the property, whatever its calls answer.
-/

namespace AsyncTypes.TypeScript

open Routine

variable {α β : Type} {task : Task} {state place after : Compilation}

/-! ## What a routine observes -/

/-- The routine makes admitted calls only, and its steps keep the property. -/
def Observes (admits : Call → Prop) (holds : Compilation → Prop) : Routine α → Prop
  | .done _ => True
  | .step action next =>
      Retains holds action ∧
        ∀ state : Compilation, Observes admits holds (next (action.run state).1)
  | .call called next => admits called ∧ ∀ answer, Observes admits holds (next answer)

variable {admits : Call → Prop} {holds : Compilation → Prop}

namespace Observes

theorem pure (value : α) : Observes admits holds (Pure.pure value : Routine α) :=
  trivial

theorem take {action : Compile α} (retains : Retains holds action) :
    Observes admits holds (Routine.take action) :=
  ⟨retains, fun _ => trivial⟩

theorem get : Observes admits holds (Routine.take MonadState.get) :=
  take fun _ held => held

theorem ask {called : Call} (admitted : admits called) :
    Observes admits holds (Routine.ask called) :=
  ⟨admitted, fun _ => trivial⟩

theorem bind {routine : Routine α} {next : α → Routine β} (observes : Observes admits holds routine)
    (rest : ∀ value, Observes admits holds (next value)) :
    Observes admits holds (routine >>= next) := by
  change Observes admits holds (routine.bind next)
  induction routine with
  | done value => exact rest value
  | step action after ih => exact ⟨observes.1, fun state => ih _ (observes.2 state)⟩
  | call called after ih => exact ⟨observes.1, fun answer => ih answer (observes.2 answer)⟩

/-- What is made of the value at the end does not matter. -/
theorem map {routine : Routine α} {result : α → β} (observes : Observes admits holds routine) :
    Observes admits holds (routine >>= fun value => Pure.pure (result value)) :=
  observes.bind fun _ => pure _

/-- Both branches of a condition observe what they have to, each where it is taken. -/
theorem ite {condition : Prop} [Decidable condition] {first second : Routine α}
    (observes : condition → Observes admits holds first)
    (also : ¬ condition → Observes admits holds second) :
    Observes admits holds (if condition then first else second) := by
  by_cases decided : condition
  · rw [if_pos decided]
    exact observes decided
  · rw [if_neg decided]
    exact also decided

theorem each {visit : α → Routine β} {items : List α}
    (observes : ∀ item ∈ items, Observes admits holds (visit item)) :
    Observes admits holds (Routine.each visit items) := by
  induction items with
  | nil => exact pure _
  | cons item rest ih =>
      rw [List.forall_mem_cons] at observes
      exact observes.1.bind fun _ => (ih observes.2).map

theorem visitAll {visit : α → Routine Unit} {items : List α}
    (observes : ∀ item ∈ items, Observes admits holds (visit item)) :
    Observes admits holds (Routine.visitAll visit items) := by
  induction items with
  | nil => exact pure _
  | cons item rest ih =>
      rw [List.forall_mem_cons] at observes
      exact observes.1.bind fun _ => ih observes.2

end Observes

/-- A call that is made by a routine which observes the condition is admitted. -/
theorem Makes.admitted {routine : Routine α} {made : Call}
    (makes : Makes task routine state made place) (observes : Observes admits holds routine) :
    admits made := by
  induction makes with
  | step _ ih => exact ih (observes.2 _)
  | here => exact observes.1
  | later _ _ ih => exact ih (observes.2 _)

section

variable {root : Routine β} {start : Compilation}
  (inside : ∀ called place, Reached task root start called place → admits called →
    Observes admits holds (routineOf task called))

include inside

/-- When the routines of the admitted calls observe the condition, it is met by all calls on the
way. -/
theorem Reached.admitted (observes : Observes admits holds root) {called : Call}
    (reached : Reached task root start called place) : admits called := by
  induction reached with
  | made makes => exact makes.admitted observes
  | within reached makes ih => exact makes.admitted (inside _ _ reached ih)

/-- When the routines of the admitted calls observe the condition, the property is kept by a
routine whose calls are made on the way. -/
theorem Halts.observed {routine : Routine α} {value : α}
    (halts : Halts task routine state value after) (observes : Observes admits holds routine)
    (reaches : ∀ made place, Makes task routine state made place →
      Reached task root start made place) : holds state → holds after := by
  induction halts with
  | done value state => exact id
  | step _ ih =>
      have rest := ih (observes.2 _) fun made place makes => reaches made place (.step makes)
      exact fun held => rest (observes.1 _ held)
  | @call _ called _ _ _ _ _ _ answered _ ihCalled ihRest =>
      have reached := reaches _ _ .here
      have below := ihCalled (inside _ _ reached observes.1) fun made place makes =>
        .within reached makes
      have rest := ihRest (observes.2 _) fun made place makes => reaches made place
        (.later answered makes)
      exact fun held => rest (below held)

end

/-! ## Calls that are always made -/

/-- Every routine halts. -/
theorem exists_halts (routine : Routine α) (state : Compilation) :
    ∃ value after, Halts task routine state value after := by
  induction routine generalizing state with
  | done value => exact ⟨_, _, .done value state⟩
  | step action next ih =>
      obtain ⟨value, after, halts⟩ := ih _ (action.run state).2
      exact ⟨value, after, .step halts⟩
  | call called next ih =>
      obtain ⟨value, after, halts⟩ := ih _ ((task.action called).run state).2
      exact ⟨value, after, .call (halts_action called state) halts⟩

/-- A call that a routine makes is made whatever comes after the routine. -/
theorem Makes.bind {routine : Routine α} {made : Call}
    (makes : Makes task routine state made place) (next : α → Routine β) :
    Makes task (routine >>= next) state made place := by
  change Makes task (routine.bind next) state made place
  induction makes with
  | step _ ih => exact .step ih
  | here => exact .here
  | later answered _ ih => exact .later answered ih

/-- A call is made after a routine that halts when it is made from there on. -/
theorem Halts.makes {routine : Routine α} {next : α → Routine β} {value : α}
    {middle : Compilation} {made : Call} (halts : Halts task routine state value middle)
    (makes : Makes task (next value) middle made place) :
    Makes task (routine >>= next) state made place := by
  change Makes task (routine.bind next) state made place
  induction halts with
  | done => exact makes
  | step _ ih => exact .step (ih makes)
  | call answered _ _ ih => exact .later answered (ih makes)

/-- From every state on, the routine makes the call. -/
def Asks (task : Task) (routine : Routine α) (made : Call) : Prop :=
  ∀ state : Compilation, ∃ place, Makes task routine state made place

namespace Asks

variable {routine : Routine α} {next : α → Routine β} {made : Call}

theorem ask (called : Call) : Asks task (Routine.ask called) called :=
  fun state => ⟨state, .here⟩

theorem bind (asks : Asks task routine made) (next : α → Routine β) :
    Asks task (routine >>= next) made := by
  intro state
  obtain ⟨place, makes⟩ := asks state
  exact ⟨place, makes.bind next⟩

theorem later (routine : Routine α) (asks : ∀ value, Asks task (next value) made) :
    Asks task (routine >>= next) made := by
  intro state
  obtain ⟨value, middle, halts⟩ : ∃ value middle, Halts task routine state value middle :=
    exists_halts routine state
  obtain ⟨place, makes⟩ := asks value middle
  exact ⟨place, halts.makes makes⟩

theorem each {visit : α → Routine β} {items : List α} {item : α} (listed : item ∈ items)
    (asks : Asks task (visit item) made) : Asks task (Routine.each visit items) made := by
  induction items with
  | nil => exact absurd listed List.not_mem_nil
  | cons first rest ih =>
      rcases List.mem_cons.mp listed with rfl | among
      · exact asks.bind _
      · exact later _ fun _ => (ih among).bind _

/-- A call that is always made for a reached call is reached. -/
theorem reached {root : Routine β} {start : Compilation} {outer inner : Call}
    (asks : Asks task (routineOf task outer) inner)
    (reached : Reached task root start outer place) :
    ∃ place, Reached task root start inner place := by
  obtain ⟨inside, makes⟩ := asks place
  exact ⟨inside, .within reached makes⟩

end Asks

/-! ## Hoisted nodes -/

/-- The shape is that of a record. -/
def isRecord (shape : Shape SchemaNode) : Bool :=
  !shape.isArray && shape.isObject

/-- The type of the node is declared apart: an enumeration of texts, or, without values and
branches, a record under one of its type names. -/
def Task.hoists (task : Task) : SchemaNode → Bool
  | .reference _ => false
  | .schema _ (value :: values) _ _ => task.declaresEnumeration (value :: values)
  | .schema _ [] composition shape =>
      !composition.isUsed &&
        match shape.types with
        | .several names => names.any fun name => isRecord { shape with types := .single name }
        | _ => isRecord shape

/-- On the way of the compilation an interface is declared that has a property whose type is
declared apart, and the name of the interface and the words of the key together are the name. -/
def Completes (task : Task) (name : String) : Prop :=
  ∃ own annotations shape place,
    Reached task task.routine task.start (.interface own annotations shape) place ∧
      ∃ property ∈ shape.properties.getD [],
        task.hoists property.2 = true ∧ own ++ pascalCase property.1 = name

/-! ## Names that are explained -/

/-- The name is not reserved, or it is completed. -/
def Explained (task : Task) (name : String) : Prop :=
  isReserved name = true → Completes task name

theorem explained_append {ending : String} (ends : EndsNoWord ending) (name : String) :
    Explained task (name ++ ending) := by
  intro reserved
  rw [ends.isReserved_append] at reserved
  exact nomatch reserved

theorem explained_part (name : String) (number : Nat) :
    Explained task (name ++ "Part" ++ toString number) :=
  explained_append (endsNoWord_number number) _

theorem explained_declarationName (key ending : String) :
    Explained task (declarationName key ending) := by
  intro reserved
  rw [isReserved_declarationName] at reserved
  exact nomatch reserved

/-- A free name is explained when the wanted one is. -/
theorem Explained.free {wanted : String} (explained : Explained task wanted)
    (taken : List String) : Explained task (freeName taken wanted) := by
  intro reserved
  have kept := freeName_of_isReserved reserved
  rw [kept] at reserved ⊢
  exact explained reserved

/-- All names that are taken are explained. -/
def AllExplained (task : Task) (state : Compilation) : Prop :=
  ∀ name ∈ state.used, Explained task name

theorem retains_reserve {wanted : String} (explained : Explained task wanted) :
    Retains (AllExplained task) (Compile.reserve wanted) := by
  intro state held name taken
  rcases List.mem_append.mp taken with before | new
  · exact held name before
  · rw [List.mem_singleton.mp new]
    exact explained.free state.used

theorem retains_declare (declaration : Declaration) :
    Retains (AllExplained task) (Compile.declare declaration) := by
  intro state held
  rcases state.run_declare_cases declaration with refused | collected
  · rwa [refused]
  · rwa [collected]

theorem retains_notify (notice : Notice) :
    Retains (AllExplained task) (Compile.notify notice) :=
  fun _ held => held

/-- Parts are declared apart under explained names only. -/
def Admits (task : Task) : Call → Prop
  | .declare name _ | .hoist name _ => Explained task name
  | .expression name _ node => task.hoists node = true → Explained task name
  | .ensure _ | .resolve _ _ | .interface _ _ _ | .composition _ _ _ _ _ => True

/-- The names that a routine takes are explained, and so are those that it calls for. -/
abbrev Explains (task : Task) (routine : Routine α) : Prop :=
  Observes (Admits task) (AllExplained task) routine

/-- After an explained name is wanted, the routine goes on with an explained name. -/
theorem explains_reserve {wanted : String} {next : String → Routine α}
    (explained : Explained task wanted)
    (rest : ∀ own, Explained task own → Explains task (next own)) :
    Explains task (Routine.take (Compile.reserve wanted) >>= next) :=
  ⟨retains_reserve explained, fun state => rest _ (explained.free state.used)⟩

theorem explains_declare (declaration : Declaration) :
    Explains task (Routine.take (Compile.declare declaration)) :=
  .take (retains_declare declaration)

/-! ## The functions of a compilation -/

theorem explains_ensure (shaped : ∀ entry ∈ task.schemaNames, isReserved entry.2 = false)
    (key : String) : Explains task (ensureRoutine task key) := by
  unfold ensureRoutine
  split
  · next name node named _ =>
      have explained : Explained task name := by
        intro reserved
        rw [shaped _ (Task.mem_schemaNames_of_schemaName? named)] at reserved
        exact nomatch reserved
      refine Observes.get.bind fun _ => .ite (fun _ => .pure _) fun _ => ?_
      refine Observes.bind (.take fun _ held => held) fun _ => ?_
      exact Observes.bind (.ask explained) fun _ => .take fun _ held => held
  · exact .pure _

theorem explains_resolve (pointer : String) (inRecord : Bool) :
    Explains task (resolveRoutine task pointer inRecord) := by
  have told : ∀ notice, Explains task (do
      Routine.take (Compile.notify notice)
      return (.fallback : TypeExpr)) := fun notice => (Observes.take (retains_notify notice)).map
  unfold resolveRoutine
  split
  · exact told _
  · split
    · exact told _
    · refine Observes.get.bind fun _ => .ite (fun _ => ?_) fun _ => (Observes.ask trivial).map
      exact .ite (fun _ => .pure _) fun _ => told _

section

variable {name : String}

theorem explains_declareRoutine (explained : Explained task name) (node : SchemaNode) :
    Explains task (declareRoutine task name node) := by
  cases node with
  | reference pointer => exact Observes.bind (.ask trivial) fun _ => explains_declare _
  | schema annotations values composition shape =>
      rw [declareRoutine]
      refine .ite (fun _ => explains_declare _) fun _ => .ite (fun _ => ?_) fun _ => .ask trivial
      exact Observes.bind (.ask fun _ => explained) fun _ => explains_declare _

theorem explains_index (own : String) (additional : Additional SchemaNode) :
    Explains task (indexRoutine own additional) := by
  have ends : EndsNoWord "Value" := by decide
  cases additional with
  | absent => exact .pure _
  | allowed flag => exact .pure _
  | schema node => exact Observes.map (.ask fun _ => explained_append ends own)

/-- The properties of an interface that is declared complete its name. -/
theorem explains_interface {own : String} {annotations : Annotations} {shape : Shape SchemaNode}
    (reached : Reached task task.routine task.start (.interface own annotations shape) place) :
    Explains task (interfaceRoutine own annotations shape) := by
  have field : ∀ property ∈ shape.properties.getD [],
      Explains task (fieldRoutine own shape.required property) := by
    intro property listed
    exact Observes.map (.ask fun hoists _ =>
      ⟨own, annotations, shape, place, reached, property, listed, hoists, rfl⟩)
  have body : Explains task (bodyRoutine own shape) :=
    (Observes.each field).bind fun _ => (explains_index own shape.additional).map
  exact body.bind fun _ => explains_declare _

theorem explains_hoist (explained : Explained task name) (node : SchemaNode) :
    Explains task (hoistRoutine name node) :=
  explains_reserve explained fun _ ownExplained => Observes.map (.ask ownExplained)

/-- Under one type name at most, a record is the only shape that is declared apart under the
name itself. -/
theorem explains_typed {shape : Shape SchemaNode}
    (explained : isRecord shape = true → Explained task name) (inRecord : Bool)
    (annotations : Annotations) (composition : Composition SchemaNode) :
    Explains task (typedRoutine name inRecord annotations composition shape) := by
  have ends : EndsNoWord "Item" := by decide
  have item : Explains task (itemRoutine (name ++ "Item") inRecord shape) := by
    unfold itemRoutine
    split
    · exact .ask fun _ => explained_append ends name
    · exact .pure _
  unfold typedRoutine
  refine .ite (fun _ => item.map) fun noArray => .ite (fun object => ?_) fun _ => ?_
  · exact .ask (explained (by simp [isRecord, noArray, object]))
  · split
    · exact .pure _
    · exact .pure _

theorem explains_expression {node : SchemaNode}
    (explained : task.hoists node = true → Explained task name) (inRecord : Bool) :
    Explains task (expressionRoutine task name inRecord node) := by
  unfold expressionRoutine
  split
  · exact .ask trivial
  · exact .ite (fun enumerated => .ask (explained enumerated)) fun _ => .pure _
  · next annotations composition shape =>
      refine .ite (fun _ => .ask trivial) fun unused => ?_
      split
      · next names several =>
          have copies : ∀ typeName ∈ names, task.hoists (.schema annotations [] composition
              { shape with types := .single typeName }) = true → Explained task name := by
            intro typeName listed hoists
            apply explained
            simp only [Task.hoists, Bool.and_eq_true] at hoists ⊢
            rw [several]
            exact ⟨hoists.1, List.any_eq_true.mpr ⟨typeName, listed, hoists.2⟩⟩
          exact Observes.map (.each fun typeName listed => .ask (copies typeName listed))
      · next single =>
          refine explains_typed (fun record => explained ?_) inRecord annotations composition
          simpa [Task.hoists, unused] using record

theorem explains_composition (inRecord : Bool) (annotations : Annotations)
    (composition : Composition SchemaNode) (shape : Shape SchemaNode) :
    Explains task (compositionRoutine task name inRecord annotations composition shape) := by
  have branches : ∀ number branches,
      Explains task (branchesRoutine name inRecord number branches) :=
    fun number branches => .each fun branch _ => .ask fun _ => explained_part name branch.2
  have groups : Explains task (groupsRoutine task name inRecord composition) :=
    (branches _ _).bind fun _ => (branches _ _).bind fun _ => (branches _ _).map
  refine groups.bind fun found => .ite (fun _ => ?_) fun _ => .pure _
  exact Observes.map (.ask fun _ => explained_part name found.2)

end

/-- Whatever is admitted on the way calls for explained names only. -/
theorem explains_routineOf (shaped : ∀ entry ∈ task.schemaNames, isReserved entry.2 = false)
    {called : Call} (reached : Reached task task.routine task.start called place)
    (admitted : Admits task called) : Explains task (routineOf task called) := by
  cases called with
  | ensure key => exact explains_ensure shaped key
  | resolve pointer inRecord => exact explains_resolve pointer inRecord
  | declare name node => exact explains_declareRoutine admitted node
  | interface name annotations shape => exact explains_interface reached
  | hoist name node => exact explains_hoist admitted node
  | expression name inRecord node => exact explains_expression admitted inRecord
  | composition name inRecord annotations composition shape =>
      exact explains_composition inRecord annotations composition shape

/-! ## Whole documents -/

theorem explains_message (message : Message) : Explains task (messageRoutine message) := by
  have part : ∀ ending ∈ ["Payload", "Headers", "Message"],
      Explained task (declarationName message.name "" ++ ending) := by
    intro ending listed
    have ends : ∀ ending ∈ ["Payload", "Headers", "Message"], EndsNoWord ending := by decide
    exact explained_append (ends ending listed) _
  refine Observes.get.bind fun _ => .ite (fun _ => .take (retains_notify _)) fun _ => ?_
  refine explains_reserve (part "Payload" (by simp)) fun payload payloadExplained => ?_
  have rest : ∀ ending : String → Routine Unit, (∀ name, Explains task (ending name)) →
      Explains task (do
        let name ← Routine.take (Compile.reserve (declarationName message.name "" ++ "Message"))
        Routine.take (Compile.nameMessage message.name name)
        Routine.ask (.declare payload message.payload)
        ending name) := by
    intro ending endingExplains
    refine explains_reserve (part "Message" (by simp)) fun name _ => ?_
    refine Observes.bind (.take fun _ held => held) fun _ => ?_
    exact Observes.bind (.ask payloadExplained) fun _ => endingExplains name
  cases message.headers with
  | none => exact rest _ fun _ => explains_declare _
  | some node =>
      refine explains_reserve (part "Headers" (by simp)) fun name explained => ?_
      exact rest _ fun _ => Observes.bind (.ask explained) fun _ => explains_declare _

theorem retains_union (channel : Channel) (direction : Direction) :
    Retains (AllExplained task) (Task.declareUnion channel direction) := by
  intro state held
  have run : (Task.declareUnion channel direction).run state =
      (if (Task.unionMembers state (channel.operations direction)).isEmpty then pure () else do
        let name ← Compile.reserve (declarationName channel.name (Task.unionEnding direction))
        Compile.declare (.alias name none (TypeExpr.joined .union
          ((Task.unionMembers state (channel.operations direction)).map .named)))).run state := rfl
  rw [run]
  split
  · exact held
  · exact retains_declare _ _
      (retains_reserve (explained_declarationName channel.name _) state held)

theorem retains_allUnions (channels : List Channel) :
    Retains (AllExplained task) (Task.declareAllUnions channels) := by
  induction channels with
  | nil => exact fun _ held => held
  | cons channel rest ih =>
      intro state held
      exact ih _ (retains_union channel .receive _ (retains_union channel .send _ held))

theorem explains_document : Explains task task.routine := by
  refine Observes.bind (.visitAll fun _ _ => .ask trivial) fun _ => ?_
  refine Observes.bind (.visitAll fun message _ => explains_message message) fun _ => ?_
  refine Observes.bind (.visitAll fun message _ => explains_message message) fun _ => ?_
  exact .take (retains_allUnions _)

/-- The names that a compilation takes are explained. -/
theorem allExplained_compile (document : Document) (options : Options) :
    AllExplained (Task.ofDocument document options) (compile document options) := by
  let task := Task.ofDocument document options
  have shaped : ∀ entry ∈ task.schemaNames, isReserved entry.2 = false :=
    fun _ listed => isReserved_of_mem_nameKeys listed
  have start : AllExplained task task.start := by
    intro name taken reserved
    obtain ⟨entry, listed, rfl⟩ := List.mem_map.mp taken
    rw [shaped entry listed] at reserved
    exact nomatch reserved
  have halts := (halts_iff_compile document options _).mpr rfl
  exact halts.observed (fun _ _ reached admitted => explains_routineOf shaped reached admitted)
    explains_document (fun _ _ makes => .made makes) start

/-! ## Completed names are taken -/

/-- An interface asks for the type of each of its properties. -/
theorem asks_interface (own : String) (annotations : Annotations) {shape : Shape SchemaNode}
    {property : String × SchemaNode} (listed : property ∈ shape.properties.getD []) :
    Asks task (routineOf task (.interface own annotations shape))
      (.expression (own ++ pascalCase property.1) true property.2) := by
  have field : Asks task (fieldRoutine own shape.required property)
      (.expression (own ++ pascalCase property.1) true property.2) := (Asks.ask _).bind _
  have body : Asks task (bodyRoutine own shape)
      (.expression (own ++ pascalCase property.1) true property.2) :=
    (Asks.each listed field).bind _
  exact body.bind _

theorem asks_typed (name : String) (inRecord : Bool) (annotations : Annotations)
    (composition : Composition SchemaNode) {shape : Shape SchemaNode}
    (record : isRecord shape = true) :
    Asks task (typedRoutine name inRecord annotations composition shape)
      (.hoist name (.schema annotations [] composition shape)) := by
  simp only [isRecord, Bool.and_eq_true, Bool.not_eq_true'] at record
  simp only [typedRoutine, record.1, record.2]
  exact Asks.ask _

/-- The type of a node that is declared apart is declared under the name, perhaps by way of a
copy with one type name. -/
theorem Reached.hoists {root : Routine β} {start : Compilation} {name : String} {inRecord : Bool}
    {node : SchemaNode} (hoists : task.hoists node = true)
    (reached : Reached task root start (.expression name inRecord node) place) :
    ∃ hoisted place, Reached task root start (.hoist name hoisted) place := by
  cases node with
  | reference pointer => exact nomatch hoists
  | schema annotations values composition shape =>
      cases values with
      | cons value values =>
          have asks : Asks task (expressionRoutine task name inRecord
              (.schema annotations (value :: values) composition shape))
              (.hoist name (.schema annotations (value :: values) composition shape)) := by
            simp only [Task.hoists] at hoists
            simp only [expressionRoutine, hoists]
            exact Asks.ask _
          exact ⟨_, asks.reached reached⟩
      | nil =>
          simp only [Task.hoists, Bool.and_eq_true, Bool.not_eq_true'] at hoists
          obtain ⟨unused, record⟩ := hoists
          have typed : ∀ types, (∀ names, types ≠ .several names) →
              isRecord { shape with types := types } = true →
                Asks task (expressionRoutine task name inRecord
                    (.schema annotations [] composition { shape with types := types }))
                  (.hoist name
                    (.schema annotations [] composition { shape with types := types })) := by
            intro types single record
            have asks : Asks task (typedRoutine name inRecord annotations composition
                  { shape with types := types })
                (.hoist name
                  (.schema annotations [] composition { shape with types := types })) :=
              asks_typed name inRecord annotations composition record
            cases types with
            | several names => exact absurd rfl (single names)
            | absent => simpa [expressionRoutine, unused] using asks
            | single typeName => simpa [expressionRoutine, unused] using asks
          obtain ⟨types, properties, required, items, additional⟩ := shape
          cases types with
          | absent => exact ⟨_, (typed _ (by simp) record).reached reached⟩
          | single typeName => exact ⟨_, (typed _ (by simp) record).reached reached⟩
          | several names =>
              obtain ⟨typeName, listed, record⟩ := List.any_eq_true.mp record
              have copied : Asks task (expressionRoutine task name inRecord (.schema annotations []
                    composition ⟨.several names, properties, required, items, additional⟩))
                  (.expression name inRecord (.schema annotations [] composition
                    ⟨.single typeName, properties, required, items, additional⟩)) := by
                simp only [expressionRoutine, unused]
                exact (Asks.each listed (Asks.ask _)).bind _
              obtain ⟨place, copyReached⟩ := copied.reached reached
              exact ⟨_, (typed _ (by simp) record).reached copyReached⟩

/-- Once a name is taken, it stays taken. -/
theorem retains_taken {step : Compile α} (leads : Leads Compilation.Onward step) (name : String) :
    Retains (fun state => name ∈ state.used) step :=
  fun state taken => (leads state).used.subset taken

theorem invariant_taken (name : String) : Invariant fun state => name ∈ state.used where
  reserve := fun wanted => retains_taken (Leads.reserve wanted) name
  notify := fun _ _ taken => taken
  enter := fun _ _ taken => taken
  leave := fun _ _ taken => taken
  nameMessage := fun _ _ _ _ taken => taken
  declare := fun declaration _ => retains_taken (Leads.declare declaration) name

/-- The wanted name is taken when a name is reserved for it. -/
theorem mem_used_reserve (wanted : String) (state : Compilation) :
    wanted ∈ ((Compile.reserve wanted).run state).2.used := by
  change wanted ∈ state.used ++ [freeName state.used wanted]
  by_cases taken : wanted ∈ state.used
  · exact List.mem_append_left _ taken
  · simp [freeName, taken]

/-- A name under which some part is declared apart is taken in the end. -/
theorem Reached.mem_used_compile {document : Document} {options : Options} {wanted : String}
    {node : SchemaNode}
    (reached : Reached (Task.ofDocument document options)
      (Task.ofDocument document options).routine (Task.ofDocument document options).start
      (.hoist wanted node) place) : wanted ∈ (compile document options).used := by
  have shaped := namesShaped_ofDocument document options
  have invariant := invariant_taken wanted
  have halts := (halts_iff_compile document options _).mpr rfl
  have upholds : Upholds _ (Task.ofDocument document options).routine _ :=
    upholds_routine invariant (retains_taken (leads_declareAllUnions _) wanted)
  have declares := Reached.within reached (.step .here)
  obtain ⟨named, kept⟩ := declares.upheld invariant shaped upholds halts
  exact kept ((shaped.action_upheld invariant named _).2 (mem_used_reserve wanted place))

/-! ## Reserved names -/

/-- A reserved word is declared, in some spelling of upper and lower case, exactly when a property
of an interface completes it: its type is declared apart, and the name of the interface with the
words of the key spells the word. -/
theorem reserved_mem_declarations_iff {document : Document} (distinct : document.KeysDistinct)
    (options : Options) {name : String} (reserved : isReserved name = true) :
    name ∈ (generate document options).declarations ↔
      Completes (Task.ofDocument document options) name := by
  have accounts := (sound_compile distinct options).accounts
  constructor
  · intro declared
    exact allExplained_compile document options name (accounts.namesUsed name declared) reserved
  · rintro ⟨own, annotations, shape, place, reached, property, listed, hoists, rfl⟩
    obtain ⟨inside, asked⟩ := (asks_interface own annotations listed).reached reached
    obtain ⟨hoisted, last, hoistReached⟩ := asked.hoists hoists
    exact mem_names_compile_of_mem_used distinct options hoistReached.mem_used_compile

/-- Names with a record for their space. -/
def spacedNames : Document :=
  componentsOnly [("name", recordOf [("space", recordOf [])])]

theorem declarations_spacedNames :
    (generate spacedNames .default).declarations = ["NameSpace", "Name"] := by
  rfl

/-- The key `name` with the key `space` completes the reserved word `namespace`, and nothing
completes `keyof`. -/
theorem spacedNames_completes :
    spacedNames.KeysDistinct ∧ isReserved "NameSpace" = true ∧ isReserved "KeyOf" = true ∧
      Completes (Task.ofDocument spacedNames .default) "NameSpace" ∧
      ¬ Completes (Task.ofDocument spacedNames .default) "KeyOf" := by
  have distinct : spacedNames.KeysDistinct := by decide
  have space : isReserved "NameSpace" = true := by decide
  have keyOf : isReserved "KeyOf" = true := by decide
  refine ⟨distinct, space, keyOf, ?_, ?_⟩
  · rw [← reserved_mem_declarations_iff distinct .default space, declarations_spacedNames]
    decide
  · rw [← reserved_mem_declarations_iff distinct .default keyOf, declarations_spacedNames]
    decide

/-- A reserved word is declared. -/
theorem spacedNames_declares_reserved :
    ∃ name ∈ (generate spacedNames .default).declarations, isReserved name = true :=
  ⟨"NameSpace", by rw [declarations_spacedNames]; decide, by decide⟩

end AsyncTypes.TypeScript
