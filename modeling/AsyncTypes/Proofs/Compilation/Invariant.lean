import AsyncTypes.Proofs.Compilation.Independence
import AsyncTypes.Proofs.Compilation.Termination

/-!
# Invariants of a compilation

A compilation declares well-formed declarations only: their names and the names of their
members have the shape of names, and their types can be written.  So a property of states
that every operation keeps, when what it adds is well formed, is kept by whole routines, and
it is carried from every call that is made on the way to the end of the compilation.
-/

namespace AsyncTypes.TypeScript

open Routine

variable {α β : Type} {task : Task}

/-! ## Well-formed declarations -/

namespace Declaration

/-- The members of an enumeration, each with its value. -/
def members : Declaration → List (String × String)
  | .enumeration _ _ members => members
  | .alias _ _ _ | .interface _ _ _ _ => []

/-- All names have the shape of names, and all types can be written. -/
structure WellFormed (declaration : Declaration) : Prop where
  named : IsName declaration.name
  types : AllWritable declaration.types
  members : ∀ member ∈ declaration.members, IsName member.1

variable {name : String} (named : IsName name) (description : Option String)

include named

theorem wellFormed_alias {type : TypeExpr} (writable : type.Writable) :
    (Declaration.alias name description type).WellFormed where
  named := named
  types := allWritable_nil.cons writable
  members := fun _ listed => absurd listed List.not_mem_nil

theorem wellFormed_enumerationOf (values : List String) :
    (enumerationOf name description values).WellFormed where
  named := named
  types := allWritable_nil
  members := fun _ listed => isName_of_mem_enumMembersFrom (List.of_mem_zip listed).1

theorem wellFormed_interface {fields : List Field} {index : Option TypeExpr}
    (writable : RecordWritable (fields, index)) :
    (interface name description fields index).WellFormed where
  named := named
  types := writable
  members := fun _ listed => absurd listed List.not_mem_nil

theorem wellFormed_messageInterface {payload : String} {headers : Option String}
    (payloadNamed : IsName payload) (headersNamed : ∀ name ∈ headers, IsName name) :
    (Task.messageInterface name description payload headers).WellFormed where
  named := named
  types := allWritable_messageInterface description payloadNamed headersNamed
  members := fun _ listed => absurd listed List.not_mem_nil

end Declaration

/-! ## Properties that operations keep -/

/-- The step leads from states with the property to states with the property. -/
def Retains (holds : Compilation → Prop) (step : Compile α) : Prop :=
  ∀ state : Compilation, holds state → holds (step.run state).2

/-- Every operation of a compilation that adds what is well formed keeps the property. -/
structure Invariant (holds : Compilation → Prop) : Prop where
  reserve : ∀ wanted, Retains holds (Compile.reserve wanted)
  notify : ∀ notice, Retains holds (Compile.notify notice)
  enter : ∀ key, Retains holds (Compile.enter key)
  leave : ∀ key, Retains holds (Compile.leave key)
  nameMessage : ∀ message name, IsName name → Retains holds (Compile.nameMessage message name)
  declare : ∀ declaration : Declaration, declaration.WellFormed →
    Retains holds (Compile.declare declaration)

/-- A call is made for a name. -/
def Call.Named : Call → Prop
  | .ensure _ | .resolve _ _ => True
  | .declare name _ | .interface name _ _ | .hoist name _ | .expression name _ _
  | .composition name _ _ _ _ => IsName name

/-- A type that a call answers can be written. -/
def Call.Writes : (called : Call) → called.Answer → Prop
  | .ensure _, _ | .declare _ _, _ | .interface _ _ _, _ => True
  | .resolve _ _, type | .hoist _ _, type | .expression _ _ _, type
  | .composition _ _ _ _ _, type => TypeExpr.Writable type

/-- Each step of the routine keeps the property, each call is made for a name, and the value
at the end meets the postcondition when the types that calls answer can be written. -/
def Upholds (holds : Compilation → Prop) : Routine α → (α → Prop) → Prop
  | .done value, post => post value
  | .step action next, post =>
      Retains holds action ∧ ∀ state : Compilation, Upholds holds (next (action.run state).1) post
  | .call called next, post =>
      called.Named ∧ ∀ answer, called.Writes answer → Upholds holds (next answer) post

variable {holds : Compilation → Prop}

namespace Upholds

variable {kind : α → Prop} {post : β → Prop}

theorem pure {value : α} (meets : kind value) :
    Upholds holds (Pure.pure value : Routine α) kind :=
  meets

theorem take {step : Compile α} (retains : Retains holds step)
    (meets : ∀ state : Compilation, kind (step.run state).1) :
    Upholds holds (Routine.take step) kind :=
  ⟨retains, meets⟩

/-- A step whose result does not matter. -/
theorem act {step : Compile α} (retains : Retains holds step) :
    Upholds holds (Routine.take step) (fun _ => True) :=
  take retains fun _ => trivial

theorem get : Upholds holds (Routine.take MonadState.get) (fun _ => True) :=
  act fun _ holds => holds

theorem ask {called : Call} (named : called.Named) :
    Upholds holds (Routine.ask called) called.Writes :=
  ⟨named, fun _ writes => writes⟩

theorem bind {routine : Routine α} {next : α → Routine β} (upholds : Upholds holds routine kind)
    (rest : ∀ value, kind value → Upholds holds (next value) post) :
    Upholds holds (routine >>= next) post := by
  change Upholds holds (routine.bind next) post
  induction routine with
  | done value => exact rest value upholds
  | step action after ih => exact ⟨upholds.1, fun state => ih _ (upholds.2 state)⟩
  | call called after ih =>
      exact ⟨upholds.1, fun answer writes => ih answer (upholds.2 answer writes)⟩

/-- What is made of the value at the end meets what follows from the postcondition. -/
theorem map {routine : Routine α} {result : α → β} (upholds : Upholds holds routine kind)
    (meets : ∀ value, kind value → post (result value)) :
    Upholds holds (routine >>= fun value => Pure.pure (result value)) post :=
  upholds.bind fun value known => pure (meets value known)

theorem ite {condition : Prop} [Decidable condition] {first second : Routine α}
    (upholds : Upholds holds first kind) (also : Upholds holds second kind) :
    Upholds holds (if condition then first else second) kind := by
  split
  · exact upholds
  · exact also

theorem each {visit : α → Routine β} {items : List α}
    (upholds : ∀ item ∈ items, Upholds holds (visit item) post) :
    Upholds holds (Routine.each visit items) (fun results => ∀ result ∈ results, post result) := by
  induction items with
  | nil => exact pure fun _ listed => absurd listed List.not_mem_nil
  | cons item rest ih =>
      rw [List.forall_mem_cons] at upholds
      refine upholds.1.bind fun result meets => ?_
      exact (ih upholds.2).map fun _ others => List.forall_mem_cons.mpr ⟨meets, others⟩

theorem visitAll {visit : α → Routine Unit} {items : List α}
    (upholds : ∀ item ∈ items, Upholds holds (visit item) (fun _ => True)) :
    Upholds holds (Routine.visitAll visit items) (fun _ => True) := by
  induction items with
  | nil => exact pure trivial
  | cons item rest ih =>
      rw [List.forall_mem_cons] at upholds
      exact upholds.1.bind fun _ _ => ih upholds.2

end Upholds

/-! ## The functions of a compilation -/

section

variable (invariant : Invariant holds)

include invariant

theorem upholds_reserve {wanted : String} (named : IsName wanted) :
    Upholds holds (Routine.take (Compile.reserve wanted)) IsName :=
  .take (invariant.reserve wanted) fun state => named.free state.used

theorem upholds_declare {declaration : Declaration} (wellFormed : declaration.WellFormed) :
    Upholds holds (Routine.take (Compile.declare declaration)) (fun _ => True) :=
  .act (invariant.declare declaration wellFormed)

/-- The fallback is written after a notice. -/
theorem upholds_notify (notice : Notice) :
    Upholds holds (do
      Routine.take (Compile.notify notice)
      return .fallback) TypeExpr.Writable :=
  (Upholds.act (invariant.notify notice)).map fun _ _ => TypeExpr.writable_fallback

theorem upholds_ensure (shaped : task.NamesShaped) (key : String) :
    Upholds holds (ensureRoutine task key) (fun _ => True) := by
  unfold ensureRoutine
  split
  · next name node named _ =>
      refine Upholds.get.bind fun _ _ => .ite (.pure trivial) ?_
      refine (Upholds.act (invariant.enter key)).bind fun _ _ => ?_
      exact Upholds.bind (.ask (shaped.isName named)) fun _ _ => .act (invariant.leave key)
  · exact .pure trivial

theorem upholds_resolve (shaped : task.NamesShaped) (pointer : String) (inRecord : Bool) :
    Upholds holds (resolveRoutine task pointer inRecord) TypeExpr.Writable := by
  unfold resolveRoutine
  split
  · exact upholds_notify invariant _
  · next key _ =>
      split
      · exact upholds_notify invariant _
      · next name named =>
          have writable := TypeExpr.writable_named (shaped.isName named)
          refine Upholds.get.bind fun _ _ => .ite ?_ ?_
          · exact .ite (.pure writable) (upholds_notify invariant _)
          · exact Upholds.map (.ask trivial) fun _ _ => writable

variable {name : String} (named : IsName name)

include named

theorem upholds_declareRoutine (node : SchemaNode) :
    Upholds holds (declareRoutine task name node) (fun _ => True) := by
  cases node with
  | reference pointer =>
      exact Upholds.bind (.ask trivial) fun _ writable =>
        upholds_declare invariant (Declaration.wellFormed_alias named none writable)
  | schema annotations values composition shape =>
      have enumeration := Declaration.wellFormed_enumerationOf named annotations.description
      rw [declareRoutine]
      refine .ite (upholds_declare invariant (enumeration _)) (.ite ?_ (.ask named))
      exact Upholds.bind (.ask named) fun _ writable =>
        upholds_declare invariant (Declaration.wellFormed_alias named _ writable)

omit invariant in
theorem upholds_index (additional : Additional SchemaNode) :
    Upholds holds (indexRoutine name additional) (fun index => AllWritable index.toList) := by
  cases additional with
  | absent => exact .pure allWritable_nil
  | allowed flag =>
      cases flag with
      | false => exact .pure allWritable_nil
      | true => exact .pure (allWritable_nil.cons TypeExpr.writable_fallback)
  | schema node =>
      have valueNamed : IsName (name ++ "Value") := named.append (List.all_eq_true.mp (by decide))
      exact Upholds.map (.ask valueNamed) fun _ writable => allWritable_nil.cons writable

omit invariant in
theorem upholds_body (shape : Shape SchemaNode) :
    Upholds holds (bodyRoutine name shape) RecordWritable := by
  have field : ∀ property : String × SchemaNode,
      Upholds holds (fieldRoutine name shape.required property)
        (fun field => field.type.Writable) := fun property =>
    Upholds.map (.ask (named.appendKey property.1)) fun _ writable => writable
  refine (Upholds.each fun property _ => field property).bind fun fields writable => ?_
  refine (upholds_index named shape.additional).map fun index indexWritable => ?_
  exact AllWritable.append (List.forall_mem_map.mpr writable) indexWritable

theorem upholds_interface (annotations : Annotations) (shape : Shape SchemaNode) :
    Upholds holds (interfaceRoutine name annotations shape) (fun _ => True) :=
  (upholds_body named shape).bind fun _ writable =>
    upholds_declare invariant (Declaration.wellFormed_interface named _ writable)

theorem upholds_hoist (node : SchemaNode) :
    Upholds holds (hoistRoutine name node) TypeExpr.Writable := by
  refine (upholds_reserve invariant named).bind fun own ownNamed => ?_
  exact Upholds.map (.ask ownNamed) fun _ _ => TypeExpr.writable_named ownNamed

omit invariant in
theorem upholds_typed (inRecord : Bool) (annotations : Annotations)
    (composition : Composition SchemaNode) (shape : Shape SchemaNode) :
    Upholds holds (typedRoutine name inRecord annotations composition shape)
      TypeExpr.Writable := by
  have itemNamed : IsName (name ++ "Item") := named.append (List.all_eq_true.mp (by decide))
  have item : Upholds holds (itemRoutine (name ++ "Item") inRecord shape) TypeExpr.Writable := by
    unfold itemRoutine
    split
    · exact .ask itemNamed
    · exact .pure TypeExpr.writable_fallback
  unfold typedRoutine
  refine .ite (item.map fun _ => TypeExpr.writable_array) (.ite (.ask named) ?_)
  split
  · exact .pure (TypeExpr.writable_ofTypeName _)
  · exact .pure TypeExpr.writable_fallback

omit invariant in
theorem upholds_expression (inRecord : Bool) (node : SchemaNode) :
    Upholds holds (expressionRoutine task name inRecord node) TypeExpr.Writable := by
  unfold expressionRoutine
  split
  · exact .ask trivial
  · exact .ite (.ask named) (.pure (TypeExpr.writable_ofValues _ _))
  · next annotations composition shape =>
      refine .ite (.ask named) ?_
      split
      · have types : ∀ typeNames, Upholds holds (each (fun typeName =>
            ask (.expression name inRecord
              (.schema annotations [] composition { shape with types := .single typeName })))
            typeNames) AllWritable := fun typeNames => .each fun _ _ => .ask named
        refine (types _).map fun types writable => ?_
        split
        · exact TypeExpr.writable_fallback
        · exact TypeExpr.writable_unionOf writable
      · exact upholds_typed named inRecord annotations composition shape

omit invariant in
theorem upholds_groups (inRecord : Bool) (composition : Composition SchemaNode) :
    Upholds holds (groupsRoutine task name inRecord composition)
      (fun found => AllWritable found.1) := by
  have branches : ∀ number branches,
      Upholds holds (branchesRoutine name inRecord number branches) AllWritable :=
    fun number branches => .each fun branch _ => .ask (named.part branch.2)
  have intersection : ∀ types, AllWritable types →
      AllWritable (groupOf (.intersectionOf task.fallback) types) :=
    fun _ writable => AllWritable.groupOf (TypeExpr.writable_intersectionOf writable)
  have union : ∀ types, AllWritable types →
      AllWritable (groupOf (.unionOf task.fallback) types) :=
    fun _ writable => AllWritable.groupOf (TypeExpr.writable_unionOf writable)
  refine (branches _ _).bind fun all allWritable => ?_
  refine (branches _ _).bind fun any anyWritable => ?_
  refine (branches _ _).map fun one oneWritable => ?_
  exact ((intersection all allWritable).append (union any anyWritable)).append
    (union one oneWritable)

omit invariant in
theorem upholds_composition (inRecord : Bool) (annotations : Annotations)
    (composition : Composition SchemaNode) (shape : Shape SchemaNode) :
    Upholds holds (compositionRoutine task name inRecord annotations composition shape)
      TypeExpr.Writable := by
  refine (upholds_groups named inRecord composition).bind fun found writable => ?_
  dsimp only
  split
  · refine Upholds.map (.ask (named.part found.2)) fun rest restWritable => ?_
    exact TypeExpr.writable_intersectionOf (writable.append (allWritable_nil.cons restWritable))
  · exact .pure (TypeExpr.writable_intersectionOf writable)

omit named

/-- Whatever is called for a name upholds the property and answers what can be written. -/
theorem upholds_routineOf (shaped : task.NamesShaped) {called : Call} (named : called.Named) :
    Upholds holds (routineOf task called) called.Writes := by
  cases called with
  | ensure key => exact upholds_ensure invariant shaped key
  | resolve pointer inRecord => exact upholds_resolve invariant shaped pointer inRecord
  | declare name node => exact upholds_declareRoutine invariant named node
  | interface name annotations shape => exact upholds_interface invariant named annotations shape
  | hoist name node => exact upholds_hoist invariant named node
  | expression name inRecord node => exact upholds_expression named inRecord node
  | composition name inRecord annotations composition shape =>
      exact upholds_composition named inRecord annotations composition shape

/-! ## Whole documents -/

theorem upholds_message (message : Message) :
    Upholds holds (messageRoutine message) (fun _ => True) := by
  have part : ∀ ending ∈ ["Payload", "Headers", "Message"],
      IsName (declarationName message.name "" ++ ending) :=
    fun _ listed => isName_messagePart message.name listed
  refine Upholds.get.bind fun _ _ => .ite (.act (invariant.notify _)) ?_
  refine (upholds_reserve invariant (part "Payload" (by simp))).bind fun payload payloadNamed => ?_
  have rest : ∀ headers : Option (String × SchemaNode), (∀ entry ∈ headers, IsName entry.1) →
      Upholds holds (do
        let name ← Routine.take (Compile.reserve (declarationName message.name "" ++ "Message"))
        Routine.take (Compile.nameMessage message.name name)
        Routine.ask (.declare payload message.payload)
        headers.elim (pure ()) fun entry => Routine.ask (.declare entry.1 entry.2)
        Routine.take (Compile.declare
          (Task.messageInterface name message.description payload (headers.map (·.1)))))
        (fun _ => True) := by
    intro headers headersNamed
    refine (upholds_reserve invariant (part "Message" (by simp))).bind fun name named => ?_
    refine (Upholds.act (invariant.nameMessage message.name name named)).bind fun _ _ => ?_
    refine Upholds.bind (.ask payloadNamed) fun _ _ => ?_
    have interface : (Task.messageInterface name message.description payload
        (headers.map (·.1))).WellFormed := by
      apply Declaration.wellFormed_messageInterface named _ payloadNamed
      rintro headersName given
      obtain ⟨entry, listed, rfl⟩ := Option.map_eq_some_iff.mp given
      exact headersNamed entry listed
    cases headers with
    | none => exact upholds_declare invariant interface
    | some entry =>
        exact Upholds.bind (.ask (headersNamed entry rfl)) fun _ _ =>
          upholds_declare invariant interface
  cases message.headers with
  | none => exact rest none (by simp)
  | some node =>
      refine (upholds_reserve invariant (part "Headers" (by simp))).bind fun name named => ?_
      exact rest (some (name, node)) (by simpa using named)

/-- The routine of a document upholds a property that the unions of its channels keep. -/
theorem upholds_routine
    (unions : Retains holds (Task.declareAllUnions task.document.channels)) :
    Upholds holds task.routine (fun _ => True) := by
  refine Upholds.bind (.visitAll fun _ _ => .ask trivial) fun _ _ => ?_
  refine (Upholds.visitAll fun message _ => upholds_message invariant message).bind fun _ _ => ?_
  refine (Upholds.visitAll fun message _ => upholds_message invariant message).bind fun _ _ => ?_
  exact .act unions

end

/-! ## Halting -/

/-- A routine that upholds a property keeps it until it halts, with a value that meets the
postcondition. -/
theorem Halts.upheld (invariant : Invariant holds) (shaped : task.NamesShaped) {post : α → Prop}
    {routine : Routine α} {state after : Compilation} {value : α}
    (halts : Halts task routine state value after) (upholds : Upholds holds routine post) :
    post value ∧ (holds state → holds after) := by
  induction halts with
  | done value state => exact ⟨upholds, fun held => held⟩
  | step _ ih =>
      obtain ⟨meets, kept⟩ := ih (upholds.2 _)
      exact ⟨meets, fun held => kept (upholds.1 _ held)⟩
  | call _ _ answers ih =>
      obtain ⟨writes, answered⟩ := answers (upholds_routineOf invariant shaped upholds.1)
      obtain ⟨meets, kept⟩ := ih (upholds.2 _ writes)
      exact ⟨meets, fun held => kept (answered held)⟩

/-- What a call for a name answers can be written, and an invariant is kept by the call. -/
theorem Task.NamesShaped.action_upheld (shaped : task.NamesShaped) (invariant : Invariant holds)
    {called : Call} (named : called.Named) (state : Compilation) :
    called.Writes ((task.action called).run state).1 ∧
      (holds state → holds ((task.action called).run state).2) :=
  (halts_action called state).upheld invariant shaped (upholds_routineOf invariant shaped named)

/-- An invariant that holds when a call is answered still holds when the routine that has made
the call halts. -/
theorem Makes.upheld (invariant : Invariant holds) (shaped : task.NamesShaped) {post : α → Prop}
    {routine : Routine α} {state after place : Compilation} {value : α} {made : Call}
    (makes : Makes task routine state made place) (upholds : Upholds holds routine post)
    (halts : Halts task routine state value after) :
    made.Named ∧ (holds ((task.action made).run place).2 → holds after) := by
  induction makes with
  | step _ ih =>
      cases halts with
      | step rest => exact ih (upholds.2 _) rest
  | @here called _ state =>
      cases halts with
      | call answered rest =>
          obtain ⟨rfl, rfl⟩ := answered.unique (halts_action called state)
          have writes := (shaped.action_upheld invariant upholds.1 state).1
          exact ⟨upholds.1, (rest.upheld invariant shaped (upholds.2 _ writes)).2⟩
  | later answered _ ih =>
      cases halts with
      | call again rest =>
          obtain ⟨rfl, rfl⟩ := answered.unique again
          have writes := (answered.upheld invariant shaped
            (upholds_routineOf invariant shaped upholds.1)).1
          exact ih (upholds.2 _ writes) rest

/-! ## Calls that are made on the way -/

/-- A call is made by the routine, or within a call that is, in the given state. -/
inductive Reached (task : Task) (routine : Routine α) (start : Compilation) :
    Call → Compilation → Prop
  | made {called : Call} {place : Compilation}
      (makes : Makes task routine start called place) : Reached task routine start called place
  | within {outer inner : Call} {middle place : Compilation}
      (reached : Reached task routine start outer middle)
      (makes : MadeBy task (inner, place) (outer, middle)) : Reached task routine start inner place

/-- An invariant that holds when some call on the way is answered holds in the end. -/
theorem Reached.upheld (invariant : Invariant holds) (shaped : task.NamesShaped)
    {post : α → Prop} {routine : Routine α} {start final place : Compilation} {value : α}
    {called : Call} (reached : Reached task routine start called place)
    (upholds : Upholds holds routine post) (halts : Halts task routine start value final) :
    called.Named ∧ (holds ((task.action called).run place).2 → holds final) := by
  induction reached with
  | made makes => exact makes.upheld invariant shaped upholds halts
  | @within outer inner middle place _ makes ih =>
      have inside := makes.upheld invariant shaped
        (upholds_routineOf invariant shaped ih.1) (halts_action outer middle)
      exact ⟨inside.1, fun held => ih.2 (inside.2 held)⟩

/-! ## Well-formed compilations -/

/-- All declarations are well formed, and all interfaces of messages have names. -/
structure Compilation.WellFormed (state : Compilation) : Prop where
  declarations : ∀ declaration ∈ state.declarations, declaration.WellFormed
  messages : ∀ entry ∈ state.messageNames, IsName entry.2

/-- Being well formed is an invariant. -/
theorem invariant_wellFormed : Invariant Compilation.WellFormed where
  reserve := fun _ _ formed => ⟨formed.declarations, formed.messages⟩
  notify := fun _ _ formed => ⟨formed.declarations, formed.messages⟩
  enter := fun _ _ formed => ⟨formed.declarations, formed.messages⟩
  leave := fun _ _ formed => ⟨formed.declarations, formed.messages⟩
  nameMessage := by
    intro message name named state formed
    refine ⟨formed.declarations, List.forall_mem_append.mpr ⟨formed.messages, ?_⟩⟩
    simpa using named
  declare := by
    intro declaration wellFormed state formed
    rcases state.run_declare_cases declaration with refused | collected
    · rw [refused]
      exact ⟨formed.declarations, formed.messages⟩
    · rw [collected]
      refine ⟨List.forall_mem_append.mpr ⟨formed.declarations, ?_⟩, formed.messages⟩
      simpa using wellFormed

theorem Compilation.WellFormed.shaped {state : Compilation} (formed : state.WellFormed) :
    state.Shaped where
  types := fun declaration listed => (formed.declarations declaration listed).types
  messages := formed.messages

/-- The union of a channel in one direction is well formed, since the messages have names. -/
theorem retains_declareUnion (channel : Channel) (direction : Direction) :
    Retains Compilation.WellFormed (Task.declareUnion channel direction) := by
  intro state formed
  let members := Task.unionMembers state (channel.operations direction)
  have named : ∀ member ∈ members, IsName member :=
    formed.shaped.unionMembers (channel.operations direction)
  have run : (Task.declareUnion channel direction).run state =
      (if members.isEmpty then pure () else do
        let name ← Compile.reserve (declarationName channel.name (Task.unionEnding direction))
        Compile.declare (.alias name none (TypeExpr.joined .union (members.map .named)))).run
          state := rfl
  rw [run]
  split
  · exact formed
  · have ending := isHighText_unionEnding direction
    have ownNamed := (isName_declarationName channel.name ending).free state.used
    have writable : (TypeExpr.joined .union (members.map .named)).Writable := by
      intro leaf inside
      rw [leaves_unionOfNames] at inside
      obtain ⟨member, among, rfl⟩ := List.mem_map.mp inside
      exact named member among
    exact invariant_wellFormed.declare _ (Declaration.wellFormed_alias ownNamed none writable) _
      (invariant_wellFormed.reserve _ _ formed)

theorem retains_declareAllUnions (channels : List Channel) :
    Retains Compilation.WellFormed (Task.declareAllUnions channels) := by
  induction channels with
  | nil => exact fun _ formed => formed
  | cons channel rest ih =>
      intro state formed
      exact ih _ (retains_declareUnion channel .receive _
        (retains_declareUnion channel .send _ formed))

/-- Whatever the keys and the texts of a document are, its compilation is well formed. -/
theorem wellFormed_compile (document : Document) (options : Options) :
    (compile document options).WellFormed := by
  let task := Task.ofDocument document options
  have halts := (halts_iff_compile document options _).mpr rfl
  have upholds : Upholds Compilation.WellFormed task.routine (fun _ => True) :=
    upholds_routine invariant_wellFormed (retains_declareAllUnions _)
  have start : task.start.WellFormed :=
    ⟨fun _ listed => absurd listed List.not_mem_nil,
      fun _ listed => absurd listed List.not_mem_nil⟩
  have shaped := namesShaped_ofDocument document options
  exact (halts.upheld invariant_wellFormed shaped upholds).2 start

end AsyncTypes.TypeScript
