import AsyncTypes.Proofs.Compilation.Account
import AsyncTypes.Proofs.Compilation.Mirror

/-!
# Documents under other options

The component schemas, the messages and the unions of a document are compiled alike under
options that declare enumerations alike.  So the declarations of a document are named alike,
and its blocks and warnings are the same templates under both options.
-/

namespace AsyncTypes.TypeScript

variable {task : Task} {options other : Options}

/-! ## References -/

/-- The component schemas have names. -/
def Task.NamesShaped (task : Task) : Prop :=
  ∀ entry ∈ task.schemaNames, IsName entry.2

theorem namesShaped_ofDocument (document : Document) (options : Options) :
    (Task.ofDocument document options).NamesShaped :=
  fun _ member => isName_of_mem_nameKeys member

theorem Task.NamesShaped.isName (shaped : task.NamesShaped) {key name : String}
    (named : task.schemaName? key = some name) : IsName name :=
  shaped _ (Task.mem_schemaNames_of_schemaName? named)

/-- References are written alike when their targets are declared alike. -/
theorem mirrors_resolveReference (shaped : task.NamesShaped)
    {ensure ensureAlso : String → Compile Unit}
    (ensures : ∀ key, Mirrors other (fun _ => True) (ensure key) (ensureAlso key)) :
    MirrorsReferences other (resolveReference task ensure)
      (resolveReference (task.under other) ensureAlso) := by
  intro pointer inRecord
  have thenFallback : ∀ _ : Unit, True → Mirrors other TypeExpr.Writable (Pure.pure .fallback)
      (Pure.pure .fallback) := fun _ _ => Mirrors.give TypeExpr.writable_fallback
  unfold resolveReference
  cases schemaKey? pointer with
  | none => exact (mirrors_notify (.unsupportedReference pointer)).bind thenFallback
  | some key =>
      have same : (task.under other).schemaName? key = task.schemaName? key := rfl
      simp only [same]
      cases named : task.schemaName? key with
      | none => exact (mirrors_notify (.unresolvedReference pointer)).bind thenFallback
      | some name =>
          have writable := TypeExpr.writable_named (shaped.isName named)
          apply Mirrors.get
          intro state _
          have active : (state.under other).active = state.active := rfl
          rw [active]
          split
          · split
            · exact Mirrors.give writable
            · exact (mirrors_notify (.circularReference _ key task.fallback)).bind thenFallback
          · exact (ensures key).map fun _ _ => writable

/-- A component schema is declared alike. -/
theorem mirrors_ensureWithin (shaped : task.NamesShaped)
    (styled : other.enumStyle = task.options.enumStyle) (budget : Nat) (key : String) :
    Mirrors other (fun _ => True) (ensureWithin task budget key)
      (ensureWithin (task.under other) budget key) := by
  induction budget generalizing key with
  | zero => exact Mirrors.give trivial
  | succ budget ih =>
      have name : (task.under other).schemaName? key = task.schemaName? key := rfl
      have node : (task.under other).document.schema? key = task.document.schema? key := rfl
      simp only [ensureWithin, name, node]
      split
      · next own schema named _ =>
          apply Mirrors.get
          intro state _
          have declared : (state.under other).isDeclared own = state.isDeclared own := rfl
          have active : (state.under other).active = state.active := rfl
          rw [declared, active]
          split
          · exact Mirrors.give trivial
          · have body := mirrors_declareNode styled (mirrors_resolveReference shaped ih)
              (shaped.isName named) schema
            exact (mirrors_enter key).bind fun _ _ => body.bind fun _ _ => mirrors_leave key
      · exact Mirrors.give trivial

theorem mirrors_ensureSchema (shaped : task.NamesShaped)
    (styled : other.enumStyle = task.options.enumStyle) (key : String) :
    Mirrors other (fun _ => True) (task.ensureSchema key) ((task.under other).ensureSchema key) :=
  mirrors_ensureWithin shaped styled task.budget key

theorem mirrors_reference (shaped : task.NamesShaped)
    (styled : other.enumStyle = task.options.enumStyle) :
    MirrorsReferences other task.reference (task.under other).reference :=
  mirrors_resolveReference shaped (mirrors_ensureSchema shaped styled)

/-! ## Messages -/

theorem allWritable_messageInterface {name payload : String} (description : Option String)
    {headers : Option String} (payloadNamed : IsName payload)
    (headersNamed : ∀ name ∈ headers, IsName name) :
    AllWritable (Task.messageInterface name description payload headers).types := by
  have payloadWritable := TypeExpr.writable_named payloadNamed
  cases headers with
  | none => exact allWritable_nil.cons payloadWritable
  | some headers =>
      have headersWritable := TypeExpr.writable_named (headersNamed headers rfl)
      exact (allWritable_nil.cons headersWritable).cons payloadWritable

/-- The parts of a message are declared alike. -/
theorem mirrors_declareParts (shaped : task.NamesShaped)
    (styled : other.enumStyle = task.options.enumStyle) (message : Message) {payload : String}
    (payloadNamed : IsName payload) {headers : Option (String × SchemaNode)}
    (headersNamed : ∀ entry ∈ headers, IsName entry.1) (name : String) :
    Mirrors other (fun _ => True) (task.declareParts message payload headers name)
      ((task.under other).declareParts message payload headers name) := by
  have references := mirrors_reference shaped styled
  have payloadDeclared := mirrors_declareNode styled references payloadNamed message.payload
  have interface : Mirrors other (fun _ => True)
      (Compile.declare (Task.messageInterface name message.description payload (headers.map (·.1))))
      (Compile.declare
        (Task.messageInterface name message.description payload (headers.map (·.1)))) := by
    apply mirrors_declare
    apply allWritable_messageInterface message.description payloadNamed
    rintro headersName listed
    obtain ⟨entry, given, rfl⟩ := Option.map_eq_some_iff.mp listed
    exact headersNamed entry given
  unfold Task.declareParts
  apply payloadDeclared.bind
  intro _ _
  cases headers with
  | none => exact interface
  | some entry =>
      have declared := mirrors_declareNode styled references (headersNamed entry rfl) entry.2
      exact declared.bind fun _ _ => interface

/-- A message is collected alike. -/
theorem mirrors_collectMessage (shaped : task.NamesShaped)
    (styled : other.enumStyle = task.options.enumStyle) (message : Message) :
    Mirrors other (fun _ => True) (task.collectMessage message)
      ((task.under other).collectMessage message) := by
  unfold Task.collectMessage
  apply Mirrors.get
  intro state _
  have known : (state.under other).messageName? message.name =
      state.messageName? message.name := rfl
  rw [known]
  split
  · exact mirrors_notify (.repeatedMessage message.name)
  · apply (mirrors_reserve (isName_messagePart message.name (by simp))).bind
    intro payload payloadNamed
    have rest : ∀ headers : Option (String × SchemaNode), (∀ entry ∈ headers, IsName entry.1) →
        Mirrors other (fun _ => True)
          (Compile.reserve (declarationName message.name "" ++ "Message") >>= fun name =>
            Compile.nameMessage message.name name >>= fun _ =>
              task.declareParts message payload headers name)
          (Compile.reserve (declarationName message.name "" ++ "Message") >>= fun name =>
            Compile.nameMessage message.name name >>= fun _ =>
              (task.under other).declareParts message payload headers name) := by
      intro headers headersNamed
      apply (mirrors_reserve (isName_messagePart message.name (by simp))).bind
      intro name named
      apply (mirrors_nameMessage message.name named).bind
      exact fun _ _ => mirrors_declareParts shaped styled message payloadNamed headersNamed name
    cases message.headers with
    | none => exact rest none (by simp)
    | some node =>
        simp only [pure_bind]
        apply (mirrors_reserve (isName_messagePart message.name (by simp))).bind
        intro headers headersNamed
        exact rest (some (headers, node)) (by simpa using headersNamed)

/-- Some messages are collected alike. -/
theorem mirrors_collectMessages (shaped : task.NamesShaped)
    (styled : other.enumStyle = task.options.enumStyle) (messages : List Message) :
    Mirrors other (fun _ => True) (task.collectMessages messages)
      ((task.under other).collectMessages messages) := by
  induction messages with
  | nil => exact Mirrors.give trivial
  | cons message rest ih =>
      exact (mirrors_collectMessage shaped styled message).bind fun _ _ => ih

/-! ## Whole documents -/

/-- The members of a union are names. -/
theorem Compilation.Shaped.unionMembers {state : Compilation} (shaped : state.Shaped)
    (operations : List Operation) :
    ∀ member ∈ Task.unionMembers state operations, IsName member := by
  intro member listed
  obtain ⟨message, -, found⟩ := List.mem_filterMap.mp (mem_of_mem_distinct listed)
  obtain ⟨entry, known, rfl⟩ := Option.map_eq_some_iff.mp found
  exact shaped.messages entry (List.mem_of_find?_eq_some known)

/-- The union of a channel in one direction is declared alike. -/
theorem mirrors_declareUnion (channel : Channel) (direction : Direction) :
    Mirrors other (fun _ => True) (Task.declareUnion channel direction)
      (Task.declareUnion channel direction) := by
  apply Mirrors.get
  intro state shaped
  have named := shaped.unionMembers (channel.operations direction)
  have same : Task.unionMembers (state.under other) (channel.operations direction) =
      Task.unionMembers state (channel.operations direction) := rfl
  simp only [same]
  split
  · exact Mirrors.give trivial
  · apply (mirrors_reserve
      (isName_declarationName channel.name (isHighText_unionEnding direction))).bind
    intro name _
    apply mirrors_declare
    intro type listed leaf inside
    rw [List.mem_singleton.mp listed, leaves_unionOfNames] at inside
    obtain ⟨member, among, rfl⟩ := List.mem_map.mp inside
    exact named member among

theorem mirrors_declareAllUnions (channels : List Channel) :
    Mirrors other (fun _ => True) (Task.declareAllUnions channels)
      (Task.declareAllUnions channels) := by
  induction channels with
  | nil => exact Mirrors.give trivial
  | cons channel rest ih =>
      have both : Mirrors other (fun _ => True) (Task.declareUnions channel)
          (Task.declareUnions channel) :=
        (mirrors_declareUnion channel .send).bind fun _ _ => mirrors_declareUnion channel .receive
      exact both.bind fun _ _ => ih

theorem mirrors_ensureAll (shaped : task.NamesShaped)
    (styled : other.enumStyle = task.options.enumStyle) (keys : List String) :
    Mirrors other (fun _ => True) (task.ensureAll keys) ((task.under other).ensureAll keys) := by
  induction keys with
  | nil => exact Mirrors.give trivial
  | cons key rest ih => exact (mirrors_ensureSchema shaped styled key).bind fun _ _ => ih

/-- A document is compiled alike. -/
theorem mirrors_collect (shaped : task.NamesShaped)
    (styled : other.enumStyle = task.options.enumStyle) :
    Mirrors other (fun _ => True) task.collect (task.under other).collect := by
  apply (mirrors_ensureAll shaped styled _).bind
  intro _ _
  apply (mirrors_collectMessages shaped styled _).bind
  intro _ _
  apply (mirrors_collectMessages shaped styled _).bind
  exact fun _ _ => mirrors_declareAllUnions _

theorem shaped_start (task : Task) : task.start.Shaped where
  types := fun _ listed => absurd listed List.not_mem_nil
  messages := fun _ listed => absurd listed List.not_mem_nil

/-- Compilations of one document whose options declare enumerations alike differ in the words of
their notices only. -/
theorem compile_under (document : Document) (styled : other.enumStyle = options.enumStyle) :
    compile document other = (compile document options).under other ∧
      (compile document options).Shaped := by
  have shaped := namesShaped_ofDocument document options
  have mirrored := mirrors_collect shaped styled (Task.ofDocument document options).start
    (shaped_start _)
  exact ⟨congrArg Prod.snd mirrored.1, mirrored.2.2⟩

/-! ## Blocks and warnings -/

namespace Compilation

/-- The blocks of a compilation before they are filled. -/
def blocks (compilation : Compilation) : List Block :=
  compilation.declarations.map Declaration.block

/-- The warnings of a compilation before they are filled. -/
def warningTemplates (compilation : Compilation) : List Template :=
  compilation.notices.filterMap Notice.template?

end Compilation

/-- The blocks of a document are those of its compilation under other options, filled anew. -/
theorem blocks_filled (document : Document) (styled : other.enumStyle = options.enumStyle) :
    (Task.ofDocument document other).blocks (compile document other) =
      (compile document options).blocks.map (Block.fill other) := by
  obtain ⟨same, shaped⟩ := compile_under document styled
  rw [same, Compilation.blocks, List.map_map]
  exact List.map_congr_left fun declaration listed =>
    (Declaration.fill_block (shaped.types declaration listed) other).symm

/-- The warnings of a document are those of its compilation under other options, filled
anew. -/
theorem warnings_filled (document : Document) (styled : other.enumStyle = options.enumStyle) :
    (compile document other).warnings =
      (compile document options).warningTemplates.map (Template.fill other.fallback) := by
  have told : ∀ notice : Notice, (notice.told other).warning? =
      notice.template?.map (Template.fill other.fallback) := Notice.fill_template? other
  rw [(compile_under document styled).1, Compilation.warningTemplates, List.map_filterMap,
    ← funext told]
  exact List.filterMap_map

/-- The word for the fallback and the word in front of declarations change nothing else.  Under
options that declare enumerations alike a document has the same declared names; its blocks and
its warnings are the same templates, which are filled with the words of the options; and its
output is made of these blocks. -/
theorem options_exchanged (document : Document) {options other : Options}
    (styled : other.enumStyle = options.enumStyle) :
    (generate document other).declarations = (generate document options).declarations ∧
      ∀ chosen ∈ [options, other],
        (Task.ofDocument document chosen).blocks (compile document chosen) =
            (compile document options).blocks.map (Block.fill chosen) ∧
          (generate document chosen).warnings =
            (compile document options).warningTemplates.map (Template.fill chosen.fallback) ∧
          (generate document chosen).output =
            String.intercalate "\n\n"
              (heading document :: (compile document options).blocks.map (Block.fill chosen)) ++
                "\n" := by
  constructor
  · have same := (compile_under document styled).1
    exact congrArg (fun compilation : Compilation => compilation.declarations.map (·.name)) same
  · intro chosen listed
    have alike : chosen.enumStyle = options.enumStyle := by
      rcases List.mem_pair.mp listed with rfl | rfl
      · rfl
      · exact styled
    have blocks := blocks_filled document alike
    refine ⟨blocks, warnings_filled document alike, ?_⟩
    rw [← blocks]
    rfl

/-- A chain is itself, anything, or the text `any`. -/
def openChain : Document :=
  componentsOnly
    [("Chain", .schema ⟨none, none⟩ []
      ⟨none, some [.reference "#/components/schemas/Chain", .empty,
        .schema ⟨none, none⟩ [.scalar (.string "any")] ⟨none, none, none⟩
          ⟨.absent, none, [], none, .absent⟩], none⟩
      ⟨.absent, none, [], none, .absent⟩)]

/-- The word `any` is exchanged where it stands for the fallback, and stays in the literal. -/
theorem openChain_exchanged :
    (⟨.union, true, true⟩ : Options).enumStyle = (⟨.union, false, false⟩ : Options).enumStyle ∧
      (Task.ofDocument openChain ⟨.union, false, false⟩).blocks
          (compile openChain ⟨.union, false, false⟩) = ["type Chain = any | 'any';"] ∧
      (Task.ofDocument openChain ⟨.union, true, true⟩).blocks
          (compile openChain ⟨.union, true, true⟩) = ["export type Chain = unknown | 'any';"] ∧
      (generate openChain ⟨.union, true, true⟩).warnings =
        ["Circular reference to 'Chain' outside an interface; using 'unknown'"] := by
  have blocks : (compile openChain ⟨.union, false, false⟩).blocks =
      [⟨"", [.text "type Chain = ", .fallback, .text " | ", .text "'any'", .text ";"]⟩] := by rfl
  have warnings : (compile openChain ⟨.union, false, false⟩).warningTemplates =
      [[.text "Circular reference to 'Chain' outside an interface; using '", .fallback,
        .text "'"]] := by rfl
  have alike : (⟨.union, true, true⟩ : Options).enumStyle =
      (⟨.union, false, false⟩ : Options).enumStyle := rfl
  obtain ⟨-, filled⟩ := options_exchanged openChain alike
  obtain ⟨plain, -, -⟩ := filled _ List.mem_cons_self
  obtain ⟨exported, warned, -⟩ := filled _ (List.mem_cons_of_mem _ List.mem_cons_self)
  refine ⟨alike, ?_, ?_, ?_⟩
  · rw [plain, blocks]
    decide
  · rw [exported, blocks]
    decide
  · rw [warned, warnings]
    decide

end AsyncTypes.TypeScript
