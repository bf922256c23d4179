import AsyncTypes.Proofs.Compilation.Invariant

/-!
# References are not lost silently

A reference is written by the declaration name of its target, which is declared then or
about to be, or the fallback stands for it and a warning tells so.  Notices are never
taken back, so a compilation without warnings has rendered every reference on its way by
the name of its target.
-/

namespace AsyncTypes.TypeScript

open Routine

variable {task : Task}

/-! ## Notices are kept -/

namespace Compilation

/-- The notices are continued. -/
def TellsOn (state after : Compilation) : Prop :=
  state.notices <+: after.notices

instance : Respected TellsOn where
  refl := fun _ => List.prefix_refl _
  trans := List.IsPrefix.trans
  reserve := fun _ _ => List.prefix_refl _
  notify := fun _ _ => List.prefix_append _ _
  declare := by
    intro declaration state
    rcases run_declare_cases state declaration with refused | collected
    · rw [TellsOn, refused]
    · rw [TellsOn, collected]
  enclose := fun _ _ _ told => told

end Compilation

/-- What leads along the notices keeps those that were told before. -/
theorem retains_notices {step : Compile Unit} (leads : Leads Compilation.TellsOn step)
    (told : List Notice) : Retains (fun state => told <+: state.notices) step :=
  fun state held => held.trans (leads state)

theorem invariant_notices (told : List Notice) :
    Invariant fun state => told <+: state.notices where
  reserve := fun _ _ held => held
  notify := fun notice => retains_notices (Leads.notify notice) told
  enter := fun _ _ held => held
  leave := fun _ _ held => held
  nameMessage := fun _ _ _ _ held => held
  declare := fun declaration _ => retains_notices (Leads.declare declaration) told

/-! ## Components are declared -/

/-- A declaration is collected, or its name was declared before. -/
theorem isDeclared_declare (state : Compilation) (declaration : Declaration) :
    ((Compile.declare declaration).run state).2.isDeclared declaration.name = true := by
  rw [Compilation.after_declare]
  split
  · next declared => exact declared
  · simp [Compilation.isDeclared]

theorem name_declarationOf (resolve : Resolver) (name : String) (node : SchemaNode)
    (state : Compilation) : ((declarationOf task resolve name node).run state).1.name = name := by
  cases node with
  | reference pointer => rfl
  | schema annotations values composition shape =>
      rw [declarationOf]
      split
      · rfl
      · split
        · rfl
        · rfl

/-- A component that is reached is declared then, unless it is active. -/
theorem ensureSchema_places {key name : String} {node : SchemaNode}
    (named : task.schemaName? key = some name) (found : task.document.schema? key = some node)
    (before : Compilation) :
    ((task.ensureSchema key).run before).2.isDeclared name = true ∨
      key ∈ ((task.ensureSchema key).run before).2.active := by
  let resolve := resolveReference task (ensureWithin task task.document.schemas.length)
  have run : (task.ensureSchema key).run before =
      (if before.isDeclared name || before.active.contains key then pure () else do
        Compile.enter key
        declareNode task resolve name node
        Compile.leave key : Compile Unit).run before := by
    simp only [Task.ensureSchema, Task.budget, ensureWithin, named, found]
    rfl
  rw [run]
  split
  · next placed =>
      rw [Bool.or_eq_true, List.contains_iff_mem] at placed
      exact placed
  · left
    let body := (declarationOf task resolve name node).run (before.entered key)
    have declared := isDeclared_declare body.2 body.1
    rw [name_declarationOf] at declared
    exact declared

/-- A key with a declaration name is that of a component schema. -/
theorem exists_schema_ofDocument {document : Document} {options : Options} {key name : String}
    (named : (Task.ofDocument document options).schemaName? key = some name) :
    key ∈ document.schemas.map (·.1) ∧ ∃ node, document.schema? key = some node := by
  have listed : key ∈ document.schemas.map (·.1) := by
    rw [← keys_nameKeys [] (document.schemas.map (·.1))]
    exact List.mem_map_of_mem (Task.mem_schemaNames_of_schemaName? named)
  exact ⟨listed, Option.isSome_iff_exists.mp ((Task.schema?_isSome_iff document key).mpr listed)⟩

/-- Of some components that are reached one after another, all are declared. -/
theorem ensureAll_declares {key name : String} {node : SchemaNode}
    (named : task.schemaName? key = some name) (found : task.document.schema? key = some node)
    {keys : List String} (listed : key ∈ keys) {state : Compilation} (idle : state.active = []) :
    name ∈ ((task.ensureAll keys).run state).2.names := by
  induction keys generalizing state with
  | nil => exact absurd listed List.not_mem_nil
  | cons first rest ih =>
      have still : ((task.ensureSchema first).run state).2.active = [] :=
        (steady_ensureWithin task.budget first state).1.trans idle
      by_cases later : key ∈ rest
      · exact ih later still
      · obtain rfl : key = first := (List.mem_cons.mp listed).resolve_right later
        have steady : Leads Compilation.SteadyTo (task.ensureAll rest) := leads_ensureAll rest
        rcases ensureSchema_places named found state with declared | active
        · exact Compilation.mem_names_mono (steady _).2 (Compilation.isDeclared_iff.mp declared)
        · rw [still] at active
          exact absurd active List.not_mem_nil

/-- Every component is declared in the end. -/
theorem schemaName_mem_names_compile {document : Document} {options : Options} {key name : String}
    (named : (Task.ofDocument document options).schemaName? key = some name) :
    name ∈ (compile document options).names := by
  let task := Task.ofDocument document options
  obtain ⟨listed, node, found⟩ := exists_schema_ofDocument named
  have declared : name ∈ ((task.ensureAll (document.schemas.map (·.1))).run task.start).2.names :=
    ensureAll_declares named found listed rfl
  have rest : Leads Compilation.SteadyTo (do
      task.collectMessages document.messages
      task.collectMessages (document.channels.flatMap Task.channelMessages)
      Task.declareAllUnions document.channels) :=
    (leads_collectMessages steadyTo_nameMessage _).bind fun _ =>
      (leads_collectMessages steadyTo_nameMessage _).bind fun _ => leads_declareAllUnions _
  exact Compilation.mem_names_mono (rest _).2 declared

/-! ## References -/

/-- A reference is resolved from a state to a state after it: by the declaration name of the
component that its pointer names, when nothing is told but by the compilation of that
component, which is declared or active afterwards; or by the fallback, when one warning is
added and nothing else. -/
inductive Resolved (task : Task) (pointer : String) (before : Compilation) :
    TypeExpr → Compilation → Prop
  | byName {key name : String} {after : Compilation} (below : schemaKey? pointer = some key)
      (named : task.schemaName? key = some name)
      (silent : after = before ∨ after = ((task.ensureSchema key).run before).2)
      (placed : after.isDeclared name = true ∨ key ∈ after.active) :
      Resolved task pointer before (.named name) after
  | byFallback {notice : Notice} {warning : String} (warns : notice.warning? = some warning) :
      Resolved task pointer before .fallback (before.withNotice notice)

/-- Every reference is resolved, in every state. -/
theorem resolved_reference (document : Document) (options : Options) (pointer : String)
    (inRecord : Bool) (before : Compilation) :
    let task := Task.ofDocument document options
    Resolved task pointer before ((task.reference pointer inRecord).run before).1
      ((task.reference pointer inRecord).run before).2 := by
  intro task
  cases below : schemaKey? pointer with
  | none =>
      simp only [Task.reference, resolveReference, below]
      exact .byFallback rfl
  | some key =>
      cases named : task.schemaName? key with
      | none =>
          simp only [Task.reference, resolveReference, below, named]
          exact .byFallback rfl
      | some name =>
          have run : (task.reference pointer inRecord).run before =
              (if before.active.contains key then
                if inRecord then return .named name
                else do
                  Compile.notify
                    (.circularReference (before.active.headD "") key task.fallback)
                  return .fallback
              else do
                task.ensureSchema key
                return .named name : Compile TypeExpr).run before := by
            simp only [Task.reference, resolveReference, below, named]
            rfl
          rw [run]
          split
          · next active =>
              split
              · exact .byName below named (Or.inl rfl) (Or.inr (List.contains_iff_mem.mp active))
              · exact .byFallback rfl
          · obtain ⟨-, node, found⟩ := exists_schema_ofDocument named
            exact .byName below named (Or.inr rfl) (ensureSchema_places named found before)

/-- On the way of the compilation, a reference with the given pointer is rendered as the
type: as a type or a part of one, or as the whole type of an alias. -/
inductive RendersReference (task : Task) (pointer : String) : TypeExpr → Prop
  | part {name : String} {inRecord : Bool} {place : Compilation}
      (reached : Reached task task.routine task.start
        (.expression name inRecord (.reference pointer)) place) :
      RendersReference task pointer
        ((expression task task.reference name inRecord (.reference pointer)).run place).1
  | whole {name : String} {place : Compilation} {type : TypeExpr}
      (reached : Reached task task.routine task.start (.declare name (.reference pointer)) place)
      (declares : ((declarationOf task task.reference name (.reference pointer)).run place).1 =
        .alias name none type) : RendersReference task pointer type

/-- Each reference that is rendered is resolved by a call of its own. -/
theorem RendersReference.resolves {pointer : String} {type : TypeExpr}
    (renders : RendersReference task pointer type) :
    ∃ inRecord place,
      Reached task task.routine task.start (.resolve pointer inRecord) place ∧
        type = ((task.reference pointer inRecord).run place).1 := by
  cases renders with
  | @part name inRecord place reached =>
      refine ⟨inRecord, place, .within reached .here, ?_⟩
      rw [expression]
  | @whole name place _ reached declares =>
      refine ⟨false, place, .within reached .here, ?_⟩
      cases declares
      rfl

/-- What a call on the way of the compilation has told is told in the end. -/
theorem Reached.notices_kept {document : Document} {options : Options} {called : Call}
    {place : Compilation}
    (reached : Reached (Task.ofDocument document options)
      (Task.ofDocument document options).routine (Task.ofDocument document options).start called
      place) :
    (((Task.ofDocument document options).action called).run place).2.notices <+:
      (compile document options).notices := by
  have halts := (halts_iff_compile document options _).mpr rfl
  have invariant := invariant_notices
    (((Task.ofDocument document options).action called).run place).2.notices
  have unions := retains_notices (leads_declareAllUnions document.channels)
    (((Task.ofDocument document options).action called).run place).2.notices
  exact (reached.upheld invariant (namesShaped_ofDocument document options)
    (upholds_routine invariant unions) halts).2 (List.prefix_refl _)

/-- No reference is lost silently.  In every state, a reference is resolved by the declaration
name of its target, or by the fallback with a warning of its own.  So, when the compilation of
a document gives no warnings, every reference that it has rendered is rendered as the name of
its target, and that name is declared. -/
theorem references_told (document : Document) (options : Options) :
    let task := Task.ofDocument document options
    (∀ pointer inRecord before, Resolved task pointer before
        ((task.reference pointer inRecord).run before).1
        ((task.reference pointer inRecord).run before).2) ∧
      ((generate document options).warnings = [] →
        ∀ pointer type, RendersReference task pointer type →
          ∃ key name, schemaKey? pointer = some key ∧ task.schemaName? key = some name ∧
            type = .named name ∧ name ∈ (generate document options).declarations) := by
  intro task
  refine ⟨resolved_reference document options, ?_⟩
  intro silent pointer type renders
  obtain ⟨inRecord, place, reached, rfl⟩ := renders.resolves
  have told : ((task.reference pointer inRecord).run place).2.notices <+:
      (compile document options).notices := reached.notices_kept
  have resolved : Resolved task pointer place ((task.reference pointer inRecord).run place).1
      ((task.reference pointer inRecord).run place).2 :=
    resolved_reference document options pointer inRecord place
  generalize (task.reference pointer inRecord).run place = ran at told resolved
  obtain ⟨type, after⟩ := ran
  cases resolved with
  | @byName key name _ below named _ _ =>
      exact ⟨key, name, below, named, rfl, schemaName_mem_names_compile named⟩
  | @byFallback notice warning warns =>
      have listed : notice ∈ (compile document options).notices :=
        told.subset (List.mem_append_right _ (List.mem_singleton_self notice))
      have warned : warning ∈ (generate document options).warnings :=
        List.mem_filterMap.mpr ⟨notice, listed, warns⟩
      rw [silent] at warned
      exact absurd warned List.not_mem_nil

/-- A purchase is an order, and an order may follow another one. -/
def orders : Document :=
  componentsOnly
    [("Purchase", .reference "#/components/schemas/Order"),
      ("Order", recordOf [("follows", .reference "#/components/schemas/Order")])]

/-- No warnings are given for the orders, and a purchase is rendered as the name of an order. -/
theorem orders_told :
    (generate orders .default).warnings = [] ∧
      RendersReference (Task.ofDocument orders .default) "#/components/schemas/Order"
        (.named "Order") ∧
      "Order" ∈ (generate orders .default).declarations := by
  have silent : (generate orders .default).warnings = [] := by rfl
  have renders : RendersReference (Task.ofDocument orders .default) "#/components/schemas/Order"
      (.named "Order") := by
    have purchase : Reached (Task.ofDocument orders .default)
        (Task.ofDocument orders .default).routine (Task.ofDocument orders .default).start
        (.ensure "Purchase") (Task.ofDocument orders .default).start := .made .here
    exact .whole (.within purchase (.step (.step .here))) rfl
  obtain ⟨key, name, -, -, same, declared⟩ :=
    (references_told orders .default).2 silent _ _ renders
  cases same
  exact ⟨silent, renders, declared⟩

end AsyncTypes.TypeScript
