import Mathlib.Data.List.Perm.Subperm
import AsyncTypes.Proofs.Compilation.Expression

/-!
# Component schemas keep a state sound

Declaring a component compiles its body while it is active, and the references in the
body declare other components in turn.  Every component that is entered is one more
active key, and the active keys are distinct keys of the document; so the budget, one
more than there are components, never runs out.
-/

namespace AsyncTypes.TypeScript

variable {task : Task} {active : List String}

/-! ## Declarations of nodes -/

/-- A declaration renders a node: it can be collected, an alias fits the references that
stand outside interfaces in the node, and a node with such references is an alias. -/
structure Renders (task : Task) (node : SchemaNode) (name : String)
    (declaration : Declaration) (state : Compilation) : Prop where
  named : declaration.name = name
  declarable : Declarable state declaration
  fits : declaration.isAlias = true →
    Fits task false node.RefersOutside declaration.types state
  isAlias : ∀ pointer, node.RefersOutside pointer → declaration.isAlias = true

/-- An alias renders the node that its type fits. -/
theorem renders_alias {node : SchemaNode} {name : String} {description : Option String}
    {type : TypeExpr} {state : Compilation}
    (fits : Fits task false node.RefersOutside [type] state) :
    Renders task node name (.alias name description type) state where
  named := rfl
  declarable := ⟨fits.writable, fits.used, fun _ => fits.declared rfl⟩
  fits := fun _ => fits
  isAlias := fun _ _ => rfl

/-- A node that is declared as an interface has no references outside interfaces. -/
theorem not_refersOutside_of_interface {annotations : Annotations} {values : List Value}
    {composition : Composition SchemaNode} {shape : Shape SchemaNode} {pointer : String}
    (interface : declaresAlias composition shape = false) :
    ¬ (SchemaNode.schema annotations values composition shape).RefersOutside pointer := by
  simp only [declaresAlias, Bool.or_eq_false_iff] at interface
  obtain ⟨⟨⟨unused, single⟩, noArray⟩, -⟩ := interface
  intro refers
  cases refers with
  | branch listed =>
      rw [Composition.allBranches_of_not_isUsed unused] at listed
      exact absurd listed List.not_mem_nil
  | item reached array =>
      unfold Shape.admitsArray at array
      split at array
      · next names several => simp [several] at single
      · rw [noArray] at array
        exact Bool.noConfusion array

/-- Compiling a node gives a declaration that renders it. -/
theorem keeps_declarationOf (coherent : task.Coherent) {resolve : Resolver}
    (resolves : Resolves task active resolve) {name : String} (shape : IsName name)
    (node : SchemaNode) (placed : ∀ pointer, node.RefersOutside pointer →
      Placed task active pointer) {state : Compilation} (sound : Sound task state)
    (amid : state.active = active) :
    Keeps task [] state (declarationOf task resolve name node) (Renders task node name) := by
  cases node with
  | reference pointer =>
      rw [declarationOf]
      have resolved := resolves pointer false (fun _ => placed pointer (.reference pointer))
      apply (resolved state sound amid).bind
      intro type after soundAfter _ fits
      refine Keeps.pure soundAfter (renders_alias (fits.congr ?_))
      intro other
      constructor
      · rintro rfl
        exact .reference other
      · rintro ⟨⟩
        rfl
  | schema annotations values composition parts =>
      rw [declarationOf]
      split
      · next enumerated =>
          have some : values ≠ [] := by
            simp only [Bool.and_eq_true, Bool.not_eq_true', List.isEmpty_eq_false_iff] at enumerated
            exact enumerated.1
          refine Keeps.pure sound ⟨rfl, declarable_enumeration state name _ _, ?_, ?_⟩
          · exact fun aliased => Bool.noConfusion aliased
          · exact fun pointer refers => absurd refers (not_refersOutside_of_values some)
      · split
        · refine (writes_expression coherent resolves _ shape
            (fun pointer refers _ => placed pointer refers) state sound amid).bind ?_
          intro type after soundAfter _ fits
          exact Keeps.pure soundAfter (renders_alias fits)
        · next interface =>
            apply (writes_interfaceBody coherent resolves parts shape state sound amid).bind
            rintro ⟨fields, index⟩ after soundAfter _ fits
            refine Keeps.pure soundAfter ⟨rfl, declarable_interface fits, ?_, ?_⟩
            · exact fun aliased => Bool.noConfusion aliased
            · exact fun pointer refers => absurd refers
                (not_refersOutside_of_interface (Bool.eq_false_iff.mpr interface))

/-- A declaration that renders a component outlines it. -/
theorem Renders.outlined {node : SchemaNode} {name key : String} {declaration : Declaration}
    {state after : Compilation} (renders : Renders task node name declaration state)
    (innermost : state.active.head? = some key) (grows : Grows task state after) :
    Outlined task after key node declaration where
  refers := by
    intro aliased other mentioned
    rcases (renders.fits aliased).outside rfl other mentioned with
      ⟨target, pointer, refers, leads, named⟩ | ⟨hoisted, listed, rest⟩
    · exact Or.inl ⟨target, ⟨pointer, refers, leads, by simp [named]⟩, named⟩
    · exact Or.inr ⟨hoisted, grows.declarations.subset listed, rest⟩
  isAlias := by
    rintro target ⟨pointer, refers, -⟩
    exact renders.isAlias pointer refers
  mentions := by
    rintro target other ⟨pointer, refers, leads, -⟩ named word
    have fits := renders.fits (renders.isAlias pointer refers)
    rcases fits.complete rfl target other ⟨pointer, refers, leads, named⟩ word with
      mentioned | cut
    · exact Or.inl mentioned
    · rw [List.headD_eq_head?_getD, innermost] at cut
      exact Or.inr (grows.notices _ cut)

/-! ## References -/

/-- Declaring a component that is not active keeps a state sound, and the component is
declared. -/
def Ensures (task : Task) (active : List String) (ensure : String → Compile Unit) : Prop :=
  ∀ key name, task.schemaName? key = some name → key ∉ active → ∀ state, Sound task state →
    state.active = active →
    Keeps task [] state (ensure key) fun _ after => name ∈ after.names

/-- A reference outside interfaces to an active component is a cut. -/
theorem Sound.cut {state : Compilation} (sound : Sound task state) {pointer key name : String}
    (leads : schemaKey? pointer = some key) (named : task.schemaName? key = some name)
    (member : key ∈ state.active) (placed : Placed task state.active pointer) :
    Cut task state (state.active.headD "") key task.fallback := by
  have pending := sound.accounts.activePending
  cases stack : state.active with
  | nil => simp [stack] at member
  | cons place below =>
      rw [stack] at member pending placed
      obtain ⟨first, placeNamed, -⟩ := pending place List.mem_cons_self
      obtain ⟨node, found, refers⟩ := placed place rfl
      refine ⟨rfl, ⟨node, found, pointer, refers, leads, by simp [named]⟩,
        first, name, placeNamed, named, ?_⟩
      rcases List.mem_cons.mp member with same | deeper
      · exact Or.inl (Option.some.inj (placeNamed.symm.trans (same ▸ named)))
      · right
        rw [Task.schedule, stack, List.filterMap_cons_some placeNamed]
        have below := List.mem_filterMap.mpr ⟨key, deeper, named⟩
        exact (List.Sublist.cons_cons first (List.singleton_sublist.mpr below)).trans
          (List.sublist_append_right _ _)

/-- A single pointer leads to the component of its key and to nothing else. -/
theorem leadsTo_pointer_iff {pointer key name : String} :
    LeadsTo task (fun other => other = pointer) key name ↔
      schemaKey? pointer = some key ∧ task.schemaName? key = some name := by
  constructor
  · rintro ⟨_, rfl, leads, named⟩
    exact ⟨leads, named⟩
  · rintro ⟨leads, named⟩
    exact ⟨pointer, rfl, leads, named⟩

/-- When components can be declared, references are resolved to types that fit. -/
theorem resolves_resolveReference {ensure : String → Compile Unit}
    (ensures : Ensures task active ensure) (coherent : task.Coherent) :
    Resolves task active (resolveReference task ensure) := by
  intro pointer inRecord placed state sound amid
  cases leads : schemaKey? pointer with
  | none =>
      simp only [resolveReference, leads]
      apply (keeps_notify sound (by simp)).bind
      intro _ after soundAfter _ _
      refine Keeps.pure soundAfter (Fits.fallback ?_)
      intro _ key name reached
      simp [leadsTo_pointer_iff, leads] at reached
  | some key =>
      cases named : task.schemaName? key with
      | none =>
          simp only [resolveReference, leads, named]
          apply (keeps_notify sound (by simp)).bind
          intro _ after soundAfter _ _
          refine Keeps.pure soundAfter (Fits.fallback ?_)
          intro _ other name reached
          rw [leadsTo_pointer_iff, leads] at reached
          obtain ⟨⟨⟩, also⟩ := reached
          simp [named] at also
      | some name =>
          have here : LeadsTo task (fun other => other = pointer) key name :=
            leadsTo_pointer_iff.mpr ⟨leads, named⟩
          have only : ∀ other otherName, LeadsTo task (fun other => other = pointer) other
              otherName → otherName = name := by
            intro other otherName reached
            rw [leadsTo_pointer_iff, leads] at reached
            obtain ⟨⟨⟩, also⟩ := reached
            exact Option.some.inj (also.symm.trans named)
          simp only [resolveReference, leads, named]
          apply Keeps.get
          by_cases member : key ∈ state.active
          · rw [if_pos (by simpa using member)]
            cases inRecord with
            | true =>
                exact Keeps.pure sound (Fits.component (coherent.isName named)
                  (sound.accounts.componentsUsed named) nofun here only)
            | false =>
                refine (keeps_notify sound ?_).bind ?_
                · rintro place target fallback ⟨⟩
                  exact sound.cut leads named member (amid ▸ placed rfl)
                · intro _ after soundAfter extension given
                  refine Keeps.pure soundAfter (Fits.fallback ?_)
                  intro _ other otherName reached
                  rw [leadsTo_pointer_iff, leads] at reached
                  rw [← Option.some.inj reached.1, extension.active]
                  exact given
          · rw [if_neg (by simpa using member)]
            apply (ensures key name named (amid ▸ member) state sound amid).bind
            intro _ after soundAfter _ declared
            exact Keeps.pure soundAfter (Fits.component (coherent.isName named)
              (soundAfter.accounts.componentsUsed named) (fun _ => declared) here only)

/-! ## Components -/

/-- A state has no more active components than the document has components. -/
theorem Sound.active_le {state : Compilation} (sound : Sound task state)
    (coherent : task.Coherent) : state.active.length ≤ task.document.schemas.length := by
  have inside : state.active ⊆ task.document.schemas.map (·.1) := by
    intro key member
    obtain ⟨name, named, -⟩ := sound.accounts.activePending key member
    exact coherent.mem_keys named
  have fits := (sound.accounts.activeDistinct.subperm inside).length_le
  rwa [List.length_map] at fits

/-- The body of a component, its declaration and its end, taken together. -/
theorem run_component {resolve : Resolver} {key name : String} {node : SchemaNode}
    {state middle : Compilation} {declaration : Declaration}
    (body : (declarationOf task resolve name node).run (state.entered key) = (declaration, middle))
    (undeclared : declaration.name ∉ middle.names)
    (innermost : middle.active = key :: state.active) :
    (do
      Compile.enter key
      declareNode task resolve name node
      Compile.leave key : Compile Unit).run state =
      ((), middle.completed declaration state.active) := by
  have declared : (declareNode task resolve name node).run (state.entered key) =
      ((), middle.withDeclaration declaration) := by
    change (Compile.declare ((declarationOf task resolve name node).run (state.entered key)).1).run
      ((declarationOf task resolve name node).run (state.entered key)).2 = _
    rw [body, run_declare undeclared]
  change (Compile.leave key).run
    ((declareNode task resolve name node).run (state.entered key)).2 = _
  rw [declared]
  change ((), { middle.withDeclaration declaration with active := middle.active.erase key }) = _
  rw [innermost, List.erase_cons_head]
  rfl

/-- Declaring a component that is neither declared nor active keeps a state sound, as long
as references are resolved while it is active. -/
theorem keeps_component (coherent : task.Coherent) {resolve : Resolver} {key name : String}
    {node : SchemaNode} {state : Compilation} (sound : Sound task state)
    (resolves : Resolves task (key :: state.active) resolve)
    (named : task.schemaName? key = some name) (found : task.document.schema? key = some node)
    (undeclared : name ∉ state.names) (inactive : key ∉ state.active) :
    Keeps task [] state (do
      Compile.enter key
      declareNode task resolve name node
      Compile.leave key) fun _ after => name ∈ after.names := by
  have placed : ∀ pointer, node.RefersOutside pointer →
      Placed task (key :: state.active) pointer := by
    rintro pointer refers place ⟨⟩
    exact ⟨node, found, refers⟩
  have body := keeps_declarationOf coherent resolves (coherent.isName named) node placed
    (sound.entered named undeclared inactive) rfl
  cases run : (declarationOf task resolve name node).run (state.entered key) with
  | mk declaration middle =>
      obtain ⟨soundMiddle, extension, renders⟩ := body
      rw [run] at soundMiddle extension renders
      have innermost : middle.active = key :: state.active := extension.active
      have own : task.schemaName? key = some declaration.name := renders.named ▸ named
      have waiting : declaration.name ∉ middle.names := by
        obtain ⟨other, also, pending⟩ :=
          soundMiddle.accounts.activePending key (by simp [innermost])
        rw [own] at also
        exact Option.some.inj also ▸ pending
      have whole := run_component run waiting innermost
      constructor
      · rw [whole]
        apply soundMiddle.completed coherent own innermost renders.declarable
        intro other also
        rw [← Option.some.inj (found.symm.trans also)]
        exact renders.outlined (by simp [innermost]) (grows_completed own innermost)
      · rw [whole]
        exact extends_completed own inactive extension
      · rw [whole, Compilation.names_completed, renders.named]
        exact List.mem_append_right _ List.mem_cons_self

/-- With budget left, a component is declared and the state is kept sound.  Every active
component uses up a part of the budget. -/
theorem ensures_ensureWithin (coherent : task.Coherent) (budget : Nat)
    (active : List String) (enough : task.document.schemas.length < active.length + budget) :
    Ensures task active (ensureWithin task budget) := by
  induction budget generalizing active with
  | zero =>
      intro key name _ _ state sound amid
      have few := sound.active_le coherent
      rw [amid] at few
      omega
  | succ budget ih =>
      intro key name named inactive state sound amid
      obtain ⟨node, found⟩ := coherent.exists_schema named
      have resolves : Resolves task (key :: active)
          (resolveReference task (ensureWithin task budget)) := by
        refine resolves_resolveReference (ih (key :: active) ?_) coherent
        rw [List.length_cons]
        omega
      rw [← amid] at inactive resolves
      simp only [ensureWithin, named, found]
      apply Keeps.get
      by_cases declared : name ∈ state.names
      · rw [if_pos (by simp [declared])]
        exact Keeps.pure sound declared
      · rw [if_neg (by simp [declared, inactive])]
        exact keeps_component coherent sound resolves named found declared inactive

/-- Declaring any component while none is active keeps a state sound. -/
theorem keeps_ensureSchema (coherent : task.Coherent) {key name : String}
    (named : task.schemaName? key = some name) {state : Compilation} (sound : Sound task state)
    (idle : state.active = []) :
    Keeps task [] state (task.ensureSchema key) fun _ after => name ∈ after.names :=
  ensures_ensureWithin coherent task.budget [] (by simp [Task.budget]) key name named
    List.not_mem_nil state sound idle

/-- While no component is active, references are resolved to types that fit. -/
theorem resolves_reference (coherent : task.Coherent) : Resolves task [] task.reference :=
  resolves_resolveReference (ensures_ensureWithin coherent task.budget [] (by simp [Task.budget]))
    coherent

end AsyncTypes.TypeScript
