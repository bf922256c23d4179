import AsyncTypes.Proofs.Compilation.Outline

/-!
# What holds of every state of a compilation

The *accounts* say that no name is given or declared twice and that an active component
is not declared yet.  Every declaration is *grounded*: an alias mentions only names that
are declared before it.  Every circular reference is a *cut*: a reference outside
interfaces to a component that is declared no earlier than the one it stands in.
-/

namespace AsyncTypes.TypeScript

namespace Compilation

/-! ## Order of declarations -/

/-- The first name is declared, and earlier than the second if that is declared at all. -/
def DeclaresBefore (state : Compilation) (first second : String) : Prop :=
  state.names.idxOf first < state.names.idxOf second

theorem mem_names_iff {state : Compilation} {name : String} :
    name ∈ state.names ↔ ∃ declaration ∈ state.declarations, declaration.name = name :=
  List.mem_map

@[simp]
theorem isDeclared_iff {state : Compilation} {name : String} :
    state.isDeclared name = true ↔ name ∈ state.names := by
  simp [isDeclared, names]

theorem mem_names_mono {state after : Compilation} {name : String}
    (grown : state.declarations <+: after.declarations) (member : name ∈ state.names) :
    name ∈ after.names :=
  (grown.map _).subset member

namespace DeclaresBefore

variable {state after : Compilation} {first second third : String}

theorem mem (before : state.DeclaresBefore first second) : first ∈ state.names :=
  List.idxOf_lt_length_iff.mp (Nat.lt_of_lt_of_le before List.idxOf_le_length)

theorem trans (before : state.DeclaresBefore first second)
    (next : state.DeclaresBefore second third) : state.DeclaresBefore first third :=
  Nat.lt_trans before next

theorem irrefl (state : Compilation) (name : String) : ¬ state.DeclaresBefore name name :=
  Nat.lt_irrefl _

theorem asymm (before : state.DeclaresBefore first second) :
    ¬ state.DeclaresBefore second first :=
  Nat.lt_asymm before

/-- A declared name comes before one that is not declared. -/
theorem of_mem (member : first ∈ state.names) (undeclared : second ∉ state.names) :
    state.DeclaresBefore first second := by
  unfold DeclaresBefore
  rw [List.idxOf_eq_length undeclared]
  exact List.idxOf_lt_length_iff.mpr member

/-- Later declarations do not change the order. -/
theorem mono (before : state.DeclaresBefore first second)
    (grown : state.declarations <+: after.declarations) : after.DeclaresBefore first second := by
  obtain ⟨added, appended⟩ := grown
  have names : after.names = state.names ++ added.map (·.name) := by
    simp [Compilation.names, ← appended]
  have member := before.mem
  have inside := List.idxOf_lt_length_iff.mpr member
  unfold DeclaresBefore at before ⊢
  rw [names, List.idxOf_append, List.idxOf_append, if_pos member]
  split
  · exact before
  · omega

/-- In a list of distinct names, the first of two comes before the second. -/
theorem of_sublist (distinct : state.names.Nodup) (ordered : [first, second].Sublist state.names) :
    state.DeclaresBefore first second := by
  obtain ⟨earlier, later, split, firstLater, secondLater⟩ := List.cons_sublist_iff.mp ordered
  have member : second ∈ later := List.singleton_sublist.mp secondLater
  have apart : second ∉ earlier := by
    intro repeated
    rw [split] at distinct
    exact (List.nodup_append.mp distinct).2.2 second repeated second member rfl
  have inside := List.idxOf_lt_length_iff.mpr firstLater
  unfold DeclaresBefore
  rw [split, List.idxOf_append, List.idxOf_append, if_pos firstLater, if_neg apart]
  omega

end DeclaresBefore

end Compilation

/-! ## Growth -/

namespace Task

/-- The names that are declared, and those of the active components in the order in which
they will be. -/
def schedule (task : Task) (state : Compilation) : List String :=
  state.names ++ state.active.filterMap task.schemaName?

end Task

/-- Nothing is lost from one state to another, and what is scheduled stays in order. -/
structure Grows (task : Task) (state after : Compilation) : Prop where
  declarations : state.declarations <+: after.declarations
  used : ∀ name ∈ state.used, name ∈ after.used
  notices : ∀ notice ∈ state.notices, notice ∈ after.notices
  schedule : (task.schedule state).Sublist (task.schedule after)

namespace Grows

variable {task : Task} {state middle after : Compilation}

theorem refl (task : Task) (state : Compilation) : Grows task state state :=
  ⟨List.prefix_refl _, fun _ member => member, fun _ member => member, List.Sublist.refl _⟩

theorem trans (first : Grows task state middle) (second : Grows task middle after) :
    Grows task state after where
  declarations := first.declarations.trans second.declarations
  used := fun name member => second.used name (first.used name member)
  notices := fun notice member => second.notices notice (first.notices notice member)
  schedule := first.schedule.trans second.schedule

end Grows

/-! ## Grounded declarations -/

/-- A component is declared as its references outside interfaces say: an alias mentions
the components that they refer to and hoisted parts, and none of them is left out but by
a cut.  A name that reads like a number may be left out beside that number. -/
structure Outlined (task : Task) (state : Compilation) (key : String) (node : SchemaNode)
    (declaration : Declaration) : Prop where
  refers : declaration.isAlias = true → ∀ name, declaration.Mentions name →
    (∃ target, task.RefersTo node target ∧ task.schemaName? target = some name) ∨
      ∃ hoisted ∈ state.declarations, hoisted.name = name ∧ hoisted.isAlias = false
  isAlias : ∀ target, task.RefersTo node target → declaration.isAlias = true
  mentions : ∀ target name, task.RefersTo node target → task.schemaName? target = some name →
    name ∉ numberWords → declaration.Mentions name ∨
      .circularReference key target task.fallback ∈ state.notices

/-- A declaration is made of types that can be written, it mentions names that are taken,
and an alias mentions names that are declared before it. -/
structure Grounded (task : Task) (state : Compilation) (declaration : Declaration) : Prop where
  writable : ∀ type ∈ declaration.types, type.Writable
  used : ∀ name, declaration.Mentions name → name ∈ state.used
  before : declaration.isAlias = true → ∀ name, declaration.Mentions name →
    state.DeclaresBefore name declaration.name
  outlined : ∀ {key node}, task.schemaName? key = some declaration.name →
    task.document.schema? key = some node → Outlined task state key node declaration

theorem Outlined.mono {task : Task} {state after : Compilation} {key : String}
    {node : SchemaNode} {declaration : Declaration}
    (outlined : Outlined task state key node declaration) (grows : Grows task state after) :
    Outlined task after key node declaration where
  refers := by
    intro aliased name mentioned
    rcases outlined.refers aliased name mentioned with component | ⟨hoisted, listed, rest⟩
    · exact Or.inl component
    · exact Or.inr ⟨hoisted, grows.declarations.subset listed, rest⟩
  isAlias := outlined.isAlias
  mentions := by
    intro target name refers named word
    rcases outlined.mentions target name refers named word with mentioned | cut
    · exact Or.inl mentioned
    · exact Or.inr (grows.notices _ cut)

theorem Grounded.mono {task : Task} {state after : Compilation} {declaration : Declaration}
    (grounded : Grounded task state declaration) (grows : Grows task state after) :
    Grounded task after declaration where
  writable := grounded.writable
  used := fun name mentioned => grows.used name (grounded.used name mentioned)
  before := fun aliased name mentioned =>
    (grounded.before aliased name mentioned).mono grows.declarations
  outlined := fun named node => (grounded.outlined named node).mono grows

/-! ## Cuts -/

/-- A reference that is replaced by the fallback stands outside interfaces in the schema
of its place, and its target is declared no earlier than that schema. -/
structure Cut (task : Task) (state : Compilation) (place key fallback : String) : Prop where
  word : fallback = task.fallback
  refers : ∃ node, task.document.schema? place = some node ∧ task.RefersTo node key
  scheduled : ∃ first second, task.schemaName? place = some first ∧
    task.schemaName? key = some second ∧
    (first = second ∨ [first, second].Sublist (task.schedule state))

theorem Cut.mono {task : Task} {state after : Compilation} {place key fallback : String}
    (cut : Cut task state place key fallback) (grows : Grows task state after) :
    Cut task after place key fallback where
  word := cut.word
  refers := cut.refers
  scheduled := by
    obtain ⟨first, second, placeNamed, keyNamed, ordered⟩ := cut.scheduled
    refine ⟨first, second, placeNamed, keyNamed, ?_⟩
    rcases ordered with same | ordered
    · exact Or.inl same
    · exact Or.inr (ordered.trans grows.schedule)

/-! ## Sound states -/

/-- What a compilation keeps of its names. -/
structure Accounts (task : Task) (state : Compilation) : Prop where
  usedDistinct : state.used.Nodup
  usedShaped : ∀ name ∈ state.used, IsName name
  componentsUsed : ∀ {key name}, task.schemaName? key = some name → name ∈ state.used
  namesDistinct : state.names.Nodup
  namesUsed : ∀ name ∈ state.names, name ∈ state.used
  noneRefused : state.refused = []
  activeDistinct : state.active.Nodup
  activePending : ∀ key ∈ state.active, ∃ name, task.schemaName? key = some name ∧
    name ∉ state.names

/-- What holds of every state of a compilation. -/
structure Sound (task : Task) (state : Compilation) : Prop where
  accounts : Accounts task state
  grounded : ∀ declaration ∈ state.declarations, Grounded task state declaration
  cuts : ∀ {place key fallback}, .circularReference place key fallback ∈ state.notices →
    Cut task state place key fallback

end AsyncTypes.TypeScript
