import AsyncTypes.Proofs.Compilation.Independence
import AsyncTypes.Proofs.Expression.Structure

/-!
# What an expression depicts

A node has an intended tree, up to the names of the parts that are hoisted out of it: a
reference is the name that it resolves to, an enumeration and a record are the name of their
own declaration, values are the union of their literals, an array is that of the tree of its
items, several type names are the union of what each of them means, and the groups of a
composition, each joined by its own operator, are intersected, with the record beside them when
properties are listed.  Whatever state a compilation is in, the text that it writes for a node
is read as a tree that the node depicts.
-/

namespace AsyncTypes.TypeScript

variable {task : Task} {inRecord : Bool}

/-! ## Words -/

/-- A text that can be the name of a declaration: it is read as one word. -/
def IsWord (name : String) : Prop :=
  name ≠ "" ∧ ∀ c ∈ name.toList, isWordCharacter c = true

theorem IsWord.isAtom {name : String} (word : IsWord name) : IsAtom name :=
  Or.inl word

theorem IsWord.append {name ending : String} (word : IsWord name)
    (part : ∀ c ∈ ending.toList, isWordCharacter c = true) : IsWord (name ++ ending) := by
  constructor
  · intro empty
    exact word.1 (String.append_eq_empty_iff.mp empty).1
  · rw [String.toList_append]
    exact List.forall_mem_append.mpr ⟨word.2, part⟩

theorem IsWord.numbered {name : String} (word : IsWord name) (number : Nat) :
    IsWord (name ++ toString number) := by
  apply word.append
  intro c member
  rw [Nat.toString_eq_repr, Nat.toList_repr] at member
  exact isWordCharacter_of_isNameCharacter (isNameCharacter_of_isDigit
    (Nat.isDigit_of_mem_toDigits (by decide) (by decide) member))

theorem IsWord.part {name : String} (word : IsWord name) (number : Nat) :
    IsWord (name ++ "Part" ++ toString number) :=
  (word.append (List.all_eq_true.mp (by decide))).numbered number

theorem IsWord.item {name : String} (word : IsWord name) : IsWord (name ++ "Item") :=
  word.append (List.all_eq_true.mp (by decide))

/-- A name is a word. -/
theorem IsName.isWord {name : String} (shape : IsName name) : IsWord name := by
  constructor
  · rintro rfl
    obtain ⟨first, rest, spelled, -, -⟩ := shape
    exact List.cons_ne_nil first rest spelled.symm
  · exact fun c member => isWordCharacter_of_isNameCharacter (shape.characters c member)

/-! ## Declarations of parts -/

/-- What is active stays active, and names and declarations are only added. -/
structure Compilation.Onward (before after : Compilation) : Prop where
  active : after.active = before.active
  used : before.used <+: after.used
  declarations : before.declarations <+: after.declarations
  refused : before.refused <+: after.refused

theorem Compilation.Onward.refl (state : Compilation) : state.Onward state :=
  ⟨rfl, List.prefix_refl _, List.prefix_refl _, List.prefix_refl _⟩

theorem Compilation.Onward.trans {before middle after : Compilation}
    (first : before.Onward middle) (second : middle.Onward after) : before.Onward after where
  active := second.active.trans first.active
  used := first.used.trans second.used
  declarations := first.declarations.trans second.declarations
  refused := first.refused.trans second.refused

instance : Respected Compilation.Onward where
  refl := .refl
  trans := .trans
  reserve := fun _ _ =>
    ⟨rfl, List.prefix_append _ _, List.prefix_refl _, List.prefix_refl _⟩
  notify := fun _ _ => ⟨rfl, List.prefix_refl _, List.prefix_refl _, List.prefix_refl _⟩
  declare := by
    intro declaration state
    rcases Compilation.run_declare_cases state declaration with refused | collected
    · rw [refused]
      exact ⟨rfl, List.prefix_refl _, List.prefix_refl _, List.prefix_append _ _⟩
    · rw [collected]
      exact ⟨rfl, List.prefix_refl _, List.prefix_append _ _, List.prefix_refl _⟩
  enclose := by
    rintro key state after ⟨active, used, declarations, refused⟩
    exact ⟨by rw [active, List.erase_cons_head], used, declarations, refused⟩

/-- From one state to a later one a part is declared under a name of its own, which was free
before: the wanted name, perhaps with a number after it.  A declaration is refused when its
name is declared already. -/
structure Hoisted (before : Compilation) (wanted : String) (declaration : Declaration)
    (after : Compilation) : Prop where
  onward : before.Onward after
  named : declaration.name = wanted ∨
    ∃ number : Nat, declaration.name = wanted ++ toString number
  free : declaration.name ∉ before.used
  taken : declaration.name ∈ after.used
  made : declaration ∈ after.declarations ∨ declaration ∈ after.refused

/-! ## Intended trees -/

namespace TypeTree

/-- The tree of a value: its literal, or the fallback. -/
def ofValue (fallback : String) (value : Value) : TypeTree :=
  .atom ((TypeExpr.literalText? value).getD fallback)

/-- The tree of a type name: its keyword, or the fallback. -/
def ofTypeName (fallback name : String) : TypeTree :=
  .atom (((TypeExpr.keywords.find? fun entry => entry.1 == name).map (·.2)).getD fallback)

/-- The tree of a reference: the name of the component that it names, unless that name would
close a circle outside interfaces. -/
def ofReference (task : Task) (active : List String) (inRecord : Bool) (pointer : String) :
    TypeTree :=
  match schemaKey? pointer with
  | none => .atom task.fallback
  | some key =>
      match task.schemaName? key with
      | none => .atom task.fallback
      | some name => .atom (if active.contains key && !inRecord then task.fallback else name)

/-- The group of a keyword's branches, when it has any. -/
def groupOf (join : List TypeTree → TypeTree) (branches : List TypeTree) : List TypeTree :=
  if branches.isEmpty then [] else [join branches]

/-- The groups of the composition keywords. -/
def groups (all any one : List TypeTree) : List TypeTree :=
  groupOf intersectionOf all ++ groupOf unionOf any ++ groupOf unionOf one

end TypeTree

section

variable (task : Task) (inRecord : Bool)

mutual

/-- The tree that a node depicts when it is compiled from one state to another; `name` is what
its hoisted parts are called after. -/
inductive Depicts : String → Compilation → SchemaNode → TypeTree → Compilation → Prop
  | reference {name : String} {before after : Compilation} {pointer : String} :
      before.Onward after →
      Depicts name before (.reference pointer)
        (.ofReference task before.active inRecord pointer) after
  | enumeration {name own : String} {before after : Compilation} {annotations : Annotations}
      {values : List Value} {composition : Composition SchemaNode} {shape : Shape SchemaNode} :
      values ≠ [] → task.declaresEnumeration values = true →
      Hoisted before name (.enumerationOf own annotations.description (values.map Value.shown))
        after →
      Depicts name before (.schema annotations values composition shape) (.atom own) after
  | values {name : String} {state : Compilation} {annotations : Annotations}
      {values : List Value} {composition : Composition SchemaNode} {shape : Shape SchemaNode} :
      values ≠ [] → task.declaresEnumeration values = false →
      Depicts name state (.schema annotations values composition shape)
        (.unionOf (values.map (.ofValue task.fallback))) state
  | plain {name : String} {before after : Compilation} {annotations : Annotations}
      {composition : Composition SchemaNode} {shape : Shape SchemaNode} {tree : TypeTree} :
      composition.isUsed = false →
      DepictsShape name annotations.description before shape tree after →
      Depicts name before (.schema annotations [] composition shape) tree after
  | composed {name : String} {before first second third : Compilation}
      {annotations : Annotations} {composition : Composition SchemaNode}
      {shape : Shape SchemaNode} {all any one : List TypeTree} :
      composition.isUsed = true → shape.properties = none →
      DepictsBranches name 1 before (Composition.branches composition.allOf) all first →
      DepictsBranches name (1 + all.length) first (Composition.branches composition.anyOf)
        any second →
      DepictsBranches name (1 + all.length + any.length) second
        (Composition.branches composition.oneOf) one third →
      Depicts name before (.schema annotations [] composition shape)
        (.intersectionOf (TypeTree.groups all any one)) third
  | beside {name : String} {before first second third after : Compilation}
      {annotations : Annotations} {composition : Composition SchemaNode}
      {shape : Shape SchemaNode} {all any one : List TypeTree} {rest : TypeTree} :
      composition.isUsed = true → shape.properties.isSome = true →
      DepictsBranches name 1 before (Composition.branches composition.allOf) all first →
      DepictsBranches name (1 + all.length) first (Composition.branches composition.anyOf)
        any second →
      DepictsBranches name (1 + all.length + any.length) second
        (Composition.branches composition.oneOf) one third →
      DepictsShape
        (name ++ "Part" ++ toString (1 + all.length + any.length + one.length)) none third
        shape rest after →
      Depicts name before (.schema annotations [] composition shape)
        (.intersectionOf (TypeTree.groups all any one ++ [rest])) after

/-- The tree that a shape depicts: under several type names, the union of what it depicts under
each of them. -/
inductive DepictsShape : String → Option String → Compilation → Shape SchemaNode → TypeTree →
    Compilation → Prop
  | several {name : String} {description : Option String} {before after : Compilation}
      {shape : Shape SchemaNode} {names : List String} {trees : List TypeTree} :
      shape.types = .several names → names ≠ [] →
      DepictsEach name description before shape names trees after →
      DepictsShape name description before shape (.unionOf trees) after
  | none {name : String} {description : Option String} {state : Compilation}
      {shape : Shape SchemaNode} :
      shape.types = .several [] →
      DepictsShape name description state shape (.atom task.fallback) state
  | typed {name : String} {description : Option String} {before after : Compilation}
      {shape : Shape SchemaNode} {tree : TypeTree} :
      (∀ names, shape.types ≠ .several names) →
      DepictsTyped name description before shape tree after →
      DepictsShape name description before shape tree after

/-- The trees that a shape depicts under some type names, in order. -/
inductive DepictsEach : String → Option String → Compilation → Shape SchemaNode →
    List String → List TypeTree → Compilation → Prop
  | nil {name : String} {description : Option String} {state : Compilation}
      {shape : Shape SchemaNode} : DepictsEach name description state shape [] [] state
  | cons {name : String} {description : Option String} {before middle after : Compilation}
      {shape : Shape SchemaNode} {typeName : String} {rest : List String} {tree : TypeTree}
      {others : List TypeTree} :
      DepictsTyped name description before { shape with types := .single typeName } tree
        middle →
      DepictsEach name description middle shape rest others after →
      DepictsEach name description before shape (typeName :: rest) (tree :: others) after

/-- The tree that a shape depicts under one type name or none. -/
inductive DepictsTyped : String → Option String → Compilation → Shape SchemaNode → TypeTree →
    Compilation → Prop
  | array {name : String} {description : Option String} {before after : Compilation}
      {shape : Shape SchemaNode} {tree : TypeTree} :
      shape.isArray = true → DepictsItems (name ++ "Item") before shape.items tree after →
      DepictsTyped name description before shape (.array tree) after
  | record {name own : String} {description : Option String} {before after : Compilation}
      {shape : Shape SchemaNode} {fields : List Field} {index : Option TypeExpr} :
      shape.isArray = false → shape.isObject = true →
      Hoisted before name (.interface own description fields index) after →
      DepictsTyped name description before shape (.atom own) after
  | typeName {name : String} {description : Option String} {state : Compilation}
      {shape : Shape SchemaNode} {typeName : String} :
      shape.isArray = false → shape.isObject = false → shape.types = .single typeName →
      DepictsTyped name description state shape (.ofTypeName task.fallback typeName) state
  | untyped {name : String} {description : Option String} {state : Compilation}
      {shape : Shape SchemaNode} :
      shape.isArray = false → shape.isObject = false → shape.types = .absent →
      DepictsTyped name description state shape (.atom task.fallback) state

/-- The tree that the items of an array depict; without items it is the fallback. -/
inductive DepictsItems : String → Compilation → Option SchemaNode → TypeTree →
    Compilation → Prop
  | none {name : String} {state : Compilation} :
      DepictsItems name state none (.atom task.fallback) state
  | some {name : String} {before after : Compilation} {node : SchemaNode} {tree : TypeTree} :
      Depicts name before node tree after → DepictsItems name before (some node) tree after

/-- The trees that some branches depict, numbered from a number on. -/
inductive DepictsBranches : String → Nat → Compilation → List SchemaNode → List TypeTree →
    Compilation → Prop
  | nil {name : String} {number : Nat} {state : Compilation} :
      DepictsBranches name number state [] [] state
  | cons {name : String} {number : Nat} {before middle after : Compilation} {node : SchemaNode}
      {rest : List SchemaNode} {tree : TypeTree} {others : List TypeTree} :
      Depicts (name ++ "Part" ++ toString number) before node tree middle →
      DepictsBranches name (number + 1) middle rest others after →
      DepictsBranches name number before (node :: rest) (tree :: others) after

end

end

mutual

/-- Where a tree is depicted, names and declarations are only added. -/
theorem Depicts.onward {name : String} {before after : Compilation} {node : SchemaNode}
    {tree : TypeTree} :
    Depicts task inRecord name before node tree after → before.Onward after
  | .reference onward => onward
  | .enumeration _ _ hoisted => hoisted.onward
  | .values _ _ => .refl _
  | .plain _ depicted => depicted.onward
  | .composed _ _ all any one => (all.onward.trans any.onward).trans one.onward
  | .beside _ _ all any one rest =>
      ((all.onward.trans any.onward).trans one.onward).trans rest.onward

theorem DepictsShape.onward {name : String} {description : Option String}
    {before after : Compilation} {shape : Shape SchemaNode} {tree : TypeTree} :
    DepictsShape task inRecord name description before shape tree after → before.Onward after
  | .several _ _ each => each.onward
  | .none _ => .refl _
  | .typed _ depicted => depicted.onward

theorem DepictsEach.onward {name : String} {description : Option String}
    {before after : Compilation} {shape : Shape SchemaNode} {names : List String}
    {trees : List TypeTree} :
    DepictsEach task inRecord name description before shape names trees after →
      before.Onward after
  | .nil => .refl _
  | .cons here later => here.onward.trans later.onward

theorem DepictsTyped.onward {name : String} {description : Option String}
    {before after : Compilation} {shape : Shape SchemaNode} {tree : TypeTree} :
    DepictsTyped task inRecord name description before shape tree after → before.Onward after
  | .array _ items => items.onward
  | .record _ _ hoisted => hoisted.onward
  | .typeName _ _ _ => .refl _
  | .untyped _ _ _ => .refl _

theorem DepictsItems.onward {name : String} {before after : Compilation}
    {items : Option SchemaNode} {tree : TypeTree} :
    DepictsItems task inRecord name before items tree after → before.Onward after
  | .none => .refl _
  | .some depicted => depicted.onward

theorem DepictsBranches.onward {name : String} {number : Nat} {before after : Compilation}
    {nodes : List SchemaNode} {trees : List TypeTree} :
    DepictsBranches task inRecord name number before nodes trees after → before.Onward after
  | .nil => .refl _
  | .cons here later => here.onward.trans later.onward

end

/-! ## Steps that draw trees -/

/-- Whatever state the step begins in, the type that it gives has a solid tree, and this is
what the given relation says of the tree and of the states before and after. -/
def Draws (task : Task) (step : Compile TypeExpr)
    (depicts : Compilation → TypeTree → Compilation → Prop) : Prop :=
  ∀ before, ((step.run before).1.tree task.fallback).Solid ∧
    depicts before ((step.run before).1.tree task.fallback) (step.run before).2

/-- The same for a step that gives several types. -/
def DrawsAll (task : Task) (step : Compile (List TypeExpr))
    (depict : Compilation → List TypeTree → Compilation → Prop) : Prop :=
  ∀ before, (∀ type ∈ (step.run before).1, (type.tree task.fallback).Solid) ∧
    depict before ((step.run before).1.map (TypeExpr.tree task.fallback)) (step.run before).2

variable {depicts further : Compilation → TypeTree → Compilation → Prop}

theorem Draws.imp {step : Compile TypeExpr} (draws : Draws task step depicts)
    (implies : ∀ before tree after, depicts before tree after → further before tree after) :
    Draws task step further :=
  fun before => ⟨(draws before).1, implies _ _ _ (draws before).2⟩

theorem draws_give {type : TypeExpr} (solid : (type.tree task.fallback).Solid)
    (holds : ∀ state, depicts state (type.tree task.fallback) state) :
    Draws task (pure type) depicts :=
  fun state => ⟨solid, holds state⟩

theorem draws_fallback (holds : ∀ state, depicts state (.atom task.fallback) state) :
    Draws task (pure .fallback) depicts :=
  draws_give (.atom (TypeExpr.isAtom_fallback task.options)) holds

/-- Types that are made of those of another step. -/
theorem DrawsAll.join {step : Compile (List TypeExpr)} {join : List TypeExpr → TypeExpr}
    {depict : Compilation → List TypeTree → Compilation → Prop}
    (draws : DrawsAll task step depict)
    (joins : ∀ before types after, (∀ type ∈ types, (type.tree task.fallback).Solid) →
      depict before (types.map (TypeExpr.tree task.fallback)) after →
      ((join types).tree task.fallback).Solid ∧
        depicts before ((join types).tree task.fallback) after) :
    Draws task (step >>= fun types => pure (join types)) depicts :=
  fun before => joins before _ _ (draws before).1 (draws before).2

theorem drawsAll_nil {depict : Compilation → List TypeTree → Compilation → Prop}
    (holds : ∀ state, depict state [] state) : DrawsAll task (pure []) depict :=
  fun state => ⟨fun _ member => absurd member List.not_mem_nil, holds state⟩

theorem Draws.cons {step : Compile TypeExpr} {rest : Compile (List TypeExpr)}
    {depictRest depict : Compilation → List TypeTree → Compilation → Prop}
    (draws : Draws task step depicts) (others : DrawsAll task rest depictRest)
    (implies : ∀ before middle after tree trees, depicts before tree middle →
      depictRest middle trees after → depict before (tree :: trees) after) :
    DrawsAll task (step >>= fun type => rest >>= fun types => pure (type :: types)) depict := by
  intro before
  have here := draws before
  have later := others (step.run before).2
  exact ⟨List.forall_mem_cons.mpr ⟨here.1, later.1⟩, implies _ _ _ _ _ here.2 later.2⟩

/-! ## Hoisted parts -/

/-- Reserving a name, a step that only adds, and a declaration under the name make a part. -/
theorem hoisted_declare {before middle : Compilation} {wanted : String}
    {declaration : Declaration} (own : declaration.name = freeName before.used wanted)
    (onward : ((Compile.reserve wanted).run before).2.Onward middle) :
    Hoisted before wanted declaration ((Compile.declare declaration).run middle).2 := by
  have reserved : before.Onward ((Compile.reserve wanted).run before).2 :=
    Respected.reserve wanted before
  have declared : middle.Onward ((Compile.declare declaration).run middle).2 :=
    Respected.declare declaration middle
  constructor
  · exact (reserved.trans onward).trans declared
  · rw [own]
    exact freeName_eq before.used wanted
  · rw [own]
    exact freeName_notMem before.used wanted
  · apply (onward.used.trans declared.used).subset
    rw [own]
    exact List.mem_append_right before.used List.mem_cons_self
  · rcases Compilation.run_declare_cases middle declaration with refused | collected
    · rw [refused]
      exact Or.inr (List.mem_append_right middle.refused List.mem_cons_self)
    · rw [collected]
      exact Or.inl (List.mem_append_right middle.declarations List.mem_cons_self)

theorem IsWord.free {wanted : String} (word : IsWord wanted) (taken : List String) :
    IsWord (freeName taken wanted) := by
  rcases freeName_eq taken wanted with same | ⟨number, same⟩
  · rwa [same]
  · rw [same]
    exact word.numbered number

theorem draws_hoistEnumeration {name : String} (word : IsWord name)
    (description : Option String) (values : List Value)
    (holds : ∀ before own after, Hoisted before name
      (.enumerationOf own description (values.map Value.shown)) after →
      depicts before (.atom own) after) :
    Draws task (hoistEnumeration name description values) depicts :=
  fun before => ⟨.atom (word.free before.used).isAtom,
    holds before _ _ (hoisted_declare rfl (.refl _))⟩

theorem draws_hoistInterface {name : String} (word : IsWord name) (description : Option String)
    {body : String → Compile (List Field × Option TypeExpr)}
    (leads : ∀ own, Leads Compilation.Onward (body own))
    (holds : ∀ before own fields index after, Hoisted before name
      (.interface own description fields index) after → depicts before (.atom own) after) :
    Draws task (hoistInterface name description body) depicts :=
  fun before => ⟨.atom (word.free before.used).isAtom,
    holds before _ _ _ _ (hoisted_declare rfl (leads _ _))⟩

/-! ## Shapes -/

section

variable {shape : Shape SchemaNode} {name : String} {description : Option String}
  {item record : Compile TypeExpr}

theorem draws_typedExpression
    (items : Draws task item fun before tree after =>
      DepictsItems task inRecord (name ++ "Item") before shape.items tree after)
    (records : Draws task record fun before tree after => ∃ own fields index,
      tree = .atom own ∧ Hoisted before name (.interface own description fields index) after)
    (types : TypeNames) (single : ∀ names, types ≠ .several names) :
    Draws task (typedExpression shape item record types) fun before tree after =>
      DepictsTyped task inRecord name description before { shape with types := types } tree
        after := by
  unfold typedExpression
  simp only
  split
  · next array =>
      intro before
      have inside := items before
      exact ⟨.array inside.1, .array array inside.2⟩
  · next notArray =>
      have notArray := Bool.eq_false_iff.mpr notArray
      split
      · next object =>
          apply records.imp
          rintro before tree after ⟨own, fields, index, rfl, hoisted⟩
          exact .record notArray object hoisted
      · next notObject =>
          have notObject := Bool.eq_false_iff.mpr notObject
          match types with
          | .single typeName =>
              apply draws_give (TypeExpr.solid_ofTypeName task.options typeName)
              intro state
              rw [TypeExpr.tree_ofTypeName]
              exact .typeName notArray notObject rfl
          | .absent => exact draws_fallback fun state => .untyped notArray notObject rfl
          | .several names => exact absurd rfl (single names)

theorem draws_eachType {compile : TypeNames → Compile TypeExpr}
    (draws : ∀ typeName, Draws task (compile (.single typeName)) fun before tree after =>
      DepictsTyped task inRecord name description before { shape with types := .single typeName }
        tree after) (names : List String) :
    DrawsAll task (eachType compile names) fun before trees after =>
      DepictsEach task inRecord name description before shape names trees after := by
  induction names with
  | nil => exact drawsAll_nil fun state => .nil
  | cons typeName rest ih => exact (draws typeName).cons ih fun _ _ _ _ _ => .cons

theorem DepictsEach.length {before after : Compilation} {names : List String}
    {trees : List TypeTree}
    (depicts : DepictsEach task inRecord name description before shape names trees after) :
    trees.length = names.length := by
  induction names generalizing before trees with
  | nil =>
      cases depicts
      rfl
  | cons typeName rest ih =>
      cases depicts with
      | cons _ others => rw [List.length_cons, List.length_cons, ih others]

theorem draws_plainExpression
    (items : Draws task item fun before tree after =>
      DepictsItems task inRecord (name ++ "Item") before shape.items tree after)
    (records : Draws task record fun before tree after => ∃ own fields index,
      tree = .atom own ∧ Hoisted before name (.interface own description fields index) after) :
    Draws task (plainExpression task shape item record) fun before tree after =>
      DepictsShape task inRecord name description before shape tree after := by
  have typed : (∀ names, shape.types ≠ .several names) →
      Draws task (typedExpression shape item record shape.types) fun before tree after =>
        DepictsShape task inRecord name description before shape tree after := fun single =>
    (draws_typedExpression items records _ single).imp fun _ _ _ => .typed single
  unfold plainExpression
  split
  · next names several =>
      have each := draws_eachType
        (fun typeName => draws_typedExpression items records (.single typeName) (by simp)) names
      apply each.join
      intro before types after solid depicted
      have counted := depicted.length
      rw [List.length_map] at counted
      by_cases none : names = []
      · subst none
        rw [List.length_nil, List.length_eq_zero_iff] at counted
        subst counted
        cases depicted
        exact ⟨.atom (TypeExpr.isAtom_fallback task.options), .none several⟩
      · have some : types ≠ [] := by
          rintro rfl
          exact none (List.length_eq_zero_iff.mp counted.symm)
        rw [if_neg (by simpa using some)]
        refine ⟨TypeExpr.solid_unionOf some solid, ?_⟩
        rw [TypeExpr.tree_unionOf solid]
        exact .several several none depicted
  · next single => exact typed single

end

/-! ## Groups -/

/-- A group is joined from the trees of its branches. -/
theorem tree_groupOf {join : List TypeExpr → TypeExpr} {joinTrees : List TypeTree → TypeTree}
    {types : List TypeExpr}
    (joins : (join types).tree task.fallback =
      joinTrees (types.map (TypeExpr.tree task.fallback)))
    (solid : types ≠ [] → ((join types).tree task.fallback).Solid) :
    (∀ type ∈ groupOf join types, (type.tree task.fallback).Solid) ∧
      (groupOf join types).map (TypeExpr.tree task.fallback) =
        TypeTree.groupOf joinTrees (types.map (TypeExpr.tree task.fallback)) := by
  unfold groupOf TypeTree.groupOf
  cases types with
  | nil => simp
  | cons type rest => simpa [joins] using solid (List.cons_ne_nil _ _)

/-- What the three keywords of a composition depict, and the number after their branches. -/
def DepictsGroups (task : Task) (inRecord : Bool) (name : String)
    (composition : Composition SchemaNode) (before : Compilation) (trees : List TypeTree)
    (next : Nat) (after : Compilation) : Prop :=
  ∃ all any one first second,
    DepictsBranches task inRecord name 1 before (Composition.branches composition.allOf) all
      first ∧
    DepictsBranches task inRecord name (1 + all.length) first
      (Composition.branches composition.anyOf) any second ∧
    DepictsBranches task inRecord name (1 + all.length + any.length) second
      (Composition.branches composition.oneOf) one after ∧
    trees = TypeTree.groups all any one ∧
    next = 1 + all.length + any.length + one.length

/-- The step gives types with the trees of the groups that a composition depicts. -/
def DrawsGroups (task : Task) (inRecord : Bool) (name : String)
    (composition : Composition SchemaNode) (step : Compile (List TypeExpr × Nat)) : Prop :=
  ∀ before types next after, step.run before = ((types, next), after) →
    (∀ type ∈ types, (type.tree task.fallback).Solid) ∧
      DepictsGroups task inRecord name composition before
        (types.map (TypeExpr.tree task.fallback)) next after

theorem DepictsBranches.length {name : String} {number : Nat} {before after : Compilation}
    {nodes : List SchemaNode} {trees : List TypeTree}
    (depicts : DepictsBranches task inRecord name number before nodes trees after) :
    trees.length = nodes.length := by
  induction nodes generalizing number before trees with
  | nil =>
      cases depicts
      rfl
  | cons node rest ih =>
      cases depicts with
      | cons _ others => rw [List.length_cons, List.length_cons, ih others]

/-- A composition that is used has a group. -/
theorem DepictsGroups.ne_nil {name : String} {composition : Composition SchemaNode}
    {before after : Compilation} {trees : List TypeTree} {next : Nat}
    (used : composition.isUsed = true)
    (depicts : DepictsGroups task inRecord name composition before trees next after) :
    trees ≠ [] := by
  obtain ⟨all, any, one, first, second, allDepicted, anyDepicted, oneDepicted, rfl, -⟩ := depicts
  intro empty
  have nothing : ∀ {join : List TypeTree → TypeTree} {branches : List TypeTree},
      TypeTree.groupOf join branches = [] → branches = [] := by
    intro join branches none
    cases branches with
    | nil => rfl
    | cons branch rest => exact absurd none (List.cons_ne_nil _ _)
  rw [TypeTree.groups, List.append_eq_nil_iff, List.append_eq_nil_iff] at empty
  cases nothing empty.1.1
  cases nothing empty.1.2
  cases nothing empty.2
  have none : ∀ {nodes : List SchemaNode}, ([] : List TypeTree).length = nodes.length →
      nodes = [] := fun same => List.length_eq_zero_iff.mp same.symm
  rw [Composition.isUsed, none allDepicted.length, none anyDepicted.length,
    none oneDepicted.length] at used
  exact absurd used (by decide)

/-! ## Nodes -/

theorem run_bind_of_run {α β : Type} {step : Compile α} {next : α → Compile β} {value : α}
    {before after : Compilation} (run : step.run before = (value, after)) :
    (step >>= next).run before = (next value).run after := by
  rw [StateT.run_bind, run]
  rfl

section

variable {resolve : Resolver}

/-- The type of a schema without values depicts it: the groups of its composition with what its
shape depicts. -/
theorem draws_composed {annotations : Annotations} {composition : Composition SchemaNode}
    {shape : Shape SchemaNode} {name : String} (word : IsWord name)
    {groups : Compile (List TypeExpr × Nat)}
    (grouped : DrawsGroups task inRecord name composition groups)
    (plain : String → Option String → Compile TypeExpr)
    (alone : ∀ part description, IsWord part → Draws task (plain part description)
      fun before tree after =>
        DepictsShape task inRecord part description before shape tree after) :
    Draws task (if composition.isUsed then do
        let found ← groups
        if shape.properties.isSome then
          let rest ← plain (name ++ "Part" ++ toString found.2) none
          return .intersectionOf task.fallback (found.1 ++ [rest])
        else return .intersectionOf task.fallback found.1
      else plain name annotations.description) fun before tree after =>
        Depicts task inRecord name before (.schema annotations [] composition shape) tree
          after := by
  by_cases used : composition.isUsed = true
  · rw [if_pos used]
    intro before
    rcases run : groups.run before with ⟨⟨types, next⟩, third⟩
    obtain ⟨solid, depicted⟩ := grouped before types next third run
    have some := depicted.ne_nil used
    rw [Ne, List.map_eq_nil_iff] at some
    obtain ⟨all, any, one, first, second, allOf, anyOf, oneOf, made, rfl⟩ := depicted
    rw [run_bind_of_run run]
    by_cases properties : shape.properties.isSome = true
    · have beside := alone _ none (word.part (1 + all.length + any.length + one.length)) third
      have both := List.forall_mem_append.mpr ⟨solid, List.forall_mem_singleton.mpr beside.1⟩
      simp only [properties, if_true]
      refine ⟨TypeExpr.solid_intersectionOf (List.append_ne_nil_of_left_ne_nil some _) both, ?_⟩
      have tree := TypeExpr.tree_intersectionOf both
      rw [List.map_append, made] at tree
      exact tree ▸ .beside used properties allOf anyOf oneOf beside.2
    · simp only [properties, Bool.false_eq_true, if_false]
      refine ⟨TypeExpr.solid_intersectionOf some solid, ?_⟩
      have tree := TypeExpr.tree_intersectionOf solid
      rw [made] at tree
      exact tree ▸ .composed used (Option.not_isSome_iff_eq_none.mp properties) allOf anyOf oneOf
  · rw [if_neg used]
    exact (alone name annotations.description word).imp fun _ _ _ =>
      .plain (Bool.eq_false_iff.mpr used)

mutual

/-- Compiling a node draws a tree that the node depicts. -/
theorem draws_expression
    (resolves : ∀ pointer inRecord, Leads Compilation.Onward (resolve pointer inRecord))
    (draws : ∀ pointer inRecord, Draws task (resolve pointer inRecord) fun before tree after =>
      before.Onward after ∧ tree = .ofReference task before.active inRecord pointer) :
    ∀ (node : SchemaNode) {name : String} {inRecord : Bool}, IsWord name →
      Draws task (expression task resolve name inRecord node) fun before tree after =>
        Depicts task inRecord name before node tree after
  | .reference pointer, name, inRecord, _ => by
      rw [expression]
      apply (draws pointer inRecord).imp
      rintro before tree after ⟨onward, rfl⟩
      exact .reference onward
  | .schema annotations values composition shape, name, inRecord, word => by
      rw [expression]
      by_cases any : values = []
      · subst any
        simp only [List.isEmpty_nil, Bool.not_true, Bool.false_eq_true, if_false]
        apply draws_composed word (draws_compositionGroups resolves draws composition word)
          fun part description =>
          plainExpression task shape (itemExpression task resolve (part ++ "Item") inRecord shape)
            (hoistInterface part description fun own => interfaceBody task resolve own shape)
        intro part description partWord
        apply draws_plainExpression (draws_itemExpression resolves draws shape partWord.item)
        exact draws_hoistInterface partWord description
          (fun own => leads_interfaceBody resolves own shape)
          fun _ own fields index _ hoisted => ⟨own, fields, index, rfl, hoisted⟩
      · rw [if_pos (by simpa using any)]
        split
        · next declares =>
            exact draws_hoistEnumeration word annotations.description values
              fun _ _ _ => .enumeration any declares
        · next inline =>
            have solid : ∀ member ∈ values.map TypeExpr.ofValue,
                (member.tree task.fallback).Solid := by
              intro member listed
              obtain ⟨value, -, rfl⟩ := List.mem_map.mp listed
              exact TypeExpr.solid_ofValue task.options value
            refine draws_give (TypeExpr.solid_unionOf (by simpa using any) solid) fun state => ?_
            have trees : (values.map TypeExpr.ofValue).map (TypeExpr.tree task.fallback) =
                values.map (.ofValue task.fallback) := by
              rw [List.map_map]
              exact List.map_congr_left fun value _ => TypeExpr.tree_ofValue value
            rw [TypeExpr.ofValues, TypeExpr.tree_unionOf solid, trees]
            exact .values any (Bool.eq_false_iff.mpr inline)

/-- Compiling the items of an array draws a tree that they depict. -/
theorem draws_itemExpression
    (resolves : ∀ pointer inRecord, Leads Compilation.Onward (resolve pointer inRecord))
    (draws : ∀ pointer inRecord, Draws task (resolve pointer inRecord) fun before tree after =>
      before.Onward after ∧ tree = .ofReference task before.active inRecord pointer) :
    ∀ (shape : Shape SchemaNode) {name : String} {inRecord : Bool}, IsWord name →
      Draws task (itemExpression task resolve name inRecord shape) fun before tree after =>
        DepictsItems task inRecord name before shape.items tree after
  | ⟨_, _, _, none, _⟩, name, inRecord, _ => by
      rw [itemExpression]
      exact draws_fallback fun _ => .none
  | ⟨_, _, _, some node, _⟩, name, inRecord, word => by
      rw [itemExpression]
      exact (draws_expression resolves draws node word).imp fun _ _ _ => .some

/-- Compiling the composition keywords draws the groups that they depict. -/
theorem draws_compositionGroups
    (resolves : ∀ pointer inRecord, Leads Compilation.Onward (resolve pointer inRecord))
    (draws : ∀ pointer inRecord, Draws task (resolve pointer inRecord) fun before tree after =>
      before.Onward after ∧ tree = .ofReference task before.active inRecord pointer) :
    ∀ (composition : Composition SchemaNode) {name : String} {inRecord : Bool}, IsWord name →
      DrawsGroups task inRecord name composition
        (compositionGroups task resolve name inRecord composition)
  | ⟨allOf, anyOf, oneOf⟩, name, inRecord, word => by
      intro before types next third run
      rw [compositionGroups] at run
      rcases allRun : (keywordExpressions task resolve name inRecord 1 allOf).run before with
        ⟨all, first⟩
      rcases anyRun : (keywordExpressions task resolve name inRecord (1 + all.length) anyOf).run
        first with ⟨any, second⟩
      rcases oneRun : (keywordExpressions task resolve name inRecord
        (1 + all.length + any.length) oneOf).run second with ⟨one, last⟩
      have drawnAll := draws_keywordExpressions resolves draws allOf inRecord word 1 before
      have drawnAny := draws_keywordExpressions resolves draws anyOf inRecord word
        (1 + all.length) first
      have drawnOne := draws_keywordExpressions resolves draws oneOf inRecord word
        (1 + all.length + any.length) second
      rw [allRun] at drawnAll
      rw [anyRun] at drawnAny
      rw [oneRun] at drawnOne
      rw [run_bind_of_run allRun, run_bind_of_run anyRun, run_bind_of_run oneRun] at run
      cases run
      have groupAll := tree_groupOf (TypeExpr.tree_intersectionOf drawnAll.1)
        fun some => TypeExpr.solid_intersectionOf some drawnAll.1
      have groupAny := tree_groupOf (TypeExpr.tree_unionOf drawnAny.1)
        fun some => TypeExpr.solid_unionOf some drawnAny.1
      have groupOne := tree_groupOf (TypeExpr.tree_unionOf drawnOne.1)
        fun some => TypeExpr.solid_unionOf some drawnOne.1
      constructor
      · exact List.forall_mem_append.mpr
          ⟨List.forall_mem_append.mpr ⟨groupAll.1, groupAny.1⟩, groupOne.1⟩
      · refine ⟨all.map (TypeExpr.tree task.fallback), any.map (TypeExpr.tree task.fallback),
          one.map (TypeExpr.tree task.fallback), first, second, drawnAll.2, ?_, ?_, ?_, ?_⟩
        · rw [List.length_map]
          exact drawnAny.2
        · rw [List.length_map, List.length_map]
          exact drawnOne.2
        · rw [List.map_append, List.map_append, groupAll.2, groupAny.2, groupOne.2,
            TypeTree.groups]
        · rw [List.length_map, List.length_map, List.length_map]

/-- Compiling the branches of a keyword draws trees that they depict. -/
theorem draws_keywordExpressions
    (resolves : ∀ pointer inRecord, Leads Compilation.Onward (resolve pointer inRecord))
    (draws : ∀ pointer inRecord, Draws task (resolve pointer inRecord) fun before tree after =>
      before.Onward after ∧ tree = .ofReference task before.active inRecord pointer) :
    ∀ (keyword : Option (List SchemaNode)) {name : String} (inRecord : Bool), IsWord name →
      ∀ number, DrawsAll task (keywordExpressions task resolve name inRecord number keyword)
        fun before trees after => DepictsBranches task inRecord name number before
          (Composition.branches keyword) trees after
  | none, name, inRecord, _, number => by
      rw [keywordExpressions]
      exact drawsAll_nil fun _ => .nil
  | some branches, name, inRecord, word, number => by
      rw [keywordExpressions]
      exact draws_branchExpressions resolves draws branches word number

/-- Compiling some branches draws trees that they depict. -/
theorem draws_branchExpressions
    (resolves : ∀ pointer inRecord, Leads Compilation.Onward (resolve pointer inRecord))
    (draws : ∀ pointer inRecord, Draws task (resolve pointer inRecord) fun before tree after =>
      before.Onward after ∧ tree = .ofReference task before.active inRecord pointer) :
    ∀ (branches : List SchemaNode) {name : String} {inRecord : Bool}, IsWord name →
      ∀ number, DrawsAll task (branchExpressions task resolve name inRecord number branches)
        fun before trees after =>
          DepictsBranches task inRecord name number before branches trees after
  | [], name, inRecord, _, number => by
      rw [branchExpressions]
      exact drawsAll_nil fun _ => .nil
  | node :: rest, name, inRecord, word, number => by
      rw [branchExpressions]
      exact (draws_expression resolves draws node (word.part number)).cons
        (draws_branchExpressions resolves draws rest word (number + 1)) fun _ _ _ _ _ => .cons

end

end

/-! ## References -/

/-- A reference is drawn as the name that it resolves to. -/
theorem draws_resolveReference (shaped : task.NamesShaped) {ensure : String → Compile Unit}
    (ensures : ∀ key, Leads Compilation.Onward (ensure key)) (pointer : String)
    (inRecord : Bool) :
    Draws task (resolveReference task ensure pointer inRecord) fun before tree after =>
      before.Onward after ∧ tree = .ofReference task before.active inRecord pointer := by
  intro before
  have onward : before.Onward ((resolveReference task ensure pointer inRecord).run before).2 :=
    leads_resolveReference ensures pointer inRecord before
  suffices drawn : (((resolveReference task ensure pointer inRecord).run before).1.tree
      task.fallback).Solid ∧
      ((resolveReference task ensure pointer inRecord).run before).1.tree task.fallback =
        .ofReference task before.active inRecord pointer from ⟨drawn.1, onward, drawn.2⟩
  have fallback : (TypeTree.atom task.fallback).Solid :=
    .atom (TypeExpr.isAtom_fallback task.options)
  unfold resolveReference TypeTree.ofReference
  cases schemaKey? pointer with
  | none => exact ⟨fallback, rfl⟩
  | some key =>
      dsimp only
      cases named : task.schemaName? key with
      | none => exact ⟨fallback, rfl⟩
      | some name =>
          have solid : (TypeTree.atom name).Solid :=
            .atom (shaped.isName named).isWord.isAtom
          simp only [StateT.run_bind, StateT.run_get, pure_bind]
          by_cases active : before.active.contains key = true
          · cases inRecord with
            | true =>
                simp only [active, if_true, Bool.not_true, Bool.and_false, Bool.false_eq_true,
                  if_false]
                exact ⟨solid, rfl⟩
            | false =>
                simp only [active, if_true, Bool.not_false, Bool.and_true, Bool.false_eq_true,
                  if_false]
                exact ⟨fallback, rfl⟩
          · simp only [active, Bool.false_and, Bool.false_eq_true, if_false]
            exact ⟨solid, rfl⟩

/-! ## Texts -/

/-- A node of a document is drawn as a tree that it depicts. -/
theorem draws_ofDocument (document : Document) (options : Options) (budget : Nat)
    {name : String} (word : IsWord name) (inRecord : Bool) (node : SchemaNode) :
    let task := Task.ofDocument document options
    Draws task (expression task (resolveReference task (ensureWithin task budget)) name inRecord
      node) fun before tree after => Depicts task inRecord name before node tree after := by
  intro task
  have leads : ∀ pointer inRecord, Leads Compilation.Onward
      (resolveReference task (ensureWithin task budget) pointer inRecord) :=
    leads_resolveReference (leads_ensureWithin budget)
  exact draws_expression leads
    (draws_resolveReference (namesShaped_ofDocument document options) (leads_ensureWithin budget))
    node word

/-- Whatever state a compilation of a document is in, the text that it writes for a node is
read as a tree that the node depicts, and it has an operator at its top level exactly when that
tree is a union or an intersection of several members. -/
theorem expression_depicted (document : Document) (options : Options) (budget : Nat)
    {name : String} (word : IsWord name) (inRecord : Bool) (node : SchemaNode)
    (before : Compilation) :
    let task := Task.ofDocument document options
    let step := expression task (resolveReference task (ensureWithin task budget)) name inRecord
      node
    let text := (step.run before).1.render task.fallback
    ∃ tree, parse text = some tree ∧ hasOperator text = tree.isJoined ∧
      Depicts task inRecord name before node tree (step.run before).2 := by
  intro task step text
  have drawn := draws_ofDocument document options budget word inRecord node before
  have same : text = ((step.run before).1.tree task.fallback).text := TypeExpr.render_eq_text _
  refine ⟨(step.run before).1.tree task.fallback, ?_, ?_, drawn.2⟩
  · rw [same]
    exact drawn.1.parse_text
  · rw [same]
    exact drawn.1.hasOperator_text

/-- A literal with a quote and an operator in it beside an array of a union: the text
`'it\'s | on' | (string | null)[]`. -/
theorem expression_depicted_literal :
    let task := Task.ofDocument default .default
    let shape (types : TypeNames) (items : Option SchemaNode) : SchemaNode :=
      .schema ⟨none, none⟩ [] ⟨none, none, none⟩ ⟨types, none, [], items, .absent⟩
    let node : SchemaNode := .schema ⟨none, none⟩ [] ⟨none, some
      [.schema ⟨none, none⟩ [.scalar (.string "it's | on")] ⟨none, none, none⟩
        ⟨.absent, none, [], none, .absent⟩,
      shape (.single "array") (some (shape (.several ["string", "null"]) none))], none⟩
      ⟨.absent, none, [], none, .absent⟩
    let step := expression task (resolveReference task (ensureWithin task 0)) "Switch" false node
    let text := (step.run default).1.render task.fallback
    IsWord "Switch" ∧
      parse text = some (.union [.atom (stringLiteral "it's | on"),
        .array (.union [.atom "string", .atom "null"])]) ∧
      hasOperator text = true ∧
      ∃ tree, parse text = some tree ∧
        Depicts task false "Switch" default node tree (step.run default).2 := by
  intro task shape node step text
  have word : IsWord "Switch" := ⟨by decide, List.all_eq_true.mp (by decide)⟩
  obtain ⟨tree, read, -, depicted⟩ := expression_depicted default .default 0 word false node default
  exact ⟨word, by decide +kernel, by decide +kernel, tree, read, depicted⟩

end AsyncTypes.TypeScript
