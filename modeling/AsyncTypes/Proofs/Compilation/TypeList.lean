import AsyncTypes.Proofs.Compilation.Account
import AsyncTypes.Proofs.Compilation.Depiction
import AsyncTypes.Proofs.List.Result

/-!
# Lists of type names

Under a list of type names a schema is compiled once under each of them.  A schema that lists
properties is taken for a record under every name but that of arrays, so then the keywords of
the other names are missing and there is one interface for each of them.  Without properties
every name has its member: a keyword, the array of the items, or one interface.
-/

namespace AsyncTypes.TypeScript

variable {task : Task} {inRecord : Bool} {name : String} {description : Option String}
  {shape : Shape SchemaNode} {before after : Compilation}

/-! ## Members of a union -/

namespace TypeTree

/-- The members of a union; any other type is its own only member. -/
def members : TypeTree → List TypeTree
  | .union members => members
  | tree => [tree]

/-- The members of a union of types that are no unions are these types, repeated ones left
out. -/
theorem members_unionOf {trees : List TypeTree} (some : trees ≠ [])
    (single : ∀ tree ∈ trees, ∀ members, tree ≠ .union members) :
    (unionOf trees).members = trees.eraseDups := by
  unfold unionOf
  match kept : trees.eraseDups with
  | [] => exact absurd kept (eraseDups_ne_nil some)
  | [tree] =>
      have listed : tree ∈ trees := List.mem_eraseDups.mp (kept ▸ List.mem_cons_self)
      cases tree with
      | union members => exact absurd rfl (single _ listed members)
      | atom | array | intersection => rfl
  | _ :: _ :: _ => rfl

end TypeTree

/-! ## What a type name asks for -/

/-- The tree is the name of an interface that is hoisted for a part. -/
def HoistsInterface (name : String) (description : Option String) (before : Compilation)
    (tree : TypeTree) (after : Compilation) : Prop :=
  ∃ own fields index, tree = .atom own ∧
    Hoisted before name (.interface own description fields index) after

/-- The tree is the array of what the items depict. -/
def DepictsArray (task : Task) (inRecord : Bool) (name : String) (before : Compilation)
    (items : Option SchemaNode) (tree : TypeTree) (after : Compilation) : Prop :=
  ∃ item first second, before.Onward first ∧ second.Onward after ∧ tree = .array item ∧
    DepictsItems task inRecord (name ++ "Item") first items item second

/-- What a type name asks for in a list: an array for that of arrays, an interface for that of
records, and else a keyword, or the fallback when there is none for the name. -/
def AsksFor (task : Task) (inRecord : Bool) (name : String) (description : Option String)
    (before : Compilation) (shape : Shape SchemaNode) (typeName : String) (tree : TypeTree)
    (after : Compilation) : Prop :=
  if typeName = "array" then DepictsArray task inRecord name before shape.items tree after
  else if typeName = "object" then HoistsInterface name description before tree after
  else tree = .ofTypeName task.fallback typeName

/-- The type name that a listed one is taken for. -/
def takenFor (shape : Shape SchemaNode) (typeName : String) : String :=
  if typeName = "array" ∨ shape.properties = none then typeName else "object"

theorem Hoisted.widen {wanted : String} {declaration : Declaration} {first second : Compilation}
    (hoisted : Hoisted first wanted declaration second) (earlier : before.Onward first)
    (later : second.Onward after) : Hoisted before wanted declaration after where
  onward := (earlier.trans hoisted.onward).trans later
  named := hoisted.named
  free := fun taken => hoisted.free (earlier.used.subset taken)
  taken := later.used.subset hoisted.taken
  made := hoisted.made.imp (later.declarations.subset ·) (later.refused.subset ·)

theorem AsksFor.widen {typeName : String} {tree : TypeTree} {first second : Compilation}
    (asks : AsksFor task inRecord name description first shape typeName tree second)
    (earlier : before.Onward first) (later : second.Onward after) :
    AsksFor task inRecord name description before shape typeName tree after := by
  unfold AsksFor at asks ⊢
  split
  · next array =>
      rw [if_pos array] at asks
      obtain ⟨item, inner, last, start, stop, same, depicted⟩ := asks
      exact ⟨item, inner, last, earlier.trans start, stop.trans later, same, depicted⟩
  · next notArray =>
      rw [if_neg notArray] at asks
      split
      · next object =>
          rw [if_pos object] at asks
          obtain ⟨own, fields, index, same, hoisted⟩ := asks
          exact ⟨own, fields, index, same, hoisted.widen earlier later⟩
      · next other => rwa [if_neg other] at asks

/-- Under one type name a shape depicts what the name that it is taken for asks for. -/
theorem DepictsTyped.asksFor {typeName : String} {tree : TypeTree}
    (depicts : DepictsTyped task inRecord name description before
      { shape with types := .single typeName } tree after) :
    AsksFor task inRecord name description before shape (takenFor shape typeName) tree after := by
  unfold AsksFor takenFor
  cases depicts with
  | array array items =>
      have same : typeName = "array" := by simpa [Shape.isArray] using array
      rw [if_pos (Or.inl same), if_pos same]
      exact ⟨_, before, after, .refl _, .refl _, rfl, items⟩
  | record notArray object hoisted =>
      have other : typeName ≠ "array" := by simpa [Shape.isArray] using notArray
      have taken : (if typeName = "array" ∨ shape.properties = none then typeName
          else "object") = "object" := by
        rw [ite_eq_right_iff]
        rintro (same | none)
        · exact absurd same other
        · simpa [Shape.isObject, none] using object
      rw [taken, if_neg (by decide), if_pos rfl]
      exact ⟨_, _, _, rfl, hoisted⟩
  | typeName notArray notObject same =>
      have other : typeName ≠ "array" := by simpa [Shape.isArray] using notArray
      have plain : shape.properties = none ∧ typeName ≠ "object" := by
        simpa [Shape.isObject] using notObject
      cases same
      rw [if_pos (Or.inr plain.1), if_neg other, if_neg plain.2]
  | untyped _ _ absent => exact TypeNames.noConfusion absent

/-- Under a list of type names a shape depicts what each of them is taken for, in order. -/
theorem DepictsEach.asksFor {names : List String} {trees : List TypeTree}
    (depicts : DepictsEach task inRecord name description before shape names trees after) :
    List.Forall₂ (fun typeName tree =>
      AsksFor task inRecord name description before shape (takenFor shape typeName) tree after)
      names trees := by
  induction names generalizing before trees with
  | nil =>
      cases depicts
      exact .nil
  | cons typeName rest ih =>
      cases depicts with
      | cons here later =>
          exact .cons (here.asksFor.widen (.refl _) later.onward)
            ((ih later).imp fun _ _ asks => asks.widen here.onward (.refl _))

/-- A schema with a list of type names and neither values nor branches depicts the union of
what its shape depicts under each of them. -/
theorem Depicts.each {annotations : Annotations} {composition : Composition SchemaNode}
    {names : List String} {tree : TypeTree}
    (depicts : Depicts task inRecord name before (.schema annotations [] composition shape) tree
      after) (plain : composition.isUsed = false) (listed : shape.types = .several names)
    (some : names ≠ []) : ∃ trees, tree = .unionOf trees ∧
      DepictsEach task inRecord name annotations.description before shape names trees after := by
  cases depicts with
  | enumeration any => exact absurd rfl any
  | values any => exact absurd rfl any
  | composed used => exact absurd used (by simp [plain])
  | beside used => exact absurd used (by simp [plain])
  | plain _ depicted =>
      cases depicted with
      | typed single => exact absurd listed (single names)
      | none empty =>
          rw [listed, TypeNames.several.injEq] at empty
          exact absurd empty some
      | several same _ each =>
          rw [listed, TypeNames.several.injEq] at same
          subst same
          exact ⟨_, rfl, each⟩

/-! ## Telling members apart -/

/-- What stands for a type name without an array or a record is no name of a declaration. -/
theorem not_isName_of_ofTypeName (options : Options) {typeName word : String}
    (same : TypeTree.ofTypeName options.fallback typeName = .atom word) : ¬ IsName word := by
  have keywords : ∀ word ∈ TypeExpr.keywords.map (·.2),
      word.toList.head?.any Unicode.isNameStart = false := by decide
  have none : options.fallback.toList.head?.any Unicode.isNameStart = false := by
    unfold Options.fallback
    split <;> decide
  rw [TypeTree.ofTypeName, TypeTree.atom.injEq] at same
  rw [← same]
  cases found : TypeExpr.keywords.find? fun entry => entry.1 == typeName with
  | none => exact not_isName_of_head none
  | some entry =>
      exact not_isName_of_head
        (keywords entry.2 (List.mem_map_of_mem (List.mem_of_find?_eq_some found)))

/-- The name of a hoisted interface is a name. -/
theorem HoistsInterface.isName {tree : TypeTree} (shaped : IsName name)
    (hoists : HoistsInterface name description before tree after) :
    ∃ own, tree = .atom own ∧ IsName own := by
  obtain ⟨own, fields, index, same, hoisted⟩ := hoists
  refine ⟨own, same, ?_⟩
  have named : own = name ∨ ∃ number : Nat, own = name ++ toString number := hoisted.named
  rcases named with rfl | ⟨number, rfl⟩
  · exact shaped
  · exact shaped.numbered number

/-- Only the type name of records asks for an interface. -/
theorem AsksFor.eq_object {typeName : String} {tree : TypeTree} (shaped : IsName name)
    (asks : AsksFor task inRecord name description before shape typeName tree after)
    (hoists : HoistsInterface name description before tree after) : typeName = "object" := by
  obtain ⟨own, rfl, named⟩ := hoists.isName shaped
  unfold AsksFor at asks
  split at asks
  · obtain ⟨item, first, second, -, -, same, -⟩ := asks
    exact TypeTree.noConfusion same
  · split at asks
    · next object => exact object
    · exact absurd named (not_isName_of_ofTypeName task.options asks.symm)

/-- No type name asks for a union. -/
theorem AsksFor.ne_union {typeName : String} {tree : TypeTree}
    (asks : AsksFor task inRecord name description before shape typeName tree after)
    (members : List TypeTree) : tree ≠ .union members := by
  rintro rfl
  unfold AsksFor at asks
  split at asks
  · obtain ⟨item, first, second, -, -, same, -⟩ := asks
    exact TypeTree.noConfusion same
  · split at asks
    · obtain ⟨own, fields, index, same, -⟩ := asks
      exact TypeTree.noConfusion same
    · exact TypeTree.noConfusion asks

/-! ## Every member is rendered -/

/-- Each type name has the member that it asks for, there is no other member, and at most one
member is a hoisted interface. -/
structure RendersList (task : Task) (inRecord : Bool) (name : String)
    (description : Option String) (before : Compilation) (shape : Shape SchemaNode)
    (names : List String) (tree : TypeTree) (after : Compilation) : Prop where
  rendered : ∀ typeName ∈ names, ∃ member ∈ tree.members,
    AsksFor task inRecord name description before shape typeName member after
  only : ∀ member ∈ tree.members, ∃ typeName ∈ names,
    AsksFor task inRecord name description before shape typeName member after
  single : ∀ first ∈ tree.members, ∀ second ∈ tree.members,
    HoistsInterface name description before first after →
    HoistsInterface name description before second after → first = second

/-- What a shape depicts under a list of names renders every name exactly when the shape lists
no properties or the names are those of arrays and records alone. -/
theorem DepictsEach.rendersList_iff {names : List String} {trees : List TypeTree}
    (depicts : DepictsEach task inRecord name description before shape names trees after)
    (shaped : IsName name) (some : names ≠ []) (nodup : names.Nodup) :
    RendersList task inRecord name description before shape names (.unionOf trees) after ↔
      (shape.properties = none ∨
        ∀ typeName ∈ names, typeName = "array" ∨ typeName = "object") := by
  have asked := depicts.asksFor
  have someTrees : trees ≠ [] := by
    rintro rfl
    cases asked
    exact some rfl
  have source : ∀ tree ∈ trees, ∃ typeName ∈ names,
      AsksFor task inRecord name description before shape (takenFor shape typeName) tree
        after := fun tree listed => exists_of_forall₂_right asked listed
  have members : (TypeTree.unionOf trees).members = trees.eraseDups := by
    apply TypeTree.members_unionOf someTrees
    intro tree listed
    obtain ⟨typeName, -, asks⟩ := source tree listed
    exact asks.ne_union
  have mem : ∀ tree, tree ∈ (TypeTree.unionOf trees).members ↔ tree ∈ trees := by
    simp [members]
  constructor
  · intro renders
    by_contra other
    push Not at other
    obtain ⟨properties, typeName, listed, notArray, notObject⟩ := other
    obtain ⟨member, inside, asks⟩ := renders.rendered typeName listed
    obtain ⟨origin, -, taken⟩ := source member ((mem member).mp inside)
    rw [AsksFor, if_neg notArray, if_neg notObject] at asks
    unfold takenFor at taken
    by_cases array : origin = "array"
    · rw [if_pos (Or.inl array), AsksFor, if_pos array] at taken
      obtain ⟨item, first, second, -, -, same, -⟩ := taken
      rw [asks] at same
      exact TypeTree.noConfusion same
    · rw [if_neg (by simp [array, properties]), AsksFor, if_neg (by decide), if_pos rfl] at taken
      obtain ⟨own, same, named⟩ := taken.isName shaped
      exact not_isName_of_ofTypeName task.options (asks.symm.trans same) named
  · intro clear
    have kept : ∀ typeName ∈ names, takenFor shape typeName = typeName := by
      intro typeName listed
      rw [takenFor, ite_eq_left_iff]
      intro other
      rcases clear with none | both
      · exact absurd (Or.inr none) other
      · rcases both typeName listed with rfl | rfl
        · exact absurd (Or.inl rfl) other
        · rfl
    have asks : List.Forall₂ (fun typeName tree =>
        AsksFor task inRecord name description before shape typeName tree after) names trees :=
      ((List.forall₂_and_left names trees).mpr ⟨kept, asked⟩).imp fun _ _ both => both.1 ▸ both.2
    constructor
    · intro typeName listed
      obtain ⟨tree, found, holds⟩ := exists_of_forall₂_left asks listed
      exact ⟨tree, (mem tree).mpr found, holds⟩
    · exact fun member inside => exists_of_forall₂_right asks ((mem member).mp inside)
    · intro first inside second also hoists hoistsAlso
      exact eq_of_forall₂_nodup asks nodup ((mem first).mp inside) ((mem second).mp also)
        (fun _ holds => holds.eq_object shaped hoists)
        (fun _ holds => holds.eq_object shaped hoistsAlso)

/-! ## Texts -/

/-- Whatever state a compilation of a document is in, the text that it writes for a schema with
a list of distinct type names and neither values nor branches is read as a tree that renders
each of the names exactly when the schema lists no properties or the names are those of arrays
and records alone. -/
theorem typeNames_rendered_iff (document : Document) (options : Options) (budget : Nat)
    {name : String} (shaped : IsName name) (inRecord : Bool) (annotations : Annotations)
    {composition : Composition SchemaNode} (plain : composition.isUsed = false)
    {shape : Shape SchemaNode} {names : List String} (listed : shape.types = .several names)
    (some : names ≠ []) (nodup : names.Nodup) (before : Compilation) :
    let task := Task.ofDocument document options
    let step := expression task (resolveReference task (ensureWithin task budget)) name inRecord
      (.schema annotations [] composition shape)
    ∃ tree, parse ((step.run before).1.render task.fallback) = .some tree ∧
      (RendersList task inRecord name annotations.description before shape names tree
          (step.run before).2 ↔
        (shape.properties = none ∨
          ∀ typeName ∈ names, typeName = "array" ∨ typeName = "object")) := by
  intro task step
  have drawn := draws_ofDocument document options budget shaped.isWord inRecord
    (.schema annotations [] composition shape) before
  refine ⟨(step.run before).1.tree task.fallback, ?_, ?_⟩
  · rw [TypeExpr.render_eq_text]
    exact drawn.1.parse_text
  · obtain ⟨trees, same, each⟩ := drawn.2.each plain listed some
    rw [same]
    exact each.rendersList_iff shaped some nodup

/-- A list of texts, or nothing: `string[] | null`. -/
theorem nullableTexts_rendered :
    let task := Task.ofDocument default .default
    let text : SchemaNode := .schema ⟨none, none⟩ [] ⟨none, none, none⟩
      ⟨.single "string", none, [], none, .absent⟩
    let shape : Shape SchemaNode := ⟨.several ["array", "null"], none, [], some text, .absent⟩
    let step := expression task (resolveReference task (ensureWithin task 0)) "Tags" false
      (.schema ⟨none, none⟩ [] ⟨none, none, none⟩ shape)
    IsName "Tags" ∧ ["array", "null"] ≠ [] ∧ ["array", "null"].Nodup ∧
      (step.run task.start).1.render task.fallback = "string[] | null" ∧
      ∃ tree, parse "string[] | null" = some tree ∧
        RendersList task false "Tags" none task.start shape ["array", "null"] tree
          (step.run task.start).2 := by
  intro task text shape step
  have shaped : IsName "Tags" :=
    ⟨'T', ['a', 'g', 's'], rfl, by decide, List.all_eq_true.mp (by decide)⟩
  have written : (step.run task.start).1.render task.fallback = "string[] | null" := by
    decide +kernel
  have plain : (⟨none, none, none⟩ : Composition SchemaNode).isUsed = false := rfl
  have listed : shape.types = .several ["array", "null"] := rfl
  obtain ⟨tree, read, renders⟩ := typeNames_rendered_iff default .default 0 shaped false
    ⟨none, none⟩ plain listed (List.cons_ne_nil _ _) (by decide) task.start
  rw [written] at read
  exact ⟨shaped, List.cons_ne_nil _ _, by decide, written, tree, read, renders.mpr (Or.inl rfl)⟩

/-- A record or nothing is declared as one of two interfaces, and the keyword for nothing is
missing. -/
theorem nullableRecord_loses_null :
    let text : SchemaNode := .schema ⟨none, none⟩ [] ⟨none, none, none⟩
      ⟨.single "string", none, [], none, .absent⟩
    let user : SchemaNode := .schema ⟨none, none⟩ [] ⟨none, none, none⟩
      ⟨.several ["object", "null"], some [("id", text)], [], none, .absent⟩
    let fields : List Field := [⟨"id", true, none, .keyword "string"⟩]
    let union : TypeExpr := .union [.named "User2", .named "User3"]
    (compile (componentsOnly [("User", user)]) .default).declarations =
        [.interface "User2" none fields none, .interface "User3" none fields none,
          .alias "User" none union] ∧
      parse (union.render Options.default.fallback) =
        some (.union [.atom "User2", .atom "User3"]) ∧
      TypeTree.ofTypeName Options.default.fallback "null" ∉
        (TypeTree.union [.atom "User2", .atom "User3"]).members := by
  exact ⟨rfl, by decide +kernel, by decide +kernel⟩

end AsyncTypes.TypeScript
