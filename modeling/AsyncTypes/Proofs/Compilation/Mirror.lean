import AsyncTypes.Proofs.Compilation.Document
import AsyncTypes.Proofs.Compilation.Template
import AsyncTypes.Proofs.Expression.Exchange

/-!
# Compilations under other options

Two compilations of one document whose options declare enumerations alike go through the
same states, but for the word for the fallback in their notices.  Both write the same types,
since the members of a union or an intersection that are left out are the same with both
words.  So the blocks and the warnings of both are the same templates, filled with the
options of each.
-/

namespace AsyncTypes.TypeScript

variable {α β : Type} {task : Task} {options other : Options}

/-! ## States under other options -/

/-- The task under other options. -/
def Task.under (other : Options) (task : Task) : Task :=
  { task with options := other }

namespace Compilation

/-- The state that a compilation under other options is in. -/
def under (other : Options) (state : Compilation) : Compilation :=
  { state with notices := state.notices.map (Notice.told other) }

/-- All declared types can be written, and all interfaces of messages have names. -/
structure Shaped (state : Compilation) : Prop where
  types : ∀ declaration ∈ state.declarations, ∀ type ∈ declaration.types, type.Writable
  messages : ∀ entry ∈ state.messageNames, IsName entry.2

end Compilation

/-! ## Steps under other options -/

/-- From corresponding states the second step gives what the first one gives and ends in the
corresponding state. -/
def Mirrors (other : Options) (kind : α → Prop) (first second : Compile α) : Prop :=
  ∀ state : Compilation, state.Shaped →
    second.run (state.under other) =
        ((first.run state).1, (first.run state).2.under other) ∧
      kind (first.run state).1 ∧ (first.run state).2.Shaped

namespace Mirrors

variable {kind : α → Prop}

theorem give {value : α} (holds : kind value) :
    Mirrors other kind (Pure.pure value) (Pure.pure value) :=
  fun _ shaped => ⟨rfl, holds, shaped⟩

theorem bind {nextKind : β → Prop} {first second : Compile α} {next nextAlso : α → Compile β}
    (mirrors : Mirrors other kind first second)
    (rest : ∀ value, kind value → Mirrors other nextKind (next value) (nextAlso value)) :
    Mirrors other nextKind (first >>= next) (second >>= nextAlso) := by
  intro state shaped
  obtain ⟨same, holds, shapedAfter⟩ := mirrors state shaped
  have run : (second >>= nextAlso).run (state.under other) =
      (nextAlso (second.run (state.under other)).1).run (second.run (state.under other)).2 := rfl
  rw [run, same]
  exact rest _ holds _ shapedAfter

/-- What is made of the same value in the same way is the same. -/
theorem map {otherKind : β → Prop} {first second : Compile α} {result : α → β}
    (mirrors : Mirrors other kind first second)
    (holds : ∀ value, kind value → otherKind (result value)) :
    Mirrors other otherKind (first >>= fun value => Pure.pure (result value))
      (second >>= fun value => Pure.pure (result value)) :=
  mirrors.bind fun value known => give (holds value known)

/-- Steps that begin by reading the state are told by corresponding states. -/
theorem get {next nextAlso : Compilation → Compile α}
    (mirrors : ∀ state : Compilation, state.Shaped →
      Mirrors other kind (next state) (nextAlso (state.under other))) :
    Mirrors other kind (MonadState.get >>= next) (MonadState.get >>= nextAlso) :=
  fun state shaped => mirrors state shaped state shaped

/-- Corresponding states are changed to corresponding states. -/
theorem changes {change changeAlso : Compilation → Compilation}
    (same : ∀ state : Compilation, changeAlso (state.under other) = (change state).under other)
    (kept : ∀ state : Compilation, state.Shaped → (change state).Shaped) :
    Mirrors other (fun _ => True) (modify change) (modify changeAlso) :=
  fun state shaped => ⟨congrArg (Prod.mk ()) (same state), trivial, kept state shaped⟩

end Mirrors

/-! ## Operations -/

theorem mirrors_reserve {name : String} (named : IsName name) :
    Mirrors other IsName (Compile.reserve name) (Compile.reserve name) :=
  fun state shaped => ⟨rfl, named.free state.used, shaped.types, shaped.messages⟩

theorem mirrors_declare {declaration : Declaration}
    (writable : ∀ type ∈ declaration.types, type.Writable) :
    Mirrors other (fun _ => True) (Compile.declare declaration)
      (Compile.declare declaration) := by
  apply Mirrors.changes
  · intro state
    have known : (state.under other).isDeclared declaration.name =
        state.isDeclared declaration.name := rfl
    rw [known]
    split
    · rfl
    · rfl
  · intro state shaped
    split
    · exact ⟨shaped.types, shaped.messages⟩
    · refine ⟨fun one listed => ?_, shaped.messages⟩
      rcases List.mem_append.mp listed with before | new
      · exact shaped.types one before
      · rw [List.mem_singleton.mp new]
        exact writable

theorem mirrors_notify (notice : Notice) :
    Mirrors other (fun _ => True) (Compile.notify notice)
      (Compile.notify (notice.told other)) := by
  apply Mirrors.changes
  · intro state
    simp [Compilation.under]
  · exact fun state shaped => ⟨shaped.types, shaped.messages⟩

theorem mirrors_nameMessage (message : String) {name : String} (named : IsName name) :
    Mirrors other (fun _ => True) (Compile.nameMessage message name)
      (Compile.nameMessage message name) := by
  apply Mirrors.changes
  · exact fun state => rfl
  · intro state shaped
    refine ⟨shaped.types, fun entry listed => ?_⟩
    rcases List.mem_append.mp listed with before | new
    · exact shaped.messages entry before
    · rw [List.mem_singleton.mp new]
      exact named

theorem mirrors_enter (key : String) :
    Mirrors other (fun _ => True) (Compile.enter key) (Compile.enter key) :=
  Mirrors.changes (fun _ => rfl) fun _ shaped => ⟨shaped.types, shaped.messages⟩

theorem mirrors_leave (key : String) :
    Mirrors other (fun _ => True) (Compile.leave key) (Compile.leave key) :=
  Mirrors.changes (fun _ => rfl) fun _ shaped => ⟨shaped.types, shaped.messages⟩

/-! ## Hoisted parts -/

/-- An enumeration is hoisted alike. -/
theorem mirrors_hoistEnumeration {name : String} (named : IsName name)
    (description : Option String) (values : List Value) :
    Mirrors other TypeExpr.Writable (hoistEnumeration name description values)
      (hoistEnumeration name description values) := by
  apply (mirrors_reserve named).bind
  intro own ownNamed
  have declared : Mirrors other (fun _ => True)
      (Compile.declare (.enumerationOf own description (values.map Value.shown)))
      (Compile.declare (.enumerationOf own description (values.map Value.shown))) :=
    mirrors_declare (by simp [Declaration.enumerationOf, Declaration.types])
  exact declared.map fun _ _ => TypeExpr.writable_named ownNamed

/-- The types of a record can be written. -/
def RecordWritable (parts : List Field × Option TypeExpr) : Prop :=
  ∀ type ∈ parts.1.map (·.type) ++ parts.2.toList, type.Writable

/-- A record is hoisted alike when its body is compiled alike. -/
theorem mirrors_hoistInterface {name : String} (named : IsName name)
    (description : Option String)
    {body bodyAlso : String → Compile (List Field × Option TypeExpr)}
    (bodies : ∀ own, IsName own → Mirrors other RecordWritable (body own) (bodyAlso own)) :
    Mirrors other TypeExpr.Writable (hoistInterface name description body)
      (hoistInterface name description bodyAlso) := by
  apply (mirrors_reserve named).bind
  intro own ownNamed
  apply (bodies own ownNamed).bind
  rintro ⟨fields, index⟩ writable
  have declared : Mirrors other (fun _ => True)
      (Compile.declare (.interface own description fields index))
      (Compile.declare (.interface own description fields index)) := mirrors_declare writable
  exact declared.map fun _ _ => TypeExpr.writable_named ownNamed

/-! ## Plain types -/

/-- All of some types can be written. -/
def AllWritable (types : List TypeExpr) : Prop :=
  ∀ type ∈ types, type.Writable

theorem allWritable_nil : AllWritable [] :=
  fun _ listed => absurd listed List.not_mem_nil

theorem AllWritable.cons {type : TypeExpr} {types : List TypeExpr} (writable : type.Writable)
    (others : AllWritable types) : AllWritable (type :: types) :=
  List.forall_mem_cons.mpr ⟨writable, others⟩

theorem AllWritable.append {types others : List TypeExpr} (writable : AllWritable types)
    (also : AllWritable others) : AllWritable (types ++ others) :=
  List.forall_mem_append.mpr ⟨writable, also⟩

section

variable {shape : Shape SchemaNode} {item itemAlso record recordAlso : Compile TypeExpr}

/-- Under given types, a shape is compiled alike when its items and its record are. -/
theorem mirrors_typedExpression (items : Mirrors other TypeExpr.Writable item itemAlso)
    (records : Mirrors other TypeExpr.Writable record recordAlso) (types : TypeNames) :
    Mirrors other TypeExpr.Writable (typedExpression shape item record types)
      (typedExpression shape itemAlso recordAlso types) := by
  unfold typedExpression
  simp only
  split
  · exact items.map fun type writable => TypeExpr.writable_array writable
  · split
    · exact records
    · split
      · exact Mirrors.give (TypeExpr.writable_ofTypeName _)
      · exact Mirrors.give TypeExpr.writable_fallback

/-- Type names one after another are compiled alike when each of them is. -/
theorem mirrors_eachType {compile compileAlso : TypeNames → Compile TypeExpr}
    (each : ∀ types, Mirrors other TypeExpr.Writable (compile types) (compileAlso types))
    (names : List String) :
    Mirrors other AllWritable (eachType compile names) (eachType compileAlso names) := by
  induction names with
  | nil => exact Mirrors.give allWritable_nil
  | cons name rest ih =>
      apply (each (.single name)).bind
      intro type writable
      exact ih.map fun types others => AllWritable.cons writable others

/-- A shape is compiled alike when its items and its record are. -/
theorem mirrors_plainExpression (items : Mirrors other TypeExpr.Writable item itemAlso)
    (records : Mirrors other TypeExpr.Writable record recordAlso) :
    Mirrors other TypeExpr.Writable (plainExpression task shape item record)
      (plainExpression (task.under other) shape itemAlso recordAlso) := by
  unfold plainExpression
  split
  · next names _ =>
      refine (mirrors_eachType (mirrors_typedExpression items records) names).bind ?_
      intro types writable
      have same : TypeExpr.unionOf (task.under other).fallback types =
          TypeExpr.unionOf task.fallback types :=
        TypeExpr.unionOf_eq writable other task.options
      rw [same]
      apply Mirrors.give
      split
      · exact TypeExpr.writable_fallback
      · exact TypeExpr.writable_unionOf writable
  · exact mirrors_typedExpression items records _

end

/-! ## Nodes -/

/-- Types that can be written are joined to the same type under other options. -/
theorem intersectionOf_under {types : List TypeExpr} (writable : AllWritable types) :
    TypeExpr.intersectionOf (task.under other).fallback types =
      TypeExpr.intersectionOf task.fallback types :=
  TypeExpr.intersectionOf_eq writable other task.options

theorem unionOf_under {types : List TypeExpr} (writable : AllWritable types) :
    TypeExpr.unionOf (task.under other).fallback types = TypeExpr.unionOf task.fallback types :=
  TypeExpr.unionOf_eq writable other task.options

theorem AllWritable.groupOf {join : List TypeExpr → TypeExpr} {types : List TypeExpr}
    (writable : (join types).Writable) : AllWritable (TypeScript.groupOf join types) := by
  unfold TypeScript.groupOf
  split
  · exact allWritable_nil
  · exact allWritable_nil.cons writable

/-- A schema without values is compiled alike when the groups of its composition and the type
of its shape are. -/
theorem mirrors_composed {name : String} (named : IsName name) (description : Option String)
    (composition : Composition SchemaNode) (shape : Shape SchemaNode)
    {groups groupsAlso : Compile (List TypeExpr × Nat)}
    (plain plainAlso : String → Option String → Compile TypeExpr)
    (joined : Mirrors other (fun found => AllWritable found.1) groups groupsAlso)
    (alone : ∀ part description, IsName part →
      Mirrors other TypeExpr.Writable (plain part description) (plainAlso part description)) :
    Mirrors other TypeExpr.Writable
      (if composition.isUsed then do
        let found ← groups
        if shape.properties.isSome then
          let rest ← plain (name ++ "Part" ++ toString found.2) none
          return .intersectionOf task.fallback (found.1 ++ [rest])
        else return .intersectionOf task.fallback found.1
      else plain name description)
      (if composition.isUsed then do
        let found ← groupsAlso
        if shape.properties.isSome then
          let rest ← plainAlso (name ++ "Part" ++ toString found.2) none
          return .intersectionOf (task.under other).fallback (found.1 ++ [rest])
        else return .intersectionOf (task.under other).fallback found.1
      else plainAlso name description) := by
  split
  · apply joined.bind
    rintro ⟨types, next⟩ writable
    split
    · apply (alone _ none (named.part next)).bind
      intro rest restWritable
      have all := writable.append (allWritable_nil.cons restWritable)
      rw [intersectionOf_under all]
      exact Mirrors.give (TypeExpr.writable_intersectionOf all)
    · rw [intersectionOf_under writable]
      exact Mirrors.give (TypeExpr.writable_intersectionOf writable)
  · exact alone name description named

/-- The type that the shape of a node has by itself. -/
def shapeExpression (task : Task) (resolve : Resolver) (inRecord : Bool)
    (shape : Shape SchemaNode) (name : String) (description : Option String) :
    Compile TypeExpr :=
  plainExpression task shape (itemExpression task resolve (name ++ "Item") inRecord shape)
    (hoistInterface name description fun own => interfaceBody task resolve own shape)

section

variable {resolve resolveAlso : Resolver}

/-- References are written alike. -/
def MirrorsReferences (other : Options) (resolve resolveAlso : Resolver) : Prop :=
  ∀ pointer inRecord,
    Mirrors other TypeExpr.Writable (resolve pointer inRecord) (resolveAlso pointer inRecord)

theorem declaresEnumeration_under (styled : other.enumStyle = task.options.enumStyle)
    (values : List Value) :
    (task.under other).declaresEnumeration values = task.declaresEnumeration values := by
  unfold Task.declaresEnumeration Task.under
  rw [styled]

mutual

/-- A node is compiled alike. -/
theorem mirrors_expression (styled : other.enumStyle = task.options.enumStyle)
    (references : MirrorsReferences other resolve resolveAlso) :
    ∀ (node : SchemaNode) {name : String} {inRecord : Bool}, IsName name →
      Mirrors other TypeExpr.Writable (expression task resolve name inRecord node)
        (expression (task.under other) resolveAlso name inRecord node)
  | .reference pointer, name, inRecord, _ => by
      rw [expression, expression]
      exact references pointer inRecord
  | .schema annotations values composition shape, name, inRecord, named => by
      rw [expression, expression, declaresEnumeration_under styled]
      split
      · split
        · exact mirrors_hoistEnumeration named annotations.description values
        · have same : TypeExpr.ofValues (task.under other).fallback values =
              TypeExpr.ofValues task.fallback values :=
            TypeExpr.ofValues_eq values other task.options
          rw [same]
          exact Mirrors.give (TypeExpr.writable_ofValues task.fallback values)
      · refine mirrors_composed named annotations.description composition shape
          (shapeExpression task resolve inRecord shape)
          (shapeExpression (task.under other) resolveAlso inRecord shape)
          (mirrors_compositionGroups styled references composition named) ?_
        intro part description partNamed
        refine mirrors_plainExpression ?_ ?_
        · exact mirrors_itemExpression styled references shape
            (partNamed.append (List.all_eq_true.mp (by decide)))
        · exact mirrors_hoistInterface partNamed description fun own ownNamed =>
            mirrors_interfaceBody styled references shape ownNamed

/-- The items of an array are compiled alike. -/
theorem mirrors_itemExpression (styled : other.enumStyle = task.options.enumStyle)
    (references : MirrorsReferences other resolve resolveAlso) :
    ∀ (shape : Shape SchemaNode) {name : String} {inRecord : Bool}, IsName name →
      Mirrors other TypeExpr.Writable (itemExpression task resolve name inRecord shape)
        (itemExpression (task.under other) resolveAlso name inRecord shape)
  | ⟨_, _, _, none, _⟩, name, inRecord, _ => by
      rw [itemExpression, itemExpression]
      exact Mirrors.give TypeExpr.writable_fallback
  | ⟨_, _, _, some node, _⟩, name, inRecord, named => by
      rw [itemExpression, itemExpression]
      exact mirrors_expression styled references node named

/-- A record is compiled alike. -/
theorem mirrors_interfaceBody (styled : other.enumStyle = task.options.enumStyle)
    (references : MirrorsReferences other resolve resolveAlso) :
    ∀ (shape : Shape SchemaNode) {own : String}, IsName own →
      Mirrors other RecordWritable (interfaceBody task resolve own shape)
        (interfaceBody (task.under other) resolveAlso own shape)
  | ⟨_, properties, required, _, additional⟩, own, named => by
      rw [interfaceBody, interfaceBody]
      apply (mirrors_listedFields styled references properties named).bind
      intro fields fieldsWritable
      apply (mirrors_indexType styled references additional named).map
      intro index indexWritable
      exact fieldsWritable.append indexWritable

/-- The properties that are listed are compiled alike. -/
theorem mirrors_listedFields (styled : other.enumStyle = task.options.enumStyle)
    (references : MirrorsReferences other resolve resolveAlso) :
    ∀ (properties : Option (List (String × SchemaNode))) {own : String}
      {required : List String}, IsName own →
      Mirrors other (fun fields => AllWritable (fields.map (·.type)))
        (listedFields task resolve own required properties)
        (listedFields (task.under other) resolveAlso own required properties)
  | none, own, required, _ => by
      rw [listedFields, listedFields]
      exact Mirrors.give allWritable_nil
  | some properties, own, required, named => by
      rw [listedFields, listedFields]
      exact mirrors_interfaceFields styled references properties named

/-- The index signature is compiled alike. -/
theorem mirrors_indexType (styled : other.enumStyle = task.options.enumStyle)
    (references : MirrorsReferences other resolve resolveAlso) :
    ∀ (additional : Additional SchemaNode) {own : String}, IsName own →
      Mirrors other (fun index => AllWritable index.toList)
        (indexType task resolve own additional)
        (indexType (task.under other) resolveAlso own additional)
  | .absent, own, _ => by
      rw [indexType, indexType]
      exact Mirrors.give allWritable_nil
  | .allowed true, own, _ => by
      rw [indexType, indexType]
      exact Mirrors.give (allWritable_nil.cons TypeExpr.writable_fallback)
  | .allowed false, own, _ => by
      rw [indexType, indexType]
      exact Mirrors.give allWritable_nil
  | .schema node, own, named => by
      rw [indexType, indexType]
      refine (mirrors_expression styled references node
        (named.append (List.all_eq_true.mp (by decide)))).map ?_
      exact fun type writable => allWritable_nil.cons writable

/-- Some properties are compiled alike. -/
theorem mirrors_interfaceFields (styled : other.enumStyle = task.options.enumStyle)
    (references : MirrorsReferences other resolve resolveAlso) :
    ∀ (properties : List (String × SchemaNode)) {own : String} {required : List String},
      IsName own →
      Mirrors other (fun fields => AllWritable (fields.map (·.type)))
        (interfaceFields task resolve own required properties)
        (interfaceFields (task.under other) resolveAlso own required properties)
  | [], own, required, _ => by
      rw [interfaceFields, interfaceFields]
      exact Mirrors.give allWritable_nil
  | (key, node) :: rest, own, required, named => by
      rw [interfaceFields, interfaceFields]
      apply (mirrors_expression styled references node (named.appendKey key)).bind
      intro type writable
      apply (mirrors_interfaceFields styled references rest named).map
      exact fun fields others => others.cons writable

/-- The composition keywords are compiled alike. -/
theorem mirrors_compositionGroups (styled : other.enumStyle = task.options.enumStyle)
    (references : MirrorsReferences other resolve resolveAlso) :
    ∀ (composition : Composition SchemaNode) {name : String} {inRecord : Bool}, IsName name →
      Mirrors other (fun groups => AllWritable groups.1)
        (compositionGroups task resolve name inRecord composition)
        (compositionGroups (task.under other) resolveAlso name inRecord composition)
  | ⟨allOf, anyOf, oneOf⟩, name, inRecord, named => by
      rw [compositionGroups, compositionGroups]
      apply (mirrors_keywordExpressions styled references allOf named).bind
      intro all allWritable
      apply (mirrors_keywordExpressions styled references anyOf named).bind
      intro any anyWritable
      apply (mirrors_keywordExpressions styled references oneOf named).bind
      intro one oneWritable
      have allGroup : AllWritable (groupOf (.intersectionOf task.fallback) all) :=
        .groupOf (TypeExpr.writable_intersectionOf allWritable)
      have anyGroup : AllWritable (groupOf (.unionOf task.fallback) any) :=
        .groupOf (TypeExpr.writable_unionOf anyWritable)
      have oneGroup : AllWritable (groupOf (.unionOf task.fallback) one) :=
        .groupOf (TypeExpr.writable_unionOf oneWritable)
      have same : groupOf (.intersectionOf (task.under other).fallback) all ++
            groupOf (.unionOf (task.under other).fallback) any ++
            groupOf (.unionOf (task.under other).fallback) one =
          groupOf (.intersectionOf task.fallback) all ++ groupOf (.unionOf task.fallback) any ++
            groupOf (.unionOf task.fallback) one := by
        simp only [groupOf, intersectionOf_under allWritable, unionOf_under anyWritable,
          unionOf_under oneWritable]
      rw [same]
      exact Mirrors.give ((allGroup.append anyGroup).append oneGroup)

/-- The branches of a keyword are compiled alike. -/
theorem mirrors_keywordExpressions (styled : other.enumStyle = task.options.enumStyle)
    (references : MirrorsReferences other resolve resolveAlso) :
    ∀ (keyword : Option (List SchemaNode)) {name : String} {inRecord : Bool} {number : Nat},
      IsName name →
      Mirrors other AllWritable (keywordExpressions task resolve name inRecord number keyword)
        (keywordExpressions (task.under other) resolveAlso name inRecord number keyword)
  | none, name, inRecord, number, _ => by
      rw [keywordExpressions, keywordExpressions]
      exact Mirrors.give allWritable_nil
  | some branches, name, inRecord, number, named => by
      rw [keywordExpressions, keywordExpressions]
      exact mirrors_branchExpressions styled references branches named

/-- Some branches are compiled alike. -/
theorem mirrors_branchExpressions (styled : other.enumStyle = task.options.enumStyle)
    (references : MirrorsReferences other resolve resolveAlso) :
    ∀ (branches : List SchemaNode) {name : String} {inRecord : Bool} {number : Nat},
      IsName name →
      Mirrors other AllWritable (branchExpressions task resolve name inRecord number branches)
        (branchExpressions (task.under other) resolveAlso name inRecord number branches)
  | [], name, inRecord, number, _ => by
      rw [branchExpressions, branchExpressions]
      exact Mirrors.give allWritable_nil
  | node :: rest, name, inRecord, number, named => by
      rw [branchExpressions, branchExpressions]
      apply (mirrors_expression styled references node (named.part number)).bind
      intro type writable
      apply (mirrors_branchExpressions styled references rest named).map
      exact fun types others => others.cons writable

end

/-! ## Declarations -/

/-- The declaration of a node is compiled alike. -/
theorem mirrors_declarationOf (styled : other.enumStyle = task.options.enumStyle)
    (references : MirrorsReferences other resolve resolveAlso) {name : String}
    (named : IsName name) (node : SchemaNode) :
    Mirrors other (fun declaration => AllWritable declaration.types)
      (declarationOf task resolve name node)
      (declarationOf (task.under other) resolveAlso name node) := by
  cases node with
  | reference pointer =>
      exact (references pointer false).map fun type writable => allWritable_nil.cons writable
  | schema annotations values composition shape =>
      rw [declarationOf, declarationOf, declaresEnumeration_under styled]
      split
      · exact Mirrors.give allWritable_nil
      · split
        · refine (mirrors_expression styled references _ named).map ?_
          exact fun type writable => allWritable_nil.cons writable
        · refine (mirrors_interfaceBody styled references shape named).bind ?_
          rintro ⟨fields, index⟩ writable
          exact Mirrors.give writable

/-- A node is declared alike. -/
theorem mirrors_declareNode (styled : other.enumStyle = task.options.enumStyle)
    (references : MirrorsReferences other resolve resolveAlso) {name : String}
    (named : IsName name) (node : SchemaNode) :
    Mirrors other (fun _ => True) (declareNode task resolve name node)
      (declareNode (task.under other) resolveAlso name node) := by
  apply (mirrors_declarationOf styled references named node).bind
  exact fun declaration writable => mirrors_declare writable

end

end AsyncTypes.TypeScript
