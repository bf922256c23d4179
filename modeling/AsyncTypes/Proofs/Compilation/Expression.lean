import AsyncTypes.Proofs.Compilation.Fits

/-!
# Expressions keep a state sound

Compiling a node writes a type that fits, provided that references are resolved to types
that fit.  The induction is on the node; it runs through the items, the record and the
branches of the node, of which the record alone is compiled inside an interface.
-/

namespace AsyncTypes.TypeScript

variable {α β γ : Type} {task : Task} {active : List String} {inRecord : Bool}
  {refers : String → Prop}

/-! ## Steps that write types -/

/-- Taken in a sound state amid the active components, the step keeps the state and gives
types that fit. -/
def Writes (task : Task) (active : List String) (inRecord : Bool) (refers : String → Prop)
    (types : α → List TypeExpr) (step : Compile α) : Prop :=
  ∀ state, Sound task state → state.active = active →
    Keeps task [] state step fun value after => Fits task inRecord refers (types value) after

/-- Where a component is compiled, it has a reference with this pointer outside
interfaces. -/
def Placed (task : Task) (active : List String) (pointer : String) : Prop :=
  ∀ place ∈ active.head?, ∃ node, task.document.schema? place = some node ∧
    node.RefersOutside pointer

/-- References are resolved to types that fit. -/
def Resolves (task : Task) (active : List String) (resolve : Resolver) : Prop :=
  ∀ pointer inRecord, (inRecord = false → Placed task active pointer) →
    Writes task active inRecord (fun other => other = pointer) (fun type => [type])
      (resolve pointer inRecord)

namespace Writes

variable {types : α → List TypeExpr}

theorem give {value : α} (fits : ∀ state, Fits task inRecord refers (types value) state) :
    Writes task active inRecord refers types (Pure.pure value) :=
  fun state sound _ => Keeps.pure sound (fits state)

/-- Two steps that write types write the types of both. -/
theorem both {nextRefers : String → Prop} {nextTypes : β → List TypeExpr}
    {allTypes : γ → List TypeExpr} {step : Compile α} {next : α → Compile β}
    {result : α → β → γ} (writes : Writes task active inRecord refers types step)
    (rest : ∀ value, Writes task active inRecord nextRefers nextTypes (next value))
    (split : ∀ value other, allTypes (result value other) = types value ++ nextTypes other) :
    Writes task active inRecord (fun pointer => refers pointer ∨ nextRefers pointer) allTypes
      (step >>= fun value => next value >>= fun other => Pure.pure (result value other)) := by
  intro state sound amid
  apply (writes state sound amid).bind
  intro value middle soundMiddle extension fits
  apply (rest value middle soundMiddle (extension.active.trans amid)).bind
  intro other after soundAfter further nextFits
  apply Keeps.pure soundAfter
  rw [split]
  exact (fits.extend further).append nextFits

/-- What is made of the types of a step fits where they do. -/
theorem map {newTypes : β → List TypeExpr} {otherRefers : String → Prop} {step : Compile α}
    {result : α → β} (writes : Writes task active inRecord refers types step)
    (fits : ∀ value state, Fits task inRecord refers (types value) state →
      Fits task inRecord otherRefers (newTypes (result value)) state) :
    Writes task active inRecord otherRefers newTypes
      (step >>= fun value => Pure.pure (result value)) := by
  intro state sound amid
  apply (writes state sound amid).bind
  intro value after soundAfter _ written
  exact Keeps.pure soundAfter (fits value after written)

theorem imp {otherRefers : String → Prop} {step : Compile α}
    (writes : Writes task active inRecord refers types step)
    (same : ∀ pointer, refers pointer ↔ otherRefers pointer) :
    Writes task active inRecord otherRefers types step := by
  intro state sound amid
  exact (writes state sound amid).consequence fun _ _ _ _ fits => fits.congr same

/-- Inside an interface it does not matter which references there are. -/
theorem record {otherRefers : String → Prop} {step : Compile α}
    (writes : Writes task active true refers types step) :
    Writes task active true otherRefers types step := by
  intro state sound amid
  exact (writes state sound amid).consequence fun _ _ _ _ fits => fits.record otherRefers

end Writes

/-! ## Hoisted parts -/

/-- The name of a hoisted part fits when the part is declared and is no alias. -/
theorem Fits.hoisted {state : Compilation} (sound : Sound task state)
    {declaration : Declaration} (listed : declaration ∈ state.declarations)
    (other : declaration.isAlias = false) (none : ∀ pointer, ¬ refers pointer) :
    Fits task inRecord refers [.named declaration.name] state := by
  have declared : declaration.name ∈ state.names :=
    Compilation.mem_names_iff.mpr ⟨declaration, listed, rfl⟩
  have used := sound.accounts.namesUsed declaration.name declared
  have only : ∀ name, MentionedIn [.named declaration.name] name → name = declaration.name := by
    intro name mentioned
    simpa [TypeExpr.Mentions] using mentioned
  exact {
    writable := by
      intro type member
      rw [List.mem_singleton.mp member]
      exact TypeExpr.writable_named (sound.accounts.usedShaped _ used)
    used := fun name mentioned => only name mentioned ▸ used
    declared := fun _ name mentioned => only name mentioned ▸ declared
    outside := fun _ name mentioned =>
      Or.inr ⟨declaration, listed, (only name mentioned).symm, other⟩
    complete := by
      rintro - key name ⟨pointer, given, -⟩
      exact absurd given (none pointer) }

/-- The declaration of an enumeration mentions nothing. -/
theorem declarable_enumeration (state : Compilation) (name : String)
    (description : Option String) (values : List String) :
    Declarable state (.enumerationOf name description values) where
  writable := by simp [Declaration.enumerationOf, Declaration.types]
  used := by simp [Declaration.enumerationOf, Declaration.Mentions, Declaration.types]
  declared := by simp [Declaration.enumerationOf, Declaration.isAlias]

/-- The declaration of an interface whose types fit is declarable. -/
theorem declarable_interface {state : Compilation} {name : String}
    {description : Option String} {fields : List Field} {index : Option TypeExpr}
    (fits : Fits task true refers (fields.map (·.type) ++ index.toList) state) :
    Declarable state (.interface name description fields index) where
  writable := fits.writable
  used := fits.used
  declared := fun aliased => Bool.noConfusion aliased

/-- An enumeration is hoisted under a name of its own. -/
theorem writes_hoistEnumeration {name : String} (shape : IsName name)
    (description : Option String) (values : List Value) (none : ∀ pointer, ¬ refers pointer) :
    Writes task active inRecord refers (fun type => [type])
      (hoistEnumeration name description values) := by
  intro state sound _
  apply Keeps.reserve sound shape
  intro own soundOwn _ pending
  refine (keeps_declare soundOwn (.enumerationOf own description (values.map Value.shown))
    pending List.mem_cons_self (declarable_enumeration _ own description _)).bind ?_
  intro _ last soundLast _ listed
  exact Keeps.pure soundLast ⟨Compilation.mem_names_iff.mpr ⟨_, listed, rfl⟩,
    Fits.hoisted soundLast listed rfl none⟩

/-- A record is hoisted under a name of its own when its body writes types that fit. -/
theorem writes_hoistInterface {name : String} (shape : IsName name)
    (description : Option String) {body : String → Compile (List Field × Option TypeExpr)}
    {inner : String → Prop} (bodies : ∀ own, IsName own → Writes task active true inner
      (fun parts => parts.1.map (·.type) ++ parts.2.toList) (body own))
    (none : ∀ pointer, ¬ refers pointer) :
    Writes task active inRecord refers (fun type => [type])
      (hoistInterface name description body) := by
  intro state sound amid
  apply Keeps.reserve sound shape
  intro own soundOwn _ pending
  have ownShape := soundOwn.accounts.usedShaped own pending.taken
  have compiled := bodies own ownShape _ soundOwn amid
  apply (compiled.around (by simp) [own] (by simpa using pending)).bind
  rintro ⟨fields, index⟩ middle soundMiddle _ ⟨waiting, fits⟩
  refine (keeps_declare soundMiddle (.interface own description fields index)
    (waiting own List.mem_cons_self) List.mem_cons_self (declarable_interface fits)).bind ?_
  intro _ last soundLast _ listed
  exact Keeps.pure soundLast ⟨Compilation.mem_names_iff.mpr ⟨_, listed, rfl⟩,
    Fits.hoisted soundLast listed rfl none⟩

/-! ## Plain types -/

section

variable {shape : Shape SchemaNode} {item record : Compile TypeExpr}

/-- Under given types, a shape writes its items when it is an array and a record when it
is one. -/
theorem writes_typedExpression (coherent : task.Coherent) {types : TypeNames}
    (items : ({ shape with types := types } : Shape SchemaNode).isArray = true →
      Writes task active inRecord refers (fun type => [type]) item)
    (records : Writes task active inRecord (fun _ => False) (fun type => [type]) record) :
    Writes task active inRecord
      (fun pointer => ({ shape with types := types } : Shape SchemaNode).isArray = true ∧
        refers pointer)
      (fun type => [type]) (typedExpression shape item record types) := by
  unfold typedExpression
  simp only
  split
  · next array =>
      apply (items array).map
      intro type state fits
      exact (fits.array coherent).congr fun pointer => by simp [array]
  · next other =>
      have none : ∀ pointer, ¬ (({ shape with types := types } : Shape SchemaNode).isArray = true ∧
          refers pointer) := fun pointer both => other both.1
      split
      · exact records.imp fun pointer => by simp [other]
      · split
        · next typeName plain =>
            exact Writes.give fun state => Fits.of_nameless
              (by simpa using TypeExpr.writable_ofTypeName typeName) (by simp) none
        · exact Writes.give fun state => Fits.of_nameless
            (by simpa using TypeExpr.writable_fallback) (by simp) none

/-- Type names one after another write the types that each of them gives. -/
theorem writes_eachType {compile : TypeNames → Compile TypeExpr}
    {each : String → String → Prop} {names : List String}
    (writes : ∀ name ∈ names, Writes task active inRecord (each name) (fun type => [type])
      (compile (.single name))) :
    Writes task active inRecord (fun pointer => ∃ name ∈ names, each name pointer) id
      (eachType compile names) := by
  induction names with
  | nil =>
      refine Writes.give fun state => Fits.of_nameless ?_ ?_ ?_
      · simp
      · simp [MentionedIn]
      · simp
  | cons name rest ih =>
      rw [eachType]
      refine ((writes name List.mem_cons_self).both (fun _ => ih ?_) fun _ _ => rfl).imp ?_
      · exact fun other listed => writes other (List.mem_cons_of_mem name listed)
      · simp

/-- A shape writes its items when one of its types is that of an array. -/
theorem writes_plainExpression (coherent : task.Coherent)
    (items : shape.admitsArray = true →
      Writes task active inRecord refers (fun type => [type]) item)
    (records : Writes task active inRecord (fun _ => False) (fun type => [type]) record) :
    Writes task active inRecord (fun pointer => shape.admitsArray = true ∧ refers pointer)
      (fun type => [type]) (plainExpression task shape item record) := by
  obtain ⟨types, properties, required, listed, additional⟩ := shape
  cases types with
  | absent => exact writes_typedExpression coherent items records
  | single name => exact writes_typedExpression coherent items records
  | several names =>
      have each : ∀ name ∈ names, Writes task active inRecord
          (fun pointer => (name == "array") = true ∧ refers pointer) (fun type => [type])
          (typedExpression ⟨.several names, properties, required, listed, additional⟩ item record
            (.single name)) := by
        intro name member
        refine writes_typedExpression coherent (fun array => items ?_) records
        have same : name = "array" := by simpa [Shape.isArray] using array
        simpa [Shape.admitsArray] using same ▸ member
      apply (writes_eachType each).map
      intro types state fits
      have placed : Fits task inRecord
          (fun pointer => names.contains "array" = true ∧ refers pointer) types state :=
        fits.congr fun pointer => by simp
      split
      · next empty =>
          rw [List.isEmpty_iff.mp empty] at placed
          exact placed.replace coherent (by simpa using TypeExpr.writable_fallback)
            (by simp) (by simp [MentionedIn])
      · exact placed.unionOf coherent

end

/-! ## Nodes -/

/-- The references of a schema that allows some values only stand in no type. -/
theorem not_refersOutside_of_values {annotations : Annotations} {values : List Value}
    {composition : Composition SchemaNode} {shape : Shape SchemaNode} {pointer : String}
    (some : values ≠ []) :
    ¬ (SchemaNode.schema annotations values composition shape).RefersOutside pointer := by
  intro refers
  cases refers with
  | branch => exact some rfl
  | item => exact some rfl

/-- The references of a schema are those of its branches and of its items. -/
theorem refersOutside_schema {annotations : Annotations} {composition : Composition SchemaNode}
    {shape : Shape SchemaNode} {pointer : String} :
    (SchemaNode.schema annotations [] composition shape).RefersOutside pointer ↔
      (∃ node ∈ composition.allBranches, node.RefersOutside pointer) ∨
        ((composition.isUsed = true → shape.properties.isSome = true) ∧
          shape.admitsArray = true ∧
            ∃ node, shape.items = some node ∧ node.RefersOutside pointer) := by
  constructor
  · intro refers
    cases refers with
    | branch listed refers => exact Or.inl ⟨_, listed, refers⟩
    | item reached array items refers => exact Or.inr ⟨reached, array, _, items, refers⟩
  · rintro (⟨node, listed, refers⟩ | ⟨reached, array, node, items, refers⟩)
    · exact .branch listed refers
    · exact .item reached array items refers

theorem Fits.groupOf {join : List TypeExpr → TypeExpr} {types : List TypeExpr}
    {state : Compilation}
    (joins : Fits task inRecord refers types state → Fits task inRecord refers [join types] state)
    (fits : Fits task inRecord refers types state) :
    Fits task inRecord refers (TypeScript.groupOf join types) state := by
  unfold TypeScript.groupOf
  split
  · next empty =>
      rw [List.isEmpty_iff.mp empty] at fits
      exact fits
  · exact joins fits

/-- A name with the words of a key after it is a name. -/
theorem IsName.appendKey {name : String} (named : IsName name) (key : String) :
    IsName (name ++ pascalCase key) :=
  named.append (isHighText_pascalCase key).1

theorem IsName.part {name : String} (named : IsName name) (number : Nat) :
    IsName (name ++ "Part" ++ toString number) :=
  (named.append (List.all_eq_true.mp (by decide))).numbered number

theorem writes_nothing {types : α → List TypeExpr} {value : α} (none : types value = []) :
    Writes task active inRecord (fun _ => False) types (Pure.pure value) :=
  Writes.give fun state => Fits.of_nameless (by simp [none]) (by simp [none, MentionedIn]) (by simp)

theorem writes_fallback :
    Writes task active inRecord (fun _ => False) (fun type => [type]) (Pure.pure .fallback) :=
  Writes.give fun state => Fits.of_nameless (by simpa using TypeExpr.writable_fallback)
    (by simp) (by simp)

/-- The type of a schema without values fits: it joins the groups of its composition with
the type that its shape alone has. -/
theorem writes_composed (coherent : task.Coherent) {annotations : Annotations}
    {composition : Composition SchemaNode} {shape : Shape SchemaNode} {name : String}
    (named : IsName name) {groups : Compile (List TypeExpr × Nat)}
    (plain : String → Option String → Compile TypeExpr)
    (joined : Writes task active inRecord
      (fun pointer => ∃ node ∈ composition.allBranches, node.RefersOutside pointer)
      (fun groups => groups.1) groups)
    (alone : ∀ (part : String) (description : Option String), IsName part →
      (composition.isUsed = true → shape.properties.isSome = true) →
      Writes task active inRecord
        (fun pointer => shape.admitsArray = true ∧
          ∃ node ∈ shape.items, node.RefersOutside pointer)
        (fun type => [type]) (plain part description)) :
    Writes task active inRecord
      (SchemaNode.schema annotations [] composition shape).RefersOutside (fun type => [type])
      (if composition.isUsed then do
        let found ← groups
        if shape.properties.isSome then
          let rest ← plain (name ++ "Part" ++ toString found.2) none
          return .intersectionOf task.fallback (found.1 ++ [rest])
        else return .intersectionOf task.fallback found.1
      else plain name annotations.description) := by
  by_cases used : composition.isUsed = true
  · rw [if_pos used]
    intro state sound amid
    apply (joined state sound amid).bind
    rintro ⟨types, next⟩ after soundAfter extension fits
    by_cases properties : shape.properties.isSome = true
    · simp only [properties, if_true]
      refine (alone _ none (named.part next) (fun _ => properties) after soundAfter
        (extension.active.trans amid)).bind ?_
      intro rest last soundLast further restFits
      apply Keeps.pure soundLast
      apply (((fits.extend further).append restFits).intersectionOf coherent).congr
      intro pointer
      rw [refersOutside_schema]
      simp [properties]
    · simp only [properties, Bool.false_eq_true, if_false]
      refine Keeps.pure soundAfter ((fits.intersectionOf coherent).congr ?_)
      intro pointer
      rw [refersOutside_schema]
      simp [used, properties]
  · rw [if_neg used]
    apply (alone name annotations.description named fun also => absurd also used).imp
    intro pointer
    rw [refersOutside_schema]
    simp [used, Composition.allBranches_of_not_isUsed (Bool.eq_false_iff.mpr used)]

variable {resolve : Resolver}

mutual

/-- Compiling a node writes a type that fits. -/
theorem writes_expression (coherent : task.Coherent) (resolves : Resolves task active resolve) :
    ∀ (node : SchemaNode) {name : String} {inRecord : Bool}, IsName name →
      (∀ pointer, node.RefersOutside pointer → inRecord = false → Placed task active pointer) →
      Writes task active inRecord node.RefersOutside (fun type => [type])
        (expression task resolve name inRecord node)
  | .reference pointer, name, inRecord, _, placed => by
      rw [expression]
      apply (resolves pointer inRecord (placed pointer (.reference pointer))).imp
      intro other
      constructor
      · rintro rfl
        exact .reference other
      · rintro ⟨⟩
        rfl
  | .schema annotations values composition shape, name, inRecord, named, placed => by
      rw [expression]
      by_cases any : values = []
      · subst any
        simp only [List.isEmpty_nil, Bool.not_true, Bool.false_eq_true, if_false]
        apply writes_composed coherent named fun part description =>
          plainExpression task shape (itemExpression task resolve (part ++ "Item") inRecord shape)
            (hoistInterface part description fun own => interfaceBody task resolve own shape)
        · exact writes_compositionGroups coherent resolves composition named
            fun node listed pointer refers => placed pointer (.branch listed refers)
        · intro part description partNamed reached
          refine writes_plainExpression coherent (fun array => ?_) ?_
          · apply writes_itemExpression coherent resolves shape
              (partNamed.append (List.all_eq_true.mp (by decide)))
            intro node items pointer refers
            exact placed pointer (.item reached array items refers)
          · exact writes_hoistInterface partNamed description
              (fun own ownNamed => writes_interfaceBody coherent resolves shape ownNamed) (by simp)
      · have none : ∀ pointer, ¬ (SchemaNode.schema annotations values composition
            shape).RefersOutside pointer := fun pointer => not_refersOutside_of_values any
        have some : (!values.isEmpty) = true := by simpa using any
        simp only [some, if_true]
        split
        · exact writes_hoistEnumeration named annotations.description values none
        · refine Writes.give fun state => Fits.of_nameless ?_ ?_ none
          · simpa using TypeExpr.writable_ofValues task.fallback values
          · simpa using TypeExpr.not_mentions_ofValues task.fallback values

/-- Compiling the items of an array writes a type that fits. -/
theorem writes_itemExpression (coherent : task.Coherent)
    (resolves : Resolves task active resolve) :
    ∀ (shape : Shape SchemaNode) {name : String} {inRecord : Bool}, IsName name →
      (∀ node ∈ shape.items, ∀ pointer, node.RefersOutside pointer → inRecord = false →
        Placed task active pointer) →
      Writes task active inRecord
        (fun pointer => ∃ node ∈ shape.items, node.RefersOutside pointer)
        (fun type => [type]) (itemExpression task resolve name inRecord shape)
  | ⟨_, _, _, none, _⟩, name, inRecord, _, _ => by
      rw [itemExpression]
      exact writes_fallback.imp (by simp)
  | ⟨_, _, _, some node, _⟩, name, inRecord, named, placed => by
      rw [itemExpression]
      exact (writes_expression coherent resolves node named (placed node rfl)).imp (by simp)

/-- Compiling a record writes types that fit an interface. -/
theorem writes_interfaceBody (coherent : task.Coherent)
    (resolves : Resolves task active resolve) :
    ∀ (shape : Shape SchemaNode) {own : String}, IsName own →
      Writes task active true (fun _ => False)
        (fun parts => parts.1.map (·.type) ++ parts.2.toList)
        (interfaceBody task resolve own shape)
  | ⟨_, properties, required, _, additional⟩, own, named => by
      rw [interfaceBody]
      refine ((writes_listedFields coherent resolves properties named).both
        (fun _ => writes_indexType coherent resolves additional named) ?_).imp (by simp)
      exact fun fields index => rfl

/-- Compiling the properties that are listed writes types that fit an interface. -/
theorem writes_listedFields (coherent : task.Coherent)
    (resolves : Resolves task active resolve) :
    ∀ (properties : Option (List (String × SchemaNode))) {own : String}
      {required : List String}, IsName own →
      Writes task active true (fun _ => False) (List.map (·.type))
        (listedFields task resolve own required properties)
  | none, own, required, _ => by
      rw [listedFields]
      exact writes_nothing rfl
  | some properties, own, required, named => by
      rw [listedFields]
      exact writes_interfaceFields coherent resolves properties named

/-- Compiling the index signature writes a type that fits an interface. -/
theorem writes_indexType (coherent : task.Coherent) (resolves : Resolves task active resolve) :
    ∀ (additional : Additional SchemaNode) {own : String}, IsName own →
      Writes task active true (fun _ => False) Option.toList
        (indexType task resolve own additional)
  | .absent, own, _ => by
      rw [indexType]
      exact writes_nothing rfl
  | .allowed true, own, _ => by
      rw [indexType]
      exact Writes.give fun state => Fits.of_nameless
        (by simpa using TypeExpr.writable_fallback) (by simp) (by simp)
  | .allowed false, own, _ => by
      rw [indexType]
      exact writes_nothing rfl
  | .schema node, own, named => by
      rw [indexType]
      refine (writes_expression coherent resolves node
        (named.append (List.all_eq_true.mp (by decide))) ?_).map ?_
      · exact fun _ _ outer => Bool.noConfusion outer
      · exact fun type state fits => fits.record _

/-- Compiling some properties writes types that fit an interface. -/
theorem writes_interfaceFields (coherent : task.Coherent)
    (resolves : Resolves task active resolve) :
    ∀ (properties : List (String × SchemaNode)) {own : String} {required : List String},
      IsName own →
      Writes task active true (fun _ => False) (List.map (·.type))
        (interfaceFields task resolve own required properties)
  | [], own, required, _ => by
      rw [interfaceFields]
      exact writes_nothing rfl
  | (key, node) :: rest, own, required, named => by
      rw [interfaceFields]
      exact ((writes_expression coherent resolves node (named.appendKey key)
        fun _ _ outer => Bool.noConfusion outer).both
        (fun _ => writes_interfaceFields coherent resolves rest named) fun _ _ => rfl).record

/-- Compiling the composition keywords writes groups that fit. -/
theorem writes_compositionGroups (coherent : task.Coherent)
    (resolves : Resolves task active resolve) :
    ∀ (composition : Composition SchemaNode) {name : String} {inRecord : Bool}, IsName name →
      (∀ node ∈ composition.allBranches, ∀ pointer, node.RefersOutside pointer →
        inRecord = false → Placed task active pointer) →
      Writes task active inRecord
        (fun pointer => ∃ node ∈ composition.allBranches, node.RefersOutside pointer)
        (fun groups => groups.1) (compositionGroups task resolve name inRecord composition)
  | ⟨allOf, anyOf, oneOf⟩, name, inRecord, named, placed => by
      rw [compositionGroups]
      intro state sound amid
      refine (writes_keywordExpressions coherent resolves allOf named ?_ state sound
        amid).bind ?_
      · exact fun node listed => placed node (Composition.mem_allBranches.mpr (Or.inl listed))
      intro all first soundFirst extension allFits
      have amidFirst := extension.active.trans amid
      refine (writes_keywordExpressions coherent resolves anyOf named ?_ first soundFirst
        amidFirst).bind ?_
      · exact fun node listed =>
          placed node (Composition.mem_allBranches.mpr (Or.inr (Or.inl listed)))
      intro any second soundSecond further anyFits
      refine (writes_keywordExpressions coherent resolves oneOf named ?_ second soundSecond
        (further.active.trans amidFirst)).bind ?_
      · exact fun node listed =>
          placed node (Composition.mem_allBranches.mpr (Or.inr (Or.inr listed)))
      intro one third soundThird last oneFits
      have allGroup := ((allFits.extend further).extend last).groupOf
        (·.intersectionOf coherent)
      have anyGroup := (anyFits.extend last).groupOf (·.unionOf coherent)
      have oneGroup := oneFits.groupOf (·.unionOf coherent)
      refine Keeps.pure soundThird (((allGroup.append anyGroup).append oneGroup).congr ?_)
      intro pointer
      simp only [Composition.mem_allBranches, or_and_right, exists_or, or_assoc]

/-- Compiling the branches of a keyword writes types that fit. -/
theorem writes_keywordExpressions (coherent : task.Coherent)
    (resolves : Resolves task active resolve) :
    ∀ (keyword : Option (List SchemaNode)) {name : String} {inRecord : Bool} {number : Nat},
      IsName name →
      (∀ node ∈ Composition.branches keyword, ∀ pointer, node.RefersOutside pointer →
        inRecord = false → Placed task active pointer) →
      Writes task active inRecord
        (fun pointer => ∃ node ∈ Composition.branches keyword, node.RefersOutside pointer) id
        (keywordExpressions task resolve name inRecord number keyword)
  | none, name, inRecord, number, _, _ => by
      rw [keywordExpressions]
      exact (writes_nothing rfl).imp (by simp [Composition.branches])
  | some branches, name, inRecord, number, named, placed => by
      rw [keywordExpressions]
      exact writes_branchExpressions coherent resolves branches named placed

/-- Compiling some branches writes types that fit. -/
theorem writes_branchExpressions (coherent : task.Coherent)
    (resolves : Resolves task active resolve) :
    ∀ (branches : List SchemaNode) {name : String} {inRecord : Bool} {number : Nat},
      IsName name →
      (∀ node ∈ branches, ∀ pointer, node.RefersOutside pointer → inRecord = false →
        Placed task active pointer) →
      Writes task active inRecord
        (fun pointer => ∃ node ∈ branches, node.RefersOutside pointer) id
        (branchExpressions task resolve name inRecord number branches)
  | [], name, inRecord, number, _, _ => by
      rw [branchExpressions]
      exact (writes_nothing rfl).imp (by simp)
  | node :: rest, name, inRecord, number, named, placed => by
      rw [branchExpressions]
      refine ((writes_expression coherent resolves node (named.part number) ?_).both
        (fun _ => writes_branchExpressions coherent resolves rest named ?_)
        fun _ _ => rfl).imp (by simp)
      · exact placed node List.mem_cons_self
      · exact fun other listed => placed other (List.mem_cons_of_mem node listed)

end

end AsyncTypes.TypeScript
