import Mathlib.Data.List.Forall2
import AsyncTypes.Schema.Conversion

/-!
# What a conversion asks for

Whatever an inliner does, the conversion of a schema asks it for the same pointers in the
same order, and it builds the same node from the nodes that it gets.  So a conversion is
known by the pointers that it asks for and by what it builds, and nodes that are alike give
nodes that are alike.
-/

namespace AsyncTypes

/-! ## Nodes that are alike -/

/-- Something further is said alike about properties that are not listed. -/
inductive Additional.Alike {Node : Type} (relation : Node → Node → Prop) :
    Additional Node → Additional Node → Prop
  | absent : Alike relation .absent .absent
  | allowed (flag : Bool) : Alike relation (.allowed flag) (.allowed flag)
  | schema {node other : Node} (alike : relation node other) :
      Alike relation (.schema node) (.schema other)

/-- Branches of the same keywords are alike. -/
inductive Composition.Alike {Node : Type} (relation : Node → Node → Prop) :
    Composition Node → Composition Node → Prop
  | mk {allOf anyOf oneOf all any one : Option (List Node)}
      (underAll : Option.Rel (List.Forall₂ relation) allOf all)
      (underAny : Option.Rel (List.Forall₂ relation) anyOf any)
      (underOne : Option.Rel (List.Forall₂ relation) oneOf one) :
      Alike relation ⟨allOf, anyOf, oneOf⟩ ⟨all, any, one⟩

/-- Properties under the same names are alike. -/
inductive PropertiesAlike {Node : Type} (relation : Node → Node → Prop) :
    List (String × Node) → List (String × Node) → Prop
  | nil : PropertiesAlike relation [] []
  | cons (name : String) {node other : Node} {rest others : List (String × Node)}
      (alike : relation node other) (tail : PropertiesAlike relation rest others) :
      PropertiesAlike relation ((name, node) :: rest) ((name, other) :: others)

/-- Shapes that differ in their parts only have parts that are alike. -/
inductive Shape.Alike {Node : Type} (relation : Node → Node → Prop) :
    Shape Node → Shape Node → Prop
  | mk (types : TypeNames) (required : List String)
      {properties others : Option (List (String × Node))} {items further : Option Node}
      {additional rest : Additional Node}
      (sameProperties : Option.Rel (PropertiesAlike relation) properties others)
      (sameItems : Option.Rel relation items further) (sameRest : additional.Alike relation rest) :
      Alike relation ⟨types, properties, required, items, additional⟩
        ⟨types, others, required, further, rest⟩

section

variable {Node : Type}

theorem eq_of_optionRel {α : Type} {relation : α → α → Prop} {first second : Option α}
    (agree : ∀ {one other}, relation one other → one = other)
    (alike : Option.Rel relation first second) : first = second := by
  cases alike with
  | none => rfl
  | some same => rw [agree same]

theorem eq_of_propertiesAlike {first second : List (String × Node)}
    (alike : PropertiesAlike Eq first second) : first = second := by
  induction alike with
  | nil => rfl
  | cons name same _ ih => rw [same, ih]

theorem Additional.Alike.eq {first second : Additional Node} (alike : first.Alike Eq second) :
    first = second := by
  cases alike with
  | absent => rfl
  | allowed flag => rfl
  | schema same => rw [same]

theorem Composition.Alike.eq {first second : Composition Node} (alike : first.Alike Eq second) :
    first = second := by
  obtain ⟨underAll, underAny, underOne⟩ := alike
  rw [List.forall₂_eq_eq_eq] at underAll underAny underOne
  rw [eq_of_optionRel id underAll, eq_of_optionRel id underAny, eq_of_optionRel id underOne]

theorem Shape.Alike.eq {first second : Shape Node} (alike : first.Alike Eq second) :
    first = second := by
  obtain ⟨types, required, sameProperties, sameItems, sameRest⟩ := alike
  rw [eq_of_optionRel eq_of_propertiesAlike sameProperties, eq_of_optionRel id sameItems,
    sameRest.eq]

end

namespace SchemaNode

/-- Nodes are related that are built from related parts. -/
structure Congruent (relation : SchemaNode → SchemaNode → Prop) : Prop where
  reference : ∀ pointer, relation (.reference pointer) (.reference pointer)
  schema : ∀ annotations values {composition other : Composition SchemaNode}
    {shape further : Shape SchemaNode}, composition.Alike relation other →
      shape.Alike relation further →
        relation (.schema annotations values composition shape)
          (.schema annotations values other further)

variable {relation : SchemaNode → SchemaNode → Prop}

theorem Congruent.empty (congruent : Congruent relation) : relation .empty .empty :=
  congruent.schema _ _ (.mk .none .none .none) (.mk _ _ .none .none .absent)

/-- Equality is kept by the parts. -/
theorem congruent_eq : Congruent Eq :=
  ⟨fun _ => rfl, fun _ _ _ _ _ _ branches parts => by rw [branches.eq, parts.eq]⟩

theorem alike_insertProperty (name : String) {node other : SchemaNode}
    {properties others : List (String × SchemaNode)} (alike : relation node other)
    (before : PropertiesAlike relation properties others) :
    PropertiesAlike relation (insertProperty name node properties)
      (insertProperty name other others) := by
  induction before with
  | nil => exact .cons name alike .nil
  | cons first before tail ih =>
      rw [insertProperty, insertProperty]
      split
      · exact .cons name alike tail
      · exact .cons first before ih

/-- Properties that are alike are alike when they are put in order. -/
theorem alike_propertiesOf {pairs others : List (String × SchemaNode)}
    (alike : PropertiesAlike relation pairs others) :
    PropertiesAlike relation (propertiesOf pairs) (propertiesOf others) := by
  have gathered : ∀ {properties further : List (String × SchemaNode)},
      PropertiesAlike relation properties further →
        PropertiesAlike relation
          (pairs.foldl (fun properties pair => insertProperty pair.1 pair.2 properties) properties)
          (others.foldl (fun properties pair => insertProperty pair.1 pair.2 properties)
            further) := by
    induction alike with
    | nil => exact id
    | cons name alike _ ih => exact fun before => ih (alike_insertProperty name alike before)
  exact gathered .nil

/-! ## Scripts -/

/-- What a conversion does with an inliner, whatever state that keeps. -/
abbrev Action (α : Type) :=
  ∀ σ : Type, (String → StateM σ SchemaNode) → StateM σ α

/-- The action asks for the nodes of some pointers, one after another, and builds its result
from them.  Nodes that are alike give results that are alike, as `lift` says. -/
def Scripted {α : Type} (lift : (SchemaNode → SchemaNode → Prop) → α → α → Prop)
    (action : Action α) : Prop :=
  ∃ (pointers : List String) (build : List SchemaNode → α),
    (∀ σ (inline : String → StateM σ SchemaNode), action σ inline = do
      let nodes ← pointers.mapM inline
      return build nodes) ∧
    ∀ relation, Congruent relation → ∀ nodes others, nodes.length = pointers.length →
      List.Forall₂ relation nodes others → lift relation (build nodes) (build others)

theorem length_run_mapM {σ : Type} (inline : String → StateM σ SchemaNode)
    (pointers : List String) (state : σ) :
    ((pointers.mapM inline).run state).1.length = pointers.length := by
  induction pointers generalizing state with
  | nil => rfl
  | cons pointer rest ih =>
      rw [List.mapM_cons]
      exact congrArg (· + 1) (ih _)

namespace Scripted

variable {α β : Type} {lift : (SchemaNode → SchemaNode → Prop) → α → α → Prop}
  {lifted : (SchemaNode → SchemaNode → Prop) → β → β → Prop}

theorem pure {value : α} (same : ∀ relation, Congruent relation → lift relation value value) :
    Scripted lift fun _ _ => Pure.pure value := by
  refine ⟨[], fun _ => value, ?_, fun relation congruent _ _ _ _ => same relation congruent⟩
  intro σ inline
  rw [List.mapM_nil, pure_bind]

theorem inline (pointer : String) :
    Scripted (fun relation => relation) fun _ inline => inline pointer := by
  refine ⟨[pointer], fun nodes => nodes.headD .empty, ?_, ?_⟩
  · intro σ inline
    simp
  · intro relation _ nodes others _ alike
    cases alike with
    | nil => contradiction
    | cons first _ => exact first

theorem map {action : Action α} (scripted : Scripted lift action) (change : α → β)
    (respects : ∀ relation, Congruent relation → ∀ first second,
      lift relation first second → lifted relation (change first) (change second)) :
    Scripted lifted fun σ inline => do
      let value ← action σ inline
      return change value := by
  obtain ⟨pointers, build, runs, alike⟩ := scripted
  refine ⟨pointers, fun nodes => change (build nodes), ?_, ?_⟩
  · intro σ inline
    simp only [runs, bind_assoc, pure_bind]
  · intro relation congruent nodes others count related
    exact respects relation congruent _ _ (alike relation congruent nodes others count related)

/-- One scripted action after another is scripted. -/
theorem pair {first : Action α} {second : Action β} (scripted : Scripted lift first)
    (also : Scripted lifted second) :
    Scripted (fun relation one other => lift relation one.1 other.1 ∧
        lifted relation one.2 other.2) fun σ inline => do
      let value ← first σ inline
      let other ← second σ inline
      return (value, other) := by
  obtain ⟨pointers, build, runs, alike⟩ := scripted
  obtain ⟨further, complete, runsAlso, alikeAlso⟩ := also
  refine ⟨pointers ++ further, fun nodes => (build (nodes.take pointers.length),
    complete (nodes.drop pointers.length)), ?_, ?_⟩
  · intro σ inline
    apply StateT.ext
    intro state
    have count := length_run_mapM inline pointers state
    simp only [runs, runsAlso, List.mapM_append, bind_assoc, pure_bind, StateT.run_bind]
    generalize (pointers.mapM inline).run state = ran at count ⊢
    obtain ⟨nodes, middle⟩ := ran
    change ((build nodes, complete ((further.mapM inline).run middle).1), _) =
      ((build ((nodes ++ ((further.mapM inline).run middle).1).take pointers.length),
        complete ((nodes ++ ((further.mapM inline).run middle).1).drop pointers.length)), _)
    rw [List.take_left' count, List.drop_left' count]
  · intro relation congruent nodes others count related
    rw [List.length_append] at count
    constructor
    · apply alike relation congruent
      · simp [count]
      · exact List.forall₂_take _ related
    · apply alikeAlso relation congruent
      · simp [count]
      · exact List.forall₂_drop _ related

theorem congr {action other : Action α} (same : ∀ σ inline, action σ inline = other σ inline)
    (scripted : Scripted lift other) : Scripted lift action := by
  obtain ⟨pointers, build, runs, alike⟩ := scripted
  exact ⟨pointers, build, fun σ inline => (same σ inline).trans (runs σ inline), alike⟩

end Scripted

/-! ## Conversions are scripted -/

/-- The node of a schema, from the nodes of its parts. -/
def ofParts (schema : Value) (properties : Option (List (String × SchemaNode)))
    (items : Option SchemaNode) (composition : Composition SchemaNode)
    (additional : Option SchemaNode) : SchemaNode :=
  .schema (annotationsOf schema) (valuesOf schema) composition
    { types := typeNames (schema.field "type")
      properties := properties
      required := requiredOf schema
      items := items
      additional :=
        match schema.field "additionalProperties", additional with
        | .scalar (.bool flag), _ => .allowed flag
        | _, some node => .schema node
        | _, none => .absent }

/-- Parts that are alike make nodes that are alike. -/
theorem Congruent.ofParts (congruent : Congruent relation) (schema : Value)
    {properties others : Option (List (String × SchemaNode))}
    {items further : Option SchemaNode} {composition other : Composition SchemaNode}
    {additional rest : Option SchemaNode}
    (sameProperties : Option.Rel (PropertiesAlike relation) properties others)
    (sameItems : Option.Rel relation items further) (branches : composition.Alike relation other)
    (sameRest : Option.Rel relation additional rest) :
    relation (ofParts schema properties items composition additional)
      (ofParts schema others further other rest) := by
  refine congruent.schema _ _ branches (.mk _ _ sameProperties sameItems ?_)
  generalize schema.field "additionalProperties" = field
  -- Only a flag is read before the node, so the node decides for every other value.
  cases sameRest with
  | some alike => cases field with
    | scalar value => cases value <;> first | exact .allowed _ | exact .schema alike
    | _ => exact .schema alike
  | none => cases field with
    | scalar value => cases value <;> first | exact .allowed _ | exact .absent
    | _ => exact .absent

/-- What is no mapping is converted to the empty node, unless the raw view is a reference. -/
theorem scripted_other (raw : Value) :
    Scripted (fun relation => relation) fun _ _ =>
      match raw.reference? with
      | some pointer => Pure.pure (.reference pointer)
      | none => Pure.pure empty := by
  cases raw.reference? with
  | some pointer => exact .pure fun _ congruent => congruent.reference pointer
  | none => exact .pure fun _ congruent => congruent.empty

-- One theorem for each function of the conversion, by recursion on the schema: the raw view is
-- handed down and plays no part.
mutual

/-- Converting a schema is scripted. -/
theorem scripted_convert : ∀ (schema raw : Value),
    Scripted (fun relation => relation) fun _ inline => convert inline schema raw
  | .map entries, raw => by
      simp only [convert]
      cases raw.reference? with
      | some pointer => exact .pure fun _ congruent => congruent.reference pointer
      | none =>
          cases (Value.map entries).reference? with
          | some pointer => exact .inline pointer
          | none =>
              have parts := (scripted_convertPropertiesIn raw entries).pair
                ((scripted_convertSchemaIn "items" raw entries).pair
                  ((scripted_convertBranchesIn "allOf" raw entries).pair
                    ((scripted_convertBranchesIn "anyOf" raw entries).pair
                      ((scripted_convertBranchesIn "oneOf" raw entries).pair
                        (scripted_convertSchemaIn "additionalProperties" raw entries)))))
              refine .congr ?_ (parts.map (fun
                (properties, items, allOf, anyOf, oneOf, additional) =>
                  ofParts (.map entries) properties items ⟨allOf, anyOf, oneOf⟩ additional) ?_)
              · intro σ inline
                simp only [bind_assoc, pure_bind]
                rfl
              · rintro relation congruent ⟨_, _, _, _, _, _⟩ ⟨_, _, _, _, _, _⟩
                  ⟨properties, items, allOf, anyOf, oneOf, additional⟩
                exact congruent.ofParts _ properties items (.mk allOf anyOf oneOf) additional
  | .scalar value, raw => by
      simp only [convert]
      exact scripted_other raw
  | .list items, raw => by
      simp only [convert]
      exact scripted_other raw
  | .set members, raw => by
      simp only [convert]
      exact scripted_other raw
  | .pair first second, raw => by
      simp only [convert]
      exact scripted_other raw
termination_by schema => sizeOf schema

theorem scripted_convertPropertiesIn : ∀ (raw : Value) (entries : List (Scalar × Value)),
    Scripted (fun relation => Option.Rel (PropertiesAlike relation))
      fun _ inline => convertPropertiesIn inline raw entries
  | raw, [] => by
      simp only [convertPropertiesIn]
      exact .pure fun _ _ => .none
  | raw, (key, value) :: rest => by
      by_cases found : key.sameKey (.string "properties") = true
      · match value with
        | .map properties =>
            have pairs := scripted_convertProperties
              (raw.child (.key (.string "properties"))) properties
            refine .congr ?_ (pairs.map (fun pairs => some (propertiesOf pairs))
              fun _ _ _ _ alike => .some (alike_propertiesOf alike))
            intro σ inline
            rw [convertPropertiesIn, if_pos found]
        | .scalar _ | .list _ | .set _ | .pair _ _ =>
            refine .congr ?_ (.pure fun _ _ => .none)
            intro σ inline
            simp [convertPropertiesIn, found]
      · refine .congr ?_ (scripted_convertPropertiesIn raw rest)
        intro σ inline
        cases value <;> simp [convertPropertiesIn, found]
termination_by _ entries => sizeOf entries

theorem scripted_convertProperties : ∀ (raw : Value) (entries : List (Scalar × Value)),
    Scripted PropertiesAlike fun _ inline => convertProperties inline raw entries
  | raw, [] => by
      simp only [convertProperties]
      exact .pure fun _ _ => .nil
  | raw, (key, value) :: rest => by
      simp only [convertProperties]
      have both := (scripted_convert value (raw.child (Value.stepTo key))).pair
        (scripted_convertProperties raw rest)
      refine .congr ?_ (both.map (fun (node, others) => (key.shown, node) :: others) ?_)
      · intro σ inline
        simp only [bind_assoc, pure_bind]
      · rintro relation congruent ⟨_, _⟩ ⟨_, _⟩ ⟨node, others⟩
        exact .cons _ node others
termination_by _ entries => sizeOf entries

theorem scripted_convertSchemaIn (keyword : String) :
    ∀ (raw : Value) (entries : List (Scalar × Value)),
      Scripted Option.Rel fun _ inline => convertSchemaIn inline keyword raw entries
  | raw, [] => by
      simp only [convertSchemaIn]
      exact .pure fun _ _ => .none
  | raw, (key, value) :: rest => by
      by_cases found : key.sameKey (.string keyword) = true
      · by_cases mapping : value.isMap = true
        · have node := scripted_convert value (raw.child (.key (.string keyword)))
          refine .congr ?_ (node.map some fun _ _ _ _ alike => .some alike)
          intro σ inline
          rw [convertSchemaIn, if_pos found, if_pos mapping]
        · refine .congr ?_ (.pure fun _ _ => .none)
          intro σ inline
          rw [convertSchemaIn, if_pos found, if_neg mapping]
      · refine .congr ?_ (scripted_convertSchemaIn keyword raw rest)
        intro σ inline
        rw [convertSchemaIn, if_neg found]
termination_by _ entries => sizeOf entries

theorem scripted_convertBranchesIn (keyword : String) :
    ∀ (raw : Value) (entries : List (Scalar × Value)),
      Scripted (fun relation => Option.Rel (List.Forall₂ relation))
        fun _ inline => convertBranchesIn inline keyword raw entries
  | raw, [] => by
      simp only [convertBranchesIn]
      exact .pure fun _ _ => .none
  | raw, (key, value) :: rest => by
      by_cases found : key.sameKey (.string keyword) = true
      · match value with
        | .list branches =>
            have nodes := scripted_convertBranches (raw.child (.key (.string keyword))) 0 branches
            refine .congr ?_ (nodes.map some fun _ _ _ _ alike => .some alike)
            intro σ inline
            rw [convertBranchesIn, if_pos found]
        | .scalar _ | .map _ | .set _ | .pair _ _ =>
            refine .congr ?_ (.pure fun _ _ => .none)
            intro σ inline
            simp [convertBranchesIn, found]
      · refine .congr ?_ (scripted_convertBranchesIn keyword raw rest)
        intro σ inline
        cases value <;> simp [convertBranchesIn, found]
termination_by _ entries => sizeOf entries

theorem scripted_convertBranches :
    ∀ (raw : Value) (index : Nat) (branches : List Value),
      Scripted List.Forall₂ fun _ inline => convertBranches inline raw index branches
  | raw, index, [] => by
      simp only [convertBranches]
      exact .pure fun _ _ => .nil
  | raw, index, value :: rest => by
      simp only [convertBranches]
      have both := (scripted_convert value (raw.child (.index index))).pair
        (scripted_convertBranches raw (index + 1) rest)
      refine .congr ?_ (both.map (fun (node, others) => node :: others) ?_)
      · intro σ inline
        simp only [bind_assoc, pure_bind]
      · rintro relation congruent ⟨_, _⟩ ⟨_, _⟩ ⟨node, others⟩
        exact .cons node others
termination_by _ _ branches => sizeOf branches

end

/-! ## The script of a schema -/

/-- An inliner that writes down what it is asked for. -/
def recorder (pointer : String) : StateM (List String) SchemaNode :=
  fun asked => (.reference pointer, asked ++ [pointer])

/-- An inliner that gives out some nodes, one after another. -/
def dealer (_ : String) : StateM (List SchemaNode) SchemaNode :=
  fun nodes => (nodes.headD .empty, nodes.tail)

/-- The pointers that the conversion of a schema asks for, in this order. -/
def met (schema raw : Value) : List String :=
  ((convert recorder schema raw).run []).2

/-- The node of a schema, from the nodes for the pointers that its conversion asks for. -/
def rebuild (schema raw : Value) (nodes : List SchemaNode) : SchemaNode :=
  ((convert dealer schema raw).run nodes).1

theorem run_mapM_recorder (pointers asked : List String) :
    (pointers.mapM recorder).run asked = (pointers.map .reference, asked ++ pointers) := by
  induction pointers generalizing asked with
  | nil =>
      rw [List.append_nil]
      rfl
  | cons pointer rest ih =>
      have later := ih (asked ++ [pointer])
      rw [List.append_assoc] at later
      rw [List.mapM_cons]
      exact congrArg (fun ran => (.reference pointer :: ran.1, ran.2)) later

theorem run_mapM_dealer {pointers : List String} {nodes : List SchemaNode}
    (count : nodes.length = pointers.length) :
    ((pointers.mapM dealer).run nodes).1 = nodes := by
  induction pointers generalizing nodes with
  | nil => exact (List.eq_nil_of_length_eq_zero count).symm
  | cons pointer rest ih =>
      obtain _ | ⟨node, nodes⟩ := nodes
      · contradiction
      · rw [List.mapM_cons]
        exact congrArg (node :: ·) (ih (Nat.succ.inj count))

/-- The script of a schema is read off by the recorder and by the dealer. -/
theorem exists_build (schema raw : Value) : ∃ build : List SchemaNode → SchemaNode,
    (∀ σ (inline : String → StateM σ SchemaNode), convert inline schema raw = do
      let nodes ← (met schema raw).mapM inline
      return build nodes) ∧
    (∀ nodes, nodes.length = (met schema raw).length → rebuild schema raw nodes = build nodes) ∧
    ∀ relation, Congruent relation → ∀ nodes others, nodes.length = (met schema raw).length →
      List.Forall₂ relation nodes others → relation (build nodes) (build others) := by
  obtain ⟨pointers, build, runs, respects⟩ := scripted_convert schema raw
  have asked : met schema raw = pointers := by
    refine (congrArg (fun action => (StateT.run action []).2) (runs _ recorder)).trans ?_
    exact congrArg Prod.snd (run_mapM_recorder pointers [])
  rw [asked]
  refine ⟨build, runs, fun nodes count => ?_, respects⟩
  refine (congrArg (fun action => (StateT.run action nodes).1) (runs _ dealer)).trans ?_
  exact congrArg build (run_mapM_dealer count)

/-- A conversion asks for the pointers of the schema, one after another, and builds the node
from what it gets. -/
theorem convert_eq {σ : Type} (inline : String → StateM σ SchemaNode) (schema raw : Value) :
    convert inline schema raw = do
      let nodes ← (met schema raw).mapM inline
      return rebuild schema raw nodes := by
  obtain ⟨build, runs, built, -⟩ := exists_build schema raw
  rw [runs]
  apply StateT.ext
  intro state
  have count := length_run_mapM inline (met schema raw) state
  simp only [StateT.run_bind]
  exact congrArg (·, _) (built _ count).symm

/-- An inliner that keeps no state builds the node from its own answers. -/
theorem run_convert_pure (node : String → SchemaNode) (schema raw : Value) :
    ((convert (σ := Unit) (fun pointer => return node pointer) schema raw).run ()).1 =
      rebuild schema raw ((met schema raw).map node) := by
  have asked : (met schema raw).mapM
      (fun pointer => (return node pointer : StateM Unit SchemaNode)) =
        return (met schema raw).map node := List.mapM_pure
  rw [convert_eq, asked, pure_bind]
  rfl

/-- Nodes that are alike for the pointers make nodes that are alike. -/
theorem Congruent.rebuild (congruent : Congruent relation) (schema raw : Value)
    {nodes others : List SchemaNode} (count : nodes.length = (met schema raw).length)
    (alike : List.Forall₂ relation nodes others) :
    relation (rebuild schema raw nodes) (SchemaNode.rebuild schema raw others) := by
  obtain ⟨build, -, built, respects⟩ := exists_build schema raw
  rw [built _ count, built _ (alike.length_eq ▸ count)]
  exact respects relation congruent nodes others count alike

end SchemaNode

end AsyncTypes
