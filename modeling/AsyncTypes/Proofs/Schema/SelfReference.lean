import AsyncTypes.Proofs.Pointer.RoundTrip
import AsyncTypes.Proofs.Schema.Preservation
import AsyncTypes.Proofs.Schema.Sharing

/-!
# References of a component schema to itself

When references are inlined, a component schema begins with its own pointer on the trail, so that
a reference to itself is cut.  The pointer on the trail is made of the key as it stands, while a
reference writes the key with its tildes and slashes escaped.  The two are the same for a key
without such characters, and then every self reference is cut, however deep it stands.  For any
other key the target is put in the place of the reference once more, and only the self references
in this copy are cut.
-/

namespace AsyncTypes

/-! ## The two spellings of the own pointer -/

namespace Pointer

/-- A key that is written as it stands: it has no tilde and no slash. -/
def IsPlainKey (key : String) : Prop :=
  ∀ c ∈ key.toList, c ≠ '~' ∧ c ≠ '/'

instance (key : String) : Decidable (IsPlainKey key) :=
  List.decidableBAll (fun c => c ≠ '~' ∧ c ≠ '/') key.toList

theorem length_le_escape (key : List Char) : key.length ≤ (escape key).length := by
  induction key with
  | nil => exact Nat.le_refl _
  | cons c rest ih =>
      rw [escape]
      split
      · exact Nat.succ_le_succ (Nat.le_succ_of_le ih)
      · split
        · exact Nat.succ_le_succ (Nat.le_succ_of_le ih)
        · exact Nat.succ_le_succ ih

/-- A key stays as it is exactly when nothing in it has to be escaped. -/
theorem escape_eq_self_iff {key : List Char} :
    escape key = key ↔ ∀ c ∈ key, c ≠ '~' ∧ c ≠ '/' := by
  induction key with
  | nil => simp [escape]
  | cons c rest ih =>
      have longer : ∀ d, d :: escape rest ≠ rest := by
        intro d same
        have shorter := congrArg List.length same
        have bound := length_le_escape rest
        rw [List.length_cons] at shorter
        omega
      by_cases tilde : c = '~'
      · simp [escape, tilde, longer]
      · by_cases slash : c = '/'
        · simp [escape, slash]
        · simp [escape, tilde, slash, ih]

/-- The pointer that is made of a key as it stands is the written one exactly when the key is
plain. -/
theorem toSchema_eq_iff {key : String} : toSchema key = schemaRoot ++ key ↔ IsPlainKey key := by
  rw [← String.toList_inj, toList_toSchema, String.toList_append, List.append_cancel_left_eq,
    escape_eq_self_iff]
  rfl

/-- The pointer to a component schema leads to it. -/
theorem walk?_toSchema {document schema : Value} {key : String}
    (held : ((document.field "components").field "schemas").get? key = some schema)
    (mapping : schema.isMap = true) : walk? document (toSchema key) = some schema := by
  have present : schema.isNull = false := by cases schema <;> first | rfl | exact nomatch mapping
  obtain ⟨inComponents, schemasPresent⟩ := get?_of_get?_field held
  obtain ⟨inDocument, componentsPresent⟩ := get?_of_get?_field inComponents
  rw [walk?, keys?_toSchema, Option.bind_some, follow?_cons_of_get? inDocument componentsPresent,
    follow?_cons_of_get? inComponents schemasPresent, follow?_cons_of_get? held present]
  rfl

end Pointer

/-! ## Ways through filled nodes -/

/-- Where a way leads to a reference, the value is a mapping. -/
theorem isMap_of_along? {way : List SchemaStep} {value : Value} {pointer : String}
    (refers : (value.along? way).bind Value.reference? = some pointer) : value.isMap = true := by
  cases way with
  | nil => exact Value.isMap_of_reference? refers
  | cons step rest =>
      cases value with
      | map entries => rfl
      | _ => cases step <;> exact nomatch refers

namespace SchemaNode

/-- Nothing lies inside the empty node. -/
theorem eq_nil_of_along?_empty {way : List SchemaStep} {node : SchemaNode}
    (reached : SchemaNode.empty.along? way = some node) : way = [] := by
  cases way with
  | nil => rfl
  | cons step rest =>
      cases step with
      | branch keyword index => cases keyword <;> exact nomatch reached
      | _ => exact nomatch reached

variable {relation : SchemaNode → SchemaNode → Prop}

/-- Among properties that are alike, those under one name are. -/
theorem exists_property_of_alike {properties others : List (String × SchemaNode)}
    (alike : PropertiesAlike relation properties others) {name : String} {node : SchemaNode}
    (found : (properties.find? fun property => property.1 == name).map (·.2) = some node) :
    ∃ other, (others.find? fun property => property.1 == name).map (·.2) = some other ∧
      relation node other := by
  induction alike with
  | nil => exact nomatch found
  | cons first here tail ih =>
      rw [List.find?_cons] at found ⊢
      by_cases same : first = name
      · simp only [same, beq_self_eq_true, Option.map_some, Option.some.injEq] at found ⊢
        exact ⟨_, rfl, found ▸ here⟩
      · simp only [beq_eq_false_iff_ne.mpr same] at found ⊢
        exact ih found

theorem exists_of_optionRel {α β : Type} {related : α → β → Prop} {first : Option α}
    {second : Option β} (alike : Option.Rel related first second) {value : α}
    (held : first = some value) : ∃ other, second = some other ∧ related value other := by
  cases alike with
  | none => exact nomatch held
  | some same =>
      cases held
      exact ⟨_, rfl, same⟩

/-- What a schema holds one step further is like what a schema with parts that are alike holds. -/
theorem exists_node?_of_alike {annotations : Annotations} {values : List Value}
    {composition other : Composition SchemaNode} {shape further : Shape SchemaNode}
    (branches : composition.Alike relation other) (parts : shape.Alike relation further)
    {step : SchemaStep} {node : SchemaNode}
    (held : step.node? (.schema annotations values composition shape) = some node) :
    ∃ inner, step.node? (.schema annotations values other further) = some inner ∧
      relation node inner := by
  have under : ∀ keyword : Keyword, Option.Rel (List.Forall₂ relation)
      (keyword.branches? composition) (keyword.branches? other) := by
    obtain ⟨underAll, underAny, underOne⟩ := branches
    rintro (_ | _ | _)
    · exact underAll
    · exact underAny
    · exact underOne
  obtain ⟨types, required, sameProperties, sameItems, sameRest⟩ := parts
  cases step with
  | property name =>
      obtain ⟨properties, listed, found⟩ := Option.bind_eq_some_iff.mp held
      obtain ⟨others, alsoListed, alike⟩ := exists_of_optionRel sameProperties listed
      obtain ⟨inner, also, related⟩ := exists_property_of_alike alike found
      exact ⟨inner, Option.bind_eq_some_iff.mpr ⟨others, alsoListed, also⟩, related⟩
  | items => exact exists_of_optionRel sameItems held
  | branch keyword index =>
      obtain ⟨nodes, listed, found⟩ := Option.bind_eq_some_iff.mp held
      obtain ⟨others, alsoListed, alike⟩ := exists_of_optionRel (under keyword) listed
      obtain ⟨inside, rfl⟩ := List.getElem?_eq_some_iff.mp found
      have alsoInside : index < others.length := alike.length_eq ▸ inside
      exact ⟨others[index], Option.bind_eq_some_iff.mpr
        ⟨others, alsoListed, List.getElem?_eq_getElem alsoInside⟩, alike.get inside alsoInside⟩
  | additional =>
      cases sameRest with
      | schema alike =>
          cases held
          exact ⟨_, rfl, alike⟩
      | absent => exact nomatch held
      | allowed flag => exact nomatch held

end SchemaNode

namespace Inlining

variable {document : Value} {base : Trail} {node other : SchemaNode}

/-- Where a way leads in a node, it leads to a filled node in the filled one. -/
theorem Filled.along? {way : List SchemaStep} (filled : Filled document base node other)
    {part : SchemaNode} (reached : node.along? way = some part) :
    ∃ place, other.along? way = some place ∧ Filled document base part place := by
  induction way generalizing node other with
  | nil =>
      cases reached
      exact ⟨other, rfl, filled⟩
  | cons step rest ih =>
      obtain ⟨next, held, later⟩ := Option.bind_eq_some_iff.mp reached
      cases filled with
      | expansion expands => exact nomatch held
      | reference pointer => exact nomatch held
      | schema annotations values branches parts =>
          obtain ⟨inner, also, alike⟩ := SchemaNode.exists_node?_of_alike branches parts held
          obtain ⟨place, found, filledPlace⟩ := ih alike later
          exact ⟨place, Option.bind_eq_some_iff.mpr ⟨inner, also, found⟩, filledPlace⟩

/-- Nothing can be filled in the empty node. -/
theorem Filled.eq_empty (filled : Filled document base .empty other) : other = .empty := by
  cases filled with
  | schema annotations values branches parts =>
      obtain ⟨-, -, sameProperties, sameItems, sameRest⟩ := parts
      obtain ⟨underAll, underAny, underOne⟩ := branches
      cases underAll
      cases underAny
      cases underOne
      cases sameProperties
      cases sameItems
      cases sameRest
      rfl

/-- The tree of a schema is the plain one with expansions in the place of some references. -/
theorem filled_convertFresh (document : Value) (base : Trail) (schema : Value) :
    Filled document base (plainAlong document maxTrail base schema)
      (convertFresh document base schema .null).value :=
  alike_convertAlong (Filled.congruent document base) fun _ _ _ _ _ => .expansion

end Inlining

/-! ## Self references -/

namespace SchemaNode

variable {σ : Type} (inline : String → StateM σ SchemaNode) {schema : Value} {pointer : String}

/-- Without a raw view, a reference is converted to what is inlined for its pointer. -/
theorem convert_of_reference? (refers : schema.reference? = some pointer) :
    convert inline schema .null = inline pointer := by
  cases schema with
  | map entries =>
      rw [convert]
      simp only [refers, show Value.null.reference? = none from rfl]
  | _ => exact nomatch refers

/-- A reference at the end of a way is converted to what is inlined for its pointer in some
state. -/
theorem exists_inlined_along {way : List SchemaStep}
    (json : schema.isJson = true) (descends : Descends way schema) (plain : PlainAlong way schema)
    (refers : (schema.along? way).bind Value.reference? = some pointer) (state : σ) :
    ∃ place before, ((convert inline schema .null).run state).1.along? way = some place ∧
      place = ((inline pointer).run before).1 := by
  obtain ⟨part, place, reached, found, before, converted⟩ :=
    converts_alongside json descends plain (plainAlong_null way) ⟨state, rfl⟩
  rw [reached] at refers
  rw [getD_along?_null, convert_of_reference? inline refers] at converted
  exact ⟨place, before, found, converted.symm⟩

end SchemaNode

namespace Inlining

variable {document definition : Value} {key pointer : String} {way : List SchemaStep}

section

variable (json : definition.isJson = true) (descends : Descends way definition)
  (plain : PlainAlong way definition)
  (refers : (definition.along? way).bind Value.reference? = some pointer)
include json descends plain refers

/-- A pointer of the trail where a conversion begins is cut, however deep it stands. -/
theorem along?_convertFresh_of_mem (document : Value) {base : Trail} (held : pointer ∈ base) :
    (convertFresh document base definition .null).value.along? way = some .empty := by
  obtain ⟨place, before, found, inlined⟩ := SchemaNode.exists_inlined_along
    (inline document maxTrail base) json descends plain refers fresh
  obtain ⟨log, cut⟩ := @inlineWithin_cut document (maxTrail - base.length) _ _ held before
  rw [inline, cut] at inlined
  exact found.trans (congrArg some inlined)

/-- Without anything remembered, a pointer to the definition itself that is not on the trail is
converted to a copy of the definition, in which the pointer is cut at the same place. -/
theorem along?_plainAlong_of_notMem {base : Trail} (apart : pointer ∉ base)
    (room : base.length < maxTrail) (leads : target? document pointer = some definition) :
    ∃ copy, (plainAlong document maxTrail base definition).along? way = some copy ∧
      copy.along? way = some .empty := by
  obtain ⟨copy, _, found, inlined⟩ := SchemaNode.exists_inlined_along
    (fun next => (return plainWithin document (maxTrail - base.length) base next :
      StateM Unit SchemaNode)) json descends plain refers ()
  obtain ⟨left, more⟩ := Nat.exists_eq_add_one.mpr (Nat.sub_pos_of_lt room)
  obtain ⟨place, _, foundInside, cut⟩ := SchemaNode.exists_inlined_along
    (fun next => (return plainWithin document left (base.insert pointer) next :
      StateM Unit SchemaNode)) json descends plain refers ()
  have same : copy = ((SchemaNode.convert (σ := Unit)
      (fun next => return plainWithin document left (base.insert pointer) next)
      definition .null).run ()).1 := by
    rw [SchemaNode.run_convert_pure, ← plainWithin_live apart leads, ← more]
    exact inlined
  have held : pointer ∈ base.insert pointer := Trail.mem_insert.mpr (Or.inl rfl)
  have empty : place = .empty := cut.trans (plainWithin_cut held)
  exact ⟨copy, found, by rw [same, foundInside, empty]⟩

/-- With nodes remembered, it is so, too. -/
theorem along?_convertFresh_of_notMem {base : Trail} (apart : pointer ∉ base)
    (room : base.length < maxTrail) (leads : target? document pointer = some definition) :
    ∃ copy, (convertFresh document base definition .null).value.along? way = some copy ∧
      copy.along? way = some .empty := by
  obtain ⟨plainCopy, found, inside⟩ :=
    along?_plainAlong_of_notMem json descends plain refers apart room leads
  obtain ⟨copy, place, filled⟩ := (filled_convertFresh document base definition).along? found
  obtain ⟨inner, reached, filledInner⟩ := filled.along? inside
  rw [filledInner.eq_empty] at reached
  exact ⟨copy, place, reached⟩

end

end Inlining

/-! ## Component schemas of a valid document -/

namespace Extraction

open Validation (schemaEntries Shaped validate)

variable {document definition : Value} {key : String}

/-- A valid document is read to a model that has the conversion of each component schema under
its key. -/
theorem exists_schema?_of_isValid (references : References) (json : document.isJson = true)
    (contained : (validate document).escape = none) (valid : (validate document).isValid = true)
    (held : ((document.field "components").field "schemas").get? key = some definition) :
    ∃ model, (extract document references).run.value = .ok model ∧
      model.schema? key =
        some (schemaAlong document references [Pointer.schemaRoot ++ key] definition).value := by
  have inComponents := (Pointer.get?_of_get?_field held).1
  have mapping : document.isMap = true := by
    obtain ⟨entries, rfl⟩ :=
      Pointer.exists_entries_of_get? (Pointer.get?_of_get?_field inComponents).1
    rfl
  have shaped := Validation.shaped_of_skeleton
    (Validation.skeleton_of_clean (Validation.Verdict.clean_of_isValid contained valid))
  have distinct := Value.nodup_names
    (Value.isJson_field (Value.isJson_field json "components") "schemas")
  have listed : (Scalar.string key, definition) ∈ schemaEntries document := by
    obtain ⟨entries, map⟩ := Pointer.exists_entries_of_get? held
    rw [schemaEntries]
    rw [map] at held ⊢
    exact Entries.mem_of_lookup held
  obtain ⟨identity, -, outcome⟩ := @extract_of_isValid document references mapping contained valid
  refine ⟨_, outcome, ?_⟩
  have schemas_eq : (read document references identity (validate document).warnings).value.schemas =
      (schemas document references).value := rfl
  rw [Document.schema?, schemas_eq]
  apply SchemaNode.find?_of_mem (names_schemas references json shaped ▸ distinct)
  rw [value_schemas references json shaped]
  exact List.mem_map.mpr ⟨_, listed, by rw [Scalar.shown_string]⟩

/-- Self references of a component schema when references are inlined: wherever the definition
under a key holds the pointer to itself, at any depth and not below another reference, the node
there is the empty one exactly when the key has no tilde and no slash, or when the definition is
nothing but this reference.  In every other case the node there is a copy of the definition, in
which the self reference at the same place is the empty node. -/
theorem self_reference_collapses_iff {way : List SchemaStep} (json : document.isJson = true)
    (contained : (validate document).escape = none) (valid : (validate document).isValid = true)
    (held : ((document.field "components").field "schemas").get? key = some definition)
    (descends : Descends way definition) (plain : PlainAlong way definition)
    (refers : (definition.along? way).bind Value.reference? = some (Pointer.toSchema key)) :
    ∃ model node place, (extract document .inlined).run.value = .ok model ∧
      model.schema? key = some node ∧ node.along? way = some place ∧
      (place = .empty ↔ Pointer.IsPlainKey key ∨ way = []) ∧
      (place ≠ .empty → place.along? way = some .empty) := by
  have jsonDefinition : definition.isJson = true := Value.isJson_of_partOf
    (Value.partOf_of_get? held) (Value.isJson_field (Value.isJson_field json _) _)
  obtain ⟨model, outcome, listed⟩ :=
    exists_schema?_of_isValid .inlined json contained valid held
  have isMap := isMap_of_along? refers
  have leads : Inlining.target? document (Pointer.toSchema key) = some definition := by
    rw [Inlining.target?, Pointer.walk?_toSchema held isMap,
      Option.filter_some, if_pos isMap]
  by_cases plainKey : Pointer.IsPlainKey key
  · have own : Pointer.toSchema key ∈ [Pointer.schemaRoot ++ key] :=
      List.mem_singleton.mpr (Pointer.toSchema_eq_iff.mpr plainKey)
    have cut := Inlining.along?_convertFresh_of_mem jsonDefinition descends plain refers document
      own
    exact ⟨model, _, .empty, outcome, listed, cut, iff_of_true rfl (.inl plainKey),
      fun other => absurd rfl other⟩
  · have apart : Pointer.toSchema key ∉ [Pointer.schemaRoot ++ key] := fun own =>
      plainKey (Pointer.toSchema_eq_iff.mp (List.mem_singleton.mp own))
    obtain ⟨copy, found, inside⟩ := Inlining.along?_convertFresh_of_notMem jsonDefinition descends
      plain refers apart (show 1 < Inlining.maxTrail by decide) leads
    have empty_iff : copy = .empty ↔ way = [] := by
      constructor
      · rintro rfl
        exact SchemaNode.eq_nil_of_along?_empty inside
      · rintro rfl
        exact Option.some.inj inside
    exact ⟨model, _, copy, outcome, listed, found, empty_iff.trans (by simp [plainKey]),
      fun _ => inside⟩

/-- A document with one component schema. -/
def withDefinition (key : String) (definition : Value) : Value :=
  .record [("asyncapi", .string "3.0.0"),
    ("info", .record [("title", .string "Trees"), ("version", .string "1")]),
    ("channels", .map []),
    ("components", .record [("schemas", .record [(key, definition)])])]

/-- A record with one property. -/
def parentOf (child : Value) : Value :=
  .record [("type", .string "object"), ("properties", .record [("child", child)])]

/-- A self reference in the items of a property. -/
theorem tree_self_reference_collapses :
    ∃ model node place,
      (extract (withDefinition "Tree" (parentOf (listOf "Tree"))) .inlined).run.value =
          .ok model ∧
        model.schema? "Tree" = some node ∧
        node.along? [.property "child", .items] = some place ∧ place = .empty := by
  have valid : validate (withDefinition "Tree" (parentOf (listOf "Tree"))) = ⟨[], [], none⟩ := by
    decide +kernel
  have descends : Descends [.property "child", .items] (parentOf (listOf "Tree")) :=
    ⟨listOf "Tree", rfl, rfl, refer "Tree", rfl, rfl, trivial⟩
  have plain : PlainAlong [.property "child", .items] (parentOf (listOf "Tree")) := by
    refine plainAlong_cons rfl fun part held => ?_
    cases held
    exact plainAlong_cons rfl fun part _ => plainAlong_nil part
  obtain ⟨model, node, place, outcome, listed, reached, empty_iff, -⟩ :=
    @self_reference_collapses_iff (withDefinition "Tree" (parentOf (listOf "Tree")))
      (parentOf (listOf "Tree")) "Tree" [.property "child", .items] (by decide +kernel)
      (by rw [valid]) (by rw [valid]; rfl) rfl descends plain (by decide +kernel)
  exact ⟨model, node, place, outcome, listed, reached, empty_iff.mpr (.inl (by decide))⟩

/-- Under a key with a slash the self reference is not cut. -/
theorem slashedKey_not_collapsed :
    ((parentOf (refer "a~1b")).along? [.property "child"]).bind Value.reference? =
        some (Pointer.toSchema "a/b") ∧
      ∃ model node place,
        (extract (withDefinition "a/b" (parentOf (refer "a~1b"))) .inlined).run.value =
            .ok model ∧
          model.schema? "a/b" = some node ∧
          node.along? [.property "child"] = some place ∧ place ≠ .empty := by
  have valid : validate (withDefinition "a/b" (parentOf (refer "a~1b"))) = ⟨[], [], none⟩ := by
    decide +kernel
  obtain ⟨model, outcome, listed⟩ := @exists_schema?_of_isValid
    (withDefinition "a/b" (parentOf (refer "a~1b"))) (parentOf (refer "a~1b")) "a/b" .inlined
    (by decide +kernel) (by rw [valid]) (by rw [valid]; rfl) rfl
  have inside : (((schemaAlong (withDefinition "a/b" (parentOf (refer "a~1b"))) .inlined
      [Pointer.schemaRoot ++ "a/b"] (parentOf (refer "a~1b"))).value.along?
        [.property "child", .property "child"]).isSome) = true := by decide +kernel
  obtain ⟨deeper, reached⟩ := Option.isSome_iff_exists.mp inside
  obtain ⟨place, found, further⟩ := Option.bind_eq_some_iff.mp reached
  refine ⟨by decide +kernel, model, _, place, outcome, listed, ?_, ?_⟩
  · exact Option.bind_eq_some_iff.mpr ⟨place, found, rfl⟩
  · rintro rfl
    exact nomatch SchemaNode.eq_nil_of_along?_empty further

end Extraction

end AsyncTypes
