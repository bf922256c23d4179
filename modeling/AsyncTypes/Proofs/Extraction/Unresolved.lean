import AsyncTypes.Proofs.Extraction.References
import AsyncTypes.Proofs.Pointer.Agreement

/-!
# References that a compilation misses

The validation follows a pointer step by step, while the compilation reads the whole way below
the component schemas as one key.  So of the references that a valid document resolves, the
compilation misses those that lead on below a component schema, unless the whole way happens to
be the key of one, and it misses no others.
-/

namespace AsyncTypes

/-! ## Warnings of the validation -/

namespace Validation

namespace Check

variable {checks : List Check} {check : Check} {warning : String}

/-- When no check breaks down, no warning is lost. -/
theorem mem_warnings_all (clear : ∀ check ∈ checks, check.breakdown = none)
    (listed : check ∈ checks) (found : warning ∈ check.warnings) :
    warning ∈ (all checks).warnings := by
  rw [warnings_all clear]
  exact List.mem_flatMap.mpr ⟨check, listed, found⟩

end Check

theorem Verdict.warnings_ofCheck (check : Check) :
    (Verdict.ofCheck check).warnings = check.warnings := by
  unfold Verdict.ofCheck
  split <;> rfl

variable {document : Value} {pointer : String}

/-- A document whose check is clean is checked in steps. -/
theorem checkDocument_of_clean (clean : (checkDocument document).IsClean) :
    checkDocument document = Check.all (steps document) := by
  by_cases mapping : document.isMap = true
  · by_cases versioned : (document.field "asyncapi").isNull = true
    · rw [checkDocument, if_neg (by simp [mapping])] at clean
      dsimp only at clean
      rw [if_pos versioned] at clean
      cases clean.1
    · by_cases deep : document.exceedsDepth maxDepth = true
      · rw [checkDocument, if_neg (by simp [mapping])] at clean
        dsimp only at clean
        rw [if_neg versioned, if_pos deep] at clean
        cases (Check.isClean_andThen clean).2.1
      · exact checkDocument_eq_all mapping (by simpa using versioned) (by simpa using deep)
  · rw [checkDocument, if_pos (by simpa using mapping)] at clean
    cases clean.1

/-- In a valid document without a warning about it, a reference that leads below the component
schemas leads to a value. -/
theorem exists_lookup_of_quiet (contained : (validate document).escape = none)
    (valid : (validate document).isValid = true)
    (quiet : s!"Unresolved schema reference: {pointer}" ∉ (validate document).warnings)
    (listed : pointer ∈ document.references)
    (below : Text.startsWith Pointer.schemaRoot pointer = true) :
    ∃ target, Pointer.lookup document pointer = .ok (some target) := by
  have clean := Verdict.clean_of_isValid contained valid
  have whole := checkDocument_of_clean clean
  have clear : ∀ step ∈ steps document, step.breakdown = none :=
    Check.breakdown_all_eq_none_iff.mp (whole ▸ clean.2)
  have last : checkReferences document ∈ steps document :=
    List.mem_append_right _ (List.mem_singleton_self _)
  have clearLast := Check.breakdown_all_eq_none_iff.mp (clear _ last)
  have check : checkPointer document pointer s!"Unresolved schema reference: {pointer}" ∈
      document.references.map fun pointer =>
        if Text.startsWith Pointer.schemaRoot pointer then
          checkPointer document pointer s!"Unresolved schema reference: {pointer}"
        else .clean :=
    List.mem_map.mpr ⟨pointer, listed, if_pos below⟩
  cases found : Pointer.lookup document pointer with
  | error fault =>
      exact absurd found (breakdown_checkPointer_eq_none_iff.mp (clearLast _ check) fault)
  | ok reached =>
      cases reached with
      | some target => exact ⟨target, rfl⟩
      | none =>
          have warned : s!"Unresolved schema reference: {pointer}" ∈
              (checkPointer document pointer
                s!"Unresolved schema reference: {pointer}").warnings := by
            rw [checkPointer, found]
            exact List.mem_singleton_self _
          have reported := Check.mem_warnings_all clear last
            (Check.mem_warnings_all clearLast check warned)
          rw [← whole, ← Verdict.warnings_ofCheck] at reported
          exact absurd reported quiet

end Validation

/-! ## One step below the component schemas -/

/-- The part before the first separator is the first part. -/
theorem Text.split_append_cons {separator : Char} {part : List Char} (whole : separator ∉ part)
    (rest : List Char) :
    Text.split separator (part ++ separator :: rest) = part :: Text.split separator rest := by
  induction part with
  | nil => simp [split]
  | cons c further ih =>
      rw [List.mem_cons, not_or] at whole
      have other : (c == separator) = false := beq_eq_false_iff_ne.mpr (Ne.symm whole.1)
      simp [split, other, ih whole.2, extendFirst]

namespace Pointer

/-- The keys of a pointer to a component schema. -/
theorem keys?_of_schemaRoot {pointer : String} {tail : List Char}
    (below : pointer.toList = schemaRoot.toList ++ tail) (whole : '/' ∉ tail) :
    keys? pointer = some ["components", "schemas", stepKey tail] := by
  have after : Text.after? "#/".toList pointer.toList =
      some ("components".toList ++ '/' :: ("schemas".toList ++ '/' :: tail)) :=
    Text.after?_eq_some_iff.mpr below
  rw [keys?, after, Option.map_some, Text.split_append_cons (by decide),
    Text.split_append_cons (by decide), Text.split_of_notMem whole]
  rfl

/-- A step from a mapping that the validation takes leads to what stands under the name. -/
theorem lookupKeys_of_nullOrMap {value target : Value} {key : String} {rest : List String}
    (shape : Validation.NullOrMap value)
    (found : lookupKeys value (key :: rest) = .ok (some target)) :
    ∃ next, value.get? key = some next ∧ lookupKeys next rest = .ok (some target) := by
  rcases shape with rfl | mapping
  · cases found
  · cases value with
    | map entries =>
        have stepped : lookupStep (.map entries) key = .ok ((Value.map entries).get? key) := rfl
        rw [lookupKeys_of_ok stepped] at found
        cases held : (Value.map entries).get? key with
        | none =>
            rw [held] at found
            cases found
        | some next =>
            rw [held, Option.bind_some, present?] at found
            split at found
            · cases found
            · exact ⟨next, rfl, found⟩
    | _ => cases mapping

end Pointer

/-! ## How a reference is written -/

namespace TypeScript

/-- Wherever the reference stands, the fallback is written for it, with a notice that it is not
resolved. -/
def LeftUnresolved (task : Task) (pointer : String) : Prop :=
  ∀ (ensure : String → Compile Unit) (inRecord : Bool) (state : Compilation),
    (resolveReference task ensure pointer inRecord).run state =
      (.fallback, { state with notices := state.notices ++ [.unresolvedReference pointer] })

/-- The reference leads to the component schema under the key: wherever it stands, it is written
by the name of the schema, unless it closes a circle of schemas outside interfaces, which is
noticed. -/
def LeadsToSchema (task : Task) (pointer key : String) : Prop :=
  ∃ name, task.schemaName? key = some name ∧
    ∀ (ensure : String → Compile Unit) (inRecord : Bool) (state : Compilation),
      ((resolveReference task ensure pointer inRecord).run state).1 = .named name ∨
      inRecord = false ∧ key ∈ state.active ∧
        (resolveReference task ensure pointer inRecord).run state =
          (.fallback, { state with
            notices := state.notices ++
              [.circularReference (state.active.headD "") key task.fallback] })

variable {task : Task} {pointer key name : String}

theorem leftUnresolved_of_unnamed (below : schemaKey? pointer = some key)
    (unnamed : task.schemaName? key = none) : LeftUnresolved task pointer := by
  intro ensure inRecord state
  rw [resolveReference, below]
  dsimp only
  rw [unnamed]
  rfl

theorem leadsToSchema_of_named (below : schemaKey? pointer = some key)
    (named : task.schemaName? key = some name) : LeadsToSchema task pointer key := by
  refine ⟨name, named, fun ensure inRecord state => ?_⟩
  simp only [resolveReference, below, named, StateT.run_bind, StateT.run_get, pure_bind]
  by_cases active : state.active.contains key = true
  · rw [if_pos active]
    cases inRecord with
    | true => exact Or.inl rfl
    | false => exact Or.inr ⟨rfl, List.contains_iff_mem.mp active, rfl⟩
  · rw [if_neg active]
    exact Or.inl rfl

end TypeScript

namespace Extraction

open TypeScript (LeadsToSchema LeftUnresolved Notice Task schemaKey?)
open Validation (schemaEntries Shaped validate)

variable {document : Value}

/-- The component schema that a pointer leads to in one step is listed under its key. -/
theorem exists_entry_of_lookup (mapping : document.isMap = true) (shaped : Shaped document)
    {pointer : String} {tail : List Char} {target : Value}
    (below : pointer.toList = Pointer.schemaRoot.toList ++ tail) (whole : '/' ∉ tail)
    (found : Pointer.lookup document pointer = .ok (some target)) :
    ∃ entry ∈ schemaEntries document, entry.1 = .string (Pointer.stepKey tail) := by
  rw [Pointer.lookup, Pointer.keys?_of_schemaRoot below whole] at found
  obtain ⟨components, held, found⟩ :=
    Pointer.lookupKeys_of_nullOrMap (Or.inr mapping) found
  have sameComponents : document.field "components" = components := by
    rw [Value.field, held]
    rfl
  obtain ⟨schemas, heldInside, found⟩ :=
    Pointer.lookupKeys_of_nullOrMap (sameComponents ▸ shaped.components) found
  have sameSchemas : components.field "schemas" = schemas := by
    rw [Value.field, heldInside]
    rfl
  have shape := shaped.schemas
  rw [sameComponents, sameSchemas] at shape
  obtain ⟨schema, listed, -⟩ := Pointer.lookupKeys_of_nullOrMap shape found
  rw [schemaEntries, sameComponents, sameSchemas]
  cases schemas with
  | map entries => exact ⟨_, Entries.mem_of_lookup listed, rfl⟩
  | _ => cases listed

/-- A component schema is named exactly when its key is one of the document. -/
theorem exists_schemaName?_iff (json : document.isJson = true) (shaped : Shaped document)
    (references : References) (identity : Identity) (warnings : List String) (options : Options)
    (key : String) :
    (∃ name, (Task.ofDocument (read document references identity warnings).value
        options).schemaName? key = some name) ↔
      ∃ entry ∈ schemaEntries document, entry.1 = .string key := by
  have coherent := Task.coherent_ofDocument
    (keysDistinct_read document references identity warnings) options
  have names : (read document references identity warnings).value.schemas.map (·.1) =
      (schemaEntries document).map fun entry => entry.1.shown :=
    names_schemas references json shaped
  have texts := (Value.keys_of_isJson
    (Value.isJson_field (Value.isJson_field json "components") "schemas")).2
  rw [← Option.isSome_iff_exists, coherent.schemaName?_isSome_iff]
  change key ∈ (read document references identity warnings).value.schemas.map (·.1) ↔ _
  rw [names, List.mem_map]
  constructor
  · rintro ⟨entry, listed, rfl⟩
    exact ⟨entry, listed, texts entry listed⟩
  · rintro ⟨entry, listed, same⟩
    exact ⟨entry, listed, by rw [same, Scalar.shown_string]⟩

/-- Only the notice of an unresolved reference gives a warning that starts like this. -/
theorem notice_of_warning {notice : Notice} {warning : String}
    (given : notice.warning? = some warning)
    (starts : Text.startsWith "Unresolved reference" warning = true) :
    ∃ pointer, notice = .unresolvedReference pointer ∧
      warning = s!"Unresolved reference: {pointer}" := by
  cases notice with
  | unresolvedReference pointer =>
      cases given
      exact ⟨pointer, rfl, rfl⟩
  | unsupportedReference pointer =>
      cases given
      simp [Text.startsWith, ToString.toString] at starts
  | circularReference place key fallback =>
      cases given
      simp [Text.startsWith, ToString.toString] at starts
  | repeatedMessage name => exact nomatch given

/-- For every valid JSON document that is validated without a warning about an unresolved
reference to a schema, and all options, the model that keeps its references is compiled with
warnings about unresolved references only for those that lead on below a component schema by a
way that is the key of none.  A reference that leads to a component schema in one step finds its
key.  Where the way is the key of a component schema, the reference is written by the name of
the schema or cut as a circular one; where it is not, the fallback is written with a warning. -/
theorem unresolved_below_components (json : document.isJson = true)
    (contained : (validate document).escape = none) (valid : (validate document).isValid = true)
    (quiet : ∀ warning ∈ (validate document).warnings,
      Text.startsWith "Unresolved schema reference" warning = false) (options : Options) :
    ∃ model, (extract document .kept).run.value = .ok model ∧
      (∀ warning ∈ (TypeScript.generate model options).warnings,
        Text.startsWith "Unresolved reference" warning = true →
          ∃ pointer ∈ document.references, warning = s!"Unresolved reference: {pointer}" ∧
            ∃ tail, pointer.toList = Pointer.schemaRoot.toList ++ tail ∧ '/' ∈ tail ∧
              ∀ entry ∈ schemaEntries document, entry.1 ≠ .string (Pointer.stepKey tail)) ∧
      ∀ pointer ∈ document.references, ∀ tail,
        pointer.toList = Pointer.schemaRoot.toList ++ tail →
          let task := Task.ofDocument model options
          let key := Pointer.stepKey tail
          ('/' ∉ tail → ∃ entry ∈ schemaEntries document, entry.1 = .string key) ∧
          ((∃ entry ∈ schemaEntries document, entry.1 = .string key) →
            LeadsToSchema task pointer key) ∧
          ((∀ entry ∈ schemaEntries document, entry.1 ≠ .string key) →
            LeftUnresolved task pointer) := by
  have nothing :=
    Validation.skeleton_of_clean (Validation.Verdict.clean_of_isValid contained valid)
  have mapping := Validation.isMap_of_rules nothing
  have shaped := Validation.shaped_of_skeleton nothing
  obtain ⟨identity, -, outcome⟩ := extract_of_isValid mapping contained valid
  have oneStep : ∀ pointer ∈ document.references, ∀ tail,
      pointer.toList = Pointer.schemaRoot.toList ++ tail → '/' ∉ tail →
        ∃ entry ∈ schemaEntries document, entry.1 = .string (Pointer.stepKey tail) := by
    intro pointer listed tail below whole
    have starts : Text.startsWith Pointer.schemaRoot pointer = true := by
      rw [Text.startsWith, List.isPrefixOf_iff_prefix, below]
      exact List.prefix_append _ _
    have silent : s!"Unresolved schema reference: {pointer}" ∉ (validate document).warnings := by
      intro warned
      have other := quiet _ warned
      simp [Text.startsWith, ToString.toString] at other
    obtain ⟨target, found⟩ :=
      Validation.exists_lookup_of_quiet contained valid silent listed starts
    exact exists_entry_of_lookup mapping shaped below whole found
  have named := exists_schemaName?_iff json shaped .kept identity (validate document).warnings
    options
  refine ⟨_, outcome, ?_, ?_⟩
  · intro warning given starts
    obtain ⟨notice, member, warned⟩ := List.mem_filterMap.mp given
    obtain ⟨pointer, rfl, same⟩ := notice_of_warning warned starts
    obtain ⟨listed, key, below, unnamed⟩ := mem_references_of_notice member
    obtain ⟨tail, after, rfl⟩ := Option.map_eq_some_iff.mp below
    have way := Text.after?_eq_some_iff.mp after
    have missing : ¬ ∃ entry ∈ schemaEntries document,
        entry.1 = .string (Pointer.stepKey tail) := by
      rw [← named, unnamed]
      simp
    refine ⟨pointer, listed, same, tail, way, ?_, fun entry ofDocument equal =>
      missing ⟨entry, ofDocument, equal⟩⟩
    by_contra whole
    exact missing (oneStep pointer listed tail way whole)
  · intro pointer listed tail way
    have below : schemaKey? pointer = some (Pointer.stepKey tail) :=
      Option.map_eq_some_iff.mpr ⟨tail, Text.after?_eq_some_iff.mpr way, rfl⟩
    refine ⟨oneStep pointer listed tail way, fun present => ?_, fun missing => ?_⟩
    · obtain ⟨name, found⟩ := (named _).mpr present
      exact TypeScript.leadsToSchema_of_named below found
    · apply TypeScript.leftUnresolved_of_unnamed below
      rw [Option.eq_none_iff_forall_ne_some]
      intro name found
      obtain ⟨entry, ofDocument, equal⟩ := (named _).mp ⟨name, found⟩
      exact missing entry ofDocument equal

/-! ## An example -/

/-- A document with a component schema that has a property, and another one that refers to
somewhere. -/
def referringTo (pointer : String) : Value :=
  .record [("asyncapi", .string "3.0.0"),
    ("info", .record [("title", .string "Prices"), ("version", .string "1")]),
    ("channels", .map []),
    ("components", .record [("schemas", .record [
      ("Item", .record [("type", .string "object"),
        ("properties", .record [("price", .record [("type", .string "number")])])]),
      ("Price", .record [("$ref", .string pointer)])])])]

/-- The validation of a reference to a component schema is quiet, and in the compilation the
reference leads to the schema. -/
theorem referringTo_resolved :
    (referringTo "#/components/schemas/Item").isJson = true ∧
      (validate (referringTo "#/components/schemas/Item")).escape = none ∧
      (validate (referringTo "#/components/schemas/Item")).isValid = true ∧
      (∀ warning ∈ (validate (referringTo "#/components/schemas/Item")).warnings,
        Text.startsWith "Unresolved schema reference" warning = false) ∧
      ∃ model, (extract (referringTo "#/components/schemas/Item") .kept).run.value = .ok model ∧
        (∀ warning ∈ (TypeScript.generate model .default).warnings,
          Text.startsWith "Unresolved reference" warning = false) ∧
        LeadsToSchema (Task.ofDocument model .default) "#/components/schemas/Item" "Item" := by
  have json : (referringTo "#/components/schemas/Item").isJson = true := by rfl
  have contained : (validate (referringTo "#/components/schemas/Item")).escape = none := by
    decide +kernel
  have valid : (validate (referringTo "#/components/schemas/Item")).isValid = true := by
    decide +kernel
  have quiet : ∀ warning ∈ (validate (referringTo "#/components/schemas/Item")).warnings,
      Text.startsWith "Unresolved schema reference" warning = false := by decide +kernel
  have listed : (referringTo "#/components/schemas/Item").references =
      ["#/components/schemas/Item"] := by decide +kernel
  have way : "#/components/schemas/Item".toList =
      Pointer.schemaRoot.toList ++ "Item".toList := by decide
  refine ⟨json, contained, valid, quiet, ?_⟩
  obtain ⟨model, outcome, missed, resolved⟩ :=
    unresolved_below_components json contained valid quiet .default
  rw [listed] at missed resolved
  refine ⟨model, outcome, ?_, ?_⟩
  · intro warning given
    rw [Bool.eq_false_iff]
    intro starts
    obtain ⟨pointer, member, -, tail, below, leadsOn, -⟩ := missed warning given starts
    rw [List.mem_singleton.mp member, way, List.append_cancel_left_eq] at below
    rw [← below] at leadsOn
    exact absurd leadsOn (by decide)
  · obtain ⟨oneStep, named, -⟩ := resolved _ List.mem_cons_self "Item".toList way
    exact named (oneStep (by decide))

/-- The validation of a reference to a property of a component schema is as quiet, since it takes
one step after another, and yet the compilation does not resolve it. -/
theorem referringTo_missed :
    (referringTo "#/components/schemas/Item/properties/price").isJson = true ∧
      validate (referringTo "#/components/schemas/Item/properties/price") = ⟨[], [], none⟩ ∧
      ∃ model, (extract (referringTo "#/components/schemas/Item/properties/price")
          .kept).run.value = .ok model ∧
        (TypeScript.generate model .default).warnings =
          ["Unresolved reference: #/components/schemas/Item/properties/price"] := by
  have verdict : validate (referringTo "#/components/schemas/Item/properties/price") =
      ⟨[], [], none⟩ := by decide +kernel
  refine ⟨by rfl, verdict, ?_⟩
  obtain ⟨identity, called, outcome⟩ :=
    @extract_of_isValid (referringTo "#/components/schemas/Item/properties/price") .kept rfl
      (by rw [verdict]) (by rw [verdict]; rfl)
  cases called
  refine ⟨_, outcome, ?_⟩
  rw [verdict]
  decide +kernel

end Extraction

end AsyncTypes
