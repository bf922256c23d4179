import AsyncTypes.Proofs.Validation.Redirection
import AsyncTypes.Proofs.Validation.Shape
import AsyncTypes.Proofs.Value.Removal

/-!
# Operations without their list of messages

An operation need not list its messages.  A valid document stays valid when the list of one
operation is taken away: the rules for an operation do not ask for it, no pointer that could be
walked is refused in what is left, and nothing refers that did not refer before.
-/

namespace AsyncTypes.Validation

/-! ## Rules -/

section

variable {isSchema : Value → List Finding} {value other : Value} {name : String}

theorem checkAll_eq_nil_iff {rules : List Rule} :
    checkAll isSchema rules value = [] ↔ ∀ rule ∈ rules, rule.check isSchema value = [] := by
  induction rules with
  | nil => simp [checkAll]
  | cons rule rest ih => rw [checkAll, List.append_eq_nil_iff, ih, List.forall_mem_cons]

theorem checkProperties_eq_nil_iff {parts : List (String × List Rule)} :
    checkProperties isSchema parts value = [] ↔
      ∀ described ∈ parts, ∀ part, value.get? described.1 = some part →
        checkAll isSchema described.2 part = [] := by
  induction parts with
  | nil => simp [checkProperties]
  | cons described rest ih =>
      rw [checkProperties, List.append_eq_nil_iff, ih, List.forall_mem_cons]
      apply and_congr_left'
      cases value.get? described.1 <;> simp

theorem holds_object_iff : Kind.object.holds value = true ↔ value.isMap = true := by
  cases value <;> simp [Kind.holds, Value.isMap]

theorem check_object_eq_nil_iff :
    (Rule.kinds [.object]).check isSchema value = [] ↔ value.isMap = true := by
  rw [Rule.check, ← holds_object_iff]
  split <;> simp_all [finding]

theorem check_required_eq_nil (names : List String)
    (given : ∀ name ∈ names, value.get? name ≠ none) :
    (Rule.required names).check isSchema value = [] := by
  rw [Rule.check]
  split
  · apply List.flatMap_eq_nil_iff.mpr
    intro name missing
    obtain ⟨listed, absent⟩ := List.mem_filter.mp missing
    exact absurd (Option.isNone_iff_eq_none.mp absent) (given name listed)
  · rfl

/-- The rules of a mapping find nothing in what has the required names and parts without
findings. -/
theorem checkAll_record_eq_nil {names : List String} {parts : List (String × List Rule)}
    (mapping : value.isMap = true) (given : ∀ name ∈ names, value.get? name ≠ none)
    (each : ∀ described ∈ parts, ∀ part, value.get? described.1 = some part →
      checkAll isSchema described.2 part = []) :
    checkAll isSchema [.kinds [.object], .required names, .properties parts] value = [] := by
  apply checkAll_eq_nil_iff.mpr
  intro rule listed
  simp only [List.mem_cons, List.not_mem_nil, or_false] at listed
  rcases listed with rfl | rfl | rfl
  · exact check_object_eq_nil_iff.mpr mapping
  · exact check_required_eq_nil names given
  · rw [Rule.check]
    exact checkProperties_eq_nil_iff.mpr each

/-- The rules of a mapping find nothing in what is left of a value without findings when they
do not ask for the name and find nothing in what is left below it. -/
theorem checkAll_without_eq_nil {names rest : List String} {parts : List (String × List Rule)}
    (nothing : checkAll isSchema [.kinds [.object], .required names, .properties parts] value = [])
    (free : name ∉ names)
    (below : ∀ partRules, (name, partRules) ∈ parts → ∀ part,
      checkAll isSchema partRules part = [] → checkAll isSchema partRules (part.without rest) = []) :
    checkAll isSchema [.kinds [.object], .required names, .properties parts]
      (value.without (name :: rest)) = [] := by
  have mapping := isMap_of_rules nothing
  have required := check_eq_nil_of_mem nothing (.tail _ (.head _))
  have properties := check_eq_nil_of_mem nothing (.tail _ (.tail _ (.head _)))
  rw [Rule.check, checkProperties_eq_nil_iff] at properties
  apply checkAll_record_eq_nil
  · rwa [Value.isMap_without]
  · intro other listed
    obtain ⟨part, found⟩ := exists_part_of_check mapping required listed
    have apart : name ≠ other := fun same => free (same ▸ listed)
    rw [Value.get?_without_of_ne apart, found]
    exact Option.some_ne_none part
  · rintro ⟨other, partRules⟩ described left held
    by_cases same : name = other
    · subst same
      obtain ⟨part, found, rfl⟩ := Value.get?_without_cases held
      exact below partRules described part (properties _ described part found)
    · rw [Value.get?_without_of_ne same] at held
      exact properties _ described left held

/-- The same for the rules of a mapping whose values all have the same rules. -/
theorem checkAll_values_without_eq_nil {rest : List String} {rules : List Rule}
    (nothing : checkAll isSchema [.kinds [.object], .values rules] value = [])
    (below : ∀ part, checkAll isSchema rules part = [] →
      checkAll isSchema rules (part.without rest) = []) :
    checkAll isSchema [.kinds [.object], .values rules] (value.without (name :: rest)) = [] := by
  have each : ∀ entry ∈ value.entries?.getD [], checkAll isSchema rules entry.2 = [] :=
    fun _ member => value_eq_nil_of_mem nothing (.tail _ (.head _)) member
  apply checkAll_eq_nil_iff.mpr
  intro rule listed
  simp only [List.mem_cons, List.not_mem_nil, or_false] at listed
  rcases listed with rfl | rfl
  · rw [check_object_eq_nil_iff, Value.isMap_without]
    exact isMap_of_mem nothing (.head _)
  · rw [Rule.check, List.flatMap_eq_nil_iff]
    intro entry member
    rw [List.map_eq_nil_iff]
    rcases Value.mem_entries_without_cases member with kept | ⟨part, held, -, left⟩
    · exact each entry kept
    · rw [left]
      exact below part (each _ held)

end

/-! ## The skeleton -/

variable {document other operation operationAlso : Value}

/-- The skeleton does not ask for the messages of an operation. -/
theorem skeleton_without_messages (nothing : Skeleton.findings document = []) (name : String) :
    Skeleton.findings (document.without ["operations", name, "messages"]) = [] := by
  apply checkAll_without_eq_nil nothing (by decide)
  intro partRules described operations nothingHere
  have rules : partRules = [.kinds [.object], .values Skeleton.operation] := by
    simpa using described
  subst rules
  apply checkAll_values_without_eq_nil nothingHere
  intro operation nothingInside
  apply checkAll_without_eq_nil nothingInside (by decide)
  intro messageRules _ messages nothingBelow
  rwa [Value.without_nil]

/-! ## The steps -/

namespace Check

theorem IsClean.andThen {first second : Check} (clean : first.IsClean) (also : second.IsClean) :
    (first.andThen second).IsClean := by
  rw [andThen_of_clear clean.2]
  exact ⟨List.append_eq_nil_iff.mpr ⟨clean.1, also.1⟩, also.2⟩

theorem isClean_all {checks : List Check} (clean : ∀ check ∈ checks, check.IsClean) :
    (all checks).IsClean :=
  ⟨errors_all_eq_nil fun check listed => (clean check listed).1,
    breakdown_all_eq_none_iff.mpr fun check listed => (clean check listed).2⟩

end Check

/-- A document is checked without error and without breakdown when it is a mapping with a version,
does not nest too deep, and every step is. -/
theorem isClean_checkDocument_iff : (checkDocument document).IsClean ↔
    Admitted document ∧ ∀ check ∈ steps document, check.IsClean := by
  constructor
  · intro clean
    rcases admitted_or_error document with admitted | ⟨error, -⟩
    · rw [checkDocument_eq_all admitted.mapping admitted.versioned admitted.shallow] at clean
      exact ⟨admitted, Check.isClean_of_mem_all clean⟩
    · exact absurd clean.1 error
  · rintro ⟨admitted, each⟩
    rw [checkDocument_eq_all admitted.mapping admitted.versioned admitted.shallow]
    exact Check.isClean_all each

/-- An operation with the same channel and the same messages or none is checked alike in a
document where no more is refused. -/
theorem isClean_checkOperation_of {name : Scalar}
    (clean : (checkOperation document name operation).IsClean)
    (fewer : ∀ value, RefusedReference other value → RefusedReference document value)
    (mapping : operationAlso.isMap = operation.isMap)
    (channel : operationAlso.field "channel" = operation.field "channel")
    (messages : operationAlso.field "messages" = operation.field "messages" ∨
      operationAlso.field "messages" = .null) :
    (checkOperation other name operationAlso).IsClean := by
  cases isNull : (operation.field "channel").isNull with
  | true =>
      rw [checkOperation_of_unnamed isNull] at clean
      rwa [checkOperation_of_unnamed (channel ▸ isNull), mapping]
  | false =>
      rw [checkOperation_of_named isNull] at clean
      obtain ⟨cleanChannel, cleanMessages⟩ := Check.isClean_andThen clean
      have free := (breakdown_reference_eq_none_iff _).mp cleanChannel.2
      have several := breakdown_checkMessages_eq_none_iff.mp cleanMessages.2
      rw [checkOperation_of_named (channel ▸ isNull), channel]
      apply Check.IsClean.andThen
      · exact ⟨errors_reference other _ _,
          (breakdown_reference_eq_none_iff _).mpr fun refused => free (fewer _ refused)⟩
      · refine ⟨errors_checkMessages _ _ _, breakdown_checkMessages_eq_none_iff.mpr ?_⟩
        rcases messages with same | absent
        · rw [same]
          exact ⟨several.1, fun entry listed refused => several.2 entry listed (fewer _ refused)⟩
        · rw [absent]
          exact ⟨(nomatch ·), fun _ listed => absurd listed List.not_mem_nil⟩

/-- What refers in a document that has lost a part is refused in the whole when it is in what is
left. -/
theorem refusedReference_of_without {path : List String} {value : Value}
    (refused : RefusedReference (document.without path) value) :
    RefusedReference document value := by
  obtain ⟨pointer, fault, refers, stuck⟩ := refused
  exact ⟨pointer, fault, refers, Pointer.lookup_of_without stuck⟩

theorem isClean_checkReferences_without (clean : (checkReferences document).IsClean)
    (path : List String) : (checkReferences (document.without path)).IsClean := by
  have none_ : ¬ RefusedAsReference document := by
    intro refused
    obtain ⟨message, broken⟩ := (follows_references document document).broken clean.2 refused
    exact nomatch clean.2.symm.trans broken
  have free : ¬ RefusedAsReference (document.without path) := by
    rintro ⟨pointer, listed, below, refused⟩
    obtain ⟨fault, stuck⟩ := refused_iff.mp refused
    have before := (Value.mem_references_iff.mp listed).of_without
    exact none_ ⟨pointer, Value.mem_references_iff.mpr before, below,
      refused_iff.mpr ⟨fault, Pointer.lookup_of_without stuck⟩⟩
  obtain ⟨clear, silent⟩ :=
    (follows_references document (document.without path)).clear clean.2 free
  exact ⟨silent.mpr clean.1, clear⟩

theorem isClean_checkOperation_without {name : String} {entry : Scalar × Value}
    (each : ∀ check ∈ steps document, check.IsClean)
    (member : entry ∈ operationEntries (document.without ["operations", name, "messages"])) :
    (checkOperation (document.without ["operations", name, "messages"]) entry.1
      entry.2).IsClean := by
  have cleanBefore : ∀ before ∈ operationEntries document,
      (checkOperation document before.1 before.2).IsClean := by
    intro before listed
    apply each
    simp only [steps, operationSteps, List.mem_append]
    exact Or.inl (Or.inl (Or.inr (List.mem_map_of_mem listed)))
  rw [operationEntries, Value.field_without_self] at member
  have fewer : ∀ value, RefusedReference (document.without ["operations", name, "messages"]) value →
      RefusedReference document value := fun _ => refusedReference_of_without
  rcases Value.mem_entries_without_cases member with kept | ⟨before, kept, -, left⟩
  · exact isClean_checkOperation_of (cleanBefore _ kept) fewer rfl rfl (Or.inl rfl)
  · rw [left]
    apply isClean_checkOperation_of (cleanBefore _ kept) fewer
    · exact Value.isMap_without _ _
    · exact Value.field_without_of_ne (by decide) _ _
    · right
      rw [Value.field, Value.get?_without_last]
      rfl

/-- A document that is checked without error and without breakdown still is when an operation has
lost its messages. -/
theorem isClean_without_messages (clean : (checkDocument document).IsClean) (name : String) :
    (checkDocument (document.without ["operations", name, "messages"])).IsClean := by
  obtain ⟨admitted, each⟩ := isClean_checkDocument_iff.mp clean
  have same : ∀ part, "operations" ≠ part →
      (document.without ["operations", name, "messages"]).field part = document.field part :=
    fun part apart => Value.field_without_of_ne apart _ document
  refine isClean_checkDocument_iff.mpr ⟨⟨?_, ?_, ?_⟩, ?_⟩
  · rw [Value.isMap_without]
    exact admitted.mapping
  · rw [same "asyncapi" (by decide)]
    exact admitted.versioned
  · have shallow := admitted.shallow
    rw [← Bool.not_eq_true, Value.exceedsDepth_iff] at shallow ⊢
    exact fun deep => shallow (Nat.lt_of_lt_of_le deep (Value.depth_without_le _ document))
  · have schemas : schemaEntries (document.without ["operations", name, "messages"]) =
        schemaEntries document := by
      rw [schemaEntries, same "components" (by decide), schemaEntries]
    intro check listed
    simp only [steps, firstSteps, operationSteps, schemas, List.mem_append, List.mem_cons,
      List.not_mem_nil, or_false, List.mem_map, or_assoc] at listed
    rcases listed with rfl | rfl | rfl | ⟨entry, member, rfl⟩ | known | rfl
    · rw [same "asyncapi" (by decide)]
      exact each _ (by simp [steps, firstSteps])
    · rw [checkSkeleton, skeleton_without_messages (skeleton_of_clean clean) name]
      exact ⟨rfl, rfl⟩
    · rw [checkChannels]
      split <;> exact ⟨rfl, rfl⟩
    · exact isClean_checkOperation_without each member
    · exact each _ (by simp [steps, known])
    · exact isClean_checkReferences_without (each _ (by simp [steps])) _

/-- A valid document stays valid when an operation loses its list of messages. -/
theorem isValid_without_messages (contained : (validate document).escape = none)
    (valid : (validate document).isValid = true) (name : String) :
    (validate (document.without ["operations", name, "messages"])).escape = none ∧
      (validate (document.without ["operations", name, "messages"])).isValid = true := by
  obtain ⟨noErrors, clear⟩ :=
    isClean_without_messages (Verdict.clean_of_isValid contained valid) name
  unfold validate Verdict.ofCheck
  rw [clear]
  exact ⟨rfl, List.isEmpty_iff.mpr noErrors⟩

end AsyncTypes.Validation
