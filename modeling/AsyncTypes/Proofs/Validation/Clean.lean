import AsyncTypes.Extraction.Document
import AsyncTypes.Proofs.Validation.Sorting

/-!
# What a valid document is like

A check is *clean* when it finds no error and does not break down.  The parts of a clean
check are clean, so a valid document has the skeleton of an AsyncAPI document; in
particular it says what it is called.
-/

namespace AsyncTypes.Validation

/-! ## Clean checks -/

/-- The check finds no error and does not break down. -/
def Check.IsClean (check : Check) : Prop :=
  check.errors = [] ∧ check.breakdown = none

namespace Check

theorem isClean_andThen {first second : Check} (clean : (first.andThen second).IsClean) :
    first.IsClean ∧ second.IsClean := by
  obtain ⟨noErrors, noBreakdown⟩ := clean
  unfold andThen at noErrors noBreakdown
  cases broken : first.breakdown with
  | some breakdown =>
      rw [broken] at noBreakdown
      exact absurd (broken.symm.trans noBreakdown) (Option.some_ne_none _)
  | none =>
      rw [broken] at noErrors noBreakdown
      obtain ⟨firstErrors, secondErrors⟩ := List.append_eq_nil_iff.mp noErrors
      exact ⟨⟨firstErrors, broken⟩, ⟨secondErrors, noBreakdown⟩⟩

theorem isClean_of_mem_all {checks : List Check} (clean : (all checks).IsClean) :
    ∀ check ∈ checks, check.IsClean := by
  induction checks with
  | nil => exact fun _ listed => absurd listed List.not_mem_nil
  | cons first rest ih =>
      obtain ⟨cleanFirst, cleanRest⟩ := isClean_andThen clean
      intro check listed
      rcases List.mem_cons.mp listed with rfl | later
      · exact cleanFirst
      · exact ih cleanRest check later

/-- What breaks a sequence of checks down breaks one of them down. -/
theorem breakdown_andThen {first second : Check} {breakdown : Breakdown}
    (broken : (first.andThen second).breakdown = some breakdown) :
    first.breakdown = some breakdown ∨ second.breakdown = some breakdown := by
  unfold andThen at broken
  cases already : first.breakdown with
  | some earlier =>
      rw [already] at broken
      exact Or.inl (already.symm.trans broken)
  | none =>
      rw [already] at broken
      exact Or.inr broken

theorem exists_breakdown_of_all {checks : List Check} {breakdown : Breakdown}
    (broken : (all checks).breakdown = some breakdown) :
    ∃ check ∈ checks, check.breakdown = some breakdown := by
  induction checks with
  | nil => exact nomatch broken
  | cons first rest ih =>
      rcases breakdown_andThen broken with here | later
      · exact ⟨first, List.mem_cons_self, here⟩
      · obtain ⟨check, listed, found⟩ := ih later
        exact ⟨check, List.mem_cons_of_mem first listed, found⟩

end Check

/-! ## Rules without findings -/

section

variable {isSchema : Value → List Finding} {value : Value}

theorem check_eq_nil_of_mem {rules : List Rule} (nothing : checkAll isSchema rules value = [])
    {rule : Rule} (listed : rule ∈ rules) : rule.check isSchema value = [] := by
  induction rules with
  | nil => exact absurd listed List.not_mem_nil
  | cons first rest ih =>
      rw [checkAll] at nothing
      obtain ⟨nothingHere, nothingLater⟩ := List.append_eq_nil_iff.mp nothing
      rcases List.mem_cons.mp listed with rfl | later
      · exact nothingHere
      · exact ih nothingLater later

/-- A part of a value without findings has none for the rules under its name. -/
theorem checkAll_part_eq_nil {rules : List (String × List Rule)} {name : String}
    {partRules : List Rule} {part : Value} (nothing : checkProperties isSchema rules value = [])
    (listed : (name, partRules) ∈ rules) (found : value.get? name = some part) :
    checkAll isSchema partRules part = [] := by
  induction rules with
  | nil => exact absurd listed List.not_mem_nil
  | cons first rest ih =>
      obtain ⟨firstName, firstRules⟩ := first
      rw [checkProperties] at nothing
      obtain ⟨nothingHere, nothingLater⟩ := List.append_eq_nil_iff.mp nothing
      rcases List.mem_cons.mp listed with same | later
      · cases same
        rw [found] at nothingHere
        exact List.map_eq_nil_iff.mp nothingHere
      · exact ih nothingLater later

/-- A value without findings is of one of the kinds that are allowed. -/
theorem exists_kind_of_check {allowed : List Kind}
    (nothing : (Rule.kinds allowed).check isSchema value = []) :
    ∃ kind ∈ allowed, kind.holds value = true := by
  rw [Rule.check] at nothing
  split at nothing
  · next some => exact List.any_eq_true.mp some
  · exact nomatch nothing

/-- A mapping without findings has the names that are required. -/
theorem exists_part_of_check {names : List String} {name : String} (mapping : value.isMap = true)
    (nothing : (Rule.required names).check isSchema value = []) (listed : name ∈ names) :
    ∃ part, value.get? name = some part := by
  rw [Rule.check, if_pos mapping] at nothing
  cases found : value.get? name with
  | some part => exact ⟨part, rfl⟩
  | none =>
      have missing : name ∈ names.filter fun name => (value.get? name).isNone :=
        List.mem_filter.mpr ⟨listed, by rw [found]; rfl⟩
      have reported := List.flatMap_eq_nil_iff.mp nothing name missing
      exact nomatch reported

theorem isMap_of_holds (holds : Kind.object.holds value = true) : value.isMap = true := by
  cases value <;> simp_all [Kind.holds, Value.isMap]

end

/-! ## The skeleton of a valid document -/

/-- A text without findings is not empty. -/
theorem isGiven_of_nonEmptyText {isSchema : Value → List Finding} {value : Value}
    (nothing : checkAll isSchema Skeleton.nonEmptyText value = []) : value.isGiven = true := by
  obtain ⟨kind, listed, holds⟩ :=
    exists_kind_of_check (check_eq_nil_of_mem nothing List.mem_cons_self)
  have filled := check_eq_nil_of_mem nothing (List.mem_cons_of_mem _ List.mem_cons_self)
  rw [List.mem_singleton.mp listed] at holds
  match value with
  | .string text =>
      by_cases empty : text = ""
      · subst empty
        simp [Rule.check, finding] at filled
      · simp [Value.isGiven, empty]

section

variable {isSchema : Value → List Finding} {value : Value} {names : List String}
  {parts : List (String × List Rule)}

/-- A value without findings for the rules of a mapping is a mapping. -/
theorem isMap_of_rules
    (nothing : checkAll isSchema [.kinds [.object], .required names, .properties parts] value =
      []) : value.isMap = true := by
  obtain ⟨kind, listed, holds⟩ :=
    exists_kind_of_check (check_eq_nil_of_mem nothing List.mem_cons_self)
  rw [List.mem_singleton.mp listed] at holds
  exact isMap_of_holds holds

/-- In a mapping without findings, the required parts are without findings. -/
theorem required_part_eq_nil
    (nothing : checkAll isSchema [.kinds [.object], .required names, .properties parts] value = [])
    {name : String} {partRules : List Rule} (required : name ∈ names)
    (described : (name, partRules) ∈ parts) :
    checkAll isSchema partRules (value.field name) = [] := by
  have properties := check_eq_nil_of_mem nothing (.tail _ (.tail _ (.head _)))
  rw [Rule.check] at properties
  obtain ⟨part, found⟩ := exists_part_of_check (isMap_of_rules nothing)
    (check_eq_nil_of_mem nothing (.tail _ (.head _))) required
  rw [Value.field, found]
  exact checkAll_part_eq_nil properties described found

end

/-- A document with the skeleton says what it is called. -/
theorem identity_of_skeleton {document : Value} (nothing : Skeleton.findings document = []) :
    ∃ identity, Extraction.identity document = .ok identity := by
  have info : checkAll (fun _ => []) Skeleton.info (document.field "info") = [] :=
    required_part_eq_nil nothing (.tail _ (.head _)) (.tail _ (.head _))
  have title := isGiven_of_nonEmptyText (required_part_eq_nil info (.head _) (.head _))
  have version := isGiven_of_nonEmptyText
    (required_part_eq_nil info (.tail _ (.head _)) (.tail _ (.head _)))
  simp only [Extraction.identity, isMap_of_rules info, title, version, Bool.not_true,
    Bool.and_self]
  exact ⟨_, rfl⟩

/-- When the skeleton is checked without a finding, there is none. -/
theorem findings_eq_nil_of_clean {document : Value} (clean : (checkSkeleton document).IsClean) :
    Skeleton.findings document = [] := by
  unfold checkSkeleton at clean
  split at clean
  · next findings sorted =>
      have empty : findings = [] := List.map_eq_nil_iff.mp clean.1
      subst empty
      exact (perm_sortBy sorted).nil_eq.symm
  · next message _ => exact nomatch clean.2

/-- The skeleton of a valid document is without findings. -/
theorem skeleton_of_clean {document : Value} (clean : (checkDocument document).IsClean) :
    Skeleton.findings document = [] := by
  unfold checkDocument at clean
  split at clean
  · exact nomatch clean.1
  · dsimp only at clean
    split at clean
    · exact nomatch clean.1
    · have deep := (Check.isClean_andThen clean).2
      split at deep
      · exact nomatch deep.1
      · exact findings_eq_nil_of_clean (Check.isClean_of_mem_all deep _ List.mem_cons_self)

/-! ## Verdicts -/

namespace Verdict

/-- The check of a valid document is clean, when nothing escapes it. -/
theorem clean_of_isValid {check : Check} (contained : (ofCheck check).escape = none)
    (valid : (ofCheck check).isValid = true) : check.IsClean := by
  obtain ⟨errors, warnings, breakdown⟩ := check
  match breakdown with
  | none => exact ⟨List.isEmpty_iff.mp valid, rfl⟩
  | some (.refused message) => simp [ofCheck, isValid] at valid
  | some (.overflow message) => exact nomatch contained

/-- What escapes a validation is the overflow that breaks its check down. -/
theorem breakdown_of_escape {check : Check} {message : String}
    (escapes : (ofCheck check).escape = some message) :
    check.breakdown = some (.overflow message) := by
  obtain ⟨errors, warnings, breakdown⟩ := check
  match breakdown with
  | none => exact nomatch escapes
  | some (.refused other) => exact nomatch escapes
  | some (.overflow other) =>
      cases escapes
      rfl

end Verdict

/-! ## Overflows -/

/-- The check does not break down at a number beyond its range. -/
def Check.Contained (check : Check) : Prop :=
  ∀ message, check.breakdown ≠ some (.overflow message)

namespace Check.Contained

theorem of_clear {check : Check} (clear : check.breakdown = none) : check.Contained := by
  intro message broken
  rw [clear] at broken
  exact nomatch broken

theorem of_refused {check : Check} {message : String}
    (refused : check.breakdown = some (.refused message)) : check.Contained := by
  intro other broken
  rw [refused] at broken
  exact nomatch broken

theorem andThen {first second : Check} (contained : first.Contained) (also : second.Contained) :
    (first.andThen second).Contained := by
  intro message broken
  rcases breakdown_andThen broken with here | there
  · exact contained message here
  · exact also message there

theorem all {checks : List Check} (contained : ∀ check ∈ checks, check.Contained) :
    (Check.all checks).Contained := by
  intro message broken
  obtain ⟨check, listed, found⟩ := exists_breakdown_of_all broken
  exact contained check listed message found

end Check.Contained

theorem contained_checkVersion (version : Value) : (checkVersion version).Contained := by
  unfold checkVersion
  split
  · exact .of_clear rfl
  · exact .of_clear rfl

theorem contained_checkSkeleton (document : Value) : (checkSkeleton document).Contained := by
  unfold checkSkeleton
  split
  · exact .of_clear rfl
  · exact .of_refused rfl

theorem contained_checkChannels (document : Value) : (checkChannels document).Contained := by
  unfold checkChannels
  split
  · exact .of_clear rfl
  · exact .of_clear rfl

theorem contained_checkPointer (document : Value) (pointer message : String) :
    (checkPointer document pointer message).Contained := by
  unfold checkPointer
  split
  · exact .of_clear rfl
  · exact .of_clear rfl
  · exact .of_refused rfl

theorem contained_checkMessages (document : Value) (operation : String) (messages : Value) :
    (checkMessages document operation messages).Contained := by
  unfold checkMessages
  split
  · exact .of_clear rfl
  · split
    · exact .of_refused rfl
    · apply Check.Contained.all
      intro check listed
      obtain ⟨entry, -, rfl⟩ := List.mem_map.mp listed
      split
      · exact contained_checkPointer _ _ _
      · exact .of_clear rfl

theorem contained_checkOperation (document : Value) (name : Scalar) (operation : Value) :
    (checkOperation document name operation).Contained := by
  unfold checkOperation
  split
  · exact .of_clear rfl
  · dsimp only
    split
    · exact .of_clear rfl
    · apply Check.Contained.andThen
      · split
        · exact contained_checkPointer _ _ _
        · exact .of_clear rfl
      · exact contained_checkMessages _ _ _

theorem contained_checkOperations (document : Value) : (checkOperations document).Contained := by
  apply Check.Contained.all
  intro check listed
  obtain ⟨entry, -, rfl⟩ := List.mem_map.mp listed
  exact contained_checkOperation document entry.1 entry.2

theorem contained_checkReferences (document : Value) : (checkReferences document).Contained := by
  apply Check.Contained.all
  intro check listed
  obtain ⟨pointer, -, rfl⟩ := List.mem_map.mp listed
  split
  · exact contained_checkPointer _ _ _
  · exact .of_clear rfl

/-- A component schema in which a number is beyond its range has it at its first finding. -/
theorem finding_of_checkSchema {name : Scalar} {schema : Value} {message : String}
    (broken : (checkSchema name schema).breakdown = some (.overflow message)) :
    ∃ finding, SchemaRules.firstFinding? schema = some finding ∧
      finding.breakdown = some (.overflow message) := by
  unfold checkSchema at broken
  split at broken
  · exact nomatch broken
  · cases found : SchemaRules.firstFinding? schema with
    | none =>
        rw [found] at broken
        exact nomatch broken
    | some finding =>
        rw [found] at broken
        dsimp only at broken
        cases already : finding.breakdown with
        | none =>
            rw [already] at broken
            exact nomatch broken
        | some breakdown =>
            rw [already] at broken
            exact ⟨finding, rfl, already.trans broken⟩

theorem schema_of_checkContent {document : Value} {message : String}
    (broken : (checkContent document).breakdown = some (.overflow message)) :
    ∃ entries, ((document.field "components").field "schemas").entries? = some entries ∧
      ∃ entry ∈ entries, ∃ finding, SchemaRules.firstFinding? entry.2 = some finding ∧
        finding.breakdown = some (.overflow message) := by
  obtain ⟨check, listed, found⟩ := Check.exists_breakdown_of_all broken
  simp only [List.mem_cons, List.not_mem_nil, or_false] at listed
  rcases listed with rfl | rfl | rfl | rfl | rfl
  · exact absurd found (contained_checkSkeleton document message)
  · exact absurd found (contained_checkChannels document message)
  · exact absurd found (contained_checkOperations document message)
  · obtain ⟨check, listed, found⟩ := Check.exists_breakdown_of_all found
    obtain ⟨entry, member, rfl⟩ := List.mem_map.mp listed
    cases entries : ((document.field "components").field "schemas").entries? with
    | none =>
        rw [entries] at member
        exact absurd member List.not_mem_nil
    | some all =>
        rw [entries] at member
        exact ⟨all, rfl, entry, member, finding_of_checkSchema found⟩
  · exact absurd found (contained_checkReferences document message)

/-- Only a component schema breaks the validation down at a number beyond its range. -/
theorem schema_of_checkDocument {document : Value} {message : String}
    (broken : (checkDocument document).breakdown = some (.overflow message)) :
    ∃ entries, ((document.field "components").field "schemas").entries? = some entries ∧
      ∃ entry ∈ entries, ∃ finding, SchemaRules.firstFinding? entry.2 = some finding ∧
        finding.breakdown = some (.overflow message) := by
  unfold checkDocument at broken
  split at broken
  · exact nomatch broken
  · dsimp only at broken
    split at broken
    · exact nomatch broken
    · rcases Check.breakdown_andThen broken with version | content
      · exact absurd version (contained_checkVersion _ message)
      · split at content
        · exact nomatch content
        · exact schema_of_checkContent content

end AsyncTypes.Validation
