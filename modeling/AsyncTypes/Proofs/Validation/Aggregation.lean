import AsyncTypes.Proofs.Validation.Places
import AsyncTypes.Validation.Check

/-!
# Which entries are reported together

The content of a document is checked step by step: the skeleton, the channels, one operation
after another, one component schema after another and at last the references.  What a step
finds is reported unless an earlier step broke down, and a step that breaks down hides all
later ones behind one entry.  So an operation without a channel is reported unless the skeleton
cannot be sorted or an earlier operation stands in the way, and a defective component schema
unless any operation or an earlier schema does.
-/

namespace AsyncTypes.Validation

/-! ## One check after another -/

namespace Check

variable {first second check : Check} {checks before after : List Check} {error : String}

theorem andThen_of_clear (clear : first.breakdown = none) : first.andThen second =
    ⟨first.errors ++ second.errors, first.warnings ++ second.warnings, second.breakdown⟩ := by
  rw [andThen, clear]

theorem andThen_of_broken (broken : first.breakdown ≠ none) : first.andThen second = first := by
  rw [andThen]
  split
  · rfl
  · next clear => exact absurd clear broken

theorem andThen_assoc (first second third : Check) :
    (first.andThen second).andThen third = first.andThen (second.andThen third) := by
  by_cases clear : first.breakdown = none
  · by_cases clearAlso : second.breakdown = none
    · simp [andThen, clear, clearAlso]
    · rw [andThen_of_broken clearAlso, andThen_of_clear clear]
      exact andThen_of_broken clearAlso
  · rw [andThen_of_broken clear, andThen_of_broken clear, andThen_of_broken clear]

theorem breakdown_andThen_eq_none_iff : (first.andThen second).breakdown = none ↔
    first.breakdown = none ∧ second.breakdown = none := by
  by_cases clear : first.breakdown = none
  · simp [andThen_of_clear clear, clear]
  · simp [andThen_of_broken clear, clear]

theorem breakdown_all_eq_none_iff :
    (all checks).breakdown = none ↔ ∀ check ∈ checks, check.breakdown = none := by
  induction checks with
  | nil => simp [all, clean]
  | cons first rest ih =>
      change (first.andThen (all rest)).breakdown = none ↔ _
      rw [breakdown_andThen_eq_none_iff, ih, List.forall_mem_cons]

theorem all_append (first second : List Check) :
    all (first ++ second) = (all first).andThen (all second) := by
  induction first with
  | nil =>
      change all second = clean.andThen (all second)
      rw [andThen_of_clear rfl]
      simp [clean]
  | cons check rest ih =>
      change check.andThen (all (rest ++ second)) = (check.andThen (all rest)).andThen (all second)
      rw [ih, andThen_assoc]

/-- Nothing is lost of the checks before the first one that breaks down, and of this one. -/
theorem mem_errors_all (clear : ∀ earlier ∈ before, earlier.breakdown = none)
    (found : error ∈ check.errors) : error ∈ (all (before ++ check :: after)).errors := by
  have clearBefore := breakdown_all_eq_none_iff.mpr clear
  rw [all_append, andThen_of_clear clearBefore]
  apply List.mem_append_right
  change error ∈ (check.andThen (all after)).errors
  by_cases clearHere : check.breakdown = none
  · rw [andThen_of_clear clearHere]
    exact List.mem_append_left _ found
  · rwa [andThen_of_broken clearHere]

/-- A check that breaks down hides the ones after it. -/
theorem all_of_broken (broken : check.breakdown ≠ none) :
    all (before ++ check :: after) = all (before ++ [check]) := by
  rw [all_append, all_append]
  change (all before).andThen (check.andThen _) = (all before).andThen (check.andThen _)
  rw [andThen_of_broken broken, andThen_of_broken broken]

/-- What checks report one after another is what those report that are run, which are all of them
when none breaks down. -/
theorem exists_run_all (checks : List Check) : ∃ run, run <+: checks ∧
    (all checks).errors = run.flatMap (·.errors) ∧
    (all checks).warnings = run.flatMap (·.warnings) ∧
    ((∀ check ∈ checks, check.breakdown = none) → run = checks) := by
  induction checks with
  | nil => exact ⟨[], List.prefix_refl _, rfl, rfl, fun _ => rfl⟩
  | cons first rest ih =>
      change ∃ run, run <+: first :: rest ∧
        (first.andThen (all rest)).errors = run.flatMap (·.errors) ∧
        (first.andThen (all rest)).warnings = run.flatMap (·.warnings) ∧ _
      by_cases clear : first.breakdown = none
      · obtain ⟨run, part, errors, warnings, whole⟩ := ih
        rw [andThen_of_clear clear]
        refine ⟨first :: run, List.cons_prefix_cons.mpr ⟨rfl, part⟩, ?_, ?_, fun each => ?_⟩
        · rw [List.flatMap_cons, ← errors]
        · rw [List.flatMap_cons, ← warnings]
        · rw [whole (List.forall_mem_cons.mp each).2]
      · rw [andThen_of_broken clear]
        refine ⟨[first], ⟨rest, rfl⟩, ?_, ?_, fun each => ?_⟩
        · rw [List.flatMap_singleton]
        · rw [List.flatMap_singleton]
        · exact absurd (each first List.mem_cons_self) clear

theorem exists_of_mem_errors_all (found : error ∈ (all checks).errors) :
    ∃ check ∈ checks, error ∈ check.errors := by
  obtain ⟨run, part, errors, -, -⟩ := exists_run_all checks
  rw [errors] at found
  obtain ⟨check, listed, reported⟩ := List.mem_flatMap.mp found
  exact ⟨check, part.subset listed, reported⟩

theorem exists_of_mem_warnings_all {warning : String} (found : warning ∈ (all checks).warnings) :
    ∃ check ∈ checks, warning ∈ check.warnings := by
  obtain ⟨run, part, -, warnings, -⟩ := exists_run_all checks
  rw [warnings] at found
  obtain ⟨check, listed, reported⟩ := List.mem_flatMap.mp found
  exact ⟨check, part.subset listed, reported⟩

/-- When no check breaks down, the warnings are those of the checks in order. -/
theorem warnings_all (clear : ∀ check ∈ checks, check.breakdown = none) :
    (all checks).warnings = checks.flatMap (·.warnings) := by
  obtain ⟨run, -, -, warnings, whole⟩ := exists_run_all checks
  rw [warnings, whole clear]

end Check

/-- The errors of a check are reported. -/
theorem Verdict.mem_errors_ofCheck {check : Check} {error : String} (found : error ∈ check.errors) :
    error ∈ (Verdict.ofCheck check).errors := by
  unfold Verdict.ofCheck
  split
  · exact found
  · exact List.mem_append_left _ found
  · exact found

/-- What is reported is an error of the check, or says that it broke down. -/
theorem Verdict.cases_of_mem_errors {check : Check} {error : String}
    (reported : error ∈ (Verdict.ofCheck check).errors) : error ∈ check.errors ∨
      ∃ message, check.breakdown = some (.refused message) ∧
        error = s!"Unexpected validation error: {message}" := by
  unfold Verdict.ofCheck at reported
  split at reported
  · exact Or.inl reported
  · next message broken =>
      rcases List.mem_append.mp reported with found | last
      · exact Or.inl found
      · exact Or.inr ⟨message, broken, List.mem_singleton.mp last⟩
  · exact Or.inl reported

/-! ## The steps in one list -/

/-- The operations of a document under their names. -/
def operationEntries (document : Value) : Entries :=
  (document.field "operations").entries?.getD []

/-- The component schemas of a document under their names. -/
def schemaEntries (document : Value) : Entries :=
  ((document.field "components").field "schemas").entries?.getD []

/-- The steps before the operations. -/
def firstSteps (document : Value) : List Check :=
  [checkVersion (document.field "asyncapi"), checkSkeleton document, checkChannels document]

/-- The steps for the operations. -/
def operationSteps (document : Value) (entries : Entries) : List Check :=
  entries.map fun entry => checkOperation document entry.1 entry.2

/-- The steps for the component schemas. -/
def schemaSteps (entries : Entries) : List Check :=
  entries.map fun entry => checkSchema entry.1 entry.2

/-- All steps of the validation of a document. -/
def steps (document : Value) : List Check :=
  firstSteps document ++ operationSteps document (operationEntries document) ++
    schemaSteps (schemaEntries document) ++ [checkReferences document]

variable {document : Value}

/-- A document that does not nest too deep is checked in steps. -/
theorem checkDocument_eq_all (mapping : document.isMap = true)
    (versioned : (document.field "asyncapi").isNull = false)
    (shallow : document.exceedsDepth maxDepth = false) :
    checkDocument document = Check.all (steps document) := by
  rw [checkDocument, if_neg (by simp [mapping])]
  dsimp only
  rw [if_neg (by simp [versioned]), if_neg (by simp [shallow])]
  rw [steps, Check.all_append, Check.all_append, Check.all_append, Check.andThen_assoc,
    Check.andThen_assoc]
  change _ = ((checkVersion _).andThen ((checkSkeleton document).andThen
    ((checkChannels document).andThen .clean))).andThen
      ((checkOperations document).andThen ((checkSchemas document).andThen
        ((checkReferences document).andThen .clean)))
  rw [Check.andThen_assoc, Check.andThen_assoc, Check.andThen_assoc]
  rfl

/-! ## What stands in the way -/

/-- The findings against the skeleton cannot be sorted. -/
def Unsortable (document : Value) : Prop :=
  ∃ message, sortFindings (Skeleton.findings document) = .error message

/-- The value is a reference at whose pointer the walk of the validation is refused. -/
def RefusedReference (document value : Value) : Prop :=
  ∃ pointer fault, value.reference? = some pointer ∧
    Pointer.lookup document pointer = .error fault

/-- The operation names a channel, and its check cannot be finished: the pointer to the channel
is refused, nothing can be taken from its messages one after another, or the pointer to a
message is refused. -/
inductive OperationObstacle (document operation : Value) : Prop
  | channel (mapping : operation.isMap = true)
      (refused : RefusedReference document (operation.field "channel"))
  | single {kind : String} (mapping : operation.isMap = true)
      (named : (operation.field "channel").isNull = false)
      (given : (operation.field "messages").isGiven = true)
      (single : singleKind? (operation.field "messages") = some kind)
  | message {entry : Value} (mapping : operation.isMap = true)
      (named : (operation.field "channel").isNull = false)
      (listed : entry ∈ messageEntries (operation.field "messages"))
      (refused : RefusedReference document entry)

/-- The schema is a mapping or a Boolean, and its check cannot be finished: the first finding is
a regular expression on which the check breaks down. -/
def SchemaObstacle (schema : Value) : Prop :=
  (Kind.holds .object schema = true ∨ Kind.holds .boolean schema = true) ∧
    ∃ finding, SchemaRules.firstFinding? schema = some finding ∧ finding.breakdown ≠ none

theorem breakdown_checkSkeleton_eq_none_iff :
    (checkSkeleton document).breakdown = none ↔ ¬ Unsortable document := by
  unfold checkSkeleton Unsortable
  split
  · next sorted => simp [sorted]
  · next sorted => simp [sorted, Check.broken]

theorem breakdown_checkPointer_eq_none_iff {pointer message : String} :
    (checkPointer document pointer message).breakdown = none ↔
      ∀ fault, Pointer.lookup document pointer ≠ .error fault := by
  unfold checkPointer
  split
  · next found => simp [found, Check.clean]
  · next found => simp [found, Check.warning]
  · next found => simp [found, Check.broken]

/-- A value is no obstacle when it is no reference or its pointer can be walked. -/
theorem breakdown_reference_eq_none_iff {value : Value} (message : String → String) :
    (match value.reference? with
      | some pointer => checkPointer document pointer (message pointer)
      | none => .clean).breakdown = none ↔ ¬ RefusedReference document value := by
  unfold RefusedReference
  cases value.reference? with
  | none => simp [Check.clean]
  | some pointer => simp [breakdown_checkPointer_eq_none_iff]

theorem singleKind?_of_mem {messages entry : Value} (listed : entry ∈ messageEntries messages) :
    messages.isGiven = true ∧ singleKind? messages = none := by
  cases messages with
  | list items =>
      cases items with
      | nil => exact absurd listed List.not_mem_nil
      | cons => exact ⟨rfl, rfl⟩
  | pair first second => exact ⟨rfl, rfl⟩
  | _ => exact absurd listed List.not_mem_nil

theorem breakdown_checkMessages_eq_none_iff {operation : String} {messages : Value} :
    (checkMessages document operation messages).breakdown = none ↔
      (messages.isGiven = true → singleKind? messages = none) ∧
        ∀ entry ∈ messageEntries messages, ¬ RefusedReference document entry := by
  unfold checkMessages
  split
  · next absent =>
      have absent : messages.isGiven = false := by simpa using absent
      refine iff_of_true rfl ⟨fun given => ?_, fun entry listed => ?_⟩
      · rw [absent] at given
        exact nomatch given
      · rw [(singleKind?_of_mem listed).1] at absent
        exact nomatch absent
  · next given =>
      have given : messages.isGiven = true := by simpa using given
      split
      · next single => simp [Check.broken, given, single]
      · next several =>
          rw [Check.breakdown_all_eq_none_iff, List.forall_mem_map, and_iff_right fun _ => several]
          refine forall₂_congr fun entry _ => ?_
          exact breakdown_reference_eq_none_iff fun pointer =>
            s!"Operation '{operation}' references undefined message: {pointer}"

/-- The check of an operation breaks down at the obstacles only. -/
theorem breakdown_checkOperation_eq_none_iff {name : Scalar} {operation : Value} :
    (checkOperation document name operation).breakdown = none ↔
      ¬ OperationObstacle document operation := by
  unfold checkOperation
  split
  · next other =>
      have other : operation.isMap = false := by simpa using other
      refine iff_of_true rfl fun obstacle => ?_
      cases obstacle <;> simp_all
  · next mapping =>
      have mapping : operation.isMap = true := by simpa using mapping
      dsimp only
      split
      · next unnamed =>
          refine iff_of_true rfl fun obstacle => ?_
          cases obstacle with
          | channel _ refused =>
              obtain ⟨pointer, fault, isReference, -⟩ := refused
              have reference := Value.isMap_of_reference? isReference
              cases channel : operation.field "channel" with
              | map entries =>
                  rw [channel] at unnamed
                  exact nomatch unnamed
              | _ =>
                  rw [channel] at reference
                  exact nomatch reference
          | single _ named => exact absurd unnamed (by simp [named])
          | message _ named => exact absurd unnamed (by simp [named])
      · next named =>
          have named : (operation.field "channel").isNull = false := by simpa using named
          have channelClear :=
            @breakdown_reference_eq_none_iff document (operation.field "channel") fun pointer =>
              s!"Operation '{name.shown}' references undefined channel: {channelText pointer}"
          rw [Check.breakdown_andThen_eq_none_iff, breakdown_checkMessages_eq_none_iff]
          refine (and_congr_left' channelClear).trans ?_
          constructor
          · rintro ⟨channel, several, messages⟩ obstacle
            cases obstacle with
            | channel _ refused => exact channel refused
            | single _ _ given single => exact nomatch (several given).symm.trans single
            | message _ _ listed refused => exact messages _ listed refused
          · intro free
            refine ⟨fun refused => free (.channel mapping refused), fun given => ?_,
              fun entry listed refused => free (.message mapping named listed refused)⟩
            cases single : singleKind? (operation.field "messages") with
            | none => rfl
            | some kind => exact absurd (.single mapping named given single) free

/-- The check of a component schema breaks down at the obstacles only. -/
theorem breakdown_checkSchema_eq_none_iff {name : Scalar} {schema : Value} :
    (checkSchema name schema).breakdown = none ↔ ¬ SchemaObstacle schema := by
  unfold checkSchema SchemaObstacle
  split
  · next other => simp_all [Check.error]
  · next admitted =>
      have admitted : Kind.holds .object schema = true ∨ Kind.holds .boolean schema = true := by
        simpa [or_iff_not_imp_left] using admitted
      cases found : SchemaRules.firstFinding? schema with
      | none => simp [Check.clean]
      | some finding =>
          cases broken : finding.breakdown with
          | none => simp [Check.error, broken]
          | some breakdown => simp [Check.broken, broken, admitted]

theorem clear_firstSteps (sortable : ¬ Unsortable document) :
    ∀ step ∈ firstSteps document, step.breakdown = none := by
  rw [firstSteps, List.forall_mem_cons, List.forall_mem_cons, List.forall_mem_singleton]
  refine ⟨?_, breakdown_checkSkeleton_eq_none_iff.mpr sortable, ?_⟩
  · unfold checkVersion
    split <;> rfl
  · unfold checkChannels
    split <;> rfl

theorem clear_operationSteps {entries : Entries}
    (free : ∀ entry ∈ entries, ¬ OperationObstacle document entry.2) :
    ∀ step ∈ operationSteps document entries, step.breakdown = none := by
  intro step listed
  obtain ⟨entry, member, rfl⟩ := List.mem_map.mp listed
  exact breakdown_checkOperation_eq_none_iff.mpr (free entry member)

theorem clear_schemaSteps {entries : Entries} (free : ∀ entry ∈ entries, ¬ SchemaObstacle entry.2) :
    ∀ step ∈ schemaSteps entries, step.breakdown = none := by
  intro step listed
  obtain ⟨entry, member, rfl⟩ := List.mem_map.mp listed
  exact breakdown_checkSchema_eq_none_iff.mpr (free entry member)

/-! ## The entries of the steps -/

theorem missingChannel_mem {name : Scalar} {operation : Value} (mapping : operation.isMap = true)
    (unnamed : (operation.field "channel").isNull = true) :
    s!"Operation '{name.shown}' missing required field: channel" ∈
      (checkOperation document name operation).errors := by
  rw [checkOperation, if_neg (by simp [mapping])]
  dsimp only
  rw [if_pos unnamed]
  exact List.mem_singleton_self _

theorem notObject_mem {name : Scalar} {schema : Value} (other : Kind.holds .object schema = false)
    (otherAlso : Kind.holds .boolean schema = false) :
    s!"Component schema '{name.shown}' is not an object" ∈ (checkSchema name schema).errors := by
  rw [checkSchema, if_pos (by simp [other, otherAlso])]
  exact List.mem_singleton_self _

theorem invalidSchema_mem {name : Scalar} {schema : Value} {finding : Finding}
    (admitted : Kind.holds .object schema = true ∨ Kind.holds .boolean schema = true)
    (found : SchemaRules.firstFinding? schema = some finding) (clear : finding.breakdown = none) :
    s!"Invalid JSON Schema in components.schemas.{name.shown}: {finding.message}" ∈
      (checkSchema name schema).errors := by
  rw [checkSchema, if_neg (by simpa [or_iff_not_imp_left] using admitted), found]
  dsimp only
  rw [clear]
  exact List.mem_singleton_self _

/-! ## Reported and hidden -/

section

variable {before after : Entries} {name : Scalar} {value : Value} {error : String}

theorem steps_of_operation (listed : operationEntries document = before ++ (name, value) :: after) :
    steps document = firstSteps document ++ operationSteps document before ++
      checkOperation document name value ::
        (operationSteps document after ++ schemaSteps (schemaEntries document) ++
          [checkReferences document]) := by
  simp [steps, listed, operationSteps]

theorem steps_of_schema (listed : schemaEntries document = before ++ (name, value) :: after) :
    steps document = firstSteps document ++ operationSteps document (operationEntries document) ++
      schemaSteps before ++ checkSchema name value ::
        (schemaSteps after ++ [checkReferences document]) := by
  simp [steps, listed, schemaSteps]

theorem mem_errors_of_operation (sortable : ¬ Unsortable document)
    (free : ∀ earlier ∈ before, ¬ OperationObstacle document earlier.2)
    (listed : operationEntries document = before ++ (name, value) :: after)
    (found : error ∈ (checkOperation document name value).errors) :
    error ∈ (Check.all (steps document)).errors := by
  rw [steps_of_operation listed]
  exact Check.mem_errors_all
    (List.forall_mem_append.mpr ⟨clear_firstSteps sortable, clear_operationSteps free⟩) found

theorem mem_errors_of_schema (sortable : ¬ Unsortable document)
    (passable : ∀ entry ∈ operationEntries document, ¬ OperationObstacle document entry.2)
    (free : ∀ earlier ∈ before, ¬ SchemaObstacle earlier.2)
    (listed : schemaEntries document = before ++ (name, value) :: after)
    (found : error ∈ (checkSchema name value).errors) :
    error ∈ (Check.all (steps document)).errors := by
  have clear := List.forall_mem_append.mpr ⟨clear_firstSteps sortable, clear_operationSteps passable⟩
  rw [steps_of_schema listed]
  exact Check.mem_errors_all (List.forall_mem_append.mpr ⟨clear, clear_schemaSteps free⟩) found

/-- The error is found by one of the steps, or it says that a step broke down. -/
def FoundBy (error : String) (steps : List Check) : Prop :=
  (∃ step ∈ steps, error ∈ step.errors) ∨
    ∃ message : String, error = s!"Unexpected validation error: {message}"

/-- What is reported is found by the steps up to one that breaks down. -/
theorem foundBy_of_broken {earlier later : List Check} {check : Check}
    (broken : check.breakdown ≠ none)
    (reported : error ∈ (Verdict.ofCheck (Check.all (earlier ++ check :: later))).errors) :
    FoundBy error (earlier ++ [check]) := by
  rw [Check.all_of_broken broken] at reported
  rcases Verdict.cases_of_mem_errors reported with found | ⟨message, -, same⟩
  · exact Or.inl (Check.exists_of_mem_errors_all found)
  · exact Or.inr ⟨message, same⟩

end

/-! ## Aggregation -/

/-- Two operations, of which the second one has no channel and the first one has some messages,
and two component schemas that are no schemas. -/
def withMessages (messages : Value) : Value :=
  .record [("asyncapi", .string "3.0.0"),
    ("info", .record [("title", .string "Orders"), ("version", .string "1")]),
    ("channels", .record [("orders", .map [])]),
    ("operations", .record [
      ("first", .record [("action", .string "send"),
        ("channel", .record [("$ref", .string "#/channels/orders")]),
        ("messages", messages)]),
      ("second", .record [("action", .string "send")])]),
    ("components", .record [
      ("schemas", .record [("Order", .int 5), ("Item", .record [("type", .string "thing")])])])]

end AsyncTypes.Validation
