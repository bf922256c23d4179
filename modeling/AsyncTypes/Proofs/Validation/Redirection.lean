import AsyncTypes.Proofs.Pointer.Agreement
import AsyncTypes.Proofs.Validation.Aggregation
import AsyncTypes.Proofs.Value.Erasure

/-!
# Pointers and the verdict

Two documents that differ only in the texts of pointers outside their component schemas go
through the same steps.  The skeleton does not look at the text of a pointer, so it has findings
at the same places of both documents; a pointer that leads nowhere gives a warning; and the
component schemas are the same.  So the verdicts are the same unless a checked pointer is refused,
since a refusal is an error.
-/

namespace AsyncTypes.Validation

open Value

/-! ## Rules that overlook pointers -/

/-- The paths of some findings. -/
def pathsOf (findings : List Finding) : List (List Scalar) :=
  findings.map (·.path)

theorem paths_append (findings others : List Finding) :
    pathsOf (findings ++ others) = pathsOf findings ++ pathsOf others :=
  List.map_append

/-- The rule may look at the text of a value. -/
def Rule.readsText : Rule → Bool
  | .kinds _ | .required _ | .properties _ | .values _ | .items _ => false
  | _ => true

mutual

/-- The rule finds the same in values with one erasure, since rules that look at a text do not
apply to pointers. -/
def Rule.overlooks : Rule → Bool
  | .kinds _ | .required _ | .oneOf _ | .nonEmpty => true
  | .properties parts => partsOverlook parts
  | .values rules => allOverlook rules && rules.all fun rule => !rule.readsText
  | .items rules => allOverlook rules
  | _ => false
termination_by structural x => x

/-- All rules find the same in values with one erasure. -/
def allOverlook : List Rule → Bool
  | [] => true
  | rule :: rest => rule.overlooks && allOverlook rest
termination_by structural x => x

/-- The rules for the parts find the same in values with one erasure, and those for pointers do
not look at a text. -/
def partsOverlook : List (String × List Rule) → Bool
  | [] => true
  | (name, rules) :: rest => allOverlook rules &&
      (name != "$ref" || rules.all fun rule => !rule.readsText) && partsOverlook rest
termination_by structural x => x

end

/-- The rules of the skeleton overlook pointers. -/
theorem skeleton_overlooks : allOverlook Skeleton.document = true := by
  decide

theorem paths_under (key : Scalar) (findings : List Finding) :
    pathsOf (findings.map (Finding.under key)) = (pathsOf findings).map (key :: ·) := by
  rw [pathsOf, List.map_map, pathsOf, List.map_map]
  rfl

/-- What is found in the items of two lists is found at the same places when it is for each pair
of items. -/
theorem paths_flatMap {α β : Type} {relation : α → β → Prop} {items : List α} {others : List β}
    (each : List.Forall₂ relation items others) {find : α → List Finding}
    {findAlso : β → List Finding}
    (same : ∀ item other, relation item other → pathsOf (find item) = pathsOf (findAlso other)) :
    pathsOf (items.flatMap find) = pathsOf (others.flatMap findAlso) := by
  induction each with
  | nil => rfl
  | cons related _ ih =>
      rw [List.flatMap_cons, List.flatMap_cons, paths_append, paths_append, same _ _ related, ih]

variable {first second : Value}

theorem holds_eq_of_erase_eq (same : first.erasePointers = second.erasePointers) (kind : Kind) :
    kind.holds first = kind.holds second := by
  cases partsAlike_of_erase_eq same with
  | scalar => rfl
  | _ => cases kind <;> rfl

theorem paths_kinds {allowed : List Kind}
    (same : ∀ kind, Kind.holds kind first = Kind.holds kind second) :
    pathsOf ((Rule.kinds allowed).check noSchemas first) =
      pathsOf ((Rule.kinds allowed).check noSchemas second) := by
  rw [Rule.check, Rule.check, funext same]
  split <;> rfl

theorem checkProperties_text (parts : List (String × List Rule)) (text : String) :
    checkProperties noSchemas parts (.string text) = [] := by
  induction parts with
  | nil => rfl
  | cons part rest ih => exact ih

/-- A rule that does not look at a text finds the same in all texts. -/
theorem paths_check_text {rule : Rule} (blind : rule.readsText = false) (text other : String) :
    pathsOf (rule.check noSchemas (.string text)) =
      pathsOf (rule.check noSchemas (.string other)) := by
  cases rule with
  | kinds allowed =>
      exact paths_kinds fun kind => by cases kind <;> rfl
  | required names => rfl
  | properties parts =>
      rw [Rule.check, Rule.check, checkProperties_text, checkProperties_text]
  | values rules => rfl
  | items rules => rfl
  | _ => exact nomatch blind

theorem paths_checkAll_text {rules : List Rule} (blind : ∀ rule ∈ rules, rule.readsText = false)
    (text other : String) : pathsOf (checkAll noSchemas rules (.string text)) =
      pathsOf (checkAll noSchemas rules (.string other)) := by
  induction rules with
  | nil => rfl
  | cons rule rest ih =>
      obtain ⟨here, later⟩ := List.forall_mem_cons.mp blind
      rw [checkAll, checkAll, paths_append, paths_append, paths_check_text here text other, ih later]

/-- Rules that find the same in values with one erasure, and do not look at texts, find the same in
values that are alike. -/
theorem paths_checkAll_alike {rules : List Rule}
    (steady : ∀ first second, first.erasePointers = second.erasePointers →
      pathsOf (checkAll noSchemas rules first) = pathsOf (checkAll noSchemas rules second))
    (blind : (rules.all fun rule => !rule.readsText) = true) (alike : Alike first second) :
    pathsOf (checkAll noSchemas rules first) = pathsOf (checkAll noSchemas rules second) := by
  rcases alike with same | ⟨text, textAlso⟩
  · exact steady first second same
  · match first, second with
    | .string text, .string other =>
        exact paths_checkAll_text (by simpa using blind) text other

theorem paths_nonEmpty (same : first.erasePointers = second.erasePointers) :
    pathsOf (Rule.nonEmpty.check noSchemas first) =
      pathsOf (Rule.nonEmpty.check noSchemas second) := by
  cases partsAlike_of_erase_eq same with
  | scalar => rfl
  | list each => cases each <;> rfl
  | _ => rfl

/-- Items with one erasure have it at the same indices. -/
theorem zipIdx_alike {items others : List Value}
    (each : List.Forall₂ (fun item other => item.erasePointers = other.erasePointers) items others)
    (start : Nat) :
    List.Forall₂ (fun item other => item.1.erasePointers = other.1.erasePointers ∧ item.2 = other.2)
      (items.zipIdx start) (others.zipIdx start) := by
  induction each generalizing start with
  | nil => exact .nil
  | cons same _ ih =>
      rw [List.zipIdx_cons, List.zipIdx_cons]
      exact .cons ⟨same, rfl⟩ (ih (start + 1))

mutual

/-- A rule that overlooks pointers finds the same in values with one erasure. -/
theorem paths_check (rule : Rule) (overlooks : rule.overlooks = true) (first second : Value)
    (same : first.erasePointers = second.erasePointers) :
    pathsOf (rule.check noSchemas first) = pathsOf (rule.check noSchemas second) := by
  cases rule with
  | kinds allowed => exact paths_kinds (holds_eq_of_erase_eq same)
  | required names =>
      rw [Rule.check, Rule.check, isMap_eq_of_erase_eq same]
      simp only [get?_isNone_eq_of_erase_eq same]
  | properties parts => exact paths_checkProperties parts overlooks first second same
  | values rules =>
      obtain ⟨steady, blind⟩ := Bool.and_eq_true_iff.mp overlooks
      rw [Rule.check, Rule.check]
      refine paths_flatMap (entriesAlike_of_erase_eq same) fun entry other alike => ?_
      rw [paths_under, paths_under, alike.key,
        paths_checkAll_alike (paths_checkAll rules steady) blind alike.alike]
  | items rules =>
      rw [Rule.check, Rule.check]
      refine paths_flatMap (zipIdx_alike (itemsAlike_of_erase_eq same) 0) fun item other alike => ?_
      rw [paths_under, paths_under, alike.2, paths_checkAll rules overlooks _ _ alike.1]
  | oneOf words =>
      rw [Rule.check, Rule.check, ← text?_erasePointers first, same, text?_erasePointers]
      split <;> rfl
  | nonEmpty => exact paths_nonEmpty same
  | _ => exact nomatch overlooks

/-- Rules that overlook pointers find the same in values with one erasure. -/
theorem paths_checkAll (rules : List Rule) (overlook : allOverlook rules = true)
    (first second : Value) (same : first.erasePointers = second.erasePointers) :
    pathsOf (checkAll noSchemas rules first) = pathsOf (checkAll noSchemas rules second) := by
  cases rules with
  | nil => rfl
  | cons rule rest =>
      obtain ⟨here, later⟩ := Bool.and_eq_true_iff.mp overlook
      rw [checkAll, checkAll, paths_append, paths_append, paths_check rule here first second same,
        paths_checkAll rest later first second same]

/-- Rules for parts that overlook pointers find the same in values with one erasure. -/
theorem paths_checkProperties (parts : List (String × List Rule))
    (overlook : partsOverlook parts = true) (first second : Value)
    (same : first.erasePointers = second.erasePointers) :
    pathsOf (checkProperties noSchemas parts first) =
      pathsOf (checkProperties noSchemas parts second) := by
  cases parts with
  | nil => rfl
  | cons part rest =>
      obtain ⟨name, rules⟩ := part
      obtain ⟨partOverlooks, later⟩ := Bool.and_eq_true_iff.mp overlook
      obtain ⟨steady, blind⟩ := Bool.and_eq_true_iff.mp partOverlooks
      rw [checkProperties, checkProperties, paths_append, paths_append,
        paths_checkProperties rest later first second same]
      congr 1
      have held := get?_alike same name
      generalize first.get? name = found at held
      generalize second.get? name = foundAlso at held
      cases held with
      | none => rfl
      | @some part other alike =>
          dsimp only
          rw [paths_under, paths_under]
          congr 1
          by_cases pointer : name = "$ref"
          · have blind : (rules.all fun rule => !rule.readsText) = true := by
              simpa [pointer] using blind
            exact paths_checkAll_alike (paths_checkAll rules steady) blind alike.alike
          · exact paths_checkAll rules steady part other (alike.erased (by simpa using pointer))

end

/-- The findings against the skeleton are at the same places of documents with one erasure. -/
theorem paths_skeleton (same : first.erasePointers = second.erasePointers) :
    pathsOf (Skeleton.findings first) = pathsOf (Skeleton.findings second) :=
  paths_checkAll Skeleton.document skeleton_overlooks first second same

/-! ## Sorting by places -/

section

variable {α β : Type} {before : β → β → Except String Bool} {key : α → β}

/-- The order of items that their keys have. -/
abbrev byKey (before : β → β → Except String Bool) (key : α → β) : α → α → Except String Bool :=
  fun first second => before (key first) (key second)

/-- A result is converted at the end when both parts of a sequence are converted. -/
theorem map_bind {γ γ' δ δ' : Type} {result : Except String γ} {read : γ → γ'}
    {next : γ → Except String δ} {nextAlso : γ' → Except String δ'} {convert : δ → δ'}
    (each : ∀ value, nextAlso (read value) = (next value).map convert) :
    (result.map read >>= nextAlso) = (result >>= next).map convert := by
  cases result with
  | error => rfl
  | ok value => exact each value

theorem bind_map {γ δ δ' : Type} {result : Except String γ} {next : γ → Except String δ}
    {nextAlso : γ → Except String δ'} {convert : δ → δ'}
    (each : ∀ value, nextAlso value = (next value).map convert) :
    (result >>= nextAlso) = (result >>= next).map convert := by
  cases result with
  | error => rfl
  | ok value => exact each value

theorem ascendingRun_map (last : α) (items : List α) :
    ascendingRun before (key last) (items.map key) =
      (ascendingRun (byKey before key) last items).map (Prod.map (List.map key) (List.map key)) := by
  induction items generalizing last with
  | nil => rfl
  | cons item rest ih =>
      refine bind_map fun isBefore => ?_
      cases isBefore with
      | true => rfl
      | false =>
          change (ascendingRun before (key item) (rest.map key) >>= _) = _
          rw [ih]
          exact map_bind fun _ => rfl

theorem descendingRun_map (last : α) (items : List α) :
    descendingRun before (key last) (items.map key) =
      (descendingRun (byKey before key) last items).map
        (Prod.map (List.map key) (List.map key)) := by
  induction items generalizing last with
  | nil => rfl
  | cons item rest ih =>
      refine bind_map fun isBefore => ?_
      cases isBefore with
      | true =>
          change (descendingRun before (key item) (rest.map key) >>= _) = _
          rw [ih]
          exact map_bind fun _ => rfl
      | false => rfl

theorem firstRun_map (items : List α) :
    firstRun before (items.map key) =
      (firstRun (byKey before key) items).map (Prod.map (List.map key) (List.map key)) := by
  match items with
  | [] => rfl
  | [_] => rfl
  | first :: second :: rest =>
      refine bind_map fun isBefore => ?_
      cases isBefore with
      | true =>
          change (descendingRun before (key second) (rest.map key) >>= _) = _
          rw [descendingRun_map]
          refine map_bind fun parts => ?_
          change Except.ok ((key first :: key second :: parts.1.map key).reverse, parts.2.map key) =
            Except.ok ((first :: second :: parts.1).reverse.map key, parts.2.map key)
          rw [List.map_reverse, List.map_cons, List.map_cons]
      | false =>
          change (ascendingRun before (key second) (rest.map key) >>= _) = _
          rw [ascendingRun_map]
          exact map_bind fun _ => rfl

theorem placeBetween_map (sorted : List α) (item : α) (budget low high : Nat) :
    placeBetween before (sorted.map key) (key item) budget low high =
      placeBetween (byKey before key) sorted item budget low high := by
  induction budget generalizing low high with
  | zero => rfl
  | succ budget ih =>
      rw [placeBetween, placeBetween]
      simp only [List.getElem?_map, ih]
      cases sorted[low + (high - low) / 2]? <;> rfl

theorem insertAll_map (sorted items : List α) :
    insertAll before (sorted.map key) (items.map key) =
      (insertAll (byKey before key) sorted items).map (List.map key) := by
  induction items generalizing sorted with
  | nil => rfl
  | cons item rest ih =>
      rw [List.map_cons, insertAll, insertAll, placeBetween_map, List.length_map]
      refine bind_map fun place => ?_
      rw [← ih, List.map_append, List.map_cons, List.map_take, List.map_drop]

/-- Sorting items by their keys sorts the keys. -/
theorem sortBy_map (items : List α) :
    sortBy before (items.map key) = (sortBy (byKey before key) items).map (List.map key) := by
  rw [sortBy, sortBy, firstRun_map]
  exact map_bind fun parts => insertAll_map parts.1 parts.2

end

/-- Whether findings can be sorted, and into which places, is a matter of their places. -/
theorem paths_sortFindings {findings others : List Finding}
    (same : pathsOf findings = pathsOf others) :
    (sortFindings findings).map pathsOf = (sortFindings others).map pathsOf := by
  have sorted (findings : List Finding) :
      (sortFindings findings).map pathsOf = sortBy pathBefore (pathsOf findings) := by
    rw [pathsOf, sortBy_map]
    rfl
  rw [sorted, sorted, same]

/-! ## Steps that go together -/

/-- The second check goes on after the first one did: it breaks down at a refused pointer, and
without one it comes to its end and finds an error only if the first check does. -/
structure Check.Follows (refused : Prop) (first second : Check) : Prop where
  broken : first.breakdown = none → refused → ∃ message, second.breakdown = some (.refused message)
  clear : first.breakdown = none → ¬ refused →
    second.breakdown = none ∧ (second.errors = [] ↔ first.errors = [])

namespace Check.Follows

variable {refused refusedAlso : Prop} {check other next nextOther : Check}

theorem refl (check : Check) : Follows False check check :=
  ⟨fun _ never => never.elim, fun clear _ => ⟨clear, Iff.rfl⟩⟩

theorem congr (follows : Follows refused check other) (same : refused ↔ refusedAlso) :
    Follows refusedAlso check other :=
  propext same ▸ follows

/-- Checks without errors go together when the second one breaks down at refused pointers only. -/
theorem of_silent (silent : check.errors = []) (silentAlso : other.errors = [])
    (contained : other.Contained)
    (clear : check.breakdown = none → (other.breakdown = none ↔ ¬ refused)) :
    Follows refused check other where
  broken := by
    intro cleared isRefused
    cases broken : other.breakdown with
    | none => exact absurd isRefused ((clear cleared).mp broken)
    | some breakdown =>
        cases breakdown with
        | refused message => exact ⟨message, rfl⟩
        | overflow message => exact absurd broken (contained message)
  clear cleared free := ⟨(clear cleared).mpr free, by rw [silent, silentAlso]⟩

theorem andThen (follows : Follows refused check other)
    (followsAlso : Follows refusedAlso next nextOther) :
    Follows (refused ∨ refusedAlso) (check.andThen next) (other.andThen nextOther) where
  broken := by
    intro cleared isRefused
    obtain ⟨clear, clearNext⟩ := breakdown_andThen_eq_none_iff.mp cleared
    by_cases here : refused
    · obtain ⟨message, broken⟩ := follows.broken clear here
      rw [andThen_of_broken (broken ▸ Option.some_ne_none _)]
      exact ⟨message, broken⟩
    · rw [andThen_of_clear (follows.clear clear here).1]
      exact followsAlso.broken clearNext (isRefused.resolve_left here)
  clear := by
    intro cleared free
    obtain ⟨clear, clearNext⟩ := breakdown_andThen_eq_none_iff.mp cleared
    obtain ⟨clearAlso, same⟩ := follows.clear clear fun here => free (Or.inl here)
    obtain ⟨clearLater, sameLater⟩ := followsAlso.clear clearNext fun here => free (Or.inr here)
    rw [andThen_of_clear clearAlso, andThen_of_clear clear]
    refine ⟨clearLater, ?_⟩
    rw [List.append_eq_nil_iff, List.append_eq_nil_iff, same, sameLater]

/-- Lists of checks go together when the checks do pairwise. -/
theorem all {α β : Type} {items : List α} {others : List β} {refused : β → Prop}
    {check : α → Check} {checkAlso : β → Check}
    (each : List.Forall₂ (fun item other => Follows (refused other) (check item) (checkAlso other))
      items others) :
    Follows (∃ other ∈ others, refused other) (Check.all (items.map check))
      (Check.all (others.map checkAlso)) := by
  induction each with
  | nil => exact (refl .clean).congr (by simp)
  | cons follows _ ih => exact (follows.andThen ih).congr (by simp)

end Check.Follows

/-! ## Pointers that are checked -/

/-- The pointer leads to the channel of the operation or, when a channel is named, to one of its
messages. -/
inductive OperationPointer (operation : Value) (pointer : String) : Prop
  | channel (holds : (operation.field "channel").reference? = some pointer)
  | message {entry : Value} (named : (operation.field "channel").isNull = false)
      (listed : entry ∈ messageEntries (operation.field "messages"))
      (holds : entry.reference? = some pointer)

/-- The way of the pointer meets a list at a run of digits that is no index. -/
def Refused (document : Value) (pointer : String) : Prop :=
  ∃ keys fault, Pointer.keys? pointer = some keys ∧ Pointer.Stumbles document keys fault

/-- Some pointer of an operation is refused. -/
def RefusedAtOperation (document : Value) : Prop :=
  ∃ entry ∈ operationEntries document, ∃ pointer,
    OperationPointer entry.2 pointer ∧ Refused document pointer

/-- Some reference to a component schema, anywhere in the document, is refused. -/
def RefusedAsReference (document : Value) : Prop :=
  ∃ pointer ∈ document.references,
    Text.startsWith Pointer.schemaRoot pointer = true ∧ Refused document pointer

variable {document other operation operationAlso : Value}

/-- The walk of the validation is refused exactly at these pointers. -/
theorem refused_iff {pointer : String} :
    Refused document pointer ↔ ∃ fault, Pointer.lookup document pointer = .error fault := by
  unfold Refused Pointer.lookup
  cases Pointer.keys? pointer with
  | none => simp
  | some keys =>
      constructor
      · rintro ⟨_, fault, ⟨⟩, stumbles⟩
        exact ⟨fault, Pointer.lookupKeys_of_stumbles stumbles⟩
      · rintro ⟨fault, refused⟩
        rcases Pointer.lookupKeys_cases document keys with
          ⟨reason, stumbles, -⟩ | ⟨-, found⟩ | ⟨-, nothing⟩
        · exact ⟨keys, reason, rfl, stumbles⟩
        · exact nomatch found.symm.trans refused
        · exact nomatch nothing.symm.trans refused

theorem refusedReference_iff {value : Value} : RefusedReference document value ↔
    ∃ pointer, value.reference? = some pointer ∧ Refused document pointer := by
  simp only [RefusedReference, refused_iff, exists_and_left]

/-! ## The steps of two documents -/

theorem errors_checkPointer (document : Value) (pointer message : String) :
    (checkPointer document pointer message).errors = [] := by
  unfold checkPointer
  split <;> rfl

theorem errors_reference (document value : Value) (message : String → String) :
    (match value.reference? with
      | some pointer => checkPointer document pointer (message pointer)
      | none => .clean).errors = [] := by
  split
  · exact errors_checkPointer _ _ _
  · rfl

theorem Check.errors_all_eq_nil {checks : List Check}
    (silent : ∀ check ∈ checks, check.errors = []) : (Check.all checks).errors = [] := by
  refine List.eq_nil_iff_forall_not_mem.mpr fun error found => ?_
  obtain ⟨check, listed, foundHere⟩ := Check.exists_of_mem_errors_all found
  rw [silent check listed] at foundHere
  exact absurd foundHere List.not_mem_nil

theorem errors_checkMessages (document : Value) (operation : String) (messages : Value) :
    (checkMessages document operation messages).errors = [] := by
  unfold checkMessages
  split
  · rfl
  · split
    · rfl
    · refine Check.errors_all_eq_nil fun check listed => ?_
      obtain ⟨entry, -, rfl⟩ := List.mem_map.mp listed
      exact errors_reference document entry _

/-- A reference is checked without errors, and breaks down when it is refused. -/
theorem follows_reference {value : Value} (check : Check) (silent : check.errors = [])
    (message : String → String) :
    Check.Follows (RefusedReference other value) check
      (match value.reference? with
        | some pointer => checkPointer other pointer (message pointer)
        | none => .clean) := by
  refine .of_silent silent (errors_reference other value message) ?_ fun _ =>
    breakdown_reference_eq_none_iff message
  split
  · exact contained_checkPointer _ _ _
  · exact .of_clear rfl

theorem singleKind?_eq_of_erase_eq {messages messagesAlso : Value}
    (same : messages.erasePointers = messagesAlso.erasePointers) :
    singleKind? messages = singleKind? messagesAlso := by
  cases partsAlike_of_erase_eq same <;> rfl

/-- Messages with one erasure are taken one after another in both cases, or in none. -/
theorem follows_messages {name : String} {messages messagesAlso : Value}
    (same : messages.erasePointers = messagesAlso.erasePointers) :
    Check.Follows (∃ entry ∈ messageEntries messagesAlso, RefusedReference other entry)
      (checkMessages document name messages) (checkMessages other name messagesAlso) := by
  refine .of_silent (errors_checkMessages _ _ _) (errors_checkMessages _ _ _)
    (contained_checkMessages _ _ _) fun clear => ?_
  have several := (breakdown_checkMessages_eq_none_iff.mp clear).1
  rw [isGiven_eq_of_erase_eq same, singleKind?_eq_of_erase_eq same] at several
  rw [breakdown_checkMessages_eq_none_iff, and_iff_right several]
  simp

/-- What holds something under a name is a mapping. -/
theorem isMap_of_field {name : String} (given : (operation.field name).isNull = false) :
    operation.isMap = true := by
  cases operation with
  | map entries => rfl
  | _ => exact nomatch given

/-- Only an operation with a channel has pointers that are checked. -/
theorem named_of_operationPointer {pointer : String} (named : OperationPointer operation pointer) :
    (operation.field "channel").isNull = false := by
  cases named with
  | channel holds =>
      cases value : operation.field "channel" with
      | scalar scalar =>
          rw [value] at holds
          exact nomatch holds
      | _ => rfl
  | message named => exact named

/-- The check of an operation with a channel: of the pointer to the channel, and then of those to
the messages. -/
theorem checkOperation_of_named {name : Scalar}
    (named : (operation.field "channel").isNull = false) :
    checkOperation document name operation =
      (match (operation.field "channel").reference? with
        | some pointer =>
            checkPointer document pointer
              s!"Operation '{name.shown}' references undefined channel: {channelText pointer}"
        | none => .clean).andThen
          (checkMessages document name.shown (operation.field "messages")) := by
  rw [checkOperation, if_neg (by simp [isMap_of_field named])]
  exact if_neg (by simp [named])

/-- The check of an operation without a channel does not look at the document. -/
theorem checkOperation_of_unnamed {name : Scalar}
    (unnamed : (operation.field "channel").isNull = true) :
    checkOperation document name operation =
      if operation.isMap then
        .error s!"Operation '{name.shown}' missing required field: channel"
      else .clean := by
  unfold checkOperation
  cases operation.isMap with
  | false => rfl
  | true => exact if_pos unnamed

/-- An operation with a channel is refused where its channel or one of its messages is. -/
theorem refusedAtOperation_iff (named : (operation.field "channel").isNull = false) :
    (RefusedReference other (operation.field "channel") ∨
        ∃ entry ∈ messageEntries (operation.field "messages"), RefusedReference other entry) ↔
      ∃ pointer, OperationPointer operation pointer ∧ Refused other pointer := by
  simp only [refusedReference_iff]
  constructor
  · rintro (⟨pointer, holds, refused⟩ | ⟨entry, listed, pointer, holds, refused⟩)
    · exact ⟨pointer, .channel holds, refused⟩
    · exact ⟨pointer, .message named listed holds, refused⟩
  · rintro ⟨pointer, ⟨holds⟩ | ⟨-, listed, holds⟩, refused⟩
    · exact Or.inl ⟨pointer, holds, refused⟩
    · exact Or.inr ⟨_, listed, pointer, holds, refused⟩

/-- Operations with one erasure are checked alike. -/
theorem follows_operation_of_erase_eq {name : Scalar}
    (same : operation.erasePointers = operationAlso.erasePointers) :
    Check.Follows (∃ pointer, OperationPointer operationAlso pointer ∧ Refused other pointer)
      (checkOperation document name operation) (checkOperation other name operationAlso) := by
  have channel := isNull_eq_of_erase_eq (field_erase_eq same (by decide : "channel" ≠ "$ref"))
  cases isNull : (operation.field "channel").isNull with
  | true =>
      rw [checkOperation_of_unnamed isNull, checkOperation_of_unnamed (channel ▸ isNull),
        isMap_eq_of_erase_eq same]
      refine (Check.Follows.refl _).congr (iff_of_false not_false ?_)
      rintro ⟨pointer, named, -⟩
      exact nomatch (channel ▸ isNull).symm.trans (named_of_operationPointer named)
  | false =>
      rw [checkOperation_of_named isNull, checkOperation_of_named (channel ▸ isNull)]
      exact ((follows_reference _ (errors_reference _ _ _) _).andThen
        (follows_messages (field_erase_eq same (by decide)))).congr
          (refusedAtOperation_iff (channel ▸ isNull))

/-- Operations that are alike are checked alike. -/
theorem follows_operation {name : Scalar} (alike : Alike operation operationAlso) :
    Check.Follows (∃ pointer, OperationPointer operationAlso pointer ∧ Refused other pointer)
      (checkOperation document name operation) (checkOperation other name operationAlso) := by
  rcases alike with same | ⟨text, textAlso⟩
  · exact follows_operation_of_erase_eq same
  · match operation, operationAlso with
    | .string _, .string _ =>
        refine (Check.Follows.refl .clean).congr (iff_of_false not_false ?_)
        rintro ⟨pointer, named, -⟩
        exact nomatch named_of_operationPointer named

theorem follows_operations (same : document.erasePointers = other.erasePointers) :
    Check.Follows (RefusedAtOperation other)
      (Check.all (operationSteps document (operationEntries document)))
      (Check.all (operationSteps other (operationEntries other))) := by
  refine Check.Follows.all (List.Forall₂.imp ?_
    (entriesAlike_of_erase_eq (field_erase_eq same (by decide))))
  rintro ⟨key, operation⟩ ⟨keyAlso, operationAlso⟩ alike
  obtain rfl : key = keyAlso := alike.key
  exact follows_operation alike.alike

theorem follows_skeleton (same : document.erasePointers = other.erasePointers) :
    Check.Follows False (checkSkeleton document) (checkSkeleton other) where
  broken _ never := never.elim
  clear := by
    have sorted := paths_sortFindings (paths_skeleton same)
    unfold checkSkeleton
    cases found : sortFindings (Skeleton.findings document) with
    | error message => exact fun clear => nomatch clear
    | ok findings =>
        rw [found] at sorted
        cases foundAlso : sortFindings (Skeleton.findings other) with
        | error message =>
            rw [foundAlso] at sorted
            exact nomatch sorted
        | ok findingsAlso =>
            rw [foundAlso] at sorted
            have places : pathsOf findings = pathsOf findingsAlso := Except.ok.inj sorted
            refine fun _ _ => ⟨rfl, ?_⟩
            dsimp only
            rw [List.map_eq_nil_iff, List.map_eq_nil_iff, ← List.map_eq_nil_iff (f := Finding.path)]
            exact (iff_of_eq (congrArg (· = []) places.symm)).trans List.map_eq_nil_iff

/-- A text that starts with a bracket is no version. -/
theorem not_startsWith_version (opening : Char) (bracket : opening ≠ '3') (rest : String) :
    Text.startsWith "3." (String.singleton opening ++ rest) = false := by
  simp [Text.startsWith, String.toList_append, List.isPrefixOf, bracket.symm]

theorem startsWith_version_eq {version versionAlso : Value}
    (same : version.erasePointers = versionAlso.erasePointers) :
    Text.startsWith "3." version.shown = Text.startsWith "3." versionAlso.shown := by
  cases partsAlike_of_erase_eq same with
  | scalar => rfl
  | set => rfl
  | list each =>
      simp only [shown, quoted, String.append_assoc]
      exact (not_startsWith_version '[' (by decide) _).trans
        (not_startsWith_version '[' (by decide) _).symm
  | map each =>
      simp only [shown, quoted, String.append_assoc]
      exact (not_startsWith_version '\x7b' (by decide) _).trans
        (not_startsWith_version '\x7b' (by decide) _).symm
  | pair =>
      simp only [shown, quoted, String.append_assoc]
      exact (not_startsWith_version '(' (by decide) _).trans
        (not_startsWith_version '(' (by decide) _).symm

theorem follows_version {version versionAlso : Value}
    (same : version.erasePointers = versionAlso.erasePointers) :
    Check.Follows False (checkVersion version) (checkVersion versionAlso) := by
  unfold checkVersion
  rw [startsWith_version_eq same]
  split
  · exact .refl .clean
  · exact ⟨fun _ never => never.elim, fun _ _ => ⟨rfl, by simp [Check.error]⟩⟩

theorem follows_channels (document other : Value) :
    Check.Follows False (checkChannels document) (checkChannels other) := by
  have silent (document : Value) :
      (checkChannels document).errors = [] ∧ (checkChannels document).breakdown = none := by
    unfold checkChannels
    split <;> exact ⟨rfl, rfl⟩
  exact .of_silent (silent document).1 (silent other).1 (.of_clear (silent other).2)
    fun _ => by simp [(silent other).2]

theorem follows_references (document other : Value) :
    Check.Follows (RefusedAsReference other) (checkReferences document) (checkReferences other) := by
  have silent (document : Value) : (checkReferences document).errors = [] := by
    refine Check.errors_all_eq_nil fun check listed => ?_
    obtain ⟨pointer, -, rfl⟩ := List.mem_map.mp listed
    split
    · exact errors_checkPointer _ _ _
    · rfl
  refine .of_silent (silent document) (silent other) (contained_checkReferences other) fun _ => ?_
  rw [checkReferences, Check.breakdown_all_eq_none_iff, List.forall_mem_map]
  simp only [RefusedAsReference, refused_iff]
  push Not
  refine forall₂_congr fun pointer _ => ?_
  split
  · next below => simp [below, breakdown_checkPointer_eq_none_iff]
  · next elsewhere => simp [elsewhere, Check.clean]

/-! ## Early and late steps -/

/-- The steps up to the operations. -/
def earlyCheck (document : Value) : Check :=
  (Check.all (firstSteps document)).andThen
    (Check.all (operationSteps document (operationEntries document)))

/-- The steps after the operations. -/
def lateCheck (document : Value) : Check :=
  (Check.all (schemaSteps (schemaEntries document))).andThen
    (Check.all [checkReferences document])

/-- The document is a mapping with a version and does not nest too deep. -/
structure Admitted (document : Value) : Prop where
  mapping : document.isMap = true
  versioned : (document.field "asyncapi").isNull = false
  shallow : document.exceedsDepth maxDepth = false

theorem Admitted.checkDocument_eq (admitted : Admitted document) :
    checkDocument document = (earlyCheck document).andThen (lateCheck document) := by
  rw [checkDocument_eq_all admitted.mapping admitted.versioned admitted.shallow, steps,
    Check.all_append, Check.all_append, Check.all_append, Check.andThen_assoc]
  rfl

/-- A document that is checked no further has an error and does not break down. -/
theorem admitted_or_error (document : Value) : Admitted document ∨
    ((checkDocument document).errors ≠ [] ∧ (checkDocument document).breakdown = none) := by
  by_cases mapping : document.isMap = true
  · by_cases absent : (document.field "asyncapi").isNull = true
    · right
      rw [checkDocument, if_neg (by simp [mapping])]
      dsimp only
      rw [if_pos absent]
      exact ⟨List.cons_ne_nil _ _, rfl⟩
    · by_cases deep : document.exceedsDepth maxDepth = true
      · right
        rw [checkDocument, if_neg (by simp [mapping])]
        dsimp only
        rw [if_neg absent, if_pos deep, Check.andThen_of_clear]
        · exact ⟨by simp [Check.error], rfl⟩
        · unfold checkVersion
          split <;> rfl
      · exact Or.inl ⟨mapping, by simpa using absent, by simpa using deep⟩
  · right
    rw [checkDocument, if_pos (by simpa using mapping)]
    exact ⟨List.cons_ne_nil _ _, rfl⟩

theorem Admitted.of_erase_eq (admitted : Admitted document)
    (same : document.erasePointers = other.erasePointers) : Admitted other where
  mapping := isMap_eq_of_erase_eq same ▸ admitted.mapping
  versioned :=
    isNull_eq_of_erase_eq (field_erase_eq same (by decide : "asyncapi" ≠ "$ref")) ▸ admitted.versioned
  shallow := exceedsDepth_eq_of_erase_eq same maxDepth ▸ admitted.shallow

theorem follows_early (same : document.erasePointers = other.erasePointers) :
    Check.Follows (RefusedAtOperation other) (earlyCheck document) (earlyCheck other) := by
  have version := follows_version (field_erase_eq same (by decide : "asyncapi" ≠ "$ref"))
  have first := version.andThen ((follows_skeleton same).andThen
    ((follows_channels document other).andThen (.refl .clean)))
  exact (first.andThen (follows_operations same)).congr (by simp)

theorem follows_late (same : document.eraseOutsideSchemas = other.eraseOutsideSchemas) :
    Check.Follows (RefusedAsReference other) (lateCheck document) (lateCheck other) := by
  have schemas : schemaEntries document = schemaEntries other :=
    congrArg (fun value => value.entries?.getD []) (schemas_eq_of_eraseOutside_eq same)
  unfold lateCheck
  rw [schemas]
  exact ((Check.Follows.refl _).andThen
    ((follows_references document other).andThen (.refl .clean))).congr (by simp)

/-! ## Verdicts -/

/-- Whether the document is valid, when the validation gives a result. -/
def Verdict.validity? (verdict : Verdict) : Option Bool :=
  match verdict.escape with
  | some _ => none
  | none => some verdict.isValid

namespace Verdict

variable {check : Check}

theorem validity?_eq_true_iff : (ofCheck check).validity? = some true ↔ check.IsClean := by
  unfold ofCheck
  split
  · next clear => simp [validity?, isValid, Check.IsClean, clear]
  · next broken => simp [validity?, isValid, Check.IsClean, broken]
  · next broken => simp [validity?, Check.IsClean, broken]

theorem validity?_eq_none_iff : (ofCheck check).validity? = none ↔
    ∃ message, check.breakdown = some (.overflow message) := by
  unfold ofCheck
  split
  · next clear => simp [validity?, clear]
  · next broken => simp [validity?, broken]
  · next broken => simp [validity?, broken]

theorem validity?_of_refused {message : String}
    (broken : check.breakdown = some (.refused message)) :
    (ofCheck check).validity? = some false := by
  simp [ofCheck, broken, validity?, isValid]

end Verdict

/-- The documents differ only in the texts of pointers outside the component schemas. -/
def Redirected (document other : Value) : Prop :=
  document.eraseOutsideSchemas = other.eraseOutsideSchemas

/-- A document that is valid stays valid with other pointers unless one of them is refused. -/
theorem validity?_of_valid (redirected : Redirected document other)
    (valid : (validate document).validity? = some true) :
    (RefusedAtOperation other ∨ RefusedAsReference other →
        (validate other).validity? = some false) ∧
      (¬ (RefusedAtOperation other ∨ RefusedAsReference other) →
        (validate other).validity? = some true) := by
  have same := erase_eq_of_eraseOutside_eq redirected
  have clean := Verdict.validity?_eq_true_iff.mp valid
  rcases admitted_or_error document with admitted | ⟨errors, -⟩
  · rw [admitted.checkDocument_eq] at clean
    have follows := (follows_early same).andThen (follows_late redirected)
    rw [validate, (admitted.of_erase_eq same).checkDocument_eq]
    constructor
    · intro refused
      obtain ⟨message, broken⟩ := follows.broken clean.2 refused
      exact Verdict.validity?_of_refused broken
    · intro free
      obtain ⟨clear, silent⟩ := follows.clear clean.2 free
      exact Verdict.validity?_eq_true_iff.mpr ⟨silent.mpr clean.1, clear⟩
  · exact absurd clean.1 errors

theorem contained_earlyCheck (document : Value) : (earlyCheck document).Contained := by
  refine .andThen (.all fun check listed => ?_) (contained_checkOperations document)
  simp only [firstSteps, List.mem_cons, List.not_mem_nil, or_false] at listed
  rcases listed with rfl | rfl | rfl
  · exact contained_checkVersion _
  · exact contained_checkSkeleton _
  · exact contained_checkChannels _

/-- A number beyond its range is met in the component schemas, whatever the pointers are. -/
theorem overflow_lateCheck (redirected : Redirected document other) {message : String}
    (broken : (lateCheck document).breakdown = some (.overflow message)) :
    (lateCheck other).breakdown = some (.overflow message) := by
  have schemas : schemaEntries document = schemaEntries other :=
    congrArg (fun value => value.entries?.getD []) (schemas_eq_of_eraseOutside_eq redirected)
  rcases Check.breakdown_andThen broken with inSchemas | inReferences
  · rw [schemas] at inSchemas
    rw [lateCheck, Check.andThen_of_broken (inSchemas ▸ Option.some_ne_none _)]
    exact inSchemas
  · refine absurd inReferences (Check.Contained.all (fun check listed => ?_) message)
    rw [List.mem_singleton.mp listed]
    exact contained_checkReferences document

/-- A document whose validation gives no result gives none with other pointers, unless a pointer of
an operation is refused first. -/
theorem validity?_of_escape (redirected : Redirected document other)
    (escapes : (validate document).validity? = none) :
    (RefusedAtOperation other → (validate other).validity? = some false) ∧
      (¬ RefusedAtOperation other → (validate other).validity? = none) := by
  have same := erase_eq_of_eraseOutside_eq redirected
  obtain ⟨message, broken⟩ := Verdict.validity?_eq_none_iff.mp escapes
  rcases admitted_or_error document with admitted | ⟨-, clear⟩
  · rw [admitted.checkDocument_eq] at broken
    have early : (earlyCheck document).breakdown = none := by
      by_contra stopped
      rw [Check.andThen_of_broken stopped] at broken
      exact contained_earlyCheck document message broken
    rw [Check.andThen_of_clear early] at broken
    have late := overflow_lateCheck redirected broken
    rw [validate, (admitted.of_erase_eq same).checkDocument_eq]
    constructor
    · intro refused
      obtain ⟨reason, refusal⟩ := (follows_early same).broken early refused
      rw [Check.andThen_of_broken (refusal ▸ Option.some_ne_none _)]
      exact Verdict.validity?_of_refused refusal
    · intro free
      rw [Check.andThen_of_clear ((follows_early same).clear early free).1]
      exact Verdict.validity?_eq_none_iff.mpr ⟨message, late⟩
  · rw [clear] at broken
    contradiction

/-- Other pointers spoil the verdict on a document: it is valid and some checked pointer of the
other document is refused, or its validation gives no result and a pointer of an operation of
the other document is refused. -/
def Spoils (document other : Value) : Prop :=
  ((validate document).validity? = some true ∧
      (RefusedAtOperation other ∨ RefusedAsReference other)) ∨
    ((validate document).validity? = none ∧ RefusedAtOperation other)

/-- Documents that differ only in the texts of pointers outside the component schemas are both
valid, both invalid or both without a result, unless a pointer that is checked in one of them is
refused and spoils the verdict on the other one. -/
theorem validity_eq_iff_of_redirected (redirected : Redirected document other) :
    (validate document).validity? = (validate other).validity? ↔
      ¬ Spoils document other ∧ ¬ Spoils other document := by
  -- By symmetry it is enough to know what the second verdict is when the first is not an error.
  have spoiled {document other : Value} (redirected : Redirected document other)
      (spoils : Spoils document other) :
      (validate document).validity? ≠ (validate other).validity? := by
    rcases spoils with ⟨valid, refused⟩ | ⟨escapes, refused⟩
    · rw [valid, (validity?_of_valid redirected valid).1 refused]
      simp
    · rw [escapes, (validity?_of_escape redirected escapes).1 refused]
      simp
  have unspoiled {document other : Value} (redirected : Redirected document other)
      (free : ¬ Spoils document other) (passes : (validate document).validity? ≠ some false) :
      (validate document).validity? = (validate other).validity? := by
    cases verdict : (validate document).validity? with
    | none =>
        refine ((validity?_of_escape redirected verdict).2 fun refused => ?_).symm
        exact free (Or.inr ⟨verdict, refused⟩)
    | some valid =>
        cases valid with
        | true =>
            refine ((validity?_of_valid redirected verdict).2 fun refused => ?_).symm
            exact free (Or.inl ⟨verdict, refused⟩)
        | false => exact absurd verdict passes
  have back : Redirected other document := redirected.symm
  constructor
  · exact fun same => ⟨fun spoils => spoiled redirected spoils same,
      fun spoils => spoiled back spoils same.symm⟩
  · rintro ⟨free, freeAlso⟩
    by_cases passes : (validate document).validity? = some false
    · by_cases passesAlso : (validate other).validity? = some false
      · rw [passes, passesAlso]
      · exact (unspoiled back freeAlso passesAlso).symm
    · exact unspoiled redirected free passes

/-! ## An example -/

/-- A document with one operation, whose channel is given by a pointer, and with a list of tags. -/
def withChannel (pointer : String) : Value :=
  .record [("asyncapi", .string "3.0.0"),
    ("info", .record [("title", .string "Orders"), ("version", .string "1")]),
    ("tags", .list [.string "shop"]),
    ("channels", .record [("orders", .map [])]),
    ("operations", .record [
      ("submit", .record [("action", .string "send"),
        ("channel", .record [("$ref", .string pointer)])])])]

/-- A pointer that leads nowhere leaves the document valid. -/
theorem withChannel_unspoiled :
    Redirected (withChannel "#/channels/orders") (withChannel "#/channels/ghost") ∧
      (validate (withChannel "#/channels/orders")).validity? = some true ∧
      (validate (withChannel "#/channels/ghost")).validity? = some true ∧
      ¬ Spoils (withChannel "#/channels/orders") (withChannel "#/channels/ghost") ∧
      ¬ Spoils (withChannel "#/channels/ghost") (withChannel "#/channels/orders") := by
  have redirected :
      Redirected (withChannel "#/channels/orders") (withChannel "#/channels/ghost") := rfl
  have valid : (validate (withChannel "#/channels/orders")).validity? = some true := by
    decide +kernel
  have validAlso : (validate (withChannel "#/channels/ghost")).validity? = some true := by
    decide +kernel
  exact ⟨redirected, valid, validAlso,
    (validity_eq_iff_of_redirected redirected).mp (valid.trans validAlso.symm)⟩

/-- A pointer with a superscript digit for an index makes the document invalid. -/
theorem withChannel_refused :
    Redirected (withChannel "#/channels/orders") (withChannel "#/tags/²") ∧
      (withChannel "#/channels/orders").isMap = true ∧ (withChannel "#/tags/²").isMap = true ∧
      (validate (withChannel "#/channels/orders")).isValid = true ∧
      (validate (withChannel "#/tags/²")).errors =
        ["Unexpected validation error: invalid literal for int() with base 10: '²'"] := by
  refine ⟨rfl, rfl, rfl, ?_, ?_⟩
  · decide +kernel
  · decide +kernel

end AsyncTypes.Validation
