import AsyncTypes.Proofs.Validation.Clean
import AsyncTypes.Proofs.Value.Json

/-!
# The places of findings

The path of a finding leads to a place of the value that is checked.  Where two places of a
JSON value part, there are two names of one mapping or two indices of one list, and these have
an order.  So the findings of a JSON document can always be sorted.
-/

namespace AsyncTypes.Validation

/-! ## Places -/

/-- The keys and indices of the path lead to a place of the value. -/
inductive Place : Value → List Scalar → Prop
  | here (value : Value) : Place value []
  | entry {entries : Entries} {key : Scalar} {part : Value} {path : List Scalar}
      (listed : (key, part) ∈ entries) (further : Place part path) :
      Place (.map entries) (key :: path)
  | item {items : List Value} {index : Nat} {part : Value} {path : List Scalar}
      (found : items[index]? = some part) (further : Place part path) :
      Place (.list items) (.int index :: path)

theorem eq_nil_of_place_scalar {scalar : Scalar} {path : List Scalar}
    (place : Place (.scalar scalar) path) : path = [] := by
  cases place
  rfl

/-! ## Findings at the value itself -/

/-- All findings are at the value itself. -/
def OnSpot (findings : List Finding) : Prop :=
  ∀ found ∈ findings, found.path = []

namespace OnSpot

theorem nil : OnSpot [] :=
  fun _ listed => absurd listed List.not_mem_nil

theorem finding (message : String) : OnSpot (finding message) := by
  intro found listed
  rw [List.mem_singleton.mp listed]

theorem flatMap {α : Type} {items : List α} {report : α → List Finding}
    (each : ∀ item, OnSpot (report item)) : OnSpot (items.flatMap report) := by
  intro found listed
  obtain ⟨item, -, reported⟩ := List.mem_flatMap.mp listed
  exact each item found reported

theorem patternFinding (value : Value) (problem : Pattern.Problem) :
    OnSpot (patternFinding value problem) := by
  intro found listed
  cases problem with
  | invalid => exact finding _ found listed
  | flagsExclusive => rw [List.mem_singleton.mp listed]
  | repetitionTooLarge => rw [List.mem_singleton.mp listed]

theorem ite {condition : Prop} [Decidable condition] {first second : List Finding}
    (onSpot : OnSpot first) (also : OnSpot second) :
    OnSpot (if condition then first else second) := by
  split
  · exact onSpot
  · exact also

end OnSpot

/-! ## Places of findings -/

/-- A check without rules for schemas. -/
abbrev noSchemas : Value → List Finding :=
  fun _ => []

theorem place_of_onSpot {value : Value} {findings : List Finding} {found : Finding}
    (onSpot : OnSpot findings) (listed : found ∈ findings) : Place value found.path := by
  rw [onSpot found listed]
  exact .here value

mutual

/-- The findings of a rule are at places of the value. -/
theorem place_of_mem_check (rule : Rule) (value : Value) {found : Finding}
    (listed : found ∈ rule.check noSchemas value) : Place value found.path := by
  cases rule with
  | kinds allowed =>
      rw [Rule.check] at listed
      exact place_of_onSpot (.ite .nil (.finding _)) listed
  | required names =>
      rw [Rule.check] at listed
      exact place_of_onSpot (.ite (.flatMap fun _ => .finding _) .nil) listed
  | properties rules => exact place_of_mem_checkProperties rules value listed
  | values rules =>
      obtain ⟨⟨key, part⟩, member, below⟩ := List.mem_flatMap.mp listed
      obtain ⟨inner, reported, rfl⟩ := List.mem_map.mp below
      cases value with
      | map entries => exact .entry member (place_of_mem_checkAll rules part reported)
      | _ => exact absurd member List.not_mem_nil
  | names rules =>
      obtain ⟨⟨key, part⟩, -, reported⟩ := List.mem_flatMap.mp listed
      rw [eq_nil_of_place_scalar (place_of_mem_checkAll rules (.scalar key) reported)]
      exact .here value
  | items rules =>
      obtain ⟨⟨part, index⟩, member, below⟩ := List.mem_flatMap.mp listed
      obtain ⟨inner, reported, rfl⟩ := List.mem_map.mp below
      cases value with
      | list items =>
          exact .item (List.mem_zipIdx_iff_getElem?.mp member)
            (place_of_mem_checkAll rules part reported)
      | _ => exact absurd member List.not_mem_nil
  | oneOf words =>
      rw [Rule.check] at listed
      exact place_of_onSpot (.ite .nil (.finding _)) listed
  | nonEmpty =>
      unfold Rule.check at listed
      split at listed
      · exact place_of_onSpot (.finding _) listed
      · exact place_of_onSpot (.finding _) listed
      · exact place_of_onSpot .nil listed
  | distinct =>
      rw [Rule.check] at listed
      exact place_of_onSpot (.ite (.finding _) .nil) listed
  | atLeastZero =>
      rw [Rule.check] at listed
      exact place_of_onSpot (.ite (.finding _) .nil) listed
  | aboveZero =>
      rw [Rule.check] at listed
      exact place_of_onSpot (.ite (.finding _) .nil) listed
  | matching pattern =>
      rw [Rule.check] at listed
      split at listed
      · exact place_of_onSpot (.ite .nil (.finding _)) listed
      · exact place_of_onSpot .nil listed
  | expression =>
      rw [Rule.check] at listed
      split at listed
      · next text _ =>
          cases problem : Pattern.problem? text with
          | none =>
              rw [problem] at listed
              exact place_of_onSpot .nil listed
          | some kind =>
              rw [problem] at listed
              exact place_of_onSpot (.patternFinding value kind) listed
      · exact place_of_onSpot .nil listed
  | anyOf alternatives =>
      rw [Rule.check] at listed
      exact place_of_onSpot (.ite .nil (.finding _)) listed
  | valid => exact absurd listed List.not_mem_nil

/-- The findings of some rules are at places of the value. -/
theorem place_of_mem_checkAll (rules : List Rule) (value : Value) {found : Finding}
    (listed : found ∈ checkAll noSchemas rules value) : Place value found.path := by
  cases rules with
  | nil => exact absurd listed List.not_mem_nil
  | cons rule rest =>
      rcases List.mem_append.mp listed with first | later
      · exact place_of_mem_check rule value first
      · exact place_of_mem_checkAll rest value later

/-- The findings in the named parts of a mapping are at places of the mapping. -/
theorem place_of_mem_checkProperties (rules : List (String × List Rule)) (value : Value)
    {found : Finding} (listed : found ∈ checkProperties noSchemas rules value) :
    Place value found.path := by
  cases rules with
  | nil => exact absurd listed List.not_mem_nil
  | cons first rest =>
      obtain ⟨name, partRules⟩ := first
      rcases List.mem_append.mp listed with here | later
      · cases held : value.get? name with
        | none =>
            rw [held] at here
            exact absurd here List.not_mem_nil
        | some part =>
            rw [held] at here
            obtain ⟨inner, reported, rfl⟩ := List.mem_map.mp here
            cases value with
            | map entries =>
                exact .entry (Entries.mem_of_lookup held)
                  (place_of_mem_checkAll partRules part reported)
            | _ => exact nomatch held
      · exact place_of_mem_checkProperties rest value later

end

theorem place_of_mem_findings {document : Value} {found : Finding}
    (listed : found ∈ Skeleton.findings document) : Place document found.path :=
  place_of_mem_checkAll Skeleton.document document listed

/-! ## The order of places -/

theorem index_of_sameKey {first second : Nat}
    (same : (Scalar.int first).sameKey (.int second) = true) : first = second := by
  simpa [Scalar.sameKey, Scalar.whole?, Int.ofNat_inj] using same

/-- Two places of a JSON value have an order. -/
theorem exists_pathBefore {value : Value} {first second : List Scalar} (place : Place value first)
    (json : value.isJson = true) (other : Place value second) :
    ∃ isBefore, pathBefore first second = .ok isBefore := by
  induction place generalizing second with
  | here => cases second <;> exact ⟨_, rfl⟩
  | @entry entries key part path listed _ ih =>
      cases other with
      | here => exact ⟨false, rfl⟩
      | @entry _ otherKey otherPart otherPath otherListed further =>
          obtain ⟨name, rfl⟩ := Value.exists_text_of_isJson json listed
          obtain ⟨otherName, rfl⟩ := Value.exists_text_of_isJson json otherListed
          rw [pathBefore]
          split
          · next same =>
              cases Scalar.sameKey_text_iff.mp same
              cases (Value.get?_of_mem json listed).symm.trans (Value.get?_of_mem json otherListed)
              exact ih (Value.isJson_of_mem_children json (List.mem_map_of_mem listed)) further
          · exact ⟨_, rfl⟩
  | @item items index part path found _ ih =>
      cases other with
      | here => exact ⟨false, rfl⟩
      | @item _ otherIndex otherPart otherPath otherFound further =>
          rw [pathBefore]
          split
          · next same =>
              obtain rfl := index_of_sameKey same
              cases found.symm.trans otherFound
              exact ih (Value.isJson_of_mem_children json (List.mem_of_getElem? found)) further
          · exact ⟨_, rfl⟩

/-! ## Sorting what has an order -/

section

variable {α : Type} {before : α → α → Except String Bool}

/-- All pairs of items have an order. -/
def Comparable (before : α → α → Except String Bool) (items : List α) : Prop :=
  ∀ first ∈ items, ∀ second ∈ items, ∃ isBefore, before first second = .ok isBefore

theorem Comparable.mono {items others : List α} (comparable : Comparable before items)
    (within : ∀ item ∈ others, item ∈ items) : Comparable before others :=
  fun first listed second also => comparable first (within first listed) second (within second also)

theorem exists_ascendingRun {last : α} {items : List α}
    (comparable : Comparable before (last :: items)) :
    ∃ parts, ascendingRun before last items = .ok parts := by
  induction items generalizing last with
  | nil => exact ⟨_, rfl⟩
  | cons item rest ih =>
      obtain ⟨isBefore, ordered⟩ := comparable item (.tail _ (.head _)) last (.head _)
      obtain ⟨parts, further⟩ := ih (comparable.mono fun _ => List.mem_cons_of_mem last)
      rw [ascendingRun, ordered]
      cases isBefore with
      | true => exact ⟨_, rfl⟩
      | false =>
          refine ⟨(item :: parts.1, parts.2), ?_⟩
          change (ascendingRun before item rest >>= _) = _
          rw [further]
          rfl

theorem exists_descendingRun {last : α} {items : List α}
    (comparable : Comparable before (last :: items)) :
    ∃ parts, descendingRun before last items = .ok parts := by
  induction items generalizing last with
  | nil => exact ⟨_, rfl⟩
  | cons item rest ih =>
      obtain ⟨isBefore, ordered⟩ := comparable item (.tail _ (.head _)) last (.head _)
      obtain ⟨parts, further⟩ := ih (comparable.mono fun _ => List.mem_cons_of_mem last)
      rw [descendingRun, ordered]
      cases isBefore with
      | true =>
          refine ⟨(item :: parts.1, parts.2), ?_⟩
          change (descendingRun before item rest >>= _) = _
          rw [further]
          rfl
      | false => exact ⟨_, rfl⟩

theorem exists_firstRun {items : List α} (comparable : Comparable before items) :
    ∃ parts, firstRun before items = .ok parts := by
  match items with
  | [] => exact ⟨_, rfl⟩
  | [item] => exact ⟨_, rfl⟩
  | first :: second :: rest =>
      obtain ⟨isBefore, ordered⟩ := comparable second (.tail _ (.head _)) first (.head _)
      have later : Comparable before (second :: rest) :=
        comparable.mono fun _ => List.mem_cons_of_mem first
      rw [firstRun, ordered]
      cases isBefore with
      | true =>
          obtain ⟨parts, run⟩ := exists_descendingRun later
          refine ⟨((first :: second :: parts.1).reverse, parts.2), ?_⟩
          change (descendingRun before second rest >>= _) = _
          rw [run]
          rfl
      | false =>
          obtain ⟨parts, run⟩ := exists_ascendingRun later
          refine ⟨(first :: second :: parts.1, parts.2), ?_⟩
          change (ascendingRun before second rest >>= _) = _
          rw [run]
          rfl

theorem exists_placeBetween {sorted : List α} {item : α}
    (comparable : Comparable before (item :: sorted)) (budget low high : Nat) :
    ∃ place, placeBetween before sorted item budget low high = .ok place := by
  induction budget generalizing low high with
  | zero => exact ⟨low, rfl⟩
  | succ budget ih =>
      rw [placeBetween]
      split
      · dsimp only
        split
        · exact ⟨low, rfl⟩
        · next other found =>
            obtain ⟨isBefore, ordered⟩ :=
              comparable item (.head _) other (.tail _ (List.mem_of_getElem? found))
            rw [ordered]
            cases isBefore with
            | true => exact ih low _
            | false => exact ih _ high
      · exact ⟨low, rfl⟩

theorem exists_insertAll {sorted items : List α} (comparable : Comparable before (sorted ++ items)) :
    ∃ result, insertAll before sorted items = .ok result := by
  induction items generalizing sorted with
  | nil => exact ⟨sorted, rfl⟩
  | cons item rest ih =>
      have first : Comparable before (item :: sorted) := by
        apply comparable.mono
        intro other listed
        simp only [List.mem_cons, List.mem_append] at listed ⊢
        tauto
      obtain ⟨place, found⟩ := exists_placeBetween first sorted.length 0 sorted.length
      have later : Comparable before ((sorted.take place ++ item :: sorted.drop place) ++ rest) := by
        apply comparable.mono
        intro other listed
        simp only [List.mem_append, List.mem_cons] at listed ⊢
        rcases listed with (taken | here | dropped) | later
        · exact Or.inl (List.mem_of_mem_take taken)
        · exact Or.inr (Or.inl here)
        · exact Or.inl (List.mem_of_mem_drop dropped)
        · exact Or.inr (Or.inr later)
      obtain ⟨result, inserted⟩ := ih later
      rw [insertAll, found]
      exact ⟨result, inserted⟩

/-- A list whose items have an order can be sorted. -/
theorem exists_sortBy {items : List α} (comparable : Comparable before items) :
    ∃ sorted, sortBy before items = .ok sorted := by
  obtain ⟨⟨run, others⟩, start⟩ := exists_firstRun comparable
  have same := perm_firstRun start
  obtain ⟨sorted, inserted⟩ :=
    exists_insertAll (comparable.mono fun _ listed => same.mem_iff.mp listed)
  rw [sortBy, start]
  exact ⟨sorted, inserted⟩

end

/-- The findings of a JSON document can be sorted. -/
theorem exists_sortFindings {document : Value} (json : document.isJson = true) :
    ∃ findings, sortFindings (Skeleton.findings document) = .ok findings := by
  apply exists_sortBy
  intro first listed second also
  exact exists_pathBefore (place_of_mem_findings listed) json (place_of_mem_findings also)

end AsyncTypes.Validation
