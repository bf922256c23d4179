import Mathlib.Data.List.Perm.Basic
import Mathlib.Logic.Relation
import Mathlib.Order.WellFounded
import AsyncTypes.Value.Depth
import AsyncTypes.Value.Worklist

/-!
# The bound on nesting is exact

A value nests more than a limit deep exactly when its depth is greater than the limit.  The visit
that finds this out keeps the pending values with their own depths, and it may take them in any
order: whatever it takes next, some pending value nests too deep afterwards exactly when one did
before, and there is less left to visit.  So every visit comes to an end, and all of them have one
answer.
-/

namespace AsyncTypes.Value

variable {value : Value}

/-! ## Depth -/

theorem depthOfItems_le_iff {items : List Value} {bound : Nat} :
    depthOfItems items ≤ bound ↔ ∀ item ∈ items, item.depth ≤ bound := by
  induction items with
  | nil => simp [depthOfItems]
  | cons item rest ih => rw [depthOfItems, Nat.max_le, ih, List.forall_mem_cons]

theorem depthOfEntries_eq (entries : Entries) :
    depthOfEntries entries = depthOfItems (entries.map (·.2)) := by
  induction entries with
  | nil => rfl
  | cons entry rest ih => rw [depthOfEntries, ih]; rfl

/-- A mapping or a list is one level deeper than what it holds. -/
theorem depth_of_isContainer (container : value.isContainer = true) :
    value.depth = depthOfItems value.children + 1 := by
  cases value with
  | list items => rw [depth]; rfl
  | map entries => rw [depth, depthOfEntries_eq]; rfl
  | _ => exact nomatch container

theorem depth_of_not_isContainer (single : ¬ value.isContainer = true) : value.depth = 0 := by
  cases value with
  | list items => exact absurd rfl single
  | map entries => exact absurd rfl single
  | _ => rw [depth] <;> simp

/-! ## Pending values that nest too deep -/

/-- A pending value, given with its own depth, is a mapping or a list that is too deep, or one is
inside it. -/
def IsTooDeep (limit : Nat) (entry : Nat × Value) : Prop :=
  0 < entry.2.depth ∧ limit + 1 < entry.1 + entry.2.depth

variable {limit depth : Nat}

/-- A mapping or a list beyond the limit is too deep by itself, empty or not. -/
theorem isTooDeep_of_lt (container : value.isContainer = true) (beyond : limit < depth) :
    IsTooDeep limit (depth, value) := by
  have own := depth_of_isContainer container
  constructor <;> dsimp only <;> omega

/-- A mapping or a list within the limit is too deep exactly when something that it holds is. -/
theorem isTooDeep_iff_children (container : value.isContainer = true) (within : depth ≤ limit) :
    IsTooDeep limit (depth, value) ↔
      ∃ part ∈ value.children, IsTooDeep limit (depth + 1, part) := by
  have own := depth_of_isContainer container
  have reached : limit - depth < depthOfItems value.children ↔
      ∃ part ∈ value.children, limit - depth < part.depth := by
    rw [← not_iff_not, Nat.not_lt, depthOfItems_le_iff]
    simp
  constructor
  · rintro ⟨-, deep⟩
    dsimp only at deep
    obtain ⟨part, listed, below⟩ := reached.mp (by omega)
    refine ⟨part, listed, ?_, ?_⟩ <;> dsimp only <;> omega
  · rintro ⟨part, listed, -, deep⟩
    dsimp only at deep
    have below := reached.mpr ⟨part, listed, by omega⟩
    constructor <;> dsimp only <;> omega

/-- What is no mapping and no list is never too deep. -/
theorem not_isTooDeep (single : ¬ value.isContainer = true) :
    ¬ IsTooDeep limit (depth, value) := by
  rintro ⟨positive, -⟩
  exact absurd (depth_of_not_isContainer single) (Nat.ne_of_gt positive)

/-- A value by itself is too deep exactly when its depth is greater than the limit. -/
theorem isTooDeep_self_iff : IsTooDeep limit (1, value) ↔ limit < value.depth := by
  unfold IsTooDeep
  constructor
  · rintro ⟨-, deep⟩
    dsimp only at deep
    omega
  · intro deep
    constructor <;> dsimp only <;> omega

/-! ## Visits in any order -/

/-- One round of a visit.  It takes any of the pending values.  A mapping or a list within the
limit is replaced by what it holds, one level deeper, and the pending values may be put in any
order then; what is no mapping and no list is passed over. -/
inductive Round (limit : Nat) : List (Nat × Value) → List (Nat × Value) → Prop
  | enter {depth : Nat} {value : Value} {pending rest later : List (Nat × Value)}
      (taken : pending.Perm ((depth, value) :: rest)) (container : value.isContainer = true)
      (within : depth ≤ limit)
      (placed : later.Perm (value.children.map (fun part => (depth + 1, part)) ++ rest)) :
      Round limit pending later
  | pass {depth : Nat} {value : Value} {pending later : List (Nat × Value)}
      (taken : pending.Perm ((depth, value) :: later)) (single : ¬ value.isContainer = true) :
      Round limit pending later

/-- A visit of pending values ends with an answer: that nothing is too deep, when nothing is
pending, or that something is, when it takes a mapping or a list beyond the limit. -/
inductive Visit (limit : Nat) : List (Nat × Value) → Bool → Prop
  | done : Visit limit [] false
  | found {depth : Nat} {value : Value} {pending : List (Nat × Value)}
      (listed : (depth, value) ∈ pending) (container : value.isContainer = true)
      (beyond : limit < depth) : Visit limit pending true
  | round {pending later : List (Nat × Value)} {answer : Bool} (step : Round limit pending later)
      (further : Visit limit later answer) : Visit limit pending answer

variable {pending later : List (Nat × Value)} {answer : Bool}

theorem exists_isTooDeep_cons_iff {entry : Nat × Value} {rest : List (Nat × Value)}
    (taken : pending.Perm (entry :: rest)) :
    (∃ other ∈ pending, IsTooDeep limit other) ↔
      IsTooDeep limit entry ∨ ∃ other ∈ rest, IsTooDeep limit other := by
  simp only [taken.mem_iff, List.mem_cons, or_and_right, exists_or, exists_eq_left]

/-- A round changes nothing about whether something pending is too deep. -/
theorem Round.isTooDeep_iff (step : Round limit pending later) :
    (∃ entry ∈ pending, IsTooDeep limit entry) ↔ ∃ entry ∈ later, IsTooDeep limit entry := by
  cases step with
  | @enter depth value _ rest _ taken container within placed =>
      calc (∃ entry ∈ pending, IsTooDeep limit entry)
          ↔ (∃ part ∈ value.children, IsTooDeep limit (depth + 1, part)) ∨
              ∃ entry ∈ rest, IsTooDeep limit entry := by
            rw [exists_isTooDeep_cons_iff taken, isTooDeep_iff_children container within]
        _ ↔ ∃ entry ∈ later, IsTooDeep limit entry := by
            simp only [placed.mem_iff, List.mem_append, List.mem_map, or_and_right, exists_or,
              exists_exists_and_eq_and]
  | pass taken single =>
      rw [exists_isTooDeep_cons_iff taken, or_iff_right (not_isTooDeep single)]

/-- The answer of a visit tells whether something pending is too deep. -/
theorem Visit.answer_iff (visit : Visit limit pending answer) :
    answer = true ↔ ∃ entry ∈ pending, IsTooDeep limit entry := by
  induction visit with
  | done => simp
  | found listed container beyond =>
      exact iff_of_true rfl ⟨_, listed, isTooDeep_of_lt container beyond⟩
  | round step _ ih => rw [ih, step.isTooDeep_iff]

/-! ## Every visit ends -/

theorem workload_perm {first second : List Value} (same : first.Perm second) :
    workload first = workload second := by
  induction same with
  | nil => rfl
  | cons value _ ih => rw [workload, workload, ih]
  | swap => simp only [workload]; omega
  | trans _ _ first second => exact first.trans second

/-- There is less left to visit after a round. -/
theorem Round.workload_lt (step : Round limit pending later) :
    workload (later.map (·.2)) < workload (pending.map (·.2)) := by
  cases step with
  | @enter depth value _ rest _ taken _ _ placed =>
      have smaller := workload_children_lt value
      rw [workload_perm (taken.map _), workload_perm (placed.map _)]
      simp only [List.map_append, List.map_map, Function.comp_def, List.map_id', List.map_cons,
        workload_append, workload]
      omega
  | @pass depth value _ _ taken _ =>
      have smaller := workload_children_lt value
      rw [workload_perm (taken.map _)]
      simp only [List.map_cons, workload]
      omega

/-- No visit goes on for ever. -/
theorem wellFounded_round (limit : Nat) :
    WellFounded fun later pending => Round limit pending later := by
  have smaller := (measure fun pending : List (Nat × Value) => workload (pending.map (·.2))).wf
  exact smaller.mono fun _ _ step => step.workload_lt

/-- The visit that takes the first pending value every time. -/
theorem visit_anyDeeper (limit : Nat) (pending : List (Nat × Value)) :
    Visit limit pending (anyDeeper limit pending) := by
  induction pending using anyDeeper.induct limit with
  | case1 =>
      rw [anyDeeper]
      exact .done
  | case2 depth value rest container deep =>
      rw [anyDeeper, if_pos container, if_pos deep]
      exact .found List.mem_cons_self container deep
  | case3 depth value rest container shallow ih =>
      rw [anyDeeper, if_pos container, if_neg shallow]
      exact .round (.enter (.refl _) container (Nat.not_lt.mp shallow) (.refl _)) ih
  | case4 depth value rest single ih =>
      rw [anyDeeper, if_neg single]
      exact .round (.pass (.refl _) single) ih

/-- Pending values have one answer, whatever visit finds it out. -/
theorem visit_iff : Visit limit pending answer ↔ answer = anyDeeper limit pending := by
  constructor
  · intro visit
    rw [Bool.eq_iff_iff, visit.answer_iff, (visit_anyDeeper limit pending).answer_iff]
  · rintro rfl
    exact visit_anyDeeper limit pending

/-- A round does not change the answer. -/
theorem Round.anyDeeper_eq (step : Round limit pending later) :
    anyDeeper limit pending = anyDeeper limit later := by
  rw [Bool.eq_iff_iff, (visit_anyDeeper limit pending).answer_iff, step.isTooDeep_iff,
    (visit_anyDeeper limit later).answer_iff]

/-! ## The bound -/

theorem exceedsDepth_iff (limit : Nat) (value : Value) :
    value.exceedsDepth limit = true ↔ limit < value.depth := by
  rw [exceedsDepth, (visit_anyDeeper limit [(1, value)]).answer_iff, ← isTooDeep_self_iff]
  simp

/-- The bound on nesting is exact.  A value exceeds a limit exactly when its depth is greater.  No
order of visiting its parts lets a visit go on for ever, and wherever the rounds of a visit have
come to, it can still end, and only with this answer. -/
theorem exceedsDepth_exact (limit : Nat) (value : Value) :
    (value.exceedsDepth limit = true ↔ limit < value.depth) ∧
      (WellFounded fun later pending => Round limit pending later) ∧
      ∀ pending, Relation.ReflTransGen (Round limit) [(1, value)] pending →
        ∀ answer, Visit limit pending answer ↔ answer = value.exceedsDepth limit := by
  refine ⟨exceedsDepth_iff limit value, wellFounded_round limit, ?_⟩
  intro pending reached answer
  have same : anyDeeper limit pending = value.exceedsDepth limit := by
    induction reached with
    | refl => rfl
    | tail _ step ih => rw [← step.anyDeeper_eq, ih]
  rw [visit_iff, same]

/-- An empty list in a list is the second level.  A visit that has entered the outer list and will
take the last item first still finds it beyond a limit of one, and cannot end with no. -/
theorem emptyItem_exact :
    let nested : Value := .list [.int 5, .list []]
    let pending : List (Nat × Value) := [(2, .list []), (2, .int 5)]
    Relation.ReflTransGen (Round 1) [(1, nested)] pending ∧
      nested.exceedsDepth 1 = true ∧ nested.exceedsDepth 2 = false ∧
      Visit 1 pending true ∧ ¬ Visit 1 pending false := by
  intro nested pending
  have reached : Relation.ReflTransGen (Round 1) [(1, nested)] pending :=
    .single (.enter (.refl _) rfl (Nat.le_refl 1) (.swap _ _ []))
  obtain ⟨beyond, -, visits⟩ := exceedsDepth_exact 1 nested
  obtain ⟨within, -, -⟩ := exceedsDepth_exact 2 nested
  have exceeds : nested.exceedsDepth 1 = true := beyond.mpr (by decide)
  refine ⟨reached, exceeds, ?_, ?_, ?_⟩
  · rw [← Bool.not_eq_true, within]
    decide
  · exact (visits pending reached true).mpr exceeds.symm
  · intro ends
    have nothing := (visits pending reached false).mp ends
    exact nomatch nothing.trans exceeds

end AsyncTypes.Value
