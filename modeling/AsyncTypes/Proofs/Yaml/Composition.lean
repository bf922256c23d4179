import AsyncTypes.Proofs.Yaml.Division
import AsyncTypes.Yaml.Composition

/-!
# Faults of the composition

Composing nodes out of tokens fails in two ways: the tokens form no document, or they run out
where the division of the text has met a fault.  The readers of nodes call one another with less
and less budget, so that they are shown to fail in these ways all at once, by induction on it.
-/

namespace AsyncTypes.Yaml

namespace Compose

variable {α β : Type}

/-- Work that fails only as a malformed text, or by the fault behind the tokens. -/
def Composes (work : Compose α) : Prop :=
  ∀ state, match work.run state with
    | .ok (_, after) => after.fault = state.fault
    | .error fault => (∃ level, fault = .malformed level) ∨ fault = state.fault

theorem composes_pure (found : α) : Composes (pure found : Compose α) :=
  fun _ => rfl

theorem composes_malformed (level : Level) : Composes (throw (.malformed level) : Compose α) :=
  fun _ => .inl ⟨level, rfl⟩

theorem composes_misplaced : Composes (misplaced : Compose α) :=
  composes_malformed .grammar

theorem composes_get : Composes (get : Compose Composition) :=
  fun _ => rfl

theorem composes_modify {change : Composition → Composition}
    (kept : ∀ state, (change state).fault = state.fault) :
    Composes (modify change : Compose Unit) :=
  kept

theorem Composes.bind {work : Compose α} {next : α → Compose β} (first : Composes work)
    (goesOn : ∀ found, Composes (next found)) : Composes (work >>= next) := by
  intro state
  have start := first state
  rw [StateT.run_bind]
  cases ran : work.run state with
  | error fault =>
      rw [ran] at start
      exact start
  | ok result =>
      rw [ran] at start
      have later := goesOn result.1 result.2
      rw [start] at later
      exact later

theorem Composes.ite {condition : Prop} [Decidable condition] {first second : Compose α}
    (composes : Composes first) (otherwise : Composes second) :
    Composes (if condition then first else second) := by
  split
  · exact composes
  · exact otherwise

theorem composes_peek : Composes peek := by
  intro state
  cases left : state.tokens with
  | nil =>
      have ran : peek.run state = .error state.fault := by
        simp [peek, left, StateT.run_bind]
        rfl
      rw [ran]
      exact .inr rfl
  | cons token rest =>
      have ran : peek.run state = .ok (token, state) := by
        simp [peek, left, StateT.run_bind]
        rfl
      rw [ran]

theorem composes_skip : Composes skip :=
  composes_modify fun _ => rfl

theorem composes_takeIf (token : Token) : Composes (takeIf token) :=
  composes_peek.bind fun _ => .ite (composes_skip.bind fun _ => composes_pure true)
    (composes_pure false)

theorem composes_isAt (tokens : List Token) : Composes (isAt tokens) :=
  composes_peek.bind fun _ => composes_pure _

theorem composes_takeAnchor : Composes takeAnchor := by
  refine composes_peek.bind fun token => ?_
  split
  · exact composes_skip.bind fun _ => composes_pure _
  · exact composes_pure none

theorem composes_takeTag : Composes takeTag := by
  refine composes_peek.bind fun token => ?_
  split
  · exact composes_skip.bind fun _ => composes_pure _
  · exact composes_pure none

theorem composes_properties : Composes properties := by
  refine composes_takeAnchor.bind fun anchor => ?_
  split
  · exact composes_takeTag.bind fun _ => composes_pure _
  · refine composes_takeTag.bind fun tag => ?_
    split
    · exact composes_takeAnchor.bind fun _ => composes_pure _
    · exact composes_pure _

theorem composes_tagName (tag : TagText) : Composes (tagName tag) := by
  rw [tagName]
  split
  · exact composes_pure _
  · refine composes_get.bind fun state => ?_
    split
    · exact composes_pure _
    · exact composes_misplaced

theorem composes_openAnchor (anchor : Option String) : Composes (openAnchor anchor) := by
  cases anchor with
  | none => exact composes_pure ()
  | some name =>
    refine composes_get.bind fun state => ?_
    dsimp only
    split
    · exact (composes_malformed .graph).bind fun _ => composes_modify fun _ => rfl
    · exact composes_modify fun _ => rfl

theorem composes_closeAnchor (anchor : Option String) (node : Node) :
    Composes (closeAnchor anchor node) := by
  cases anchor with
  | none => exact composes_pure node
  | some name => exact (composes_modify fun _ => rfl).bind fun _ => composes_pure node

theorem composes_repeated (name : String) : Composes (repeated name) := by
  refine composes_get.bind fun state => ?_
  split
  · exact composes_pure _
  · exact composes_pure _
  · exact composes_malformed .graph

/-- All readers of nodes compose with a budget. -/
structure NodesCompose (budget : Nat) : Prop where
  node : ∀ position, Composes (node budget position)
  nodeUnless : ∀ position ends, Composes (nodeUnless budget position ends)
  valueOf : ∀ position ends, Composes (valueOf budget position ends)
  blockItems : ∀ done, Composes (blockItems budget done)
  indentlessItems : ∀ done, Composes (indentlessItems budget done)
  blockEntries : ∀ done, Composes (blockEntries budget done)
  flowItems : ∀ done, Composes (flowItems budget done)
  flowEntries : ∀ done, Composes (flowEntries budget done)

section Step

variable {budget : Nat}

/-- A node with its anchor. -/
theorem composes_anchored (anchor : Option String) {content : Compose α} {close : α → Node}
    (composes : Composes content) :
    Composes (do openAnchor anchor; let found ← content; closeAnchor anchor (close found)) :=
  (composes_openAnchor anchor).bind fun _ => composes.bind fun _ => composes_closeAnchor anchor _

theorem NodesCompose.node_succ (composes : NodesCompose budget) (position : Position) :
    Composes (Compose.node (budget + 1) position) := by
  have bracketed : ∀ (anchor : Option String) {γ : Type} {content : Compose γ}
      {close : γ → Node}, Composes content → Composes (do
        openAnchor anchor
        skip
        let found ← content
        closeAnchor anchor (close found)) := fun anchor _ content _ inside =>
    composes_anchored anchor (composes_skip.bind fun _ => inside)
  have alone : ∀ (anchor : Option String) (found : Node), Composes (do
      openAnchor anchor
      closeAnchor anchor found) := fun anchor found =>
    (composes_openAnchor anchor).bind fun _ => composes_closeAnchor anchor found
  rw [Compose.node]
  refine composes_peek.bind fun token => ?_
  split
  · exact composes_skip.bind fun _ => composes_repeated _
  · refine composes_properties.bind fun ⟨anchor, tag⟩ => ?_
    have named : Composes (tag.mapM tagName) := by
      cases tag with
      | none => exact composes_pure none
      | some tag => exact (composes_tagName tag).bind fun _ => composes_pure _
    refine named.bind fun name => composes_peek.bind fun next => ?_
    split
    · exact composes_skip.bind fun _ => alone anchor _
    · refine .ite (composes_anchored anchor (composes.indentlessItems [])) ?_
      refine .ite (bracketed anchor (composes.flowItems [])) ?_
      refine .ite (bracketed anchor (composes.flowEntries [])) ?_
      refine .ite (bracketed anchor (composes.blockItems [])) ?_
      refine .ite (bracketed anchor (composes.blockEntries [])) ?_
      exact .ite (alone anchor _) composes_misplaced

theorem NodesCompose.nodeUnless_succ (composes : NodesCompose budget) (position : Position)
    (ends : List Token) : Composes (Compose.nodeUnless (budget + 1) position ends) := by
  rw [Compose.nodeUnless]
  exact (composes_isAt ends).bind fun _ => .ite (composes_pure _) (composes.node position)

theorem NodesCompose.valueOf_succ (composes : NodesCompose budget) (position : Position)
    (ends : List Token) : Composes (Compose.valueOf (budget + 1) position ends) := by
  rw [Compose.valueOf]
  exact (composes_takeIf .value).bind fun _ => .ite (composes.nodeUnless position ends)
    (composes_pure _)

theorem NodesCompose.blockItems_succ (composes : NodesCompose budget) (done : List Node) :
    Composes (Compose.blockItems (budget + 1) done) := by
  rw [Compose.blockItems]
  refine (composes_takeIf .blockEntry).bind fun _ => .ite ?_ ?_
  · exact (composes.nodeUnless _ _).bind fun _ => composes.blockItems _
  · exact (composes_takeIf .blockEnd).bind fun _ => .ite (composes_pure _) composes_misplaced

theorem NodesCompose.indentlessItems_succ (composes : NodesCompose budget) (done : List Node) :
    Composes (Compose.indentlessItems (budget + 1) done) := by
  rw [Compose.indentlessItems]
  refine (composes_takeIf .blockEntry).bind fun _ => .ite ?_ (composes_pure _)
  exact (composes.nodeUnless _ _).bind fun _ => composes.indentlessItems _

theorem NodesCompose.blockEntries_succ (composes : NodesCompose budget)
    (done : List (Node × Node)) : Composes (Compose.blockEntries (budget + 1) done) := by
  rw [Compose.blockEntries]
  refine (composes_takeIf .key).bind fun _ => .ite ?_ ?_
  · exact (composes.nodeUnless _ _).bind fun _ => (composes.valueOf _ _).bind fun _ =>
      composes.blockEntries _
  · exact (composes_takeIf .blockEnd).bind fun _ => .ite (composes_pure _) composes_misplaced

/-- What follows in brackets stands behind a comma, unless it is the first. -/
theorem composes_separated (isFirst : Bool) {next : Compose α} (composes : Composes next) :
    Composes (if isFirst then next else do
      if ← takeIf .flowEntry then next else do
        let _ ← (misplaced : Compose Unit)
        next) :=
  .ite composes ((composes_takeIf .flowEntry).bind fun _ =>
    .ite composes (composes_misplaced.bind fun _ => composes))

theorem NodesCompose.flowItems_succ (composes : NodesCompose budget) (done : List Node) :
    Composes (Compose.flowItems (budget + 1) done) := by
  rw [Compose.flowItems]
  refine (composes_takeIf .flowSequenceEnd).bind fun _ =>
    .ite (composes_pure _) (composes_separated done.isEmpty ?_)
  refine (composes_takeIf .key).bind fun _ => .ite ?_ ?_
  · exact (composes.nodeUnless _ _).bind fun _ => (composes.valueOf _ _).bind fun _ =>
      composes.flowItems _
  · refine (composes_takeIf .flowSequenceEnd).bind fun _ => .ite (composes_pure _) ?_
    exact (composes.node _).bind fun _ => composes.flowItems _

theorem NodesCompose.flowEntries_succ (composes : NodesCompose budget)
    (done : List (Node × Node)) : Composes (Compose.flowEntries (budget + 1) done) := by
  rw [Compose.flowEntries]
  refine (composes_takeIf .flowMappingEnd).bind fun _ =>
    .ite (composes_pure _) (composes_separated done.isEmpty ?_)
  refine (composes_takeIf .key).bind fun _ => .ite ?_ ?_
  · exact (composes.nodeUnless _ _).bind fun _ => (composes.valueOf _ _).bind fun _ =>
      composes.flowEntries _
  · refine (composes_takeIf .flowMappingEnd).bind fun _ => .ite (composes_pure _) ?_
    exact (composes.node _).bind fun _ => composes.flowEntries _

end Step

theorem nodesCompose (budget : Nat) : NodesCompose budget := by
  induction budget with
  | zero =>
      constructor
      all_goals intros; exact composes_misplaced
  | succ budget ih =>
      constructor
      · exact ih.node_succ
      · exact ih.nodeUnless_succ
      · exact ih.valueOf_succ
      · exact ih.blockItems_succ
      · exact ih.indentlessItems_succ
      · exact ih.blockEntries_succ
      · exact ih.flowItems_succ
      · exact ih.flowEntries_succ

theorem composes_directives (budget : Nat) (versioned : Bool) (handles : List (String × String)) :
    Composes (directives budget versioned handles) := by
  induction budget generalizing versioned handles with
  | zero => exact composes_misplaced
  | succ budget ih =>
      rw [directives]
      refine composes_peek.bind fun token => ?_
      split
      · refine composes_skip.bind fun _ => .ite ?_ (ih _ _)
        exact composes_misplaced.bind fun _ => ih _ _
      · refine composes_skip.bind fun _ => .ite ?_ (ih _ _)
        exact composes_misplaced.bind fun _ => ih _ _
      · exact composes_skip.bind fun _ => ih _ _
      · exact composes_pure _

theorem composes_skipEnds (budget : Nat) : Composes (skipEnds budget) := by
  induction budget with
  | zero => exact composes_pure ()
  | succ budget ih =>
      rw [skipEnds]
      exact (composes_takeIf .documentEnd).bind fun _ => .ite ih (composes_pure ())

theorem composes_explicitStart (budget : Nat) : Composes (explicitStart budget) := by
  refine (composes_skipEnds budget).bind fun _ => (composes_isAt _).bind fun _ =>
    .ite (composes_pure false) ?_
  refine (composes_directives _ _ _).bind fun _ => ?_
  refine Composes.bind (composes_modify fun _ => rfl) fun _ => ?_
  exact (composes_takeIf .documentStart).bind fun _ => .ite (composes_pure true) composes_misplaced

theorem composes_firstDocument (budget : Nat) : Composes (firstDocument budget) := by
  have root : Composes (do return some (← node budget .block)) :=
    ((nodesCompose budget).node .block).bind fun _ => composes_pure _
  refine composes_peek.bind fun _ => .ite ?_ root
  refine (composes_explicitStart budget).bind fun _ => .ite ?_ (composes_pure none)
  exact composes_peek.bind fun _ => .ite (composes_pure _) root

theorem composes_onlyDocument (budget : Nat) : Composes (onlyDocument budget) := by
  refine (composes_firstDocument budget).bind fun found => ?_
  split
  · exact composes_pure none
  · refine (composes_takeIf .documentEnd).bind fun _ => (composes_explicitStart budget).bind
      fun _ => .ite ?_ (composes_pure _)
    exact (composes_malformed .graph).bind fun _ => composes_pure _

end Compose

/-- Tokens that form no document are malformed, or a fault is met behind them. -/
theorem Node.fault_ofTokens {tokens : Tokens} {fault : Fault}
    (refused : Node.ofTokens tokens = .error fault) :
    (∃ level, fault = .malformed level) ∨ tokens.fault = some fault := by
  have composes := Compose.composes_onlyDocument (4 * tokens.served.length + 8)
    (Compose.start tokens)
  rw [Node.ofTokens, StateT.run'] at refused
  cases ran : (Compose.onlyDocument (4 * tokens.served.length + 8)).run (Compose.start tokens) with
  | ok result =>
      rw [StateT.run] at ran
      rw [ran] at refused
      cases refused
  | error met =>
      rw [ran] at composes
      rw [StateT.run] at ran
      rw [ran] at refused
      cases refused
      rcases composes with malformed | behind
      · exact .inl malformed
      · rw [behind, Compose.start]
        cases tokens.fault with
        | none => exact .inl ⟨.token, rfl⟩
        | some fault => exact .inr rfl

end AsyncTypes.Yaml
