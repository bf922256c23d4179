import AsyncTypes.Proofs.Compilation.Keeps

/-!
# Types that fit a state

The types that a step gives fit the state that it ends in: they mention names that are
taken.  Outside interfaces they mention declared names only, those of hoisted parts and
of the components that the given references lead to; and none of these is left out
unless its reference was cut.
-/

namespace AsyncTypes.TypeScript

/-- One of the types mentions the name. -/
def MentionedIn (types : List TypeExpr) (name : String) : Prop :=
  ∃ type ∈ types, type.Mentions name

/-- Some pointer among the given ones leads to the component of a key. -/
def LeadsTo (task : Task) (refers : String → Prop) (key name : String) : Prop :=
  ∃ pointer, refers pointer ∧ schemaKey? pointer = some key ∧ task.schemaName? key = some name

/-- The types fit the state, where the references that stand outside interfaces in them
have the pointers that `refers` tells. -/
structure Fits (task : Task) (inRecord : Bool) (refers : String → Prop)
    (types : List TypeExpr) (state : Compilation) : Prop where
  writable : ∀ type ∈ types, type.Writable
  used : ∀ name, MentionedIn types name → name ∈ state.used
  declared : inRecord = false → ∀ name, MentionedIn types name → name ∈ state.names
  outside : inRecord = false → ∀ name, MentionedIn types name →
    (∃ key, LeadsTo task refers key name) ∨
      ∃ hoisted ∈ state.declarations, hoisted.name = name ∧ hoisted.isAlias = false
  complete : inRecord = false → ∀ key name, LeadsTo task refers key name → name ∉ numberWords →
    MentionedIn types name ∨
      .circularReference (state.active.headD "") key task.fallback ∈ state.notices

theorem LeadsTo.imp {task : Task} {refers wider : String → Prop} {key name : String}
    (leads : LeadsTo task refers key name) (imp : ∀ pointer, refers pointer → wider pointer) :
    LeadsTo task wider key name := by
  obtain ⟨pointer, given, rest⟩ := leads
  exact ⟨pointer, imp pointer given, rest⟩

theorem mentionedIn_append {first second : List TypeExpr} {name : String} :
    MentionedIn (first ++ second) name ↔ MentionedIn first name ∨ MentionedIn second name := by
  constructor
  · rintro ⟨type, listed, mentions⟩
    rcases List.mem_append.mp listed with before | behind
    · exact Or.inl ⟨type, before, mentions⟩
    · exact Or.inr ⟨type, behind, mentions⟩
  · rintro (⟨type, before, mentions⟩ | ⟨type, behind, mentions⟩)
    · exact ⟨type, List.mem_append_left _ before, mentions⟩
    · exact ⟨type, List.mem_append_right _ behind, mentions⟩

@[simp]
theorem mentionedIn_singleton {type : TypeExpr} {name : String} :
    MentionedIn [type] name ↔ type.Mentions name := by
  simp [MentionedIn]

namespace Fits

variable {task : Task} {inRecord : Bool} {refers : String → Prop} {types : List TypeExpr}
  {state after : Compilation} {own : List String}

/-- Types that fit a state fit every state that extends it. -/
theorem extend (fits : Fits task inRecord refers types state)
    (extension : Extends task own state after) : Fits task inRecord refers types after where
  writable := fits.writable
  used := fun name mentioned => extension.used name (fits.used name mentioned)
  declared := fun outer name mentioned =>
    Compilation.mem_names_mono extension.declarations (fits.declared outer name mentioned)
  outside := by
    intro outer name mentioned
    rcases fits.outside outer name mentioned with leads | ⟨hoisted, listed, rest⟩
    · exact Or.inl leads
    · exact Or.inr ⟨hoisted, extension.declarations.subset listed, rest⟩
  complete := by
    intro outer key name leads word
    rcases fits.complete outer key name leads word with mentioned | cut
    · exact Or.inl mentioned
    · exact Or.inr (extension.active ▸ extension.notices _ cut)

/-- What the references are matters up to equivalence only. -/
theorem congr {others : String → Prop} (fits : Fits task inRecord refers types state)
    (same : ∀ pointer, refers pointer ↔ others pointer) :
    Fits task inRecord others types state := by
  rwa [← funext fun pointer => propext (same pointer)]

/-- Inside an interface it does not matter which references there are. -/
theorem record (fits : Fits task inRecord refers types state) (others : String → Prop) :
    Fits task true others types state where
  writable := fits.writable
  used := fits.used
  declared := fun outer => Bool.noConfusion outer
  outside := fun outer => Bool.noConfusion outer
  complete := fun outer => Bool.noConfusion outer

/-- Types that mention no name and come from no reference fit every state. -/
theorem of_nameless (writable : ∀ type ∈ types, type.Writable)
    (nameless : ∀ name, ¬ MentionedIn types name) (none : ∀ pointer, ¬ refers pointer) :
    Fits task inRecord refers types state where
  writable := writable
  used := fun name mentioned => absurd mentioned (nameless name)
  declared := fun _ name mentioned => absurd mentioned (nameless name)
  outside := fun _ name mentioned => absurd mentioned (nameless name)
  complete := by
    rintro - key name ⟨pointer, given, -⟩
    exact absurd given (none pointer)

/-- The name of a component fits when it is taken, and outside interfaces when it is
declared and the references lead to it only. -/
theorem component {key name : String} (shape : IsName name) (used : name ∈ state.used)
    (declared : inRecord = false → name ∈ state.names) (leads : LeadsTo task refers key name)
    (only : ∀ other otherName, LeadsTo task refers other otherName → otherName = name) :
    Fits task inRecord refers [.named name] state := by
  have same : ∀ other, MentionedIn [.named name] other → other = name := by
    intro other mentioned
    simpa [TypeExpr.Mentions] using mentioned
  exact {
    writable := by simpa using TypeExpr.writable_named shape
    used := fun other mentioned => same other mentioned ▸ used
    declared := fun outer other mentioned => same other mentioned ▸ declared outer
    outside := fun _ other mentioned => Or.inl ⟨key, same other mentioned ▸ leads⟩
    complete := by
      intro _ other otherName reached _
      rw [only other otherName reached]
      exact Or.inl (by simp [TypeExpr.Mentions]) }

/-- The fallback fits when every reference that it stands for was cut. -/
theorem fallback (cut : inRecord = false → ∀ key name, LeadsTo task refers key name →
    .circularReference (state.active.headD "") key task.fallback ∈ state.notices) :
    Fits task inRecord refers [.fallback] state where
  writable := by simpa using TypeExpr.writable_fallback
  used := by simp
  declared := by simp
  outside := by simp
  complete := fun outer key name leads _ => Or.inr (cut outer key name leads)

theorem append {others : List TypeExpr} {otherRefers : String → Prop}
    (fits : Fits task inRecord refers types state)
    (next : Fits task inRecord otherRefers others state) :
    Fits task inRecord (fun pointer => refers pointer ∨ otherRefers pointer)
      (types ++ others) state where
  writable := by
    intro type listed
    rcases List.mem_append.mp listed with before | behind
    · exact fits.writable type before
    · exact next.writable type behind
  used := by
    intro name mentioned
    rcases mentionedIn_append.mp mentioned with before | behind
    · exact fits.used name before
    · exact next.used name behind
  declared := by
    intro outer name mentioned
    rcases mentionedIn_append.mp mentioned with before | behind
    · exact fits.declared outer name before
    · exact next.declared outer name behind
  outside := by
    intro outer name mentioned
    rcases mentionedIn_append.mp mentioned with before | behind
    · rcases fits.outside outer name before with ⟨key, leads⟩ | hoisted
      · exact Or.inl ⟨key, leads.imp fun _ => Or.inl⟩
      · exact Or.inr hoisted
    · rcases next.outside outer name behind with ⟨key, leads⟩ | hoisted
      · exact Or.inl ⟨key, leads.imp fun _ => Or.inr⟩
      · exact Or.inr hoisted
  complete := by
    rintro outer key name ⟨pointer, given, rest⟩ word
    rw [mentionedIn_append]
    rcases given with given | given
    · rcases fits.complete outer key name ⟨pointer, given, rest⟩ word with mentioned | cut
      · exact Or.inl (Or.inl mentioned)
      · exact Or.inr cut
    · rcases next.complete outer key name ⟨pointer, given, rest⟩ word with mentioned | cut
      · exact Or.inl (Or.inr mentioned)
      · exact Or.inr cut

/-- Types fit in the place of others when they mention the same names, number words
aside. -/
theorem replace {others : List TypeExpr} (coherent : task.Coherent)
    (fits : Fits task inRecord refers types state)
    (writable : ∀ type ∈ others, type.Writable)
    (sound : ∀ name, MentionedIn others name → MentionedIn types name)
    (complete : ∀ name, IsName name → name ∉ numberWords → MentionedIn types name →
      MentionedIn others name) : Fits task inRecord refers others state where
  writable := writable
  used := fun name mentioned => fits.used name (sound name mentioned)
  declared := fun outer name mentioned => fits.declared outer name (sound name mentioned)
  outside := fun outer name mentioned => fits.outside outer name (sound name mentioned)
  complete := by
    intro outer key name leads word
    rcases fits.complete outer key name leads word with mentioned | cut
    · obtain ⟨-, -, -, named⟩ := leads
      exact Or.inl (complete name (coherent.isName named) word mentioned)
    · exact Or.inr cut

theorem array {item : TypeExpr} (coherent : task.Coherent)
    (fits : Fits task inRecord refers [item] state) :
    Fits task inRecord refers [.array item] state := by
  apply fits.replace coherent
  · intro type listed
    rw [List.mem_singleton.mp listed]
    simpa [TypeExpr.Writable] using fits.writable item List.mem_cons_self
  · intro name mentioned
    simpa [TypeExpr.Mentions] using mentioned
  · intro name _ _ mentioned
    simpa [TypeExpr.Mentions] using mentioned

theorem unionOf (coherent : task.Coherent) (fits : Fits task inRecord refers types state) :
    Fits task inRecord refers [.unionOf task.fallback types] state := by
  apply fits.replace coherent
  · intro type listed
    rw [List.mem_singleton.mp listed]
    exact TypeExpr.writable_unionOf fits.writable
  · intro name mentioned
    exact TypeExpr.mem_leaves_unionOf (mentionedIn_singleton.mp mentioned)
  · intro name shape word mentioned
    exact mentionedIn_singleton.mpr (TypeExpr.mentions_unionOf fits.writable shape word mentioned)

theorem intersectionOf (coherent : task.Coherent)
    (fits : Fits task inRecord refers types state) :
    Fits task inRecord refers [.intersectionOf task.fallback types] state := by
  apply fits.replace coherent
  · intro type listed
    rw [List.mem_singleton.mp listed]
    exact TypeExpr.writable_intersectionOf fits.writable
  · intro name mentioned
    exact TypeExpr.mem_leaves_intersectionOf (mentionedIn_singleton.mp mentioned)
  · intro name shape word mentioned
    exact mentionedIn_singleton.mpr
      (TypeExpr.mentions_intersectionOf fits.writable shape word mentioned)

end Fits

end AsyncTypes.TypeScript
