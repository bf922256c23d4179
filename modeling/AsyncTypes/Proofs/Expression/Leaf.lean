import AsyncTypes.Proofs.Name.Shape

/-!
# The leaves of a type

The leaves of a type are the fallback, the names, the keywords and the literals that
it is made of.  Leaving out repeated members of a union or an intersection adds no leaf,
and every member that is left out has a kept member of the same text.
-/

namespace AsyncTypes.TypeScript

/-! ## Repetitions -/

theorem mem_of_mem_distinctFrom {α : Type} {text : α → String} {seen : List String}
    {items : List α} {item : α} (kept : item ∈ distinctFrom text seen items) : item ∈ items := by
  induction items generalizing seen with
  | nil => exact kept
  | cons first rest ih =>
      simp only [distinctFrom] at kept
      split at kept
      · exact List.mem_cons_of_mem first (ih kept)
      · rcases List.mem_cons.mp kept with rfl | later
        · exact List.mem_cons_self
        · exact List.mem_cons_of_mem first (ih later)

/-- The items that are kept are items. -/
theorem mem_of_mem_distinct {α : Type} {text : α → String} {items : List α} {item : α}
    (kept : item ∈ distinct text items) : item ∈ items :=
  mem_of_mem_distinctFrom kept

theorem exists_mem_distinctFrom {α : Type} (text : α → String) (seen : List String)
    {items : List α} {item : α} (member : item ∈ items) :
    text item ∈ seen ∨ ∃ kept ∈ distinctFrom text seen items, text kept = text item := by
  induction items generalizing seen with
  | nil => simp at member
  | cons first rest ih =>
      simp only [distinctFrom]
      split
      · next repeated =>
          rcases List.mem_cons.mp member with rfl | later
          · exact Or.inl (by simpa using repeated)
          · exact ih seen later
      · rcases List.mem_cons.mp member with rfl | later
        · exact Or.inr ⟨item, List.mem_cons_self, rfl⟩
        · rcases ih (text first :: seen) later with known | ⟨kept, listed, same⟩
          · rcases List.mem_cons.mp known with equal | before
            · exact Or.inr ⟨first, List.mem_cons_self, equal.symm⟩
            · exact Or.inl before
          · exact Or.inr ⟨kept, List.mem_cons_of_mem first listed, same⟩

/-- The text of every item is the text of one that is kept. -/
theorem exists_mem_distinct {α : Type} (text : α → String) {items : List α} {item : α}
    (member : item ∈ items) : ∃ kept ∈ distinct text items, text kept = text item := by
  rcases exists_mem_distinctFrom text [] member with known | kept
  · simp at known
  · exact kept

namespace TypeExpr

/-! ## Leaves -/

mutual

/-- The parts of a type that have no parts, in order. -/
def leaves : TypeExpr → List TypeExpr
  | .array item => leaves item
  | .union members => leavesOfAll members
  | .intersection members => leavesOfAll members
  | .fallback => [.fallback]
  | .named name => [.named name]
  | .keyword word => [.keyword word]
  | .literal text => [.literal text]

/-- The leaves of some types, in order. -/
def leavesOfAll : List TypeExpr → List TypeExpr
  | [] => []
  | type :: rest => leaves type ++ leavesOfAll rest

end

@[simp]
theorem leavesOfAll_eq (types : List TypeExpr) : leavesOfAll types = types.flatMap leaves := by
  induction types with
  | nil => rfl
  | cons type rest ih => simp [leavesOfAll, ih]

@[simp]
theorem leaves_fallback : leaves .fallback = [.fallback] :=
  rfl

@[simp]
theorem leaves_named (name : String) : leaves (.named name) = [.named name] :=
  rfl

@[simp]
theorem leaves_keyword (word : String) : leaves (.keyword word) = [.keyword word] :=
  rfl

@[simp]
theorem leaves_literal (text : String) : leaves (.literal text) = [.literal text] :=
  rfl

@[simp]
theorem leaves_array (item : TypeExpr) : leaves (.array item) = leaves item :=
  rfl

@[simp]
theorem leaves_union (members : List TypeExpr) :
    leaves (.union members) = members.flatMap leaves :=
  leavesOfAll_eq members

@[simp]
theorem leaves_intersection (members : List TypeExpr) :
    leaves (.intersection members) = members.flatMap leaves :=
  leavesOfAll_eq members

/-- Joined members have the leaves of the members. -/
theorem leaves_joined {join : List TypeExpr → TypeExpr}
    (joins : ∀ members, (join members).leaves = members.flatMap leaves)
    (members : List TypeExpr) : (joined join members).leaves = members.flatMap leaves := by
  unfold joined
  split
  · simp
  · exact joins _

/-- The leaves of a union are leaves of its members. -/
theorem mem_leaves_unionOf {fallback : String} {members : List TypeExpr} {leaf : TypeExpr}
    (position : leaf ∈ (unionOf fallback members).leaves) :
    ∃ member ∈ members, leaf ∈ member.leaves := by
  rw [unionOf, leaves_joined leaves_union] at position
  obtain ⟨member, kept, inside⟩ := List.mem_flatMap.mp position
  exact ⟨member, mem_of_mem_distinct kept, inside⟩

/-- The leaves of an intersection are leaves of its members. -/
theorem mem_leaves_intersectionOf {fallback : String} {members : List TypeExpr} {leaf : TypeExpr}
    (position : leaf ∈ (intersectionOf fallback members).leaves) :
    ∃ member ∈ members, leaf ∈ member.leaves := by
  rw [intersectionOf, leaves_joined leaves_intersection] at position
  obtain ⟨member, kept, inside⟩ := List.mem_flatMap.mp position
  exact ⟨member, mem_of_mem_distinct kept, inside⟩

/-! ## Names in a type -/

/-- The name of a declaration stands in the type. -/
def Mentions (type : TypeExpr) (name : String) : Prop :=
  .named name ∈ type.leaves

/-- A literal for a text or a number. -/
def IsValueLiteral : TypeExpr → Prop
  | .literal text => text ∉ ["true", "false", "null"]
  | _ => False

/-- A word stands in the text of the type, outside literals for texts and numbers. -/
def Spells (fallback : String) (type : TypeExpr) (word : String) : Prop :=
  ∃ leaf ∈ type.leaves, ¬ leaf.IsValueLiteral ∧ leaf.render fallback = word

/-! ## Types that a compilation writes -/

/-- A leaf that a compilation may write: the fallback, the name of a declaration, a known
keyword, or the literal of a value. -/
def IsWritable : TypeExpr → Prop
  | .fallback => True
  | .named name => IsName name
  | .keyword word => word ∈ keywords.map (·.2)
  | .literal text => ∃ value, literalText? value = some text
  | _ => False

/-- All leaves are such as a compilation may write. -/
def Writable (type : TypeExpr) : Prop :=
  ∀ leaf ∈ type.leaves, leaf.IsWritable

theorem writable_fallback : Writable .fallback := by
  intro leaf member
  simp only [leaves_fallback, List.mem_singleton] at member
  rw [member]
  trivial

theorem writable_named {name : String} (shape : IsName name) : Writable (.named name) := by
  intro leaf member
  simp only [leaves_named, List.mem_singleton] at member
  rw [member]
  exact shape

theorem writable_array {item : TypeExpr} (writable : item.Writable) : Writable (.array item) := by
  simpa [Writable] using writable

theorem writable_unionOf {fallback : String} {members : List TypeExpr}
    (writable : ∀ member ∈ members, Writable member) : Writable (unionOf fallback members) := by
  intro leaf position
  obtain ⟨member, listed, inside⟩ := mem_leaves_unionOf position
  exact writable member listed leaf inside

theorem writable_intersectionOf {fallback : String} {members : List TypeExpr}
    (writable : ∀ member ∈ members, Writable member) :
    Writable (intersectionOf fallback members) := by
  intro leaf position
  obtain ⟨member, listed, inside⟩ := mem_leaves_intersectionOf position
  exact writable member listed leaf inside

theorem writable_ofTypeName (typeName : String) : Writable (ofTypeName typeName) := by
  unfold ofTypeName
  split
  · next entry found =>
      intro leaf member
      simp only [leaves_keyword, List.mem_singleton] at member
      rw [member]
      exact List.mem_map_of_mem (List.mem_of_find?_eq_some found)
  · exact writable_fallback

theorem writable_ofValue (value : Value) : Writable (ofValue value) := by
  unfold ofValue
  split
  · next text literal =>
      intro leaf member
      simp only [leaves_literal, List.mem_singleton] at member
      rw [member]
      exact ⟨value, literal⟩
  · exact writable_fallback

theorem writable_ofValues (fallback : String) (values : List Value) :
    Writable (ofValues fallback values) := by
  apply writable_unionOf
  intro member listed
  obtain ⟨value, -, rfl⟩ := List.mem_map.mp listed
  exact writable_ofValue value

/-! ## Types without names -/

@[simp]
theorem not_mentions_fallback (name : String) : ¬ Mentions .fallback name := by
  simp [Mentions]

@[simp]
theorem not_mentions_ofTypeName (typeName name : String) :
    ¬ (ofTypeName typeName).Mentions name := by
  unfold ofTypeName
  split <;> simp [Mentions]

@[simp]
theorem not_mentions_ofValue (value : Value) (name : String) : ¬ (ofValue value).Mentions name := by
  unfold ofValue
  split <;> simp [Mentions]

theorem not_mentions_ofValues (fallback : String) (values : List Value) (name : String) :
    ¬ (ofValues fallback values).Mentions name := by
  intro mentions
  obtain ⟨member, listed, inside⟩ := mem_leaves_unionOf mentions
  obtain ⟨value, -, rfl⟩ := List.mem_map.mp listed
  exact not_mentions_ofValue value name inside

end TypeExpr

end AsyncTypes.TypeScript
