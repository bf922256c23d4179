import AsyncTypes.Proofs.Expression.Exchange
import AsyncTypes.Proofs.Expression.Tree

/-!
# The trees of types

A type has a tree: its leaves are atoms, and its arrays, unions and intersections are those
of the tree.  Its text is the text of its tree.  Members of one text are left out of unions
and intersections; they are members of one tree, so nothing but equal members is merged.
-/

namespace AsyncTypes.TypeScript

/-! ## Repetitions -/

theorem map_distinctFrom {α β : Type} [BEq β] [LawfulBEq β] {text : α → String} {image : α → β}
    {items : List α} (same : ∀ item ∈ items, ∀ other ∈ items,
      text item = text other ↔ image item = image other) (seen : List String) :
    (distinctFrom text seen items).map image =
      ((items.filter fun item => !seen.contains (text item)).map image).eraseDups := by
  induction items generalizing seen with
  | nil => rfl
  | cons first rest ih =>
      have later := ih fun item listed other also =>
        same item (List.mem_cons_of_mem first listed) other (List.mem_cons_of_mem first also)
      rw [distinctFrom]
      by_cases known : seen.contains (text first) = true
      · rw [if_pos known, later, List.filter_cons_of_neg (by simpa using known)]
      · rw [if_neg known, List.map_cons, later, List.filter_cons_of_pos (by simpa using known),
          List.map_cons, List.eraseDups_cons, List.filter_map, List.filter_filter]
        congr 3
        apply List.filter_congr
        intro item listed
        have one := same item (List.mem_cons_of_mem first listed) first List.mem_cons_self
        by_cases equal : text item = text first
        · simp [equal, one.mp equal]
        · simp [equal, mt one.mpr equal]

/-- Where items have one text exactly when they have one image, leaving out the items of one
text leaves out repeated images. -/
theorem map_distinct {α β : Type} [BEq β] [LawfulBEq β] {text : α → String} {image : α → β}
    {items : List α} (same : ∀ item ∈ items, ∀ other ∈ items,
      text item = text other ↔ image item = image other) :
    (distinct text items).map image = (items.map image).eraseDups := by
  rw [distinct, map_distinctFrom same, List.filter_eq_self.mpr (by simp)]

namespace TypeExpr

/-! ## Trees -/

mutual

/-- The tree of a type, given the word for the fallback. -/
def tree (fallback : String) : TypeExpr → TypeTree
  | .fallback => .atom fallback
  | .named name => .atom name
  | .keyword word => .atom word
  | .literal text => .atom text
  | .array item => .array (tree fallback item)
  | .union members => .union (trees fallback members)
  | .intersection members => .intersection (trees fallback members)

/-- The trees of some types, in order. -/
def trees (fallback : String) : List TypeExpr → List TypeTree
  | [] => []
  | type :: rest => tree fallback type :: trees fallback rest

end

variable {fallback : String}

theorem trees_eq_map (types : List TypeExpr) :
    trees fallback types = types.map (tree fallback) := by
  induction types with
  | nil => rw [trees, List.map_nil]
  | cons type rest ih => rw [trees, List.map_cons, ih]

mutual

/-- The text of a type is the text of its tree. -/
theorem render_eq_text : ∀ type : TypeExpr, type.render fallback = (type.tree fallback).text
  | .fallback | .named _ | .keyword _ | .literal _ => by rw [render, tree, TypeTree.text]
  | .array item => by rw [render, tree, TypeTree.text, render_eq_text item]
  | .union members => by rw [render, tree, TypeTree.text, renderMembers_eq_texts members]
  | .intersection members => by rw [render, tree, TypeTree.text, renderMembers_eq_texts members]

theorem renderMembers_eq_texts : ∀ members : List TypeExpr,
    renderMembers fallback members = TypeTree.texts (trees fallback members)
  | [] => by rw [renderMembers, trees, TypeTree.texts]
  | member :: rest => by
      rw [renderMembers, trees, TypeTree.texts, render_eq_text member, renderMembers_eq_texts rest]

end

/-! ## Joined members -/

theorem tree_joined {join : List TypeExpr → TypeExpr} {joinTrees : List TypeTree → TypeTree}
    (joins : ∀ members, (join members).tree fallback = joinTrees (members.map (tree fallback)))
    (members : List TypeExpr) :
    (joined join members).tree fallback =
      TypeTree.joined joinTrees (members.map (tree fallback)) := by
  match members with
  | [_] => rfl
  | [] => exact joins []
  | first :: second :: rest => exact joins (first :: second :: rest)

/-- Of members with solid trees those with one text are left out, and they have one tree. -/
theorem map_tree_distinct {members : List TypeExpr}
    (solid : ∀ member ∈ members, (member.tree fallback).Solid) :
    (distinct (render fallback) members).map (tree fallback) =
      (members.map (tree fallback)).eraseDups := by
  apply map_distinct
  intro member listed other also
  rw [render_eq_text, render_eq_text]
  constructor
  · exact (solid member listed).eq_of_text_eq (solid other also)
  · exact congrArg TypeTree.text

theorem tree_union (members : List TypeExpr) :
    (union members).tree fallback = .union (members.map (tree fallback)) := by
  rw [tree, trees_eq_map]

theorem tree_intersection (members : List TypeExpr) :
    (intersection members).tree fallback = .intersection (members.map (tree fallback)) := by
  rw [tree, trees_eq_map]

theorem tree_unionOf {members : List TypeExpr}
    (solid : ∀ member ∈ members, (member.tree fallback).Solid) :
    (unionOf fallback members).tree fallback =
      TypeTree.unionOf (members.map (tree fallback)) := by
  rw [unionOf, tree_joined tree_union, map_tree_distinct solid]
  rfl

theorem tree_intersectionOf {members : List TypeExpr}
    (solid : ∀ member ∈ members, (member.tree fallback).Solid) :
    (intersectionOf fallback members).tree fallback =
      TypeTree.intersectionOf (members.map (tree fallback)) := by
  rw [intersectionOf, tree_joined tree_intersection, map_tree_distinct solid]
  rfl

theorem solid_unionOf {members : List TypeExpr} (some : members ≠ [])
    (solid : ∀ member ∈ members, (member.tree fallback).Solid) :
    ((unionOf fallback members).tree fallback).Solid := by
  rw [tree_unionOf solid]
  exact TypeTree.solid_unionOf (by simpa using some) (by simpa using solid)

theorem solid_intersectionOf {members : List TypeExpr} (some : members ≠ [])
    (solid : ∀ member ∈ members, (member.tree fallback).Solid) :
    ((intersectionOf fallback members).tree fallback).Solid := by
  rw [tree_intersectionOf solid]
  exact TypeTree.solid_intersectionOf (by simpa using some) (by simpa using solid)

/-! ## Leaves -/

theorem toString_int_ne_empty (value : Int) : toString value ≠ "" := by
  cases value with
  | ofNat number => simp [Int.toString_eq_repr, Int.repr]
  | negSucc number => simp [Int.toString_eq_repr, Int.repr]

theorem shortestText_ne_empty (x : Number.Binary64) :
    x.shortestText Number.Binary64.jsonNames ≠ "" := by
  have written : ∀ sign body : List Char, body ≠ [] → String.ofList (sign ++ body) ≠ "" := by
    intro sign body some empty
    have same := congrArg String.toList empty
    simp [some] at same
  unfold Number.Binary64.shortestText
  split
  · decide
  · apply written
    split
    · decide
    · split
      · decide
      · dsimp only
        split
        · simp [Number.Numeral.scientific]
        · unfold Number.Numeral.joined
          split <;> simp_all

theorem literalText?_ne_empty {value : Value} {text : String}
    (literal : literalText? value = some text) : text ≠ "" := by
  unfold literalText? at literal
  split at literal
  · next flag =>
      rw [← Option.some.inj literal]
      cases flag <;> decide
  · rw [← Option.some.inj literal]
    decide
  · next content =>
      rw [← Option.some.inj literal]
      exact IsAtom.ne_empty (Or.inr ⟨content, rfl⟩)
  · next number =>
      rw [← Option.some.inj literal]
      exact toString_int_ne_empty number
  · next number =>
      rw [← Option.some.inj literal]
      exact shortestText_ne_empty number
  · exact absurd literal (by simp)

/-- The text of a literal is taken as a whole. -/
theorem isAtom_of_literal {value : Value} {text : String}
    (literal : literalText? value = some text) : IsAtom text := by
  have writable : (TypeExpr.literal text).IsWritable := ⟨value, literal⟩
  rcases writable.word_or_literal default with word | quoted
  · rw [render] at word
    exact Or.inl ⟨literalText?_ne_empty literal, word⟩
  · rw [render] at quoted
    exact Or.inr quoted

theorem isAtom_fallback (options : Options) : IsAtom options.fallback := by
  unfold Options.fallback
  split <;> exact Or.inl ⟨by decide, List.all_eq_true.mp (by decide)⟩

/-- The tree of a value: its literal, or the fallback. -/
theorem tree_ofValue (value : Value) :
    (ofValue value).tree fallback = .atom ((literalText? value).getD fallback) := by
  unfold ofValue
  split
  · next text literal => rw [literal, tree, Option.getD_some]
  · next none => rw [none, tree, Option.getD_none]

theorem solid_ofValue (options : Options) (value : Value) :
    ((ofValue value).tree options.fallback).Solid := by
  rw [tree_ofValue]
  cases literal : literalText? value with
  | some text => exact .atom (isAtom_of_literal literal)
  | none => exact .atom (isAtom_fallback options)

/-- The tree of a type name: its keyword, or the fallback. -/
theorem tree_ofTypeName (name : String) :
    (ofTypeName name).tree fallback =
      .atom (((keywords.find? fun entry => entry.1 == name).map (·.2)).getD fallback) := by
  unfold ofTypeName
  split
  · next entry found => rw [found, tree, Option.map_some, Option.getD_some]
  · next none => rw [none, tree, Option.map_none, Option.getD_none]

theorem solid_ofTypeName (options : Options) (name : String) :
    ((ofTypeName name).tree options.fallback).Solid := by
  rw [tree_ofTypeName]
  have words : ∀ word ∈ keywords.map (·.2), IsAtom word := fun word listed => by
    have letters : ∀ word ∈ keywords.map (·.2),
        word ≠ "" ∧ word.toList.all isWordCharacter = true := by decide
    exact Or.inl ⟨(letters word listed).1, List.all_eq_true.mp (letters word listed).2⟩
  cases found : keywords.find? fun entry => entry.1 == name with
  | some entry =>
      exact .atom (words entry.2 (List.mem_map_of_mem (List.mem_of_find?_eq_some found)))
  | none => exact .atom (isAtom_fallback options)

end TypeExpr

end AsyncTypes.TypeScript
