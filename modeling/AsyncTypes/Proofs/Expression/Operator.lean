import AsyncTypes.Proofs.Expression.Scan

/-!
# Operators in the text of a type

Whether a part of a type stands in parentheses is read off its text.  For the types that a
compilation writes the reading is right: an operator is found exactly when the type is a
union or an intersection of several members.  Its text has operators at depth zero; the
text of any other type is passed without one, and so is any text in parentheses.
-/

namespace AsyncTypes.TypeScript

/-! ## Passing a character -/

/-- Outside literals a character is a quote, a bracket or the start of an operator at depth zero,
or it is passed. -/
theorem hasOperatorFrom_outside (depth : Int) (c : Char) (rest : List Char) :
    hasOperatorFrom false depth (c :: rest) =
      if c == '\'' then hasOperatorFrom true depth rest
      else if opensBracket c then hasOperatorFrom false (depth + 1) rest
      else if closesBracket c then hasOperatorFrom false (depth - 1) rest
      else if depth == 0 && startsWithOperator (c :: rest) then true
      else hasOperatorFrom false depth rest := by
  rw [hasOperatorFrom]

/-- Inside a literal a backslash is passed together with the character after it. -/
theorem hasOperatorFrom_pair (depth : Int) (c : Char) (rest : List Char) :
    hasOperatorFrom true depth ('\\' :: c :: rest) = hasOperatorFrom true depth rest :=
  rfl

/-- Inside a literal any other character is passed, and a quote ends the literal. -/
theorem hasOperatorFrom_inside (depth : Int) {c : Char} (plain : c ≠ '\\') (rest : List Char) :
    hasOperatorFrom true depth (c :: rest) = hasOperatorFrom (c != '\'') depth rest := by
  rw [hasOperatorFrom]
  exact fun _ _ same => absurd same plain

/-! ## Passing a text -/

/-- From each of these depths on, the text is passed without an operator, back to the depth at
which it began. -/
def PassedFrom (least : Int) (text : List Char) : Prop :=
  ∀ depth, least ≤ depth → ∀ rest,
    hasOperatorFrom false depth (text ++ rest) = hasOperatorFrom false depth rest

variable {least : Int} {text : List Char}

theorem passedFrom_nil (least : Int) : PassedFrom least [] :=
  fun _ _ _ => rfl

theorem PassedFrom.mono (passed : PassedFrom least text) {further : Int}
    (deeper : least ≤ further) : PassedFrom further text :=
  fun depth atLeast => passed depth (Int.le_trans deeper atLeast)

theorem PassedFrom.append (passed : PassedFrom least text) {other : List Char}
    (next : PassedFrom least other) : PassedFrom least (text ++ other) := by
  intro depth atLeast rest
  rw [List.append_assoc, passed depth atLeast, next depth atLeast]

/-- A word is passed at every depth. -/
theorem passedFrom_word (least : Int) (word : ∀ c ∈ text, isWordCharacter c = true) :
    PassedFrom least text := by
  intro depth _ rest
  induction text with
  | nil => rfl
  | cons c text ih =>
      have here := word c List.mem_cons_self
      simp only [isWordCharacter, isPlain, Bool.and_eq_true, Bool.not_eq_true', bne_iff_ne] at here
      obtain ⟨⟨⟨plain, quote⟩, opens⟩, closes⟩ := here
      have blank : startsWithOperator (c :: (text ++ rest)) = false := by
        have other : ' ' ≠ c := by
          rintro rfl
          exact absurd plain (by decide)
        simp [startsWithOperator, List.isPrefixOf, other]
      rw [List.cons_append, hasOperatorFrom_outside]
      simp only [beq_eq_false_iff_ne.mpr quote, opens, closes, blank, Bool.and_false,
        Bool.false_eq_true, if_false]
      exact ih fun d later => word d (List.mem_cons_of_mem c later)

theorem hasOperatorFrom_escapeCharacter (c : Char) (depth : Int) (rest : List Char) :
    hasOperatorFrom true depth (escapeCharacter c ++ rest) = hasOperatorFrom true depth rest := by
  rcases escapeCharacter_cases c with ⟨d, escaped, -, -⟩ | ⟨same, backslash, quote, -⟩
  · simp [escaped, hasOperatorFrom_pair]
  · have other : (c != '\'') = true := bne_iff_ne.mpr quote
    simp [same, backslash, hasOperatorFrom_inside, other]

theorem hasOperatorFrom_escaped (text : List Char) (depth : Int) (rest : List Char) :
    hasOperatorFrom true depth (text.flatMap escapeCharacter ++ rest) =
      hasOperatorFrom true depth rest := by
  induction text with
  | nil => rfl
  | cons c text ih =>
      rw [List.flatMap_cons, List.append_assoc, hasOperatorFrom_escapeCharacter, ih]

/-- A string literal is passed at every depth. -/
theorem passedFrom_stringLiteral (least : Int) (text : String) :
    PassedFrom least (stringLiteral text).toList := by
  intro depth _ rest
  rw [stringLiteral, String.toList_ofList, List.append_assoc, List.cons_append,
    hasOperatorFrom_outside]
  simp only [beq_self_eq_true, if_true]
  rw [hasOperatorFrom_escaped, List.cons_append, List.nil_append,
    hasOperatorFrom_inside depth (by decide), bne_self_eq_false]

/-- In parentheses a text is passed where it is passed one level deeper. -/
theorem PassedFrom.parentheses (passed : PassedFrom (least + 1) text) :
    PassedFrom least ('(' :: (text ++ [')'])) := by
  intro depth atLeast rest
  have inside := passed (depth + 1) (Int.add_le_add_right atLeast 1) (')' :: rest)
  have closed : hasOperatorFrom false (depth + 1) (')' :: rest) =
      hasOperatorFrom false depth rest := by
    rw [hasOperatorFrom_outside]
    simp [opensBracket, closesBracket]
  rw [List.cons_append, List.append_assoc, hasOperatorFrom_outside]
  simpa [opensBracket, inside] using closed

theorem passedFrom_brackets (least : Int) : PassedFrom least ['[', ']'] := by
  intro depth _ rest
  simp [hasOperatorFrom_outside, opensBracket, closesBracket]

/-- Below depth zero an operator is passed. -/
theorem passedFrom_operator {operator : Char} (isOperator : operator = '|' ∨ operator = '&') :
    PassedFrom 1 [' ', operator, ' '] := by
  intro depth inside rest
  have deep : (depth == 0) = false := by
    rw [beq_eq_false_iff_ne]
    omega
  rcases isOperator with rfl | rfl <;>
    simp [hasOperatorFrom_outside, opensBracket, closesBracket, deep]

/-- At depth zero an operator is found. -/
theorem hasOperatorFrom_operator {operator : Char} (isOperator : operator = '|' ∨ operator = '&')
    (rest : List Char) : hasOperatorFrom false 0 (' ' :: operator :: ' ' :: rest) = true := by
  rcases isOperator with rfl | rfl <;>
    simp [hasOperatorFrom_outside, opensBracket, closesBracket, startsWithOperator,
      List.isPrefixOf]

/-- A text that is passed at depth zero has no operator. -/
theorem hasOperator_of_passedFrom {text : String} (passed : PassedFrom 0 text.toList) :
    hasOperator text = false := by
  have none := passed 0 (Int.le_refl 0) []
  rwa [List.append_nil] at none

/-! ## Texts of types -/

/-- The text of a type that is joined or not: below depth zero it is passed, and at depth zero it
is passed unless it is joined; then it has an operator. -/
structure SpelledAs (joined : Bool) (text : String) : Prop where
  inside : PassedFrom 1 text.toList
  found : hasOperator text = joined
  plain : joined = false → PassedFrom 0 text.toList

theorem spelledAs_of_passedFrom {text : String} (passed : PassedFrom 0 text.toList) :
    SpelledAs false text where
  inside := passed.mono (by decide)
  found := hasOperator_of_passedFrom passed
  plain := fun _ => passed

/-- Beside an operator stands a text that is passed at depth zero. -/
theorem SpelledAs.parenthesize {joined : Bool} {text : String} (spelled : SpelledAs joined text) :
    PassedFrom 0 (TypeScript.parenthesize text).toList := by
  unfold TypeScript.parenthesize
  cases joined with
  | true =>
      have passed : PassedFrom 0 ('(' :: (text.toList ++ [')'])) :=
        PassedFrom.parentheses spelled.inside
      rw [if_pos spelled.found]
      simpa using passed
  | false =>
      rw [if_neg (by simp [spelled.found])]
      exact spelled.plain rfl

theorem passedFrom_intercalate {operator : Char} (isOperator : operator = '|' ∨ operator = '&')
    {texts : List (List Char)} (passed : ∀ text ∈ texts, PassedFrom 0 text) :
    PassedFrom 1 ([' ', operator, ' '].intercalate texts) := by
  induction texts with
  | nil => exact passedFrom_nil 1
  | cons text rest ih =>
      have here : PassedFrom 1 text := (passed text List.mem_cons_self).mono (by decide)
      have later := ih fun other listed => passed other (List.mem_cons_of_mem text listed)
      cases rest with
      | nil => simpa using here
      | cons next rest =>
          have both := (here.append (passedFrom_operator isOperator)).append later
          simpa [List.intercalate, List.intersperse] using both

/-- Texts that are joined by an operator have it when there are several of them. -/
theorem spelledAs_intercalate {operator : Char} (isOperator : operator = '|' ∨ operator = '&')
    {texts : List String} (passed : ∀ text ∈ texts, PassedFrom 0 text.toList) :
    SpelledAs (decide (1 < texts.length))
      (String.intercalate (String.ofList [' ', operator, ' ']) texts) := by
  have spelled : (String.intercalate (String.ofList [' ', operator, ' ']) texts).toList =
      [' ', operator, ' '].intercalate (texts.map String.toList) := by
    rw [String.toList_intercalate, String.toList_ofList]
  match texts with
  | [] => exact spelledAs_of_passedFrom (by simpa [spelled] using passedFrom_nil 0)
  | [text] =>
      exact spelledAs_of_passedFrom (by simpa [spelled] using passed text List.mem_cons_self)
  | first :: second :: rest =>
      constructor
      · rw [spelled]
        exact passedFrom_intercalate isOperator (by simpa using passed)
      · have start := passed first List.mem_cons_self 0 (Int.le_refl 0)
        rw [hasOperator, spelled]
        simp [List.intercalate, start, hasOperatorFrom_operator isOperator]
      · exact fun single => absurd single (by simp)

namespace TypeExpr

/-- The type is a union or an intersection of several members. -/
def isJoined : TypeExpr → Bool
  | .union members | .intersection members => 1 < members.length
  | _ => false

theorem renderMembers_eq_map (fallback : String) (members : List TypeExpr) :
    renderMembers fallback members =
      members.map fun member => TypeScript.parenthesize (member.render fallback) := by
  induction members with
  | nil => rw [renderMembers, List.map_nil]
  | cons member rest ih => rw [renderMembers, List.map_cons, ih]

mutual

/-- The text of a type has an operator when the type is joined, provided that its leaves are
passed. -/
theorem spelledAs_render {fallback : String} : ∀ type : TypeExpr,
    (∀ leaf ∈ type.leaves, PassedFrom 0 (leaf.render fallback).toList) →
    SpelledAs type.isJoined (type.render fallback)
  | .fallback, leaves => spelledAs_of_passedFrom (by simpa using leaves .fallback)
  | .named name, leaves => spelledAs_of_passedFrom (by simpa using leaves (.named name))
  | .keyword word, leaves => spelledAs_of_passedFrom (by simpa using leaves (.keyword word))
  | .literal text, leaves => spelledAs_of_passedFrom (by simpa using leaves (.literal text))
  | .array item, leaves => by
      have inner := (spelledAs_render item (by simpa using leaves)).parenthesize
      apply spelledAs_of_passedFrom
      simpa [render] using inner.append (passedFrom_brackets 0)
  | .union members, leaves => by
      have parts := passed_renderMembers members (by simpa using leaves)
      have spelled := spelledAs_intercalate (Or.inl rfl) parts
      rw [renderMembers_eq_map, List.length_map, ← renderMembers_eq_map] at spelled
      rw [render, isJoined]
      exact spelled
  | .intersection members, leaves => by
      have parts := passed_renderMembers members (by simpa using leaves)
      have spelled := spelledAs_intercalate (Or.inr rfl) parts
      rw [renderMembers_eq_map, List.length_map, ← renderMembers_eq_map] at spelled
      rw [render, isJoined]
      exact spelled

theorem passed_renderMembers {fallback : String} : ∀ members : List TypeExpr,
    (∀ leaf, ∀ member ∈ members, leaf ∈ member.leaves →
      PassedFrom 0 (leaf.render fallback).toList) →
    ∀ text ∈ renderMembers fallback members, PassedFrom 0 text.toList
  | [], _ => fun _ listed => absurd listed List.not_mem_nil
  | member :: rest, leaves => by
      have first := spelledAs_render member fun leaf inside =>
        leaves leaf member List.mem_cons_self inside
      have others := passed_renderMembers rest fun leaf other listed =>
        leaves leaf other (List.mem_cons_of_mem member listed)
      rw [renderMembers]
      exact List.forall_mem_cons.mpr ⟨first.parenthesize, others⟩

end

/-- A leaf that can be written is passed. -/
theorem IsWritable.passed {leaf : TypeExpr} (writable : leaf.IsWritable) (options : Options) :
    PassedFrom 0 (leaf.render options.fallback).toList := by
  rcases writable.word_or_literal options with word | ⟨content, same⟩
  · exact passedFrom_word 0 word
  · rw [same]
    exact passedFrom_stringLiteral 0 content

/-- An operator is found in the text of a type exactly when the type is a union or an intersection
of several members, whatever the word for the fallback is. -/
theorem Writable.hasOperator_render {type : TypeExpr} (writable : type.Writable)
    (options : Options) : hasOperator (type.render options.fallback) = type.isJoined :=
  (spelledAs_render type fun leaf inside => (writable leaf inside).passed options).found

end TypeExpr

end AsyncTypes.TypeScript
