import AsyncTypes.Proofs.Expression.Operator

/-!
# Exchanging the word for the fallback

In the text of a type that a compilation writes, the word for the fallback is a lexeme of its
own, and no name, keyword or literal has its text.  So the text with one word gives the text
with another when that lexeme is exchanged.  Hence types have one text with both words or with
none, and leaving out repeated members leaves out the same ones.
-/

namespace AsyncTypes.TypeScript

/-! ## Repetitions -/

section

variable {α : Type} {text other : α → String}

theorem contains_map_eq {items : List α} {item : α}
    (same : ∀ first ∈ items, text first = text item ↔ other first = other item) :
    (items.map text).contains (text item) = (items.map other).contains (other item) := by
  rw [Bool.eq_iff_iff, List.contains_iff_mem, List.contains_iff_mem, List.mem_map, List.mem_map]
  exact exists_congr fun first => and_congr_right (same first)

theorem distinctFrom_congr {seen items : List α}
    (same : ∀ first ∈ seen ++ items, ∀ second ∈ items,
      text first = text second ↔ other first = other second) :
    distinctFrom text (seen.map text) items = distinctFrom other (seen.map other) items := by
  induction items generalizing seen with
  | nil => rfl
  | cons item rest ih =>
      have known := contains_map_eq fun first member =>
        same first (List.mem_append_left _ member) item List.mem_cons_self
      rw [distinctFrom, distinctFrom, known]
      split
      · refine ih fun first member second later => ?_
        refine same first ?_ second (List.mem_cons_of_mem item later)
        simp only [List.mem_append, List.mem_cons] at member ⊢
        tauto
      · have next := @ih (item :: seen) fun first member second later => by
          refine same first ?_ second (List.mem_cons_of_mem item later)
          simp only [List.mem_cons, List.mem_append] at member ⊢
          tauto
        rw [List.map_cons, List.map_cons] at next
        rw [next]

/-- Two readings of some items leave out the same ones when they tell the same items apart. -/
theorem distinct_congr {items : List α}
    (same : ∀ first ∈ items, ∀ second ∈ items,
      text first = text second ↔ other first = other second) :
    distinct text items = distinct other items :=
  @distinctFrom_congr α text other [] items (by simpa using same)

end

/-! ## Exchanging a lexeme -/

/-- A lexeme in the place of another. -/
def exchanged (old new lexeme : List Char) : List Char :=
  if lexeme = old then new else lexeme

/-- The words for the fallback are words. -/
theorem fallback_word (options : Options) :
    ∀ c ∈ options.fallback.toList, isWordCharacter c = true := by
  unfold Options.fallback
  split <;> exact List.all_eq_true.mp (by decide)

theorem fallback_ne_empty (options : Options) : options.fallback.toList ≠ [] := by
  unfold Options.fallback
  split <;> decide

theorem exchanged_nil (options : Options) (new : List Char) :
    exchanged options.fallback.toList new [] = [] :=
  if_neg (fallback_ne_empty options).symm

/-- Exchanging the words for the fallback turns the one text into the other. -/
def Exchanges (options other : Options) (text result : String) : Prop :=
  Scans (exchanged options.fallback.toList other.fallback.toList) (fun c => [c]) text.toList
    result.toList

theorem exchanged_of_ne {old new lexeme : List Char} (apart : lexeme ≠ old) :
    exchanged old new lexeme = lexeme :=
  if_neg apart

/-- The words for the fallback are no number texts. -/
theorem not_isNumberText_fallback (options : Options) : ¬ IsNumberText options.fallback := by
  have letter : ∀ word ∈ ["unknown", "any"], word ∉ numberWords ∧ word ≠ "-Infinity" ∧
      word.toList.all isNumeric = false := by decide
  have listed : options.fallback ∈ ["unknown", "any"] := by
    unfold Options.fallback
    split <;> decide
  obtain ⟨noWord, noInfinity, letters⟩ := letter _ listed
  rintro (word | infinity | digits)
  · exact noWord word
  · exact noInfinity infinity
  · rw [List.all_eq_true.mpr digits] at letters
    exact Bool.noConfusion letters

namespace TypeExpr

/-- No leaf but the fallback has the text of a word for the fallback. -/
theorem IsWritable.eq_fallback {leaf : TypeExpr} (writable : leaf.IsWritable) {options : Options}
    (other : Options) (same : leaf.render other.fallback = options.fallback) :
    leaf = .fallback := by
  have noName : ¬ IsName options.fallback := by
    unfold Options.fallback
    split <;> exact not_isName_of_head (by decide)
  have noWord : ∀ flag : Bool, ∀ word ∈ keywords.map (·.2) ++ ["true", "false", "null"],
      word ≠ if flag then "unknown" else "any" := by decide
  match leaf with
  | .fallback => rfl
  | .named name =>
      rw [render] at same
      exact absurd (same ▸ writable) noName
  | .keyword word =>
      rw [render] at same
      exact absurd same (noWord options.useUnknown word (List.mem_append_left _ writable))
  | .literal text =>
      rw [render] at same
      obtain ⟨value, literal⟩ := writable
      rcases literalText?_cases literal with word | ⟨content, rfl⟩ | number
      · exact absurd same (noWord options.useUnknown text (List.mem_append_right _ word))
      · have quoted : isWordCharacter '\'' = true :=
          fallback_word options _ (by rw [← same]; simp [stringLiteral])
        exact Bool.noConfusion quoted
      · exact absurd (same ▸ number) (not_isNumberText_fallback options)

/-- Exchanging the words turns the text of a leaf with one word into that with the other. -/
theorem IsWritable.exchanges {leaf : TypeExpr} (writable : leaf.IsWritable)
    (options other : Options) :
    Exchanges options other (leaf.render options.fallback) (leaf.render other.fallback) := by
  have silent := exchanged_nil options other.fallback.toList
  unfold Exchanges
  have told : exchanged options.fallback.toList other.fallback.toList
      (leaf.render options.fallback).toList = (leaf.render other.fallback).toList := by
    by_cases isFallback : leaf = .fallback
    · rw [isFallback, render, render, exchanged, if_pos rfl]
    · have same : leaf.render options.fallback = leaf.render other.fallback := by
        cases leaf with
        | fallback => exact absurd rfl isFallback
        | named | keyword | literal => rw [render, render]
        | _ => exact writable.elim
      rw [exchanged_of_ne, same]
      exact fun equal => isFallback (writable.eq_fallback options (String.toList_injective equal))
  rw [← told]
  rcases writable.word_or_literal options with word | ⟨content, quoted⟩
  · exact scans_plain silent fun c member => isPlain_of_isWordCharacter (word c member)
  · rw [quoted]
    exact scans_stringLiteral silent content

end TypeExpr

/-- The words are exchanged inside parentheses, which stand around both texts or around none. -/
theorem Exchanges.parenthesize {options other : Options} {text result : String}
    (exchanges : Exchanges options other text result)
    (same : hasOperator text = hasOperator result) :
    Exchanges options other (TypeScript.parenthesize text) (TypeScript.parenthesize result) := by
  unfold TypeScript.parenthesize
  rw [← same]
  split
  · have between := Scans.between (exchanged_nil options other.fallback.toList) exchanges
      "(".toList ")".toList (List.all_eq_true.mp (by decide)) (List.all_eq_true.mp (by decide))
    unfold Exchanges
    simpa using between
  · exact exchanges

/-- The words are exchanged in joined texts. -/
theorem exchanges_intercalate {options other : Options} {separator : String}
    (some : separator.toList ≠ []) (delimits : ∀ c ∈ separator.toList, isDelimiter c = true)
    {texts results : List String}
    (exchanges : List.Forall₂ (Exchanges options other) texts results) :
    Exchanges options other (separator.intercalate texts) (separator.intercalate results) := by
  have scans := scans_intercalate (exchanged_nil options other.fallback.toList) some delimits
    (List.forall₂_map_left_iff.mpr (List.forall₂_map_right_iff.mpr exchanges))
  unfold Exchanges
  rw [String.toList_intercalate, String.toList_intercalate]
  rwa [List.flatMap_singleton'] at scans

namespace TypeExpr

mutual

/-- Exchanging the words turns the text of a type with one word into that with the other. -/
theorem Writable.exchanges (options other : Options) : ∀ type : TypeExpr, type.Writable →
    Exchanges options other (type.render options.fallback) (type.render other.fallback)
  | .fallback, writable => (writable .fallback (by simp)).exchanges options other
  | .named name, writable => (writable (.named name) (by simp)).exchanges options other
  | .keyword word, writable => (writable (.keyword word) (by simp)).exchanges options other
  | .literal text, writable => (writable (.literal text) (by simp)).exchanges options other
  | .array item, writable => by
      have inside : item.Writable := by simpa [Writable] using writable
      have item := (Writable.exchanges options other item inside).parenthesize
        ((inside.hasOperator_render options).trans (inside.hasOperator_render other).symm)
      have scans := Scans.between (exchanged_nil options other.fallback.toList) item [] "[]".toList
        (by simp) (List.all_eq_true.mp (by decide))
      unfold Exchanges
      simpa [render] using scans
  | .union members, writable => by
      have parts := Writable.exchangesMembers options other members
        (by simpa [Writable] using writable)
      rw [render, render]
      exact exchanges_intercalate (by decide) (List.all_eq_true.mp (by decide)) parts
  | .intersection members, writable => by
      have parts := Writable.exchangesMembers options other members
        (by simpa [Writable] using writable)
      rw [render, render]
      exact exchanges_intercalate (by decide) (List.all_eq_true.mp (by decide)) parts

theorem Writable.exchangesMembers (options other : Options) : ∀ members : List TypeExpr,
    (∀ leaf, ∀ member ∈ members, leaf ∈ member.leaves → leaf.IsWritable) →
    List.Forall₂ (Exchanges options other) (renderMembers options.fallback members)
      (renderMembers other.fallback members)
  | [], _ => List.Forall₂.nil
  | member :: rest, leaves => by
      have writable : member.Writable := fun leaf inside =>
        leaves leaf member List.mem_cons_self inside
      have first := (Writable.exchanges options other member writable).parenthesize
        ((writable.hasOperator_render options).trans (writable.hasOperator_render other).symm)
      have others := Writable.exchangesMembers options other rest fun leaf next listed =>
        leaves leaf next (List.mem_cons_of_mem member listed)
      exact List.Forall₂.cons first others

end

/-! ## Types with one text -/

variable {first second : TypeExpr}

theorem Writable.render_eq_of_eq (writable : first.Writable) (writableAlso : second.Writable)
    {options : Options} (other : Options)
    (same : first.render options.fallback = second.render options.fallback) :
    first.render other.fallback = second.render other.fallback := by
  have told := Writable.exchanges options other first writable [] follows_nil
  have toldAlso := Writable.exchanges options other second writableAlso [] follows_nil
  rw [same, toldAlso] at told
  exact String.toList_injective (List.append_cancel_right told).symm

/-- Types have one text with both words for the fallback or with none. -/
theorem Writable.render_eq_iff (writable : first.Writable) (writableAlso : second.Writable)
    (options other : Options) :
    first.render options.fallback = second.render options.fallback ↔
      first.render other.fallback = second.render other.fallback :=
  ⟨writable.render_eq_of_eq writableAlso other, writable.render_eq_of_eq writableAlso options⟩

/-- Repeated members are left out alike with both words for the fallback. -/
theorem distinct_render_eq {members : List TypeExpr}
    (writable : ∀ member ∈ members, member.Writable) (options other : Options) :
    distinct (render options.fallback) members = distinct (render other.fallback) members :=
  distinct_congr fun first listed second listedAlso =>
    (writable first listed).render_eq_iff (writable second listedAlso) options other

theorem unionOf_eq {members : List TypeExpr} (writable : ∀ member ∈ members, member.Writable)
    (options other : Options) :
    unionOf options.fallback members = unionOf other.fallback members := by
  rw [unionOf, unionOf, distinct_render_eq writable options other]

theorem intersectionOf_eq {members : List TypeExpr}
    (writable : ∀ member ∈ members, member.Writable) (options other : Options) :
    intersectionOf options.fallback members = intersectionOf other.fallback members := by
  rw [intersectionOf, intersectionOf, distinct_render_eq writable options other]

theorem ofValues_eq (values : List Value) (options other : Options) :
    ofValues options.fallback values = ofValues other.fallback values :=
  unionOf_eq (List.forall_mem_map.mpr fun value _ => writable_ofValue value) options other

end TypeExpr

end AsyncTypes.TypeScript
