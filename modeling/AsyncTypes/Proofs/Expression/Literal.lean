import AsyncTypes.Proofs.Expression.Leaf

/-!
# Leaves that are no names

The fallback, the keywords and the literals of texts, truth values and `null` never have
the shape of a name.  Among the numbers, only those that have no digits are written as
words of that shape.
-/

namespace AsyncTypes.TypeScript

/-! ## Numbers -/

/-- The number words that have the shape of a name. -/
def numberWords : List String :=
  ["NaN", "Infinity"]

/-- A character of a number that is written with digits. -/
def isNumeric (c : Char) : Bool :=
  c.isDigit || ['.', 'e', '+', '-'].contains c

/-- The text of a number: digits, points, signs and exponents, or the word for a number
that has no digits. -/
def IsNumberText (text : String) : Prop :=
  text ∈ numberWords ∨ text = "-Infinity" ∨ ∀ c ∈ text.toList, isNumeric c = true

theorem isNumeric_of_mem_digitsOf {value : Nat} {c : Char}
    (member : c ∈ Number.digitsOf value) : isNumeric c = true := by
  have digit := Nat.isDigit_of_mem_toDigits (by decide) (by decide) member
  simp [isNumeric, digit]

theorem isNumeric_of_mem_zeros {count : Nat} {c : Char} (member : c ∈ Number.zeros count) :
    isNumeric c = true := by
  rw [List.eq_of_mem_replicate member]
  decide

theorem isNumberText_int (value : Int) : IsNumberText (toString value) := by
  have digits : ∀ (number : Nat), ∀ c ∈ number.repr.toList, isNumeric c = true := by
    intro number c member
    rw [Nat.toList_repr] at member
    exact isNumeric_of_mem_digitsOf member
  refine Or.inr (Or.inr ?_)
  intro c member
  cases value with
  | ofNat number => exact digits number c (by simpa [Int.toString_eq_repr, Int.repr] using member)
  | negSucc number =>
      have split : c = '-' ∨ c ∈ (number + 1).repr.toList := by
        simpa [Int.toString_eq_repr, Int.repr] using member
      rcases split with rfl | digit
      · decide
      · exact digits _ c digit

/-- The digits of a numeral are digits. -/
def Numeral.HasDigits (numeral : Number.Numeral) : Prop :=
  ∀ c ∈ numeral.digits, isNumeric c = true

theorem hasDigits_shortest (x : Number.Binary64) : Numeral.HasDigits x.shortest := by
  intro c member
  unfold Number.Binary64.shortest at member
  simp only at member
  split at member
  · next mantissa count found =>
      have inside := (List.dropWhile_suffix _).subset (List.mem_reverse.mp member)
      exact isNumeric_of_mem_digitsOf (List.mem_reverse.mp inside)
  · simp at member

theorem isNumeric_of_mem_joined {parts : List Char × List Char} {c : Char}
    (whole : ∀ d ∈ parts.1, isNumeric d = true) (fraction : ∀ d ∈ parts.2, isNumeric d = true)
    (member : c ∈ Number.Numeral.joined parts) : isNumeric c = true := by
  unfold Number.Numeral.joined at member
  split at member
  · exact whole c member
  · rcases List.mem_append.mp member with before | after
    · exact whole c before
    · rcases List.mem_cons.mp after with rfl | digit
      · decide
      · exact fraction c digit

theorem isNumeric_of_mem_exponentText {exponent : Int} {c : Char}
    (member : c ∈ Number.exponentText exponent) : isNumeric c = true := by
  unfold Number.exponentText at member
  rcases List.mem_cons.mp member with sign | rest
  · rw [sign]
    split <;> decide
  · rcases List.mem_append.mp rest with padding | digit
    · exact isNumeric_of_mem_zeros padding
    · exact isNumeric_of_mem_digitsOf digit

theorem isNumeric_of_mem_scientific {numeral : Number.Numeral} {c : Char}
    (digits : Numeral.HasDigits numeral) (member : c ∈ numeral.scientific) :
    isNumeric c = true := by
  unfold Number.Numeral.scientific at member
  rcases List.mem_append.mp member with front | back
  · exact isNumeric_of_mem_joined (fun d inside => digits d (List.mem_of_mem_take inside))
      (fun d inside => digits d (List.mem_of_mem_drop inside)) front
  · rcases List.mem_cons.mp back with rfl | exponent
    · decide
    · exact isNumeric_of_mem_exponentText exponent

theorem isNumeric_of_mem_positional {numeral : Number.Numeral} {c : Char}
    (digits : Numeral.HasDigits numeral)
    (member : c ∈ numeral.positional.1 ∨ c ∈ numeral.positional.2) : isNumeric c = true := by
  unfold Number.Numeral.positional at member
  split at member
  · simp only [List.mem_singleton, List.mem_append] at member
    rcases member with rfl | zero | digit
    · decide
    · exact isNumeric_of_mem_zeros zero
    · exact digits c digit
  · simp only [List.mem_append] at member
    rcases member with (digit | zero) | digit
    · exact digits c (List.mem_of_mem_take digit)
    · exact isNumeric_of_mem_zeros zero
    · exact digits c (List.mem_of_mem_drop digit)

theorem isNumeric_of_mem_signText {x : Number.Binary64} {c : Char}
    (member : c ∈ x.signText) : isNumeric c = true := by
  unfold Number.Binary64.signText at member
  split at member
  · rw [List.mem_singleton.mp member]
    decide
  · simp at member

theorem isNumberText_float (x : Number.Binary64) :
    IsNumberText (x.shortestText Number.Binary64.jsonNames) := by
  unfold Number.Binary64.shortestText
  split
  · exact Or.inl (by decide)
  · by_cases infinite : x.isInfinite = true
    · simp only [infinite, if_true, Number.Binary64.signText]
      split
      · exact Or.inr (Or.inl (by decide))
      · exact Or.inl (by decide)
    · refine Or.inr (Or.inr ?_)
      intro c member
      simp only [infinite, String.toList_ofList] at member
      rcases List.mem_append.mp member with sign | body
      · exact isNumeric_of_mem_signText sign
      · simp only [Bool.false_eq_true, if_false] at body
        split at body
        · exact List.all_eq_true.mp (by decide : "0.0".toList.all isNumeric = true) c body
        · have digits := hasDigits_shortest x
          split at body
          · exact isNumeric_of_mem_scientific digits body
          · apply isNumeric_of_mem_joined _ _ body
            · exact fun d inside => isNumeric_of_mem_positional digits (Or.inl inside)
            · intro d inside
              split at inside
              · rw [List.mem_singleton.mp inside]
                decide
              · exact isNumeric_of_mem_positional digits (Or.inr inside)

/-! ## Names and other texts -/

theorem toNat_lt_of_isNumeric {c : Char} (numeric : isNumeric c = true) : c.toNat < 0x80 := by
  rcases Bool.or_eq_true_iff.mp numeric with digit | mark
  · simp only [Char.isDigit, Bool.and_eq_true, decide_eq_true_eq, UInt32.le_iff_toNat_le] at digit
    have bound : c.toNat ≤ '9'.toNat := digit.2
    exact Nat.lt_of_le_of_lt bound (by decide)
  · simp only [List.contains_iff_mem, List.mem_cons, List.not_mem_nil, or_false] at mark
    rcases mark with rfl | rfl | rfl | rfl <;> decide

theorem isNameStart_of_isNumeric {c : Char} (numeric : isNumeric c = true) :
    Unicode.isNameStart c = false := by
  rcases Bool.or_eq_true_iff.mp numeric with digit | mark
  · have ascii := toNat_lt_of_isNumeric numeric
    simp [Unicode.isNameStart, Unicode.isDigit, Unicode.hasProperty, ascii, digit]
  · simp only [List.contains_iff_mem, List.mem_cons, List.not_mem_nil, or_false] at mark
    rcases mark with rfl | rfl | rfl | rfl <;> decide

/-- A text whose first character cannot start a name is no name. -/
theorem not_isName_of_head {text : String}
    (other : text.toList.head?.any Unicode.isNameStart = false) : ¬ IsName text := by
  rintro ⟨first, rest, spelled, start, -⟩
  rw [spelled, List.head?_cons, Option.any_some, start] at other
  exact Bool.noConfusion other

/-- The only number texts that are names are the number words. -/
theorem mem_numberWords_of_isName {text : String} (number : IsNumberText text)
    (name : IsName text) : text ∈ numberWords := by
  rcases number with word | rfl | digits
  · exact word
  · exact absurd name (not_isName_of_head (by decide))
  · exfalso
    obtain ⟨first, rest, spelled, start, -⟩ := name
    rw [isNameStart_of_isNumeric (digits first (by simp [spelled]))] at start
    exact Bool.noConfusion start

theorem not_isName_stringLiteral (text : String) : ¬ IsName (stringLiteral text) :=
  not_isName_of_head (by simp [stringLiteral]; decide)

namespace TypeExpr

/-- The text of a literal is one of the words for truth values and `null`, a literal in
quotes, or the text of a number. -/
theorem literalText?_cases {value : Value} {text : String}
    (literal : literalText? value = some text) :
    text ∈ ["true", "false", "null"] ∨ (∃ content, text = stringLiteral content) ∨
      IsNumberText text := by
  unfold literalText? at literal
  split at literal
  · next flag =>
      rw [← Option.some.inj literal]
      cases flag <;> exact Or.inl (by decide)
  · rw [← Option.some.inj literal]
    exact Or.inl (by decide)
  · next content =>
      exact Or.inr (Or.inl ⟨content, (Option.some.inj literal).symm⟩)
  · next number =>
      rw [← Option.some.inj literal]
      exact Or.inr (Or.inr (isNumberText_int number))
  · next number =>
      rw [← Option.some.inj literal]
      exact Or.inr (Or.inr (isNumberText_float number))
  · simp at literal

/-- A leaf with the text of a name is that name, or a number that is written as a word. -/
theorem IsWritable.eq_named {options : Options} {leaf : TypeExpr} (writable : leaf.IsWritable)
    (name : IsName (leaf.render options.fallback)) :
    leaf = .named (leaf.render options.fallback) ∨
      (leaf.IsValueLiteral ∧ leaf.render options.fallback ∈ numberWords) := by
  match leaf with
  | .fallback =>
      exfalso
      simp only [render, Options.fallback] at name
      split at name
      · exact not_isName_of_head (by decide) name
      · exact not_isName_of_head (by decide) name
  | .named _ => exact Or.inl (by simp only [render])
  | .keyword word =>
      simp only [render] at name
      have small : ∀ word ∈ keywords.map (·.2),
          word.toList.head?.any Unicode.isNameStart = false := by decide
      exact absurd name (not_isName_of_head (small word writable))
  | .literal text =>
      simp only [render] at name ⊢
      obtain ⟨value, literal⟩ := writable
      have small : ∀ word ∈ ["true", "false", "null"],
          word.toList.head?.any Unicode.isNameStart = false := by decide
      have value : text ∉ ["true", "false", "null"] := fun listed =>
        not_isName_of_head (small text listed) name
      rcases literalText?_cases literal with word | ⟨content, rfl⟩ | number
      · exact absurd word value
      · exact absurd name (not_isName_stringLiteral content)
      · exact Or.inr ⟨value, mem_numberWords_of_isName number name⟩

/-- In a type that can be written, a name that stands outside the literals of values is
the name of a declaration. -/
theorem Writable.mentions_of_spells {options : Options} {type : TypeExpr} {word : String}
    (writable : type.Writable) (name : IsName word) (spells : type.Spells options.fallback word) :
    type.Mentions word := by
  obtain ⟨leaf, inside, other, rfl⟩ := spells
  rcases (writable leaf inside).eq_named name with same | ⟨literal, -⟩
  · rw [Mentions, ← same]
    exact inside
  · exact absurd literal other

end TypeExpr

end AsyncTypes.TypeScript
