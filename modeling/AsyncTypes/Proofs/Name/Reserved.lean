import AsyncTypes.Proofs.Name.Shape

/-!
# Endings that no reserved word has

A name spells a reserved word in any spelling of upper and lower case.  The lower case of a text
depends on its context, but an ASCII ending is lowered by itself.  So a name with a number or with
one of the fixed words after it is never reserved, and neither is a declaration name.
-/

namespace AsyncTypes

namespace Unicode

/-- Characters of ASCII are lowered one by one. -/
theorem lowerFrom_ascii (before : List Char) {text : List Char}
    (ascii : ∀ c ∈ text, c.toNat < 0x80) : lowerFrom before text = text.map Char.toLower := by
  induction text generalizing before with
  | nil => rfl
  | cons c rest ih =>
      rw [List.forall_mem_cons] at ascii
      have noSigma : (c == 'Σ') = false := by
        rw [beq_eq_false_iff_ne]
        rintro rfl
        exact absurd ascii.1 (by decide)
      simp only [lowerFrom, noSigma, lower, ascii.1, ih (c :: before) ascii.2]
      rfl

/-- An ASCII ending is lowered by itself, whatever stands before it. -/
theorem exists_lowerFrom_append (before text : List Char) {ending : List Char}
    (ascii : ∀ c ∈ ending, c.toNat < 0x80) :
    ∃ start, lowerFrom before (text ++ ending) = start ++ ending.map Char.toLower := by
  induction text generalizing before with
  | nil => exact ⟨[], lowerFrom_ascii before ascii⟩
  | cons c rest ih =>
      obtain ⟨start, lowered⟩ := ih (c :: before)
      simp only [List.cons_append, lowerFrom, lowered, ← List.append_assoc]
      exact ⟨_, rfl⟩

end Unicode

namespace TypeScript

/-! ## Endings -/

/-- An ASCII text that is the end of no reserved word, in any spelling of upper and lower
case. -/
def EndsNoWord (ending : String) : Prop :=
  (∀ c ∈ ending.toList, c.toNat < 0x80) ∧
    ∀ word ∈ reservedWords, ¬ ending.toList.map Char.toLower <:+ word.toList

instance (ending : String) : Decidable (EndsNoWord ending) :=
  decidable_of_iff
    ((ending.toList.all fun c => decide (c.toNat < 0x80)) = true ∧
      (reservedWords.all fun word =>
        !(ending.toList.map Char.toLower).isSuffixOf word.toList) = true)
    (by simp [EndsNoWord, List.all_eq_true, ← List.isSuffixOf_iff_suffix])

/-- No name with such an ending is reserved. -/
theorem EndsNoWord.isReserved_append {ending : String} (ends : EndsNoWord ending) (name : String) :
    isReserved (name ++ ending) = false := by
  apply Bool.eq_false_iff.mpr
  intro reserved
  have listed := List.contains_iff_mem.mp reserved
  apply ends.2 _ listed
  obtain ⟨start, lowered⟩ := Unicode.exists_lowerFrom_append [] name.toList ends.1
  rw [String.toList_append, Unicode.lowerText, lowered, String.toList_ofList]
  exact List.suffix_append start _

/-- Reserved words are made of lower-case letters. -/
theorem isLower_of_mem_reservedWords :
    ∀ word ∈ reservedWords, ∀ c ∈ word.toList, c.isLower = true := by
  have all : (reservedWords.all fun word => word.toList.all Char.isLower) = true := by decide
  intro word listed c inside
  exact List.all_eq_true.mp (List.all_eq_true.mp all word listed) c inside

/-- A character that is lowered to no lower-case letter is in no end of a reserved word. -/
theorem endsNoWord_of_mem {ending : String} (ascii : ∀ c ∈ ending.toList, c.toNat < 0x80)
    {c : Char} (member : c ∈ ending.toList) (other : c.toLower.isLower = false) :
    EndsNoWord ending := by
  refine ⟨ascii, fun word listed suffix => ?_⟩
  have inside : c.toLower ∈ word.toList := suffix.subset (List.mem_map_of_mem member)
  rw [isLower_of_mem_reservedWords word listed _ inside] at other
  exact nomatch other

theorem toNat_lt_of_isDigit {c : Char} (digit : c.isDigit = true) : c.toNat < 0x80 := by
  have upTo : c.toNat ≤ '9'.toNat :=
    UInt32.le_iff_toNat_le.mp (of_decide_eq_true (Bool.and_eq_true_iff.mp digit).2)
  have bound : '9'.toNat = 0x39 := rfl
  omega

/-- A digit has no other case, and it is no letter. -/
theorem isLower_toLower_of_isDigit {c : Char} (digit : c.isDigit = true) :
    c.toLower.isLower = false :=
  Unicode.forall_ascii (fun c => c.isDigit = true → c.toLower.isLower = false) (by decide)
    (toNat_lt_of_isDigit digit) digit

theorem endsNoWord_number (number : Nat) : EndsNoWord (toString number) := by
  have digits : ∀ c ∈ (toString number).toList, c.isDigit = true := by
    intro c member
    rw [Nat.toString_eq_repr, Nat.toList_repr] at member
    exact Nat.isDigit_of_mem_toDigits (by decide) (by decide) member
  have some : (toString number).toList ≠ [] := by
    rw [Nat.toString_eq_repr, Nat.toList_repr]
    exact Nat.toDigits_ne_nil
  have first := digits _ (List.head_mem some)
  exact endsNoWord_of_mem (fun c member => toNat_lt_of_isDigit (digits c member))
    (List.head_mem some) (isLower_toLower_of_isDigit first)

/-! ## Names -/

/-- A declaration name is not reserved. -/
theorem isReserved_declarationName (key ending : String) :
    isReserved (declarationName key ending) = false := by
  simp only [declarationName]
  split
  · decide
  · unfold guardReserved
    split
    · have underscore : EndsNoWord "_" := by decide
      exact underscore.isReserved_append _
    · next free => exact Bool.eq_false_iff.mpr free

/-- A free name that is reserved is the wanted name. -/
theorem freeName_of_isReserved {taken : List String} {wanted : String}
    (reserved : isReserved (freeName taken wanted) = true) : freeName taken wanted = wanted := by
  rcases freeName_eq taken wanted with kept | ⟨number, numbered⟩
  · exact kept
  · rw [numbered, (endsNoWord_number number).isReserved_append] at reserved
    exact nomatch reserved

/-- The names for keys are not reserved. -/
theorem isReserved_of_mem_nameKeys {used keys : List String} {entry : String × String}
    (member : entry ∈ (nameKeys used keys).1) : isReserved entry.2 = false := by
  induction keys generalizing used with
  | nil => simp [nameKeys] at member
  | cons key rest ih =>
      simp only [nameKeys, List.mem_cons] at member
      rcases member with rfl | later
      · apply Bool.eq_false_iff.mpr
        intro reserved
        rw [freeName_of_isReserved reserved, isReserved_declarationName] at reserved
        exact Bool.false_ne_true reserved
      · exact ih later

end TypeScript

end AsyncTypes
