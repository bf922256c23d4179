import AsyncTypes.Number.Integer

/-!
# Numerals made of digits

A run of digits has neither blanks nor a sign nor underscores.  So a liberal reading of it is
a plain one, and every one of its characters counts as a digit when it has a value at all.
-/

namespace AsyncTypes

/-! ## Texts without separators, blanks and signs -/

theorem Text.split_of_notMem {separator : Char} {text : List Char} (absent : separator ∉ text) :
    Text.split separator text = [text] := by
  induction text with
  | nil => rfl
  | cons c rest ih =>
      rw [List.mem_cons, not_or] at absent
      have other : (c == separator) = false := beq_eq_false_iff_ne.mpr (Ne.symm absent.1)
      simp [split, other, ih absent.2, extendFirst]

namespace Unicode

/-- No digit is a blank. -/
theorem isBlank_of_isDigit {c : Char} (digit : isDigit c = true) : isBlank c = false := by
  by_cases ascii : c.toNat < 0x80
  · simp only [isDigit, isBlank, hasProperty, ascii, if_true] at digit ⊢
    simp only [Char.isDigit, Bool.and_eq_true, decide_eq_true_eq, ge_iff_le,
      UInt32.le_iff_toNat_le] at digit
    have low : 48 ≤ c.toNat ∧ c.toNat ≤ 57 := digit
    simp only [isAsciiBlank, Bool.or_eq_false_iff, Bool.and_eq_false_iff, decide_eq_false_iff_not]
    omega
  · simp only [isDigit, isBlank, hasProperty, ascii, if_false] at digit ⊢
    obtain ⟨digits, listed, low, high⟩ := inRanges_iff.mp digit
    have apart : ∀ digits ∈ digitRanges, ∀ blanks ∈ blankRanges,
        digits.2 < blanks.1 ∨ blanks.2 < digits.1 := by decide
    rw [Bool.eq_false_iff, Ne, inRanges_iff]
    rintro ⟨blanks, member, blankLow, blankHigh⟩
    have separate := apart digits listed blanks member
    omega

theorem trim_of_forall {text : List Char} (none : ∀ c ∈ text, isBlank c = false) :
    trim text = text := by
  have start : ∀ {text : List Char}, (∀ c ∈ text, isBlank c = false) → trimStart text = text := by
    intro text none
    cases text with
    | nil => rfl
    | cons c rest => simp [trimStart, none c List.mem_cons_self]
  have reversed : trimStart text.reverse = text.reverse :=
    start fun c listed => none c (List.mem_reverse.mp listed)
  rw [trim, start none, trimEnd]
  exact (congrArg List.reverse reversed).trans (List.reverse_reverse text)

end Unicode

namespace Number

/-! ## Readings of a run of digits -/

/-- A numeral without underscores is read only when all its characters have a value. -/
theorem isSome_digitValue?_of_natural? {base number : Nat} {text : List Char}
    (plain : '_' ∉ text) (read : natural? base text = some number) :
    ∀ c ∈ text, (digitValue? c).isSome = true := by
  have chars : ∀ (text : List Char) (start number : Nat),
      text.foldlM (fun sum c => (digitIn? base c).map (sum * base + ·)) start = some number →
        ∀ c ∈ text, (digitValue? c).isSome = true := by
    intro text
    induction text with
    | nil => exact fun _ _ _ c listed => absurd listed List.not_mem_nil
    | cons first rest ih =>
        intro start number read c listed
        rw [List.foldlM_cons] at read
        obtain ⟨next, here, later⟩ := Option.bind_eq_some_iff.mp read
        obtain ⟨value, valued, -⟩ := Option.map_eq_some_iff.mp here
        rcases List.mem_cons.mp listed with rfl | further
        · rw [digitIn?, Option.filter_eq_some_iff] at valued
          rw [valued.1]
          rfl
        · exact ih next number later c further
  rw [natural?, Text.split_of_notMem plain, List.foldlM_cons] at read
  obtain ⟨last, here, -⟩ := Option.bind_eq_some_iff.mp read
  split at here
  · exact nomatch here
  · exact chars text 0 last here

variable {text : List Char}

theorem underscore_notMem (digits : ∀ c ∈ text, Unicode.isDigit c = true) : '_' ∉ text := by
  intro listed
  exact absurd (digits '_' listed) (by decide)

/-- A run of digits is read as an integer exactly when it is read as a natural number. -/
theorem integer?_of_digits (digits : ∀ c ∈ text, Unicode.isDigit c = true) :
    integer? 10 text = (natural? 10 text).map fun number => (number : Int) := by
  have trimmed : Unicode.trim text = text :=
    Unicode.trim_of_forall fun c listed => Unicode.isBlank_of_isDigit (digits c listed)
  have unsigned : takeSign text = (false, text) := by
    unfold takeSign
    split
    · exact absurd (digits '-' List.mem_cons_self) (by decide)
    · exact absurd (digits '+' List.mem_cons_self) (by decide)
    · rfl
  have unmarked : dropMarker 10 text = text := by
    unfold dropMarker
    split
    · simp [marker?]
    · rfl
  simp [integer?, trimmed, unsigned, unmarked]

/-- All characters of a run of digits that is read count as digits. -/
theorem countDigits_of_natural? {number : Nat} (digits : ∀ c ∈ text, Unicode.isDigit c = true)
    (read : natural? 10 text = some number) : countDigits text = text.length := by
  have valued := isSome_digitValue?_of_natural? (underscore_notMem digits) read
  rw [countDigits, List.filter_eq_self.mpr valued]

end Number

end AsyncTypes
