import AsyncTypes.Number.Real
import AsyncTypes.Number.Refusal
import AsyncTypes.Proofs.Name.Shape
import AsyncTypes.Proofs.Number.Digits

/-!
# Numerals in ASCII digits

The readers of numerals take digits of all scripts, blanks around them, signs, underscores and
marks of a base.  Of a text that is known to have ASCII digits only they take all of it, so that
it can be said exactly when they refuse it.  A newline at its end is a blank to them.
-/

namespace AsyncTypes

namespace Json

/-- A hexadecimal digit is below sixteen. -/
theorem hexValue?_lt {c : Char} {value : Nat} (read : hexValue? c = some value) :
    value < 16 := by
  simp only [hexValue?, Bool.and_eq_true, decide_eq_true_eq, Char.le_def,
    UInt32.le_iff_toNat_le] at read
  split at read
  · next digit =>
      cases read
      exact Nat.lt_of_le_of_lt (Nat.sub_le_sub_right digit.2 _) (by decide)
  · split at read
    · next letter =>
        cases read
        exact Nat.add_lt_add_right (Nat.lt_of_le_of_lt (Nat.sub_le_sub_right letter.2 _)
          (show _ < 6 by decide)) 10
    · split at read
      · next letter =>
          cases read
          exact Nat.add_lt_add_right (Nat.lt_of_le_of_lt (Nat.sub_le_sub_right letter.2 _)
            (show _ < 6 by decide)) 10
      · cases read

end Json

/-- At most the newline that ends a line. -/
def IsLineEnd (ending : List Char) : Prop :=
  ending = [] ∨ ending = ['\n']

namespace Unicode

variable {text ending : List Char}

/-- Trimming takes the end of a line away. -/
theorem trim_append (none : ∀ c ∈ text, isBlank c = false) (ends : IsLineEnd ending) :
    trim (text ++ ending) = text := by
  have blank : ending.reverse.dropWhile isBlank = [] := by
    rcases ends with rfl | rfl
    · rfl
    · decide
  have last : text.reverse.dropWhile isBlank = text.reverse := by
    cases reversed : text.reverse with
    | nil => rfl
    | cons c rest =>
        have listed : c ∈ text := List.mem_reverse.mp (reversed ▸ List.mem_cons_self)
        simp [none c listed]
  have trimmed : trimEnd (text ++ ending) = text := by
    rw [trimEnd, List.reverse_append, List.dropWhile_append, blank, List.isEmpty_nil, if_pos rfl,
      last, List.reverse_reverse]
  cases text with
  | nil =>
      rcases ends with rfl | rfl
      · rfl
      · decide
  | cons c rest =>
      have kept : trimStart (c :: rest ++ ending) = c :: rest ++ ending := by
        simp [trimStart, none c List.mem_cons_self]
      rw [trim, kept, trimmed]

end Unicode

namespace Number

/-- A digit of ASCII that is allowed in a base of at most sixteen. -/
def IsDigitIn (base : Nat) (c : Char) : Prop :=
  ∃ value, Json.hexValue? c = some value ∧ value < base

variable {base : Nat} {c : Char} {text ending : List Char}

theorem toNat_lt_of_isDigitIn (digit : IsDigitIn base c) : c.toNat < 0x80 := by
  obtain ⟨value, read, -⟩ := digit
  simp only [Json.hexValue?, Bool.and_eq_true, decide_eq_true_eq, Char.le_def,
    UInt32.le_iff_toNat_le] at read
  split at read
  · next inside => exact Nat.lt_of_le_of_lt inside.2 (by decide)
  · split at read
    · next inside => exact Nat.lt_of_le_of_lt inside.2 (by decide)
    · split at read
      · next inside => exact Nat.lt_of_le_of_lt inside.2 (by decide)
      · cases read

theorem isDigitIn_ten (digit : c.isDigit = true) : IsDigitIn 10 c := by
  have inside : '0'.toNat ≤ c.toNat ∧ c.toNat ≤ '9'.toNat := by
    simpa [Char.isDigit, UInt32.le_iff_toNat_le] using digit
  have check := Unicode.forall_ascii
    (fun c => c.isDigit = true → (Json.hexValue? c).any (· < 10) = true)
    (by decide +kernel) (Nat.lt_of_le_of_lt inside.2 (by decide)) digit
  simpa [IsDigitIn, Option.any_eq_true] using check

/-- What digits are and are not. -/
theorem digit_properties (digit : IsDigitIn base c) :
    digitValue? c = Json.hexValue? c ∧ Unicode.isBlank c = false ∧
      c ∉ ['_', '-', '+', ':', '.'] ∧ c.toLower ≠ 'o' ∧ c.toLower ≠ 'x' := by
  obtain ⟨value, read, below⟩ := digit
  exact Unicode.forall_ascii (fun c => (Json.hexValue? c).isSome = true →
    digitValue? c = Json.hexValue? c ∧ Unicode.isBlank c = false ∧
      c ∉ ['_', '-', '+', ':', '.'] ∧ c.toLower ≠ 'o' ∧ c.toLower ≠ 'x') (by decide +kernel)
    (toNat_lt_of_isDigitIn ⟨value, read, below⟩) (by rw [read]; rfl)

theorem digitIn?_of_isDigitIn (digit : IsDigitIn base c) : (digitIn? base c).isSome = true := by
  obtain ⟨same, -⟩ := digit_properties digit
  obtain ⟨value, read, below⟩ := digit
  rw [digitIn?, same, read, Option.filter_some, if_pos (by simpa using below)]
  rfl

/-- Digits spell a natural number, unless there are none. -/
theorem isSome_natural?_iff (digits : ∀ c ∈ text, IsDigitIn base c) :
    (natural? base text).isSome = true ↔ text ≠ [] := by
  have chars : ∀ (text : List Char) (start : Nat), (∀ c ∈ text, IsDigitIn base c) →
      (text.foldlM (fun sum c => (digitIn? base c).map (sum * base + ·)) start).isSome = true := by
    intro text
    induction text with
    | nil => exact fun _ _ => rfl
    | cons c rest ih =>
        intro start digits
        obtain ⟨value, read⟩ := Option.isSome_iff_exists.mp
          (digitIn?_of_isDigitIn (digits c List.mem_cons_self))
        rw [List.foldlM_cons, read]
        exact ih _ fun d listed => digits d (List.mem_cons_of_mem _ listed)
  have whole : '_' ∉ text := fun listed =>
    (digit_properties (digits _ listed)).2.2.1 (by decide)
  rw [natural?, Text.split_of_notMem whole]
  cases text with
  | nil => simp
  | cons c rest =>
      have read := chars (c :: rest) 0 digits
      simpa using read

/-- A text that starts with no sign is taken as it is. -/
theorem takeSign_of_head? (unsigned : ∀ c ∈ text.head?, c ≠ '-' ∧ c ≠ '+') :
    takeSign text = (false, text) := by
  unfold takeSign
  split
  · exact absurd rfl (unsigned '-' rfl).1
  · exact absurd rfl (unsigned '+' rfl).2
  · rfl

theorem not_sign_of_isDigitIn (digit : IsDigitIn base c) : c ≠ '-' ∧ c ≠ '+' := by
  have other := (digit_properties digit).2.2.1
  simp only [List.mem_cons, not_or] at other
  exact ⟨other.2.1, other.2.2.1⟩

theorem not_bar_of_isDigitIn (digit : IsDigitIn base c) : c ≠ '_' := by
  have other := (digit_properties digit).2.2.1
  simp only [List.mem_cons, not_or] at other
  exact other.1

theorem takeSign_of_digits (digits : ∀ c ∈ text, IsDigitIn base c) :
    takeSign text = (false, text) :=
  takeSign_of_head? fun c first => not_sign_of_isDigitIn (digits c (List.mem_of_mem_head? first))

theorem dropMarker_of_digits (digits : ∀ c ∈ text, IsDigitIn base c) :
    dropMarker base text = text := by
  unfold dropMarker
  split
  · next letter rest =>
      have digit := digits letter (List.mem_cons_of_mem _ List.mem_cons_self)
      have unmarked : ((marker? base).any fun mark => mark == letter.toLower) = false := by
        obtain ⟨-, -, -, noOctal, noHex⟩ := digit_properties digit
        unfold marker?
        split
        · obtain ⟨value, read, below⟩ := digit
          have noBinary := Unicode.forall_ascii
            (fun c => (Json.hexValue? c).any (· < 2) = true → 'b' ≠ c.toLower) (by decide +kernel)
            (toNat_lt_of_isDigitIn ⟨value, read, below⟩) (by simpa [read] using below)
          simpa using noBinary
        · simpa using Ne.symm noOctal
        · simpa using Ne.symm noHex
        · rfl
      rw [unmarked]
      rfl
  · rfl

/-- Digits at the end of a line spell an integer, unless there are none. -/
theorem isSome_integer?_iff (digits : ∀ c ∈ text, IsDigitIn base c) (ends : IsLineEnd ending) :
    (integer? base (text ++ ending)).isSome = true ↔ text ≠ [] := by
  have trimmed :=
    Unicode.trim_append (fun c listed => (digit_properties (digits c listed)).2.1) ends
  rw [integer?, trimmed, takeSign_of_digits digits]
  dsimp only
  rw [dropMarker_of_digits digits, ← isSome_natural?_iff digits]
  cases natural? base text with
  | none => rfl
  | some value => rfl

theorem countDigits_append (digits : ∀ c ∈ text, IsDigitIn base c) (ends : IsLineEnd ending) :
    countDigits (text ++ ending) = text.length := by
  have valued : ∀ c ∈ text, (digitValue? c).isSome = true := by
    intro c listed
    obtain ⟨value, read, below⟩ := digits c listed
    rw [(digit_properties ⟨value, read, below⟩).1, read]
    rfl
  have none : ending.filter (fun c => (digitValue? c).isSome) = [] := by
    rcases ends with rfl | rfl
    · rfl
    · decide
  rw [countDigits, List.filter_append, none, List.append_nil, List.filter_eq_self.mpr valued]

/-- Digits at the end of a line are refused when there are none, and in base ten when there are
too many. -/
theorem readInteger_refused_iff (digits : ∀ c ∈ text, IsDigitIn base c)
    (ends : IsLineEnd ending) :
    (∃ message, readInteger base (text ++ ending) = .error message) ↔
      text = [] ∨ (base = 10 ∧ Json.maxIntegerDigits < text.length) := by
  rw [readInteger, countDigits_append digits ends]
  have spelled := isSome_integer?_iff digits ends
  by_cases long : base = 10 ∧ Json.maxIntegerDigits < text.length
  · simp [long]
  · rw [if_neg (by simpa using long)]
    cases read : integer? base (text ++ ending) with
    | none =>
        rw [read] at spelled
        simp_all
    | some value =>
        rw [read] at spelled
        simp_all

/-! ## Decimal numerals -/

/-- Nothing, or a point with digits behind it. -/
def IsFraction (fraction : List Char) : Prop :=
  fraction = [] ∨ ∃ digits, fraction = '.' :: digits ∧ ∀ c ∈ digits, IsDigitIn 10 c

/-- Nothing, or an exponent with a sign. -/
def IsExponent (exponent : List Char) : Prop :=
  exponent = [] ∨ ∃ sign digits, exponent = 'e' :: sign :: digits ∧ sign ∈ ['-', '+'] ∧
    digits ≠ [] ∧ ∀ c ∈ digits, IsDigitIn 10 c

/-- A decimal numeral without a sign: digits, at least one of them before or behind the point,
and perhaps an exponent. -/
def IsDecimal (text : List Char) : Prop :=
  ∃ whole fraction exponent, text = whole ++ fraction ++ exponent ∧
    (∀ c ∈ whole, IsDigitIn 10 c) ∧ IsFraction fraction ∧ IsExponent exponent ∧
    (whole ≠ [] ∨ 1 < fraction.length)

/-- The characters of a fraction are digits, but for its point. -/
theorem IsFraction.characters {fraction : List Char} (shape : IsFraction fraction) :
    ∀ c ∈ fraction, IsDigitIn 10 c ∨ c = '.' := by
  rcases shape with rfl | ⟨digits, rfl, allowed⟩
  · exact fun c listed => absurd listed List.not_mem_nil
  · intro c listed
    rcases List.mem_cons.mp listed with rfl | inside
    · exact .inr rfl
    · exact .inl (allowed c inside)

/-- The characters of a decimal numeral. -/
theorem IsDecimal.characters (decimal : IsDecimal text) :
    ∀ c ∈ text, IsDigitIn 10 c ∨ c ∈ ['.', 'e', '-', '+'] := by
  obtain ⟨whole, fraction, exponent, rfl, digits, point, power, -⟩ := decimal
  intro c listed
  rcases List.mem_append.mp listed with inMantissa | inExponent
  · rcases List.mem_append.mp inMantissa with inWhole | inFraction
    · exact .inl (digits c inWhole)
    · refine (point.characters c inFraction).imp_right ?_
      rintro rfl
      decide
  · rcases power with rfl | ⟨sign, after, rfl, signed, -, allowed⟩
    · exact absurd inExponent List.not_mem_nil
    · rcases List.mem_cons.mp inExponent with rfl | inside
      · exact .inr (by decide)
      · rcases List.mem_cons.mp inside with rfl | inside
        · exact .inr (List.mem_cons_of_mem _ (List.mem_cons_of_mem _ signed))
        · exact .inl (allowed c inside)

theorem exists_optionalDigits? (digits : ∀ c ∈ text, IsDigitIn 10 c) :
    ∃ values, optionalDigits? text = some values ∧ values.length = text.length := by
  have chars : ∀ text : List Char, (∀ c ∈ text, IsDigitIn 10 c) →
      ∃ values, text.mapM Unicode.decimalValue? = some values ∧ values.length = text.length := by
    intro text
    induction text with
    | nil => exact fun _ => ⟨[], rfl, rfl⟩
    | cons c rest ih =>
        intro digits
        rw [List.forall_mem_cons] at digits
        obtain ⟨values, read, length⟩ := ih digits.2
        obtain ⟨value, hex, below⟩ := digits.1
        have decimal := Unicode.forall_ascii (fun c => (Json.hexValue? c).any (· < 10) = true →
          (Unicode.decimalValue? c).isSome = true) (by decide +kernel)
          (toNat_lt_of_isDigitIn digits.1) (by simpa [hex] using below)
        obtain ⟨first, valued⟩ := Option.isSome_iff_exists.mp decimal
        exact ⟨first :: values, by rw [List.mapM_cons, valued, read]; rfl, by simp [length]⟩
  have whole : '_' ∉ text := fun listed =>
    (digit_properties (digits _ listed)).2.2.1 (by decide)
  obtain ⟨values, read, length⟩ := chars text digits
  refine ⟨values, ?_, length⟩
  rw [optionalDigits?, Text.split_of_notMem whole]
  cases text with
  | nil =>
      cases read
      rfl
  | cons c rest => simp [read]

theorem isSome_exponent? {exponent : List Char} (shape : IsExponent exponent) :
    (exponent? exponent).isSome = true := by
  rcases shape with rfl | ⟨sign, digits, rfl, signed, some, allowed⟩
  · rfl
  · have spelled := (isSome_natural?_iff allowed).mpr some
    obtain ⟨value, read⟩ := Option.isSome_iff_exists.mp spelled
    simp only [List.mem_cons, List.not_mem_nil, or_false] at signed
    rcases signed with rfl | rfl
    · simp [exponent?, takeSign, read]
    · simp [exponent?, takeSign, read]

/-- No digit and no point starts an exponent. -/
theorem startsExponent_eq_false {c : Char} (inside : IsDigitIn 10 c ∨ c = '.') :
    startsExponent c = false := by
  rcases inside with ⟨value, read, below⟩ | rfl
  · exact Unicode.forall_ascii (fun c => (Json.hexValue? c).any (· < 10) = true →
      startsExponent c = false) (by decide +kernel)
      (toNat_lt_of_isDigitIn ⟨value, read, below⟩) (by simpa [read] using below)
  · rfl

/-- The digits before the point end where the fraction begins. -/
theorem takeWhile_whole {whole fraction : List Char} (digits : ∀ c ∈ whole, IsDigitIn 10 c)
    (point : IsFraction fraction) : (whole ++ fraction).takeWhile (· != '.') = whole := by
  have before : ∀ c ∈ whole, (c != '.') = true := by
    intro c listed
    rw [bne_iff_ne]
    rintro rfl
    exact absurd (by decide) (digit_properties (digits _ listed)).2.2.1
  have stops : fraction.takeWhile (· != '.') = [] := by
    rcases point with rfl | ⟨after, rfl, -⟩
    · rfl
    · rfl
  rw [List.takeWhile_append_of_pos before, stops, List.append_nil]

/-- The mantissa ends where the exponent begins. -/
theorem takeWhile_mantissa {whole fraction exponent : List Char}
    (digits : ∀ c ∈ whole, IsDigitIn 10 c) (point : IsFraction fraction)
    (power : IsExponent exponent) :
    (whole ++ fraction ++ exponent).takeWhile (!startsExponent ·) = whole ++ fraction := by
  have before : ∀ c ∈ whole ++ fraction, (!startsExponent c) = true := by
    intro c listed
    rw [Bool.not_eq_true']
    apply startsExponent_eq_false
    rcases List.mem_append.mp listed with inWhole | inFraction
    · exact .inl (digits c inWhole)
    · exact point.characters c inFraction
  have stops : exponent.takeWhile (!startsExponent ·) = [] := by
    rcases power with rfl | ⟨sign, after, rfl, -⟩
    · rfl
    · rfl
  rw [List.takeWhile_append_of_pos before, stops, List.append_nil]

theorem isSome_unsigned? (negative : Bool) (decimal : IsDecimal text) :
    (unsigned? negative text).isSome = true := by
  obtain ⟨whole, fraction, exponent, rfl, digits, point, power, some⟩ := decimal
  have behind : ∀ c ∈ fraction.tail, IsDigitIn 10 c := by
    rcases point with rfl | ⟨after, rfl, allowed⟩
    · exact fun c listed => absurd listed List.not_mem_nil
    · exact allowed
  obtain ⟨value, spelled⟩ := Option.isSome_iff_exists.mp (isSome_exponent? power)
  obtain ⟨first, readFirst, firstLength⟩ := exists_optionalDigits? digits
  obtain ⟨second, readSecond, secondLength⟩ := exists_optionalDigits? behind
  have dropped : (whole ++ fraction).drop (whole.length + 1) = fraction.tail := by
    rw [List.drop_append, List.drop_eq_nil_of_le (Nat.le_succ _)]
    simp
  have notEmpty : ¬ (first.isEmpty && second.isEmpty) = true := by
    rw [Bool.and_eq_true, List.isEmpty_iff_length_eq_zero, List.isEmpty_iff_length_eq_zero,
      firstLength, secondLength, List.length_tail]
    rintro ⟨noWhole, noFraction⟩
    rcases some with someWhole | someFraction
    · exact someWhole (List.eq_nil_of_length_eq_zero noWhole)
    · omega
  rw [unsigned?]
  dsimp only
  rw [takeWhile_mantissa digits point power, List.drop_left, takeWhile_whole digits point, dropped,
    spelled, readFirst, readSecond]
  simp only [Option.bind_eq_bind, Option.bind_some, if_neg notEmpty, Option.isSome_some]

/-- A decimal numeral at the end of a line spells a double. -/
theorem isSome_real? (decimal : IsDecimal text) (ends : IsLineEnd ending) :
    (real? (text ++ ending)).isSome = true := by
  have trimmed : Unicode.trim (text ++ ending) = text := by
    refine Unicode.trim_append (fun c listed => ?_) ends
    rcases decimal.characters c listed with digit | mark
    · exact (digit_properties digit).2.1
    · simp only [List.mem_cons, List.not_mem_nil, or_false] at mark
      rcases mark with rfl | rfl | rfl | rfl
      all_goals decide
  have unsigned : takeSign text = (false, text) := by
    obtain ⟨whole, fraction, exponent, rfl, digits, point, -, some⟩ := decimal
    cases whole with
    | nil =>
        rcases point with rfl | ⟨after, rfl, -⟩
        · simp at some
        · rfl
    | cons c rest =>
        refine takeSign_of_head? fun first isFirst => ?_
        cases isFirst
        exact not_sign_of_isDigitIn (digits c List.mem_cons_self)
  rw [real?, trimmed, unsigned]
  dsimp only
  split
  · rfl
  · split
    · rfl
    · exact isSome_unsigned? false decimal

end Number

end AsyncTypes
