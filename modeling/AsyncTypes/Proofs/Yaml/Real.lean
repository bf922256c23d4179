import AsyncTypes.Proofs.List.Result
import AsyncTypes.Proofs.Name.Reserved
import AsyncTypes.Proofs.Yaml.Integer
import Mathlib.Data.List.TakeWhile

/-!
# Numbers with a point by their form

A text with the form of a number with a point is read without its sign and its underscores, and in
lower case.  Between its colons stand decimal numerals then, and these always have a value.
-/

namespace AsyncTypes.Yaml

open Number (IsDecimal IsDigitIn)

variable {text ending : List Char}

namespace Form

/-- What stands behind the sign of a number with a point: digits before the point, perhaps in
base sixty, or digits behind it, or a word. -/
inductive RealShape : List Char → Prop
  | number {whole digits exponent : List Char}
      (parts : ∀ part ∈ Text.split ':' whole, isLooseNumber part = true)
      (loose : ∀ c ∈ digits, isLooseDigit c = true) (power : isExponent exponent = true) :
      RealShape (whole ++ '.' :: (digits ++ exponent))
  | fraction {digits exponent : List Char} (number : isLooseNumber digits = true)
      (power : isExponent exponent = true) : RealShape ('.' :: (digits ++ exponent))
  | word {text : List Char} (named : isInfinity text = true ∨ isNotANumber text = true) :
      RealShape text

/-- The loose digits at the start of a text, by what remains behind them. -/
theorem take_looseDigits (fraction : List Char) :
    fraction.take (fraction.length - (fraction.dropWhile isLooseDigit).length) =
      fraction.takeWhile isLooseDigit := by
  have length := congrArg List.length
    (List.takeWhile_append_dropWhile (p := isLooseDigit) (l := fraction))
  rw [List.length_append] at length
  rw [← length, Nat.add_sub_cancel]
  exact (List.prefix_iff_eq_take.mp (List.takeWhile_prefix _)).symm

/-- The form of a number with a point says how it is divided. -/
theorem realShape (real : isReal text = true) : RealShape (withoutSign text) := by
  unfold isReal at real
  dsimp only at real
  split at real
  · next fraction behind =>
      have body : withoutSign text =
          (withoutSign text).takeWhile (· != '.') ++ '.' :: fraction := by
        rw [← behind]
        exact (List.prefix_iff_eq_append.mp (List.takeWhile_prefix _)).symm
      have divided : fraction =
          fraction.takeWhile isLooseDigit ++ fraction.dropWhile isLooseDigit :=
        (List.takeWhile_append_dropWhile).symm
      have loose : ∀ c ∈ fraction.takeWhile isLooseDigit, isLooseDigit c = true :=
        fun c listed => List.mem_takeWhile_imp listed
      simp only [Bool.or_eq_true, Bool.and_eq_true, beq_iff_eq] at real
      rcases real with (((⟨whole, power⟩ | ⟨whole, noPower⟩) | ⟨⟨pointed, digits⟩, power⟩) |
        infinity) | word
      · rw [body, divided]
        refine .number (looseNumber_of_mem_split ?_) loose power
        rw [whole, Bool.true_or]
      · rw [body, divided]
        refine .number (looseNumber_of_mem_split ?_) loose ?_
        · rw [whole, Bool.or_true]
        · rw [List.isEmpty_iff.mp noPower]
          rfl
      · have pointless : withoutSign text = '.' :: fraction := by
          obtain ⟨rest, rfl⟩ := List.head?_eq_some_iff.mp pointed
          exact body
        rw [pointless, divided]
        exact .fraction (take_looseDigits fraction ▸ digits) power
      · exact .word (.inl infinity)
      · refine .word (.inr ?_)
        have named := List.mem_map_of_mem (f := String.toList) (List.contains_iff_mem.mp word)
        rw [String.toList_ofList] at named
        simp only [List.map_cons, List.map_nil, List.mem_cons, List.not_mem_nil, or_false] at named
        rcases named with rfl | rfl | rfl
        all_goals decide
  · cases real

/-- An exponent is nothing, or a letter, a sign and digits. -/
theorem exists_exponent {exponent : List Char} (power : isExponent exponent = true) :
    exponent = [] ∨ ∃ letter sign digits, exponent = letter :: sign :: digits ∧
      letter ∈ ['e', 'E'] ∧ sign ∈ ['-', '+'] ∧ digits ≠ [] ∧ ∀ c ∈ digits, IsDigitIn 10 c := by
  unfold isExponent at power
  split at power
  · exact .inl rfl
  · next letter sign c rest =>
      simp only [Bool.and_eq_true, Bool.or_eq_true, beq_iff_eq] at power
      refine .inr ⟨letter, sign, c :: rest, rfl, by simpa using power.1.1,
        by simpa using power.1.2, List.cons_ne_nil c rest, fun d listed => ?_⟩
      exact Number.isDigitIn_ten (List.all_eq_true.mp power.2 d listed)
  · cases power

/-- How a number with a point is read: without underscores, and in lower case. -/
def lowered (text : List Char) : List Char :=
  (text.filter (· != '_')).map Char.toLower

theorem lowered_append (first second : List Char) :
    lowered (first ++ second) = lowered first ++ lowered second := by
  rw [lowered, List.filter_append, List.map_append]
  rfl

/-- Digits are the same in lower case. -/
theorem toLower_of_isDigitIn {c : Char} (digit : IsDigitIn 10 c) : c.toLower = c := by
  have ascii := Number.toNat_lt_of_isDigitIn digit
  obtain ⟨value, read, below⟩ := digit
  exact Unicode.forall_ascii (fun c => (Json.hexValue? c).any (· < 10) = true → c.toLower = c)
    (by decide +kernel) ascii (by simpa [read] using below)

/-- The parts of a number before its point are the same in lower case. -/
theorem lowered_of_forall {digits : List Char}
    (same : ∀ c ∈ digits.filter (· != '_'), c.toLower = c) :
    lowered digits = digits.filter (· != '_') := by
  rw [lowered, List.map_congr_left same, List.map_id']

theorem isExponent_lowered {exponent : List Char} (power : isExponent exponent = true) :
    Number.IsExponent (lowered exponent) := by
  rcases exists_exponent power with
    rfl | ⟨letter, sign, digits, rfl, isLetter, isSign, some, allowed⟩
  · exact .inl rfl
  · have kept : digits.filter (· != '_') = digits := List.filter_eq_self.mpr fun c listed =>
      bne_iff_ne.mpr (Number.not_bar_of_isDigitIn (allowed c listed))
    have digits_eq : lowered digits = digits := by
      rw [lowered_of_forall, kept]
      rw [kept]
      exact fun c listed => toLower_of_isDigitIn (allowed c listed)
    have marks : lowered [letter, sign] = ['e', sign] := by
      simp only [List.mem_cons, List.not_mem_nil, or_false] at isLetter isSign
      rcases isLetter with rfl | rfl <;> rcases isSign with rfl | rfl <;> rfl
    refine .inr ⟨sign, digits, ?_, isSign, some, allowed⟩
    have whole := lowered_append [letter, sign] digits
    rw [marks, digits_eq] at whole
    exact whole

theorem colon_notMem (decimal : IsDecimal text) : ':' ∉ text := by
  intro listed
  rcases decimal.characters ':' listed with digit | mark
  · exact (Number.digit_properties digit).2.2.1 (by decide)
  · exact absurd mark (by decide)

theorem lowered_fraction {digits : List Char} (loose : ∀ c ∈ digits, isLooseDigit c = true)
    (exponent : List Char) : lowered ('.' :: (digits ++ exponent)) =
      '.' :: digits.filter (· != '_') ++ lowered exponent := by
  have digits_eq : lowered digits = digits.filter (· != '_') :=
    lowered_of_forall fun c listed => toLower_of_isDigitIn (isDigitIn_of_mem_filter loose c listed)
  calc lowered ('.' :: (digits ++ exponent))
      = lowered ['.'] ++ lowered (digits ++ exponent) := lowered_append ['.'] _
    _ = '.' :: digits.filter (· != '_') ++ lowered exponent := by
      rw [lowered_append, digits_eq]
      rfl

/-- What stands before the point has digits and colons. -/
theorem character_of_split {whole : List Char} {c : Char}
    (parts : ∀ part ∈ Text.split ':' whole, isLooseNumber part = true) (listed : c ∈ whole) :
    c = ':' ∨ isLooseDigit c = true := by
  by_cases colon : c = ':'
  · exact .inl colon
  · obtain ⟨part, isPart, inside⟩ := Text.exists_mem_split listed colon
    exact .inr (looseNumber_characters (parts part isPart) c inside)

theorem lowered_whole {whole : List Char}
    (parts : ∀ part ∈ Text.split ':' whole, isLooseNumber part = true) :
    lowered whole = whole.filter (· != '_') := by
  refine lowered_of_forall fun c listed => ?_
  obtain ⟨inside, notBar⟩ := List.mem_filter.mp listed
  rcases character_of_split parts inside with rfl | loose
  · rfl
  · rcases Bool.or_eq_true_iff.mp loose with digit | bar
    · exact toLower_of_isDigitIn (Number.isDigitIn_ten digit)
    · rw [bne, bar] at notBar
      cases notBar

/-- The parts of a number with a point are decimal numerals. -/
theorem isDecimal_of_mem_split {body : List Char} (shape : RealShape body)
    (unnamed : ¬ (isInfinity body = true ∨ isNotANumber body = true)) :
    ∀ part ∈ Text.split ':' (lowered body), IsDecimal part := by
  cases shape with
  | word named => exact absurd named unnamed
  | @fraction digits exponent number power =>
      have loose := looseNumber_characters number
      have some : 1 < ('.' :: digits.filter (· != '_')).length := by
        simpa using List.length_pos_iff.mpr (filter_ne_nil_of_isLooseNumber number)
      have decimal : IsDecimal (lowered ('.' :: (digits ++ exponent))) :=
        ⟨[], _, _, lowered_fraction loose exponent, by simp,
          .inr ⟨_, rfl, isDigitIn_of_mem_filter loose⟩, isExponent_lowered power, .inr some⟩
      rw [Text.split_of_notMem (colon_notMem decimal)]
      simpa using decimal
  | @number whole digits exponent parts loose power =>
      have decimal : ∀ part ∈ Text.split ':' whole, IsDecimal (part.filter (· != '_')) ∧
          IsDecimal (part.filter (· != '_') ++ lowered ('.' :: (digits ++ exponent))) := by
        intro part listed
        have number := parts part listed
        have allowed := isDigitIn_of_mem_filter (looseNumber_characters number)
        have some := filter_ne_nil_of_isLooseNumber number
        constructor
        · exact ⟨_, [], [], by simp, allowed, .inl rfl, .inl rfl, .inl some⟩
        · refine ⟨_, _, _, ?_, allowed, .inr ⟨_, rfl, isDigitIn_of_mem_filter loose⟩,
            isExponent_lowered power, .inl some⟩
          rw [lowered_fraction loose exponent, List.append_assoc]
      have noColon : ':' ∉ lowered ('.' :: (digits ++ exponent)) := by
        obtain ⟨part, listed⟩ := List.exists_mem_of_ne_nil _ (Text.split_ne_nil ':' whole)
        exact fun inside => colon_notMem (decimal part listed).2 (List.mem_append_right _ inside)
      rw [lowered_append, lowered_whole parts]
      intro longer listed
      obtain ⟨part, isPart, ended⟩ := exists_of_forall₂_right
        (Text.forall₂_split_append noColon (whole.filter (· != '_'))) listed
      rw [Text.split_filter rfl] at isPart
      obtain ⟨loosePart, isLoose, rfl⟩ := List.mem_map.mp isPart
      rcases ended with rfl | rfl
      · exact (decimal loosePart isLoose).1
      · exact (decimal loosePart isLoose).2

theorem toNat_lt_of_isLooseDigit {c : Char} (loose : isLooseDigit c = true) : c.toNat < 0x80 := by
  rcases Bool.or_eq_true_iff.mp loose with digit | bar
  · exact Number.toNat_lt_of_isDigitIn (Number.isDigitIn_ten digit)
  · rw [beq_iff_eq.mp bar]
    decide

theorem toNat_lt_of_mem_exponent {exponent : List Char} (power : isExponent exponent = true) :
    ∀ c ∈ exponent, c.toNat < 0x80 := by
  rcases exists_exponent power with rfl | ⟨letter, sign, digits, rfl, isLetter, isSign, -, allowed⟩
  · exact fun c listed => absurd listed List.not_mem_nil
  · have marks : letter.toNat < 0x80 ∧ sign.toNat < 0x80 := by
      simp only [List.mem_cons, List.not_mem_nil, or_false] at isLetter isSign
      rcases isLetter with rfl | rfl <;> rcases isSign with rfl | rfl <;> decide
    simp only [List.forall_mem_cons]
    exact ⟨marks.1, marks.2, fun c listed => Number.toNat_lt_of_isDigitIn (allowed c listed)⟩

/-- A word for a number is one of six. -/
theorem eq_of_named {word : List Char}
    (named : isInfinity word = true ∨ isNotANumber word = true) :
    word ∈ [".inf", ".Inf", ".INF", ".nan", ".NaN", ".NAN"].map String.toList := by
  have spelled : String.ofList word ∈ [".inf", ".Inf", ".INF"] ++ [".nan", ".NaN", ".NAN"] :=
    List.mem_append.mpr (named.imp List.contains_iff_mem.mp List.contains_iff_mem.mp)
  simpa using List.mem_map_of_mem (f := String.toList) spelled

/-- The words for numbers, in lower case. -/
theorem lowered_of_named {word : List Char}
    (named : isInfinity word = true ∨ isNotANumber word = true) :
    lowered word = ".inf".toList ∨ lowered word = ".nan".toList := by
  have check : ∀ word ∈ [".inf", ".Inf", ".INF", ".nan", ".NaN", ".NAN"].map String.toList,
      lowered word = ".inf".toList ∨ lowered word = ".nan".toList := by decide +kernel
  exact check word (eq_of_named named)

/-- A number with a point is written in ASCII, and starts with a digit or with its point. -/
theorem RealShape.characters {body : List Char} (shape : RealShape body) :
    (∃ first rest, body = first :: rest ∧ (IsDigitIn 10 first ∨ first = '.')) ∧
      ∀ c ∈ body, c.toNat < 0x80 := by
  cases shape with
  | @number whole digits exponent parts loose power =>
      constructor
      · cases whole with
        | nil => exact absurd (parts [] List.mem_cons_self) (by decide)
        | cons first rest => exact ⟨first, _, rfl, .inl (isDigitIn_of_parts parts)⟩
      · simp only [List.forall_mem_append, List.forall_mem_cons]
        refine ⟨fun c listed => ?_, by decide,
          fun c listed => toNat_lt_of_isLooseDigit (loose c listed),
          toNat_lt_of_mem_exponent power⟩
        rcases character_of_split parts listed with rfl | digit
        · decide
        · exact toNat_lt_of_isLooseDigit digit
  | @fraction digits exponent number power =>
      refine ⟨⟨'.', _, rfl, .inr rfl⟩, ?_⟩
      simp only [List.forall_mem_cons, List.forall_mem_append]
      exact ⟨by decide, fun c listed =>
        toNat_lt_of_isLooseDigit (looseNumber_characters number c listed),
        toNat_lt_of_mem_exponent power⟩
  | word named =>
      have check : ∀ word ∈ [".inf", ".Inf", ".INF", ".nan", ".NaN", ".NAN"].map String.toList,
          word = '.' :: word.tail ∧ word.all (·.toNat < 0x80) = true := by decide +kernel
      obtain ⟨pointed, ascii⟩ := check body (eq_of_named named)
      exact ⟨⟨'.', body.tail, pointed, .inr rfl⟩, by simpa using ascii⟩

/-- The sign of a number is ASCII too. -/
theorem toNat_lt_of_withoutSign (ascii : ∀ c ∈ withoutSign text, c.toNat < 0x80) :
    ∀ c ∈ text, c.toNat < 0x80 := by
  unfold withoutSign at ascii
  split at ascii
  · exact List.forall_mem_cons.mpr ⟨by decide, ascii⟩
  · exact List.forall_mem_cons.mpr ⟨by decide, ascii⟩
  · exact ascii

end Form

/-! ## Values -/

/-- The value of a number with a point behind its sign. -/
def realBody (negative : Bool) (body : List Char) : Except Fault Number.Binary64 :=
  if body == ".inf".toList then return .infinity negative
  else if body == ".nan".toList then return .nan
  else if body.contains ':' then do
    let parts ← (Text.split ':' body).mapM realIn
    return signedReal negative (sexagesimalSum parts)
  else do return signedReal negative (← realIn body)

theorem realValue_eq (text : List Char) :
    realValue text = (signedBody (Unicode.lowerText (text.filter (· != '_'))) >>= fun found =>
      realBody found.1 found.2) :=
  rfl

theorem realIn_read (decimal : IsDecimal text) (ends : IsLineEnd ending) :
    RefusedWhen False (realIn (text ++ ending)) := by
  refine ⟨False.elim, fun _ => ?_⟩
  obtain ⟨value, spelled⟩ := Option.isSome_iff_exists.mp (Number.isSome_real? decimal ends)
  exact ⟨value, by rw [realIn, spelled]⟩

theorem realBody_read (negative : Bool) {body : List Char} (ends : IsLineEnd ending)
    (decimal : ∀ part ∈ Text.split ':' body, IsDecimal part) :
    RefusedWhen False (realBody negative (body ++ ending)) := by
  have each : ∀ part ∈ Text.split ':' body, ∀ ending, IsLineEnd ending →
      RefusedWhen False (realIn (part ++ ending)) := fun part listed _ ends =>
    realIn_read (decimal part listed) ends
  rw [realBody]
  split
  · exact .ok
  · split
    · exact .ok
    · split
      · exact ((RefusedWhen.mapM_split ends each).congr (by simp)).bind_pure _
      · next whole => exact ((RefusedWhen.of_split ends whole each).congr (by simp)).bind_pure _

/-- A word for a number is refused only at the end of a line that it is read with. -/
theorem realBody_named (negative : Bool) {body : List Char} (ends : IsLineEnd ending)
    (named : Form.isInfinity body = true ∨ Form.isNotANumber body = true) :
    RefusedWhen (ending ≠ []) (realBody negative (Form.lowered body ++ ending)) := by
  have word := Form.lowered_of_named named
  rcases ends with rfl | rfl
  · refine ⟨fun some => absurd rfl some, fun _ => ?_⟩
    rcases word with infinity | notANumber
    · exact ⟨.infinity negative, by rw [infinity]; rfl⟩
    · exact ⟨.nan, by rw [notANumber]; rfl⟩
  · refine ⟨fun _ => ?_, fun none => absurd (List.cons_ne_nil _ _) none⟩
    rcases word with infinity | notANumber
    · exact ⟨_, by rw [infinity]; rfl⟩
    · exact ⟨_, by rw [notANumber]; rfl⟩

/-- A number with a point is read, unless it is a word with a newline behind it. -/
theorem realValue_refused (real : Form.isReal text = true) (ends : IsLineEnd ending) :
    RefusedWhen (ending ≠ [] ∧ (Form.isInfinity (Form.withoutSign text) = true ∨
      Form.isNotANumber (Form.withoutSign text) = true)) (realValue (text ++ ending)) := by
  have shape := Form.realShape real
  obtain ⟨⟨first, rest, starts, digit⟩, ascii⟩ := shape.characters
  have lower_eq : Unicode.lowerText ((text ++ ending).filter (· != '_')) =
      (text.filter (· != '_')).map Char.toLower ++ ending := by
    have written : ∀ c ∈ (text ++ ending).filter (· != '_'), c.toNat < 0x80 := by
      intro c listed
      rcases List.mem_append.mp (List.mem_filter.mp listed).1 with inText | inEnding
      · exact Form.toNat_lt_of_withoutSign ascii c inText
      · rcases ends with rfl | rfl
        · exact absurd inEnding List.not_mem_nil
        · cases List.mem_singleton.mp inEnding
          decide
    rw [Unicode.lowerText, Unicode.lowerFrom_ascii [] written, List.filter_append, List.map_append]
    rcases ends with rfl | rfl
    all_goals rfl
  obtain ⟨notBar, unsigned⟩ : first ≠ '_' ∧ first.toLower ≠ '-' ∧ first.toLower ≠ '+' := by
    rcases digit with digit | rfl
    · rw [Form.toLower_of_isDigitIn digit]
      exact ⟨Number.not_bar_of_isDigitIn digit, Number.not_sign_of_isDigitIn digit⟩
    · decide
  obtain ⟨negative, taken⟩ := @Form.exists_signedBody Char.toLower text rest first rfl rfl starts
    notBar unsigned ending
  rw [realValue_eq, lower_eq, taken]
  by_cases named : Form.isInfinity (Form.withoutSign text) = true ∨
      Form.isNotANumber (Form.withoutSign text) = true
  · exact (realBody_named negative ends named).congr (by simp [named])
  · exact (realBody_read negative ends (Form.isDecimal_of_mem_split shape named)).congr
      (by simp [named])

end AsyncTypes.Yaml
