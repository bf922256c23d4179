import AsyncTypes.Proofs.Number.Numeral
import AsyncTypes.Yaml.Scalar
import Mathlib.Data.List.Forall2
import Mathlib.Data.List.TakeWhile

/-!
# Integers by their form

A text with the form of an integer is read without its sign and its underscores.  What is left
are digits of some base, so that it is read unless there are none, or too many of them.
-/

namespace AsyncTypes

/-! ## Parts of a text -/

namespace Text

variable {separator : Char} {keep : Char → Bool}

theorem map_filter_extendFirst (c : Char) {parts : List (List Char)} (some : parts ≠ []) :
    (extendFirst c parts).map (List.filter keep) =
      if keep c then extendFirst c (parts.map (List.filter keep))
      else parts.map (List.filter keep) := by
  cases parts with
  | nil => exact absurd rfl some
  | cons part rest =>
      by_cases kept : keep c = true
      · simp [extendFirst, kept]
      · simp [extendFirst, kept]

/-- Characters other than the separator are taken from a text by taking them from its parts. -/
theorem split_filter (kept : keep separator = true) (text : List Char) :
    split separator (text.filter keep) = (split separator text).map (List.filter keep) := by
  induction text with
  | nil => rfl
  | cons c rest ih =>
      by_cases equal : c = separator
      · subst equal
        simp [split, kept, ih]
      · have other : (c == separator) = false := beq_eq_false_iff_ne.mpr equal
        rw [split, other, if_neg Bool.false_ne_true, map_filter_extendFirst c (split_ne_nil _ _),
          List.filter_cons]
        split
        · simp [split, other, ih]
        · exact ih

/-- An ending without separators goes to the last part. -/
theorem forall₂_split_append {ending : List Char} (absent : separator ∉ ending)
    (text : List Char) :
    List.Forall₂ (fun part longer => longer = part ∨ longer = part ++ ending)
      (split separator text) (split separator (text ++ ending)) := by
  induction text with
  | nil =>
      rw [List.nil_append, split_of_notMem absent]
      exact .cons (.inr rfl) .nil
  | cons c rest ih =>
      by_cases equal : c = separator
      · subst equal
        simpa [split] using ih
      · have other : (c == separator) = false := beq_eq_false_iff_ne.mpr equal
        simp only [List.cons_append, split, other, if_neg Bool.false_ne_true]
        cases longer : split separator (rest ++ ending) with
        | nil => exact absurd longer (split_ne_nil _ _)
        | cons first others =>
            cases shorter : split separator rest with
            | nil => exact absurd shorter (split_ne_nil _ _)
            | cons part further =>
                rw [longer, shorter] at ih
                cases ih with
                | cons here later => exact .cons (by simpa using here) later

/-- A character other than the separator is in one of the parts. -/
theorem exists_mem_split {c : Char} {text : List Char} (listed : c ∈ text)
    (other : c ≠ separator) :
    ∃ part ∈ split separator text, c ∈ part := by
  induction text with
  | nil => exact absurd listed List.not_mem_nil
  | cons first rest ih =>
      by_cases equal : first = separator
      · subst equal
        obtain ⟨part, isPart, inside⟩ := ih ((List.mem_cons.mp listed).resolve_left other)
        exact ⟨part, by simp [split, isPart], inside⟩
      · have apart : (first == separator) = false := beq_eq_false_iff_ne.mpr equal
        rw [split, apart, if_neg Bool.false_ne_true]
        cases parts : split separator rest with
        | nil => exact absurd parts (split_ne_nil _ _)
        | cons part others =>
            rw [parts] at ih
            rcases List.mem_cons.mp listed with rfl | later
            · exact ⟨_, List.mem_cons_self, List.mem_cons_self⟩
            · obtain ⟨found, isPart, inside⟩ := ih later
              rcases List.mem_cons.mp isPart with rfl | further
              · exact ⟨_, List.mem_cons_self, List.mem_cons_of_mem _ inside⟩
              · exact ⟨found, List.mem_cons_of_mem _ further, inside⟩

end Text

namespace Yaml

open Number (IsDigitIn)

/-! ## Integers -/

namespace Form

theorem looseNumber_characters {text : List Char} (loose : isLooseNumber text = true) :
    ∀ c ∈ text, isLooseDigit c = true := by
  cases text with
  | nil => cases loose
  | cons c rest =>
      rw [isLooseNumber, Bool.and_eq_true] at loose
      rw [List.forall_mem_cons]
      exact ⟨by rw [isLooseDigit, loose.1, Bool.true_or], List.all_eq_true.mp loose.2⟩

/-- Without the underscores, loose digits are digits. -/
theorem isDigitIn_of_mem_filter {text : List Char} (loose : ∀ c ∈ text, isLooseDigit c = true) :
    ∀ c ∈ text.filter (· != '_'), IsDigitIn 10 c := by
  intro c listed
  obtain ⟨inside, notBar⟩ := List.mem_filter.mp listed
  rcases Bool.or_eq_true_iff.mp (loose c inside) with digit | bar
  · exact Number.isDigitIn_ten digit
  · rw [bne, bar] at notBar
    cases notBar

/-- A loose number has a digit. -/
theorem filter_ne_nil_of_isLooseNumber {text : List Char} (loose : isLooseNumber text = true) :
    text.filter (· != '_') ≠ [] := by
  cases text with
  | nil => cases loose
  | cons c rest =>
      have first : (c != '_') = true := by
        rw [isLooseNumber, Bool.and_eq_true] at loose
        rw [bne_iff_ne]
        rintro rfl
        exact absurd loose.1 (by decide)
      simp [first]

/-- What stands behind the sign of an integer: a base other than ten with its digits, or parts
of decimal digits, of which the first does not start with a zero. -/
inductive IntegerShape : List Char → Prop
  | zero : IntegerShape ['0']
  | binary {digits : List Char} (some : digits ≠ [])
      (allowed : ∀ c ∈ digits, c = '_' ∨ IsDigitIn 2 c) : IntegerShape ('0' :: 'b' :: digits)
  | hexadecimal {digits : List Char} (some : digits ≠ [])
      (allowed : ∀ c ∈ digits, c = '_' ∨ IsDigitIn 16 c) : IntegerShape ('0' :: 'x' :: digits)
  | octal {digits : List Char}
      (allowed : ∀ c ∈ digits, c = '_' ∨ IsDigitIn 8 c) : IntegerShape ('0' :: digits)
  | decimal {first : Char} {rest : List Char} (notZero : first ≠ '0')
      (parts : ∀ part ∈ Text.split ':' (first :: rest), isLooseNumber part = true) :
      IntegerShape (first :: rest)

theorem isDigitIn_two {c : Char} (binary : c = '0' ∨ c = '1') : IsDigitIn 2 c := by
  rcases binary with rfl | rfl
  · exact ⟨0, rfl, by decide⟩
  · exact ⟨1, rfl, by decide⟩

theorem isDigitIn_eight {c : Char} (octal : ('0' ≤ c && c ≤ '7') = true) : IsDigitIn 8 c := by
  have inside : c.toNat ≤ '7'.toNat := by
    simp only [Bool.and_eq_true, decide_eq_true_eq, Char.le_def, UInt32.le_iff_toNat_le] at octal
    exact octal.2
  have check := Unicode.forall_ascii (fun c => ('0' ≤ c && c ≤ '7') = true →
    (Json.hexValue? c).any (· < 8) = true) (by decide +kernel)
    (Nat.lt_of_le_of_lt inside (by decide)) octal
  simpa [IsDigitIn, Option.any_eq_true] using check

theorem isDigitIn_sixteen {c : Char} (hexadecimal : (Json.hexValue? c).isSome = true) :
    IsDigitIn 16 c := by
  obtain ⟨value, read⟩ := Option.isSome_iff_exists.mp hexadecimal
  exact ⟨value, read, Json.hexValue?_lt read⟩

/-- A number below sixty is a loose number. -/
theorem looseNumber_of_isSixtieth {text : List Char} (sixtieth : isSixtieth text = true) :
    isLooseNumber text = true := by
  unfold isSixtieth at sixtieth
  split at sixtieth
  · simpa [isLooseNumber] using sixtieth
  · next tens units =>
      simp only [Bool.and_eq_true, decide_eq_true_eq] at sixtieth
      have digit : tens.isDigit = true := by
        have upTo : tens ≤ '9' := Char.le_trans sixtieth.1.2 (by decide)
        rw [Char.isDigit, Bool.and_eq_true]
        exact ⟨decide_eq_true sixtieth.1.1, decide_eq_true upTo⟩
      simp [isLooseNumber, isLooseDigit, digit, sixtieth.2]
  · cases sixtieth

/-- The parts of a number in base ten or sixty are loose numbers. -/
theorem looseNumber_of_mem_split {text : List Char}
    (number : (isLooseNumber text || isSexagesimal text) = true) :
    ∀ part ∈ Text.split ':' text, isLooseNumber part = true := by
  rcases Bool.or_eq_true_iff.mp number with loose | sexagesimal
  · have whole : ':' ∉ text := fun listed =>
      absurd (looseNumber_characters loose ':' listed) (by decide)
    rw [Text.split_of_notMem whole]
    simpa using loose
  · unfold isSexagesimal at sexagesimal
    split at sexagesimal
    · next first second rest parts =>
        rw [Bool.and_eq_true, List.all_eq_true] at sexagesimal
        rw [parts, List.forall_mem_cons]
        exact ⟨sexagesimal.1, fun part listed =>
          looseNumber_of_isSixtieth (sexagesimal.2 part listed)⟩
    · cases sexagesimal

/-- The form of an integer says how it is divided. -/
theorem integerShape {text : List Char} (integer : isInteger text = true) :
    IntegerShape (withoutSign text) := by
  unfold isInteger at integer
  split at integer
  · cases integer
  · next zero => exact zero ▸ .zero
  · next c rest shape =>
      rw [shape]
      refine .binary (List.cons_ne_nil c rest) fun d listed => ?_
      have allowed := List.all_eq_true.mp integer d listed
      simp only [Bool.or_eq_true, beq_iff_eq] at allowed
      exact allowed.symm.imp_right isDigitIn_two
  · next c rest shape =>
      rw [shape]
      refine .hexadecimal (List.cons_ne_nil c rest) fun d listed => ?_
      have allowed := List.all_eq_true.mp integer d listed
      rw [Bool.or_eq_true, beq_iff_eq] at allowed
      exact allowed.symm.imp_right isDigitIn_sixteen
  · next rest _ _ _ shape =>
      rw [shape]
      refine .octal fun d listed => ?_
      have allowed := List.all_eq_true.mp integer d listed
      rw [Bool.or_eq_true, beq_iff_eq] at allowed
      exact allowed.symm.imp_right isDigitIn_eight
  · next _ _ _ _ noZero =>
      cases body : withoutSign text with
      | nil => exact absurd body (by assumption)
      | cons first rest =>
          rw [body] at integer noZero
          refine .decimal ?_ (looseNumber_of_mem_split integer)
          rintro rfl
          exact noZero rest rfl

/-- Parts of loose numbers start with a digit. -/
theorem isDigitIn_of_parts {first : Char} {rest : List Char}
    (parts : ∀ part ∈ Text.split ':' (first :: rest), isLooseNumber part = true) :
    IsDigitIn 10 first := by
  rw [Text.split] at parts
  split at parts
  · exact absurd (parts [] List.mem_cons_self) (by decide)
  · cases others : Text.split ':' rest with
    | nil => exact absurd others (Text.split_ne_nil _ _)
    | cons part further =>
        rw [others, Text.extendFirst] at parts
        have loose := parts _ List.mem_cons_self
        rw [isLooseNumber, Bool.and_eq_true] at loose
        exact Number.isDigitIn_ten loose.1

/-- An integer starts with a digit behind its sign. -/
theorem IntegerShape.exists_first {text : List Char} (shape : IntegerShape text) :
    ∃ first rest, text = first :: rest ∧ IsDigitIn 10 first := by
  have zero : IsDigitIn 10 '0' := ⟨0, rfl, by decide⟩
  cases shape with
  | zero => exact ⟨_, _, rfl, zero⟩
  | binary => exact ⟨_, _, rfl, zero⟩
  | hexadecimal => exact ⟨_, _, rfl, zero⟩
  | octal => exact ⟨_, _, rfl, zero⟩
  | decimal notZero parts => exact ⟨_, _, rfl, isDigitIn_of_parts parts⟩

/-- The digits of an integer, without its sign and its underscores. -/
def digitsOf (text : List Char) : List Char :=
  (withoutSign text).filter (· != '_')

/-- An integer that is none: there is no digit behind the mark of its base, or a part of it in
base ten has too many digits. -/
def IsVainInteger (text : List Char) : Prop :=
  digitsOf text = ['0', 'b'] ∨ digitsOf text = ['0', 'x'] ∨
    ((digitsOf text).head? ≠ some '0' ∧
      ∃ part ∈ Text.split ':' (digitsOf text), Json.maxIntegerDigits < part.length)

/-- The sign of a number is taken from it, whatever else is done to its characters. -/
theorem exists_signedBody {change : Char → Char} {text rest : List Char} {first : Char}
    (minus : change '-' = '-') (plus : change '+' = '+') (starts : withoutSign text = first :: rest)
    (notBar : first ≠ '_') (unsigned : change first ≠ '-' ∧ change first ≠ '+')
    (ending : List Char) :
    ∃ negative, signedBody ((text.filter (· != '_')).map change ++ ending) =
      .ok (negative, ((withoutSign text).filter (· != '_')).map change ++ ending) := by
  have kept : (first != '_') = true := bne_iff_ne.mpr notBar
  unfold withoutSign at starts ⊢
  split at starts
  · exact ⟨true, by simp [signedBody, Number.takeSign, minus]⟩
  · exact ⟨false, by simp [signedBody, Number.takeSign, plus]⟩
  · refine ⟨false, ?_⟩
    have taken : Number.takeSign (((first :: rest).filter (· != '_')).map change ++ ending) =
        (false, ((first :: rest).filter (· != '_')).map change ++ ending) := by
      refine Number.takeSign_of_head? fun c isFirst => ?_
      rw [List.filter_cons, if_pos kept] at isFirst
      cases isFirst
      exact unsigned
    subst starts
    rw [← taken, List.filter_cons, if_pos kept]
    rfl

end Form

/-- A result is refused as a bad value under a condition, and is there otherwise. -/
structure RefusedWhen {α : Type} (condition : Prop) (result : Except Fault α) : Prop where
  refused : condition → ∃ message, result = .error (.badValue message)
  read : ¬ condition → ∃ value, result = .ok value

namespace RefusedWhen

variable {α β : Type} {condition : Prop} {result : Except Fault α}

theorem congr {other : Prop} (refused : RefusedWhen condition result) (same : condition ↔ other) :
    RefusedWhen other result :=
  propext same ▸ refused

theorem bind_pure (refused : RefusedWhen condition result) (change : α → β) :
    RefusedWhen condition (result >>= fun value => pure (change value)) where
  refused holds := by
    obtain ⟨message, failed⟩ := refused.refused holds
    exact ⟨message, by rw [failed]; rfl⟩
  read fails := by
    obtain ⟨value, found⟩ := refused.read fails
    exact ⟨change value, by rw [found]; rfl⟩

theorem map (refused : RefusedWhen condition result) (change : α → β) :
    RefusedWhen condition (result.map change) :=
  refused.bind_pure change

theorem ok {value : α} : RefusedWhen False (.ok value : Except Fault α) where
  refused := False.elim
  read _ := ⟨value, rfl⟩

/-- What goes on after a result is refused where either is. -/
theorem bind {other : Prop} {next : α → Except Fault β} (refused : RefusedWhen condition result)
    (goesOn : ∀ value, RefusedWhen other (next value)) :
    RefusedWhen (condition ∨ other) (result >>= next) := by
  by_cases holds : condition
  · obtain ⟨message, failed⟩ := refused.refused holds
    exact ⟨fun _ => ⟨message, by rw [failed]; rfl⟩, fun fails => absurd (.inl holds) fails⟩
  · obtain ⟨value, found⟩ := refused.read holds
    rw [found]
    exact (goesOn value).congr (by simp [holds])

/-- A check before a result refuses in one more case. -/
theorem otherwise {check : Prop} [Decidable check] {message : String}
    (refused : RefusedWhen condition result) :
    RefusedWhen (check ∨ condition) (if check then .error (.badValue message) else result) := by
  by_cases holds : check
  · rw [if_pos holds]
    exact ⟨fun _ => ⟨message, rfl⟩, fun fails => absurd (.inl holds) fails⟩
  · rw [if_neg holds]
    exact refused.congr (by simp [holds])

/-- A check alone refuses in one case. -/
theorem alone {check : Prop} [Decidable check] {message : String} {value : α} :
    RefusedWhen check (if check then .error (.badValue message) else .ok value) :=
  RefusedWhen.ok.otherwise.congr (or_false _ ▸ Iff.rfl)

/-- The same for a check that stands in a sequence of steps. -/
theorem otherwise_bind {check : Prop} [Decidable check] {message : String} {γ : Type}
    {next : γ → Except Fault α} {start : γ} (refused : RefusedWhen condition (next start)) :
    RefusedWhen (check ∨ condition)
      (if check then .error (.badValue message) >>= next else next start) :=
  refused.otherwise

/-- Some of several results are refused when one of them is. -/
theorem mapM {read : List Char → Except Fault α} {long : List Char → Prop}
    {parts longer : List (List Char)}
    (related : List.Forall₂ (fun part whole => RefusedWhen (long part) (read whole))
      parts longer) :
    RefusedWhen (∃ part ∈ parts, long part) (longer.mapM read) := by
  induction related with
  | nil => exact ⟨fun ⟨_, listed, _⟩ => absurd listed List.not_mem_nil, fun _ => ⟨[], rfl⟩⟩
  | @cons part whole parts longer here _ ih =>
      rw [List.mapM_cons]
      constructor
      · rintro ⟨other, listed, isLong⟩
        by_cases first : long part
        · obtain ⟨message, failed⟩ := here.refused first
          exact ⟨message, by rw [failed]; rfl⟩
        · obtain ⟨value, found⟩ := here.read first
          rcases List.mem_cons.mp listed with rfl | later
          · exact absurd isLong first
          · obtain ⟨message, failed⟩ := ih.refused ⟨other, later, isLong⟩
            exact ⟨message, by rw [found, failed]; rfl⟩
      · intro short
        obtain ⟨value, found⟩ := here.read fun isLong => short ⟨part, List.mem_cons_self, isLong⟩
        obtain ⟨values, others⟩ := ih.read fun ⟨other, listed, isLong⟩ =>
          short ⟨other, List.mem_cons_of_mem _ listed, isLong⟩
        exact ⟨value :: values, by rw [found, others]; rfl⟩

/-- The parts of a text are read one by one, the last of them together with the end of its
line. -/
theorem mapM_split {read : List Char → Except Fault α} {long : List Char → Prop}
    {body ending : List Char} (ends : IsLineEnd ending)
    (each : ∀ part ∈ Text.split ':' body, ∀ ending, IsLineEnd ending →
      RefusedWhen (long part) (read (part ++ ending))) :
    RefusedWhen (∃ part ∈ Text.split ':' body, long part)
      ((Text.split ':' (body ++ ending)).mapM read) := by
  have noColon : ':' ∉ ending := by
    rcases ends with rfl | rfl
    all_goals decide
  have related := (List.forall₂_and_left _ _).mpr
    ⟨fun part listed => listed, Text.forall₂_split_append noColon body⟩
  refine mapM (related.imp fun part longer ⟨listed, ended⟩ => ?_)
  rcases ended with rfl | rfl
  · simpa using each longer listed [] (.inl rfl)
  · exact each part listed ending ends

/-- A text without colons is its only part. -/
theorem of_split {read : List Char → Except Fault α} {long : List Char → Prop}
    {body ending : List Char} (ends : IsLineEnd ending)
    (whole : ¬ (body ++ ending).contains ':' = true)
    (each : ∀ part ∈ Text.split ':' body, ∀ ending, IsLineEnd ending →
      RefusedWhen (long part) (read (part ++ ending))) :
    RefusedWhen (∃ part ∈ Text.split ':' body, long part) (read (body ++ ending)) := by
  have alone : Text.split ':' body = [body] := by
    apply Text.split_of_notMem
    exact fun listed => whole (List.contains_iff_mem.mpr (List.mem_append_left _ listed))
  rw [alone] at each ⊢
  exact (each body List.mem_cons_self ending ends).congr (by simp)

end RefusedWhen

variable {base : Nat} {text ending : List Char}

/-- Digits are refused when there are none, and in base ten when there are too many. -/
theorem integerIn_refused (digits : ∀ c ∈ text, IsDigitIn base c) (ends : IsLineEnd ending) :
    RefusedWhen (text = [] ∨ (base = 10 ∧ Json.maxIntegerDigits < text.length))
      (integerIn base (text ++ ending)) := by
  have refused := Number.readInteger_refused_iff digits ends
  rw [← refused]
  constructor
  · rintro ⟨message, failed⟩
    exact ⟨message, by rw [integerIn, failed]; rfl⟩
  · intro spelled
    cases read : Number.readInteger base (text ++ ending) with
    | error message => exact absurd ⟨message, read⟩ spelled
    | ok value => exact ⟨value, by rw [integerIn, read]; rfl⟩

/-- The value of an integer behind its sign. -/
def bodyValue (negative : Bool) (body : List Char) : Except Fault Int :=
  match body with
  | [] => .error (.badIndex "string index out of range")
  | ['0'] => return 0
  | '0' :: 'b' :: rest => return signed negative (← integerIn 2 rest)
  | '0' :: 'x' :: rest => return signed negative (← integerIn 16 rest)
  | '0' :: _ => return signed negative (← integerIn 8 body)
  | _ =>
      if body.contains ':' then do
        let parts ← (Text.split ':' body).mapM (integerIn 10)
        return signed negative (parts.foldl (fun total part => total * 60 + part) 0)
      else do return signed negative (← integerIn 10 body)

theorem integerValue_eq (text : List Char) :
    integerValue text = (signedBody (text.filter (· != '_')) >>= fun found =>
      bodyValue found.1 found.2) :=
  rfl

theorem isDigitIn_of_filter {digits : List Char}
    (allowed : ∀ c ∈ digits, c = '_' ∨ IsDigitIn base c) :
    ∀ c ∈ digits.filter (· != '_'), IsDigitIn base c := by
  intro c listed
  obtain ⟨inside, notBar⟩ := List.mem_filter.mp listed
  exact (allowed c inside).resolve_left (bne_iff_ne.mp notBar)

/-- A numeral that starts with a zero and has no mark is read in base eight. -/
theorem exists_bodyValue_octal (negative : Bool) (digits : ∀ c ∈ text, IsDigitIn 8 c)
    (ends : IsLineEnd ending) :
    ∃ value, bodyValue negative ('0' :: text ++ ending) = .ok value := by
  have zero : IsDigitIn 8 '0' := ⟨0, rfl, by decide⟩
  obtain ⟨value, read⟩ := ((integerIn_refused (List.forall_mem_cons.mpr ⟨zero, digits⟩)
    ends).bind_pure (signed negative)).read (by simp)
  cases text with
  | nil =>
      rcases ends with rfl | rfl
      · exact ⟨0, rfl⟩
      · exact ⟨value, read⟩
  | cons c rest =>
      obtain ⟨digit, isDigit, below⟩ := digits c List.mem_cons_self
      have notBinary : c ≠ 'b' := by
        rintro rfl
        cases isDigit
        exact absurd below (by decide)
      have notHexadecimal : c ≠ 'x' := by
        rintro rfl
        cases isDigit
      refine ⟨value, ?_⟩
      rw [← read]
      simp [bodyValue, notBinary, notHexadecimal]

/-- A numeral that starts with another digit is read by its parts. -/
theorem bodyValue_decimal (negative : Bool) {first : Char} {rest : List Char}
    (notZero : first ≠ '0') (ends : IsLineEnd ending)
    (numerals : ∀ part ∈ Text.split ':' (first :: rest),
      part ≠ [] ∧ ∀ c ∈ part, IsDigitIn 10 c) :
    RefusedWhen (∃ part ∈ Text.split ':' (first :: rest), Json.maxIntegerDigits < part.length)
      (bodyValue negative (first :: rest ++ ending)) := by
  have each : ∀ part ∈ Text.split ':' (first :: rest), ∀ ending, IsLineEnd ending →
      RefusedWhen (Json.maxIntegerDigits < part.length) (integerIn 10 (part ++ ending)) := by
    intro part listed ending ends
    obtain ⟨some, digits⟩ := numerals part listed
    exact (integerIn_refused digits ends).congr (by simp [some])
  have body : bodyValue negative (first :: rest ++ ending) =
      if (first :: rest ++ ending).contains ':' then do
        let parts ← (Text.split ':' (first :: rest ++ ending)).mapM (integerIn 10)
        return signed negative (parts.foldl (fun total part => total * 60 + part) 0)
      else do return signed negative (← integerIn 10 (first :: rest ++ ending)) := by
    simp [bodyValue, notZero]
  rw [body]
  split
  · exact (RefusedWhen.mapM_split ends each).bind_pure _
  · next whole => exact (RefusedWhen.of_split ends whole each).bind_pure (signed negative)

/-- A mark of a base is no octal digit. -/
theorem octal_unmarked {digits : List Char} (octals : ∀ c ∈ digits, IsDigitIn 8 c) :
    'b' ∉ digits ∧ 'x' ∉ digits := by
  constructor
  · intro listed
    obtain ⟨digit, isDigit, below⟩ := octals 'b' listed
    cases isDigit
    exact absurd below (by decide)
  · intro listed
    obtain ⟨digit, isDigit, -⟩ := octals 'x' listed
    cases isDigit

/-- Without the underscores, the parts of a number are digits, and there are some in each. -/
theorem digits_of_parts {text : List Char}
    (parts : ∀ part ∈ Text.split ':' text, Form.isLooseNumber part = true) :
    ∀ part ∈ Text.split ':' (text.filter (· != '_')),
      part ≠ [] ∧ ∀ c ∈ part, IsDigitIn 10 c := by
  rw [Text.split_filter rfl]
  intro part listed
  obtain ⟨loose, isPart, rfl⟩ := List.mem_map.mp listed
  exact ⟨Form.filter_ne_nil_of_isLooseNumber (parts loose isPart),
    Form.isDigitIn_of_mem_filter (Form.looseNumber_characters (parts loose isPart))⟩

/-- An integer behind its sign is refused when it is vain.  The cases are those of its shape: only
the digits of a marked base can be missing, and only those of base ten are counted. -/
theorem bodyValue_refused (negative : Bool) {body : List Char} (shape : Form.IntegerShape body)
    (ends : IsLineEnd ending) (digits : List Char) (loose : digits = body.filter (· != '_')) :
    RefusedWhen (digits = ['0', 'b'] ∨ digits = ['0', 'x'] ∨
      (digits.head? ≠ some '0' ∧
        ∃ part ∈ Text.split ':' digits, Json.maxIntegerDigits < part.length))
      (bodyValue negative (digits ++ ending)) := by
  subst loose
  cases shape with
  | zero =>
      obtain ⟨value, read⟩ := @exists_bodyValue_octal [] ending negative (by simp) ends
      exact ⟨by simp, fun _ => ⟨value, read⟩⟩
  | @binary digits some allowed =>
      have refused := (integerIn_refused (isDigitIn_of_filter allowed) ends).bind_pure
        (signed negative)
      exact refused.congr (by simp)
  | @hexadecimal digits some allowed =>
      have refused := (integerIn_refused (isDigitIn_of_filter allowed) ends).bind_pure
        (signed negative)
      exact refused.congr (by simp)
  | @octal digits allowed =>
      have octals := isDigitIn_of_filter allowed
      obtain ⟨noBinary, noHexadecimal⟩ := octal_unmarked octals
      obtain ⟨value, read⟩ := exists_bodyValue_octal negative octals ends
      refine ⟨?_, fun _ => ⟨value, read⟩⟩
      rintro (binary | hexadecimal | ⟨noZero, -⟩)
      · exact absurd (by simp_all) noBinary
      · exact absurd (by simp_all) noHexadecimal
      · exact absurd rfl noZero
  | @decimal first rest notZero parts =>
      have notBar : (first != '_') = true :=
        bne_iff_ne.mpr (Number.not_bar_of_isDigitIn (Form.isDigitIn_of_parts parts))
      have numerals := digits_of_parts parts
      rw [List.filter_cons, if_pos notBar] at numerals ⊢
      refine (bodyValue_decimal negative notZero ends numerals).congr ?_
      simp [notZero]

/-- A text with the form of an integer is refused exactly when it is vain. -/
theorem integerValue_refused (integer : Form.isInteger text = true) (ends : IsLineEnd ending) :
    RefusedWhen (Form.IsVainInteger text) (integerValue (text ++ ending)) := by
  have shape := Form.integerShape integer
  obtain ⟨first, rest, starts, digit⟩ := shape.exists_first
  obtain ⟨negative, taken⟩ := @Form.exists_signedBody id text rest first rfl rfl starts
    (Number.not_bar_of_isDigitIn digit) (Number.not_sign_of_isDigitIn digit) ending
  have kept : (text ++ ending).filter (· != '_') = text.filter (· != '_') ++ ending := by
    rw [List.filter_append]
    rcases ends with rfl | rfl
    all_goals rfl
  rw [List.map_id, List.map_id] at taken
  rw [integerValue_eq, kept, taken]
  exact bodyValue_refused negative shape ends _ rfl

end Yaml

end AsyncTypes
