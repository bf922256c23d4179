import AsyncTypes.Json.Reader
import AsyncTypes.Proofs.Text.Reading
import Mathlib.Data.List.TakeWhile

/-!
# Faults of JSON text

A JSON text is malformed at some position, or has an integer of more digits than are read.  No
other fault is possible.
-/

namespace AsyncTypes.Json

open Text (ReadsWithin)

/-- The text has a run of so many digits, and they are too many. -/
def HasLongNumber (text : List Char) (count : Nat) : Prop :=
  ∃ digits, digits <:+: text ∧ (∀ c ∈ digits, c.isDigit = true) ∧ digits.length = count ∧
    maxIntegerDigits < count

/-- A text is to blame for being malformed, or for its long numbers. -/
def readerBlame (text : List Char) (fault : Fault) : Prop :=
  (∃ problem position, fault = .malformed problem position) ∨
    ∃ count, fault = .numberTooLong count ∧ HasLongNumber text count

/-- A reader keeps to a text. -/
abbrev Reads {α : Type} (text : List Char) (result : Except Fault (α × Place)) : Prop :=
  ReadsWithin readerBlame (fun found => found.2.rest) text result

variable {text : List Char} {place : Place}

theorem reads_malformed {α : Type} (problem : Problem) (position : Nat) :
    Reads text (.error (.malformed problem position) : Except Fault (α × Place)) :=
  .inl ⟨problem, position, rfl⟩

theorem reads_fail {α : Type} (place : Place) (problem : Problem) :
    Reads text (place.fail problem : Except Fault (α × Place)) :=
  reads_malformed problem place.position

theorem skip_suffix (count : Nat) (behind : place.rest <:+ text) :
    (place.skip count).rest <:+ text :=
  (List.drop_suffix _ _).trans behind

theorem skipSpace_suffix (behind : place.rest <:+ text) : (skipSpace place).rest <:+ text :=
  skip_suffix _ behind

theorem cons_suffix {c : Char} {rest : List Char} (behind : c :: rest <:+ text) : rest <:+ text :=
  (List.suffix_cons c rest).trans behind

theorem readString_reads (opening : Nat) (high : Option Nat) (done rest : List Char)
    (position : Nat) (behind : rest <:+ text) :
    Reads text (readString opening high done rest position) := by
  fun_induction readString opening high done rest position with
  | case1 | case3 | case4 | case6 | case8 | case9 => exact reads_malformed _ _
  | case2 => exact cons_suffix behind
  | case5 _ _ _ _ _ _ _ _ _ _ _ ih =>
      exact ih ((List.suffix_append ['\\', 'u', _, _, _, _] _).trans behind)
  | case7 _ _ _ _ _ _ _ _ _ ih => exact ih (cons_suffix (cons_suffix behind))
  | case10 _ _ _ _ _ _ _ _ _ _ _ ih => exact ih (cons_suffix behind)

theorem numberOf_reads {digits : List Char} (negative : Bool) (fraction : Option (List Char))
    (exponent : Option Int) (run : ∀ c ∈ digits, c.isDigit = true) (inside : digits <:+: text) :
    ∀ fault, numberOf negative digits fraction exponent = .error fault →
      readerBlame text fault := by
  intro fault refused
  unfold numberOf at refused
  split at refused
  · split at refused
    · next long =>
        cases refused
        exact .inr ⟨_, rfl, digits, inside, run, rfl, long⟩
    · cases refused
  · cases refused

theorem readDigits_suffix (behind : place.rest <:+ text) : (readDigits place).2.rest <:+ text :=
  skip_suffix _ behind

theorem afterFraction_suffix (behind : place.rest <:+ text) :
    (((readFraction place).map (·.2)).getD place).rest <:+ text := by
  unfold readFraction
  split
  · split
    · exact readDigits_suffix (skip_suffix 1 behind)
    · exact behind
  · exact behind

theorem afterExponent_suffix (behind : place.rest <:+ text) :
    (((readExponent place).map (·.2)).getD place).rest <:+ text := by
  have afterDigits : ∀ {start : Place} {negative : Bool}, start.rest <:+ text →
      ((Option.map Prod.snd (if (readDigits start).1.isEmpty then none
        else some ((if negative then -(natOfDigits (readDigits start).1 : Int)
          else natOfDigits (readDigits start).1), (readDigits start).2))).getD place).rest
            <:+ text := by
    intro start negative further
    split
    · exact behind
    · exact readDigits_suffix further
  unfold readExponent
  dsimp only
  split
  · split
    · split
      · exact afterDigits (skip_suffix 2 behind)
      · split
        · exact afterDigits (skip_suffix 2 behind)
        · exact afterDigits (skip_suffix 1 behind)
    · exact behind
  · exact behind

/-- The digits before the point of a number are a run of digits of the text. -/
theorem wholeDigits {c : Char} {rest : List Char} (behind : place.rest <:+ text)
    (starts : place.rest = c :: rest) :
    (∀ d ∈ (if c == '0' then (['0'], place.skip 1) else readDigits place).1, d.isDigit = true) ∧
      (if c == '0' then (['0'], place.skip 1) else readDigits place).1 <:+: text ∧
      (if c == '0' then (['0'], place.skip 1) else readDigits place).2.rest <:+ text := by
  split
  · next zero =>
      cases beq_iff_eq.mp zero
      refine ⟨fun d listed => List.mem_singleton.mp listed ▸ rfl, ?_, skip_suffix 1 behind⟩
      have first : ['0'] <+: place.rest := starts ▸ List.prefix_append ['0'] rest
      exact first.isInfix.trans behind.isInfix
  · have first : place.rest.takeWhile Char.isDigit <+: place.rest := List.takeWhile_prefix _
    exact ⟨fun d listed => List.mem_takeWhile_imp listed, first.isInfix.trans behind.isInfix,
      readDigits_suffix behind⟩

theorem readsWithin_number {result : Except Fault Scalar} {after : Place}
    (blamed : ∀ fault, result = .error fault → readerBlame text fault)
    (further : after.rest <:+ text) : Reads text (result.map fun number => (number, after)) := by
  cases result with
  | error fault => exact blamed fault rfl
  | ok number => exact further

theorem readNumber_reads (behind : place.rest <:+ text) : Reads text (readNumber place) := by
  unfold readNumber
  extract_lets negative first
  have firstSuffix : first.rest <:+ text := by
    show (if negative then place.skip 1 else place).rest <:+ text
    split
    · exact skip_suffix 1 behind
    · exact behind
  split
  · exact reads_fail _ _
  · next c rest starts =>
      split
      · exact reads_fail _ _
      · next digit =>
          have digits := wholeDigits firstSuffix starts
          generalize (if c == '0' then (['0'], first.skip 1) else readDigits first) = whole
            at digits ⊢
          obtain ⟨run, inside, further⟩ := digits
          refine readsWithin_number (numberOf_reads _ _ _ run inside) ?_
          exact afterExponent_suffix (afterFraction_suffix further)

theorem readWord?_suffix {word : Scalar} {after : Place}
    (read : readWord? place = some (word, after))
    (behind : place.rest <:+ text) : after.rest <:+ text := by
  rw [readWord?, Option.map_eq_some_iff] at read
  obtain ⟨found, -, same⟩ := read
  cases same
  exact skip_suffix _ behind

/-- All readers of values keep to a text, with a budget. -/
structure ValuesRead (budget : Nat) : Prop where
  value : ∀ {text : List Char} {place : Place}, place.rest <:+ text →
    Reads text (readValue budget place)
  members : ∀ {text : List Char} {place : Place} (done : List (Scalar × Value)),
    place.rest <:+ text → Reads text (readMembers budget done place)
  items : ∀ {text : List Char} {place : Place} (done : List Value), place.rest <:+ text →
    Reads text (readItems budget done place)

section Step

variable {budget : Nat}

theorem ValuesRead.value_succ (reads : ValuesRead budget) (behind : place.rest <:+ text) :
    Reads text (readValue (budget + 1) place) := by
  have inside := skipSpace_suffix (skip_suffix 1 behind)
  rw [readValue]
  split
  · next rest starts =>
      exact (readString_reads _ _ _ _ _ (cons_suffix (starts ▸ behind))).map fun _ => rfl
  · dsimp only
    split
    · exact skip_suffix 1 inside
    · exact reads.members [] inside
  · dsimp only
    split
    · exact skip_suffix 1 inside
    · exact reads.items [] inside
  · split
    · next word => exact readWord?_suffix word behind
    · exact (readNumber_reads behind).map fun _ => rfl

theorem ValuesRead.members_succ (reads : ValuesRead budget) (done : List (Scalar × Value))
    (behind : place.rest <:+ text) : Reads text (readMembers (budget + 1) done place) := by
  rw [readMembers]
  split
  · next rest starts =>
      refine (readString_reads _ _ _ _ _ (cons_suffix (starts ▸ behind))).bind
        fun (name, afterName) further => ?_
      have colon := skipSpace_suffix further
      dsimp only
      split
      · refine (reads.value (skipSpace_suffix (skip_suffix 1 colon))).bind
          fun (value, afterValue) further => ?_
        have separator := skipSpace_suffix further
        dsimp only
        split
        · exact skip_suffix 1 separator
        · exact reads.members _ (skipSpace_suffix (skip_suffix 1 separator))
        · exact reads_fail _ _
      · exact reads_fail _ _
  · exact reads_fail _ _

theorem ValuesRead.items_succ (reads : ValuesRead budget) (done : List Value)
    (behind : place.rest <:+ text) : Reads text (readItems (budget + 1) done place) := by
  rw [readItems]
  refine (reads.value behind).bind fun (value, afterValue) further => ?_
  have separator := skipSpace_suffix further
  dsimp only
  split
  · exact skip_suffix 1 separator
  · exact reads.items _ (skipSpace_suffix (skip_suffix 1 separator))
  · exact reads_fail _ _

end Step

theorem valuesRead (budget : Nat) : ValuesRead budget := by
  induction budget with
  | zero =>
      constructor
      all_goals intros; exact reads_fail _ _
  | succ budget ih => exact ⟨ih.value_succ, ih.members_succ, ih.items_succ⟩

/-- A text that is not read is malformed, or has a long number. -/
theorem fault_read {text : String} {fault : Fault} (refused : read text = .error fault) :
    (∃ problem position, fault = .malformed problem position) ∨
      ∃ count, fault = .numberTooLong count ∧ HasLongNumber text.toList count := by
  have start : (⟨text.toList, 0⟩ : Place).rest <:+ text.toList := List.suffix_refl _
  have reads := (valuesRead (2 * text.toList.length + 2)).value (skipSpace_suffix start)
  rw [read] at refused
  dsimp only at refused
  split at refused
  · cases refused
    exact .inl ⟨_, _, rfl⟩
  · cases found : readValue (2 * text.toList.length + 2) (skipSpace ⟨text.toList, 0⟩) with
    | error met =>
        rw [found] at refused reads
        cases refused
        exact reads
    | ok result =>
        rw [found] at refused
        change (if (skipSpace result.2).rest.isEmpty then .ok result.1
          else (skipSpace result.2).fail .extraData) = Except.error fault at refused
        split at refused
        · cases refused
        · cases refused
          exact .inl ⟨_, _, rfl⟩

end AsyncTypes.Json
