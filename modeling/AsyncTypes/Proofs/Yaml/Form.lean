import AsyncTypes.Proofs.Yaml.Real

/-!
# Forms that promise a value

An untagged scalar gets its tag by its form, and is then read by the reader of that tag.  The form
promises a value, and the promise is kept but for a few texts of each kind.
-/

namespace AsyncTypes.Yaml

/-! ## Timestamps -/

namespace Timestamp

/-- A timestamp names no day of the calendar. -/
def IsNoDay (timestamp : Timestamp) : Prop :=
  timestamp.year = 0 ∨ (timestamp.month = 0 ∨ 12 < timestamp.month) ∨
    (timestamp.day = 0 ∨ daysIn timestamp.year timestamp.month < timestamp.day)

/-- A clock shows no time of the day, or is a day or more away from universal time. -/
def IsNoTime (clock : Clock) : Prop :=
  (∃ zone, clock.zone = some zone ∧ 24 * 60 ≤ zone.hours * 60 + zone.minutes) ∨
    23 < clock.hour ∨ 59 < clock.minute ∨ 59 < clock.second

/-- A timestamp names no day or no time. -/
def IsImpossible (timestamp : Timestamp) : Prop :=
  timestamp.IsNoDay ∨ ∃ clock, timestamp.clock = some clock ∧ IsNoTime clock

theorem date_refused (timestamp : Timestamp) :
    RefusedWhen timestamp.IsNoDay timestamp.date := by
  obtain ⟨year, month, day, full, clock⟩ := timestamp
  simp only [IsNoDay, date, Bool.or_eq_true, decide_eq_true_eq]
  exact .otherwise (.otherwise .alone)

theorem minutesOf_refused (zone : Zone) :
    RefusedWhen (24 * 60 ≤ zone.hours * 60 + zone.minutes) (minutesOf zone) := by
  unfold minutesOf
  extract_lets size minutes span
  by_cases short : size < 24 * 60
  · rw [if_pos short]
    exact RefusedWhen.ok.congr (iff_of_false id (by omega))
  · rw [if_neg short]
    exact ⟨fun _ => ⟨_, rfl⟩, fun fails => absurd short (by omega)⟩

/-- The distance to universal time of a zone, if there is one. -/
def offsetOf : Option Zone → Except Fault (Option Int)
  | none => pure none
  | some zone => (minutesOf zone).map some

theorem offsetOf_refused (zone? : Option Zone) :
    RefusedWhen (∃ zone, zone? = some zone ∧ 24 * 60 ≤ zone.hours * 60 + zone.minutes)
      (offsetOf zone?) := by
  cases zone? with
  | none => exact RefusedWhen.ok.congr (by simp)
  | some zone => exact ((minutesOf_refused zone).map some).congr (by simp)

/-- A date with a time of the day. -/
def timed (clock : Clock) (offset : Option Int) (date : Date) : Except Fault Scalar := do
  if 23 < clock.hour then .error (.badValue "hour must be in 0..23")
  if 59 < clock.minute then .error (.badValue "minute must be in 0..59")
  if 59 < clock.second then .error (.badValue "second must be in 0..59")
  return .dateTime ⟨date, clock.hour, clock.minute, clock.second,
    microseconds clock.fraction, offset⟩

theorem timed_refused (clock : Clock) (offset : Option Int) (date : Date) :
    RefusedWhen (23 < clock.hour ∨ 59 < clock.minute ∨ 59 < clock.second)
      (timed clock offset date) := by
  have read := @RefusedWhen.ok Scalar (.dateTime ⟨date, clock.hour, clock.minute, clock.second,
    microseconds clock.fraction, offset⟩)
  exact read.otherwise_bind.otherwise_bind.otherwise_bind.congr (by simp only [or_false])

theorem value_eq_timed (timestamp : Timestamp) {clock : Clock}
    (timedBy : timestamp.clock = some clock) :
    timestamp.value = (offsetOf clock.zone >>= fun offset =>
      timestamp.date >>= fun date => timed clock offset date) := by
  obtain ⟨year, month, day, full, clock?⟩ := timestamp
  cases timedBy
  obtain ⟨hour, minute, second, fraction, zone?⟩ := clock
  cases zone? with
  | none => rfl
  | some zone => rfl

/-- A timestamp is refused when it is impossible. -/
theorem value_refused (timestamp : Timestamp) :
    RefusedWhen timestamp.IsImpossible timestamp.value := by
  have dated := date_refused timestamp
  cases timedBy : timestamp.clock with
  | none =>
      rw [value, timedBy]
      exact (dated.map Scalar.date).congr (by simp [IsImpossible, timedBy])
  | some clock =>
      rw [value_eq_timed timestamp timedBy]
      refine ((offsetOf_refused clock.zone).bind fun offset => dated.bind fun date =>
        timed_refused clock offset date).congr ?_
      simp only [IsImpossible, IsNoTime, timedBy, Option.some.injEq, exists_eq_left', or_left_comm]

end Timestamp

/-! ## Refusals -/

/-- A result is refused for another reason than that the text is malformed. -/
def Escapes {α : Type} (result : Except Fault α) : Prop :=
  ∃ fault, result = .error fault ∧ ∀ level, fault ≠ .malformed level

theorem RefusedWhen.escapes_iff {α : Type} {condition : Prop} {result : Except Fault α}
    (refused : RefusedWhen condition result) : Escapes result ↔ condition := by
  constructor
  · rintro ⟨fault, failed, -⟩
    by_contra fails
    obtain ⟨value, found⟩ := refused.read fails
    rw [found] at failed
    cases failed
  · intro holds
    obtain ⟨message, failed⟩ := refused.refused holds
    exact ⟨_, failed, fun level => nofun⟩

theorem escapes_error_iff {α : Type} {fault : Fault} :
    Escapes (.error fault : Except Fault α) ↔ ∀ level, fault ≠ .malformed level := by
  simp [Escapes]

theorem escapes_map_iff {α β : Type} {result : Except Fault α} (change : α → β) :
    Escapes (result.map change) ↔ Escapes result := by
  cases result with
  | ok value => exact ⟨nofun, nofun⟩
  | error fault => exact (@escapes_error_iff β fault).trans (@escapes_error_iff α fault).symm

theorem not_escapes_ok {α : Type} (value : α) : ¬ Escapes (.ok value : Except Fault α) :=
  nofun

theorem not_escapes_malformed {α : Type} (level : Level) :
    ¬ Escapes (.error (.malformed level) : Except Fault α) :=
  fun escapes => escapes_error_iff.mp escapes level rfl

namespace Form

/-- A text has the form of a kind of scalar, and denotes none of it.  A newline at its end does
not count for its form: a word for a truth value or for a number is not read together with
one.  An integer can be vain, and a timestamp impossible. -/
def Deceives (text : List Char) : Prop :=
  let body := withoutFinalNewline text
  match tagOf text with
  | .bool => body ≠ text
  | .float => body ≠ text ∧
      (isInfinity (withoutSign body) = true ∨ isNotANumber (withoutSign body) = true)
  | .int => IsVainInteger body
  | .timestamp => ∃ timestamp, Timestamp.ofText? body = some timestamp ∧ timestamp.IsImpossible
  | _ => False

theorem exists_ending (text : List Char) :
    ∃ ending, IsLineEnd ending ∧ text = withoutFinalNewline text ++ ending ∧
      (ending ≠ [] ↔ withoutFinalNewline text ≠ text) := by
  rw [withoutFinalNewline]
  split
  · next newline =>
      have divided := List.dropLast_append_getLast? '\n' (beq_iff_eq.mp newline)
      refine ⟨['\n'], .inr rfl, divided.symm, iff_of_true (List.cons_ne_nil _ _) fun same => ?_⟩
      have length := congrArg List.length divided
      rw [same] at length
      simp at length
  · exact ⟨[], .inl rfl, (List.append_nil text).symm, by simp⟩

/-- A text has a truth value when it is one of two kinds of words in lower case. -/
theorem truthValue_cases (text : String) :
    Escapes (truthValue text) ↔ String.ofList (Unicode.lowerText text.toList) ∉
      ["yes", "true", "on"] ++ ["no", "false", "off"] := by
  rw [truthValue, List.mem_append]
  split
  · next yes =>
      exact iff_of_false (not_escapes_ok _) fun none => none (.inl (List.contains_iff_mem.mp yes))
  · next notYes =>
      split
      · next no =>
          exact iff_of_false (not_escapes_ok _) fun none =>
            none (.inr (List.contains_iff_mem.mp no))
      · next notNo =>
          refine iff_of_true ⟨_, rfl, fun level => nofun⟩ ?_
          rintro (yes | no)
          · exact notYes (List.contains_iff_mem.mpr yes)
          · exact notNo (List.contains_iff_mem.mpr no)

/-- A word for a truth value is not read together with a newline. -/
theorem truthValue_escapes_iff {text : String}
    (word : truthWords.contains (String.ofList (withoutFinalNewline text.toList)) = true) :
    Escapes (truthValue text) ↔ withoutFinalNewline text.toList ≠ text.toList := by
  obtain ⟨ending, ends, divided, some⟩ := exists_ending text.toList
  have listed : withoutFinalNewline text.toList ∈ truthWords.map String.toList := by
    simpa using List.mem_map_of_mem (f := String.toList) (List.contains_iff_mem.mp word)
  have alone : ∀ word ∈ truthWords.map String.toList, String.ofList (Unicode.lowerText word) ∈
      ["yes", "true", "on"] ++ ["no", "false", "off"] := by decide +kernel
  have ended : ∀ word ∈ truthWords.map String.toList,
      String.ofList (Unicode.lowerText (word ++ ['\n'])) ∉
        ["yes", "true", "on"] ++ ["no", "false", "off"] := by decide +kernel
  rw [truthValue_cases, ← some]
  rcases ends with rfl | rfl
  · rw [List.append_nil] at divided
    rw [divided]
    exact iff_of_false (fun none => none (alone _ listed)) fun some => some rfl
  · rw [divided]
    exact iff_of_true (ended _ listed) (List.cons_ne_nil _ _)

theorem timestampValue_escapes_iff {text : String}
    (form : Timestamp.isPlainForm (withoutFinalNewline text.toList) = true) :
    Escapes (timestampValue text) ↔ ∃ timestamp,
      Timestamp.ofText? (withoutFinalNewline text.toList) = some timestamp ∧
        timestamp.IsImpossible := by
  rw [Timestamp.isPlainForm, Option.any_eq_true] at form
  obtain ⟨timestamp, spelled, -⟩ := form
  rw [timestampValue, spelled, (Timestamp.value_refused timestamp).escapes_iff]
  simp

/-- An untagged scalar is refused for what it denotes exactly when it deceives. -/
theorem scalarValue_tagOf_escapes_iff (text : String) :
    Escapes (scalarValue (tagOf text.toList) text) ↔ Deceives text.toList := by
  obtain ⟨ending, ends, divided, some⟩ := exists_ending text.toList
  rw [Deceives, tagOf]
  split
  · next none => exact iff_of_false (not_escapes_ok _) id
  · split
    · next word => exact (escapes_map_iff _).trans (truthValue_escapes_iff word)
    · split
      · next real =>
          refine (escapes_map_iff _).trans ?_
          have refused := (realValue_refused real ends).escapes_iff
          rwa [← divided, some] at refused
      · split
        · next integer =>
            refine (escapes_map_iff _).trans ?_
            have refused := (integerValue_refused integer ends).escapes_iff
            rwa [← divided] at refused
        · split
          · exact iff_of_false (not_escapes_malformed _) id
          · split
            · exact iff_of_false (not_escapes_ok _) id
            · split
              · next form => exact timestampValue_escapes_iff form
              · split
                · exact iff_of_false (not_escapes_malformed _) id
                · split
                  · exact iff_of_false (not_escapes_malformed _) id
                  · exact iff_of_false (not_escapes_ok _) id

end Form

end AsyncTypes.Yaml
