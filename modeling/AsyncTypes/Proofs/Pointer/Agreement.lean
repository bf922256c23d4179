import AsyncTypes.Pointer.Walk
import AsyncTypes.Proofs.Number.Digits

/-!
# Where the two walks agree

At mappings both walks take the same step.  At a list, a key that is a run of decimal digits
is the same index for both.  The walk of the validation goes no further at any other key: it
finds nothing when the key is no run of digits, and it is refused when one of the digits has no
place in a decimal numeral or when there are too many of them.  The walk of the extraction
goes on when the key is an integer of another spelling, and finds nothing where the other one
is refused.
-/

namespace AsyncTypes.Pointer

variable {document value next target : Value} {items : List Value} {key : String}
  {keys rest : List String} {fault : IndexFault}

/-! ## Indices -/

theorem forall_isDigit (digits : isDigits key = true) :
    ∀ c ∈ key.toList, Unicode.isDigit c = true :=
  List.all_eq_true.mp (Bool.and_eq_true_iff.mp digits).2

/-- A run of digits that the validation reads is the same index for the extraction. -/
theorem index?_of_digitIndex {index : Nat} (digits : isDigits key = true)
    (read : digitIndex key = .ok index) : index? key = some (index : Int) := by
  unfold digitIndex at read
  split at read
  · exact nomatch read
  · next short =>
      split at read
      · next number spelled =>
          cases read
          have length := Number.countDigits_of_natural? (forall_isDigit digits) spelled
          rw [index?, length, if_pos (Nat.le_of_not_lt short),
            Number.integer?_of_digits (forall_isDigit digits), spelled]
          rfl
      · exact nomatch read

/-- A run of digits that is refused by the validation is no index for the extraction. -/
theorem index?_of_fault (digits : isDigits key = true) (refused : digitIndex key = .error fault) :
    index? key = none := by
  rw [index?, Number.integer?_of_digits (forall_isDigit digits)]
  cases spelled : Number.natural? 10 key.toList with
  | none => exact ite_self none
  | some number =>
      have length := Number.countDigits_of_natural? (forall_isDigit digits) spelled
      unfold digitIndex at refused
      rw [length]
      split at refused
      · next long => exact if_neg (Nat.not_le_of_lt long)
      · rw [spelled] at refused
        exact nomatch refused

/-! ## One step -/

/-- When the value is a list, the key is a run of digits. -/
def SpelledFor (value : Value) (key : String) : Prop :=
  ∀ items, value = .list items → isDigits key = true

theorem lookupStep_of_not_spelledFor (other : ¬ SpelledFor value key) :
    lookupStep value key = .ok none := by
  cases value with
  | list items =>
      rw [lookupStep, if_neg]
      intro digits
      exact other fun _ _ => digits
  | _ => exact absurd (fun _ list => nomatch list) other

/-- At a key that is refused, the walk of the extraction finds nothing. -/
theorem step?_of_fault (digits : isDigits key = true) (refused : digitIndex key = .error fault) :
    step? (.list items) key = none := by
  rw [step?, index?_of_fault digits refused]
  rfl

theorem lookupStep_of_fault (digits : isDigits key = true)
    (refused : digitIndex key = .error fault) :
    lookupStep (.list items) key = .error fault := by
  rw [lookupStep, if_pos digits, refused]
  rfl

/-- Unless the key is refused, the step is the same for both walks. -/
theorem lookupStep_of_spelledFor (spelled : SpelledFor value key)
    (read : ∀ items fault, value = .list items → digitIndex key ≠ .error fault) :
    lookupStep value key = .ok (step? value key) := by
  cases value with
  | list items =>
      have digits := spelled items rfl
      cases found : digitIndex key with
      | error fault => exact absurd found (read items fault rfl)
      | ok index =>
          have same : itemAt? items index = items[index]? := by simp [itemAt?]
          rw [lookupStep, if_pos digits, found, step?, index?_of_digitIndex digits found]
          exact congrArg Except.ok same.symm
  | _ => rfl

/-! ## Whole ways -/

/-- On the way of the extraction along some keys, every list is met at a run of digits. -/
def InDigits : Value → List String → Prop
  | _, [] => True
  | value, key :: rest => SpelledFor value key ∧
      ∀ next, (step? value key).bind present? = some next → InDigits next rest

/-- The way along some keys meets a list at a run of digits that is refused, and every list
before it at a run of digits. -/
inductive Stumbles : Value → List String → IndexFault → Prop
  | here {items : List Value} {key : String} {rest : List String} {fault : IndexFault}
      (digits : isDigits key = true) (refused : digitIndex key = .error fault) :
      Stumbles (.list items) (key :: rest) fault
  | later {value next : Value} {key : String} {rest : List String} {fault : IndexFault}
      (spelled : SpelledFor value key) (step : (step? value key).bind present? = some next)
      (stumbles : Stumbles next rest fault) : Stumbles value (key :: rest) fault

/-- Where there is a next value, no key is refused. -/
theorem lookupStep_of_step (spelled : SpelledFor value key)
    (step : (step? value key).bind present? = some next) :
    lookupStep value key = .ok (step? value key) := by
  apply lookupStep_of_spelledFor spelled
  rintro items fault rfl refused
  rw [step?_of_fault (spelled items rfl) refused] at step
  exact nomatch step

/-- After a step that is not refused, the walk of the validation goes on with what it gave. -/
theorem lookupKeys_of_ok {next? : Option Value} (stepped : lookupStep value key = .ok next?) :
    lookupKeys value (key :: rest) =
      (next?.bind present?).elim (.ok none) fun next => lookupKeys next rest := by
  simp only [lookupKeys, stepped, bind, Except.bind]
  cases next?.bind present? <;> rfl

theorem lookupKeys_of_step (spelled : SpelledFor value key)
    (step : (step? value key).bind present? = some next) :
    lookupKeys value (key :: rest) = lookupKeys next rest := by
  rw [lookupKeys_of_ok (lookupStep_of_step spelled step), step, Option.elim_some]

/-- The walk of the validation is refused where the way stumbles. -/
theorem lookupKeys_of_stumbles (stumbles : Stumbles value keys fault) :
    lookupKeys value keys = .error fault := by
  induction stumbles with
  | here digits refused =>
      rw [lookupKeys, lookupStep_of_fault digits refused]
      rfl
  | later spelled step _ ih => rw [lookupKeys_of_step spelled step, ih]

/-- The walk of the extraction finds nothing where the way stumbles. -/
theorem follow?_of_stumbles (stumbles : Stumbles value keys fault) : follow? value keys = none := by
  induction stumbles with
  | here digits refused =>
      rw [follow?, step?_of_fault digits refused]
      rfl
  | later _ step _ ih => rw [follow?, step, Option.bind_some, ih]

/-- Along every way, the walk of the validation is refused, or it gives what the extraction
finds in digits, or it gives nothing since a list was met in another spelling. -/
theorem lookupKeys_cases (value : Value) (keys : List String) :
    (∃ fault, Stumbles value keys fault ∧ lookupKeys value keys = .error fault) ∨
      (InDigits value keys ∧ lookupKeys value keys = .ok (follow? value keys)) ∨
      (¬ InDigits value keys ∧ lookupKeys value keys = .ok none) := by
  induction keys generalizing value with
  | nil => exact Or.inr (Or.inl ⟨trivial, rfl⟩)
  | cons key rest ih =>
      by_cases spelled : SpelledFor value key
      · cases step : (step? value key).bind present? with
        | some next =>
            rw [lookupKeys_of_step spelled step, follow?, step, Option.bind_some]
            rcases ih next with ⟨fault, stumbles, refused⟩ | ⟨digits, same⟩ | ⟨other, nothing⟩
            · exact Or.inl ⟨fault, .later spelled step stumbles, refused⟩
            · refine Or.inr (Or.inl ⟨⟨spelled, ?_⟩, same⟩)
              intro later found
              cases step.symm.trans found
              exact digits
            · exact Or.inr (Or.inr ⟨fun digits => other (digits.2 next step), nothing⟩)
        | none =>
            by_cases refused : ∃ items fault, value = .list items ∧ digitIndex key = .error fault
            · obtain ⟨items, fault, rfl, refused⟩ := refused
              have stumbles : Stumbles (.list items) (key :: rest) fault :=
                .here (spelled items rfl) refused
              exact Or.inl ⟨fault, stumbles, lookupKeys_of_stumbles stumbles⟩
            · have same := lookupStep_of_spelledFor spelled
                fun items fault list refusal => refused ⟨items, fault, list, refusal⟩
              refine Or.inr (Or.inl ⟨⟨spelled, fun next found => ?_⟩, ?_⟩)
              · cases step.symm.trans found
              · rw [lookupKeys_of_ok same, follow?, step]
                rfl
      · refine Or.inr (Or.inr ⟨fun digits => spelled digits.1, ?_⟩)
        rw [lookupKeys, lookupStep_of_not_spelledFor spelled]
        rfl

/-! ## Pointers -/

/-- A document with a list of two items. -/
def twoItems : Value :=
  .record [("list", .list [.string "first", .string "second"])]

end AsyncTypes.Pointer
