import AsyncTypes.Proofs.Expression.Quoted

/-!
# Property keys

A property key is written as a literal in quotes, unless it may stand bare.  A bare key is an
identifier; or it is one with a line feed after it, and then the line feed is written too.
-/

namespace AsyncTypes.TypeScript

theorem isIdentifier_cons {c : Char} {rest : List Char} :
    isIdentifier (c :: rest) = true ↔
      startsIdentifier c = true ∧ ∀ d ∈ rest, continuesIdentifier d = true := by
  simp [isIdentifier]

theorem continuesIdentifier_of_startsIdentifier {c : Char} (starts : startsIdentifier c = true) :
    continuesIdentifier c = true := by
  simp only [startsIdentifier, continuesIdentifier, Char.isAlphanum, Bool.or_eq_true] at starts ⊢
  exact starts.imp_left (·.imp_left Or.inl)

/-- All characters of an identifier continue one. -/
theorem continuesIdentifier_of_mem {text : List Char} (identifier : isIdentifier text = true) :
    ∀ c ∈ text, continuesIdentifier c = true := by
  cases text with
  | nil => exact fun _ member => absurd member List.not_mem_nil
  | cons first rest =>
      obtain ⟨starts, continues⟩ := isIdentifier_cons.mp identifier
      exact List.forall_mem_cons.mpr ⟨continuesIdentifier_of_startsIdentifier starts, continues⟩

/-- An identifier has no line feed at its end. -/
theorem dropFinalNewline_of_isIdentifier {text : List Char}
    (identifier : isIdentifier text = true) : dropFinalNewline text = text := by
  rw [dropFinalNewline, if_neg]
  intro last
  obtain ⟨front, rfl⟩ := List.getLast?_eq_some_iff.mp (beq_iff_eq.mp last)
  have continues := continuesIdentifier_of_mem identifier '\n' (by simp)
  exact absurd continues (by decide)

/-- The key is an identifier with one line feed after it. -/
def EndsInLineFeed (key : String) : Prop :=
  ∃ name, isIdentifier name = true ∧ key.toList = name ++ ['\n']

/-- The key that is read where a key is written: a bare key is read without the line feed after
it. -/
def readKey (key : String) : String :=
  if isBareKey key then String.ofList (dropFinalNewline key.toList) else key

/-- A key is written without quotes when it is an identifier, or one with a line feed after
it. -/
theorem isBareKey_cases {key : String} (bare : isBareKey key = true) :
    isIdentifier key.toList = true ∨ EndsInLineFeed key := by
  rw [isBareKey, dropFinalNewline] at bare
  split at bare
  · next last =>
      obtain ⟨name, spelled⟩ := List.getLast?_eq_some_iff.mp (beq_iff_eq.mp last)
      rw [spelled, List.dropLast_concat] at bare
      exact Or.inr ⟨name, bare, spelled⟩
  · exact Or.inl bare

theorem readKey_of_spelled {key : String} {name : List Char} (identifier : isIdentifier name = true)
    (spelled : key.toList = name ++ ['\n']) :
    isBareKey key = true ∧ readKey key = String.ofList name := by
  have dropped : dropFinalNewline key.toList = name := by
    simp [dropFinalNewline, spelled]
  have bare : isBareKey key = true := by rw [isBareKey, dropped, identifier]
  exact ⟨bare, by rw [readKey, bare, dropped]; rfl⟩

/-- A key is read as it is, unless it is an identifier with a line feed after it. -/
theorem readKey_eq_self_iff (key : String) : readKey key = key ↔ ¬ EndsInLineFeed key := by
  constructor
  · rintro same ⟨name, identifier, spelled⟩
    have length := congrArg (fun text : String => text.toList.length) same
    rw [(readKey_of_spelled identifier spelled).2, String.toList_ofList, spelled,
      List.length_append] at length
    exact absurd length (Nat.ne_of_lt (Nat.lt_succ_self _))
  · intro kept
    unfold readKey
    split
    · next bare =>
        have identifier := (isBareKey_cases bare).resolve_right kept
        rw [dropFinalNewline_of_isIdentifier identifier, String.ofList_toList]
    · rfl

end AsyncTypes.TypeScript
