/-!
# Cutting text

Splitting at a separator and taking away a known beginning, over lists of
characters.  Splitting loses nothing: joining the parts with the separator gives
the text back.
-/

namespace AsyncTypes.Text

/-- Put a character in front of the first part. -/
def extendFirst (c : Char) : List (List Char) → List (List Char)
  | [] => [[c]]
  | part :: rest => (c :: part) :: rest

/-- The parts of a text between separators; a text without any is one part. -/
def split (separator : Char) : List Char → List (List Char)
  | [] => [[]]
  | c :: rest =>
      if c == separator then [] :: split separator rest
      else extendFirst c (split separator rest)

/-- The first part only grows in front, so there still is one. -/
theorem extendFirst_ne_nil (c : Char) (parts : List (List Char)) : extendFirst c parts ≠ [] := by
  cases parts <;> simp [extendFirst]

/-- A split text has at least one part. -/
theorem split_ne_nil (separator : Char) (text : List Char) : split separator text ≠ [] := by
  cases text with
  | nil => simp [split]
  | cons c rest =>
      by_cases equal : c == separator
      · simp [split, equal]
      · simpa [split, equal] using extendFirst_ne_nil c _

/-- Extending the first of some parts extends the joined text. -/
theorem intercalate_extendFirst (separator : List Char) (c : Char) {parts : List (List Char)}
    (some : parts ≠ []) :
    separator.intercalate (extendFirst c parts) = c :: separator.intercalate parts := by
  match parts with
  | [] => exact absurd rfl some
  | [part] => simp [extendFirst, List.intercalate]
  | part :: next :: rest => simp [extendFirst, List.intercalate]

/-- Joining the parts with the separator gives the text back. -/
theorem intercalate_split (separator : Char) (text : List Char) :
    [separator].intercalate (split separator text) = text := by
  induction text with
  | nil => rfl
  | cons c rest ih =>
      by_cases equal : c = separator
      · subst equal
        cases parts : split c rest with
        | nil => exact absurd parts (split_ne_nil c rest)
        | cons part others =>
            rw [parts] at ih
            rw [split, if_pos (by simp), parts, ← ih]
            simp [List.intercalate]
      · simp [split, equal, intercalate_extendFirst _ _ (split_ne_nil separator rest), ih]

/-- What follows a known beginning. -/
def after? (beginning text : List Char) : Option (List Char) :=
  if beginning.isPrefixOf text then some (text.drop beginning.length) else none

/-- A text follows a beginning exactly when the two joined are the whole. -/
theorem after?_eq_some_iff {beginning text rest : List Char} :
    after? beginning text = some rest ↔ text = beginning ++ rest := by
  simp only [after?, List.isPrefixOf_iff_prefix]
  constructor
  · intro found
    split at found
    · next starts =>
        obtain ⟨others, rfl⟩ := starts
        simp_all
    · simp at found
  · rintro rfl
    simp

/-- One text occurs inside another. -/
def occursIn (part : List Char) : List Char → Bool
  | [] => part.isEmpty
  | c :: rest => part.isPrefixOf (c :: rest) || occursIn part rest

/-- The text starts with the given beginning. -/
def startsWith (beginning text : String) : Bool :=
  beginning.toList.isPrefixOf text.toList

/-- What follows a known beginning of a text. -/
def afterBeginning? (beginning text : String) : Option String :=
  (after? beginning.toList text.toList).map String.ofList

end AsyncTypes.Text
