import AsyncTypes.TypeScript.Text

/-!
# Reading literals in quotes

A literal ends at the first quote in it that is not escaped, and it must end on its line.  A
backslash changes the meaning of the next character: `n` stands for a line feed and `r` for a
carriage return, and any other character for itself.  The literal of a text stands on one line,
it ends where the text does, and its content is the text.
-/

namespace AsyncTypes.TypeScript

/-- What a character stands for after a backslash. -/
def unescaped (c : Char) : Char :=
  if c = 'n' then '\n' else if c = 'r' then '\r' else c

/-- The content of a literal whose opening quote has been read, and the text after its closing
quote. -/
def readQuoted : List Char → Option (List Char × List Char)
  | [] => none
  | '\'' :: rest => some ([], rest)
  | '\\' :: c :: rest =>
      if isLineEnd c then none
      else (readQuoted rest).map fun read => (unescaped c :: read.1, read.2)
  | c :: rest =>
      if isLineEnd c then none else (readQuoted rest).map fun read => (c :: read.1, read.2)

/-! ## Escaped characters -/

/-- In a literal a character is written after a backslash or as it is; a quote, a backslash and
a line end are never written as they are. -/
theorem escapeCharacter_cases (c : Char) :
    (∃ d, escapeCharacter c = ['\\', d] ∧ isLineEnd d = false ∧ unescaped d = c) ∨
      (escapeCharacter c = [c] ∧ c ≠ '\\' ∧ c ≠ '\'' ∧ isLineEnd c = false) := by
  by_cases backslash : c = '\\'
  · subst backslash
    exact Or.inl ⟨'\\', rfl, rfl, rfl⟩
  by_cases quote : c = '\''
  · subst quote
    exact Or.inl ⟨'\'', rfl, rfl, rfl⟩
  by_cases feed : c = '\n'
  · subst feed
    exact Or.inl ⟨'n', rfl, rfl, rfl⟩
  by_cases carriage : c = '\r'
  · subst carriage
    exact Or.inl ⟨'r', rfl, rfl, rfl⟩
  right
  simp [escapeCharacter, isLineEnd, backslash, quote, feed, carriage]

/-- An escaped character is read as the character. -/
theorem readQuoted_escapeCharacter (c : Char) (rest : List Char) :
    readQuoted (escapeCharacter c ++ rest) =
      (readQuoted rest).map fun read => (c :: read.1, read.2) := by
  rcases escapeCharacter_cases c with ⟨d, escaped, online, rfl⟩ | ⟨same, backslash, quote, online⟩
  · simp [escaped, readQuoted, online]
  · simp [same, readQuoted, backslash, online]

/-- A literal is read as its content, whatever follows it. -/
theorem readQuoted_escaped (content rest : List Char) :
    readQuoted (content.flatMap escapeCharacter ++ '\'' :: rest) = some (content, rest) := by
  induction content with
  | nil => simp [readQuoted]
  | cons c content ih =>
      rw [List.flatMap_cons, List.append_assoc, readQuoted_escapeCharacter, ih, Option.map_some]

/-- A reader that keeps what it has read inside a literal, most recent first, has read the content
when it comes to the closing quote. -/
theorem read_escaped {α : Type} (inside escaped closed : List Char → List Char → α)
    (close : ∀ read rest, inside read ('\'' :: rest) = closed read rest)
    (escape : ∀ read rest, inside read ('\\' :: rest) = escaped read rest)
    (plain : ∀ read rest c, c ≠ '\\' → c ≠ '\'' → isLineEnd c = false →
      inside read (c :: rest) = inside (c :: read) rest)
    (after : ∀ read rest c, isLineEnd c = false →
      escaped read (c :: rest) = inside (unescaped c :: read) rest)
    (read content rest : List Char) :
    inside read (content.flatMap escapeCharacter ++ '\'' :: rest) =
      closed (content.reverse ++ read) rest := by
  induction content generalizing read with
  | nil => exact close read rest
  | cons c content ih =>
      rw [List.flatMap_cons, List.append_assoc, List.reverse_cons, List.append_assoc]
      rcases escapeCharacter_cases c with
        ⟨d, written, online, rfl⟩ | ⟨same, backslash, quote, online⟩
      · rw [written]
        exact (escape read _).trans ((after read _ d online).trans (ih _))
      · rw [same]
        exact (plain read _ c backslash quote online).trans (ih _)

/-! ## Literals -/

/-- A literal stands on one line. -/
theorem isLineEnd_of_mem_stringLiteral {text : String} {c : Char}
    (member : c ∈ (stringLiteral text).toList) : isLineEnd c = false := by
  have escaped : ∀ d, c ∈ escapeCharacter d → isLineEnd c = false := by
    intro d member
    rcases escapeCharacter_cases d with ⟨e, escaped, online, -⟩ | ⟨same, -, -, online⟩
    · rw [escaped] at member
      simp only [List.mem_cons, List.not_mem_nil, or_false] at member
      rcases member with rfl | rfl
      · rfl
      · exact online
    · rw [same] at member
      rwa [List.mem_singleton.mp member]
  rw [stringLiteral, String.toList_ofList] at member
  rcases List.mem_append.mp member with front | quote
  · rcases List.mem_cons.mp front with rfl | inside
    · rfl
    · obtain ⟨d, -, written⟩ := List.mem_flatMap.mp inside
      exact escaped d written
  · rw [List.mem_singleton.mp quote]
    rfl

/-- After its opening quote the literal of a text is read as the text, and nothing is left. -/
theorem exists_readQuoted_stringLiteral (text : String) :
    ∃ inner, (stringLiteral text).toList = '\'' :: inner ∧
      readQuoted inner = some (text.toList, []) :=
  ⟨text.toList.flatMap escapeCharacter ++ ['\''], by simp [stringLiteral],
    readQuoted_escaped text.toList []⟩

end AsyncTypes.TypeScript
