import AsyncTypes.Proofs.Expression.Literal
import AsyncTypes.Proofs.Expression.Quoted

/-!
# Scanning the text of a type

The text of a type is made of lexemes and of delimiters between them, and inside quotes
nothing delimits.  A scan goes through a text and tells something of every lexeme and of
every delimiter.  What it tells of a text is told part by part.
-/

namespace AsyncTypes.TypeScript

/-- A character between the leaves of a type. -/
def isDelimiter (c : Char) : Bool :=
  [' ', '|', '&', '(', ')', '[', ']'].contains c

/-- A text that may follow a lexeme: it is empty or starts with a delimiter. -/
def Follows (rest : List Char) : Prop :=
  ∀ c ∈ rest.head?, isDelimiter c = true

theorem follows_nil : Follows [] :=
  fun _ head => nomatch head

theorem follows_cons {c : Char} (delimiter : isDelimiter c = true) (rest : List Char) :
    Follows (c :: rest) := by
  intro d head
  rwa [Option.mem_some_iff.mp head] at delimiter

/-- Delimiters may follow a lexeme, and so may what follows where there are none. -/
theorem follows_append {delimiters rest : List Char}
    (delimits : ∀ c ∈ delimiters, isDelimiter c = true) (follows : Follows rest) :
    Follows (delimiters ++ rest) := by
  cases delimiters with
  | nil => exact follows
  | cons c others => exact follows_cons (delimits c List.mem_cons_self) _

/-- A character of a lexeme outside quotes. -/
def isPlain (c : Char) : Bool :=
  !isDelimiter c && c != '\''

section

variable {γ : Type}

/-- What a scan tells of a text that starts inside quotes or not: `word` is told of the lexemes
and `mark` of the delimiters; `read` holds the characters of the lexeme at the start of the
text, most recent first. -/
def scanFrom (word : List Char → List γ) (mark : Char → List γ) :
    Bool → List Char → List Char → List γ
  | _, read, [] => word read.reverse
  | true, read, '\\' :: c :: rest => scanFrom word mark true (c :: '\\' :: read) rest
  | true, read, c :: rest => scanFrom word mark (c != '\'') (c :: read) rest
  | false, read, c :: rest =>
      if isDelimiter c then word read.reverse ++ (mark c ++ scanFrom word mark false [] rest)
      else scanFrom word mark (c == '\'') (c :: read) rest

/-- This is told of the text, and what follows it is scanned on its own. -/
def Scans (word : List Char → List γ) (mark : Char → List γ) (text : List Char)
    (told : List γ) : Prop :=
  ∀ rest, Follows rest →
    scanFrom word mark false [] (text ++ rest) = told ++ scanFrom word mark false [] rest

variable {word : List Char → List γ} {mark : Char → List γ} {text : List Char} {told : List γ}

/-- Of a delimiter its mark is told. -/
theorem scanFrom_delimiter (silent : word [] = []) {c : Char} (delimiter : isDelimiter c = true)
    (rest : List Char) :
    scanFrom word mark false [] (c :: rest) = mark c ++ scanFrom word mark false [] rest := by
  simp [scanFrom, delimiter, silent]

theorem scanFrom_delimiters (silent : word [] = []) {delimiters : List Char}
    (delimits : ∀ c ∈ delimiters, isDelimiter c = true) (rest : List Char) :
    scanFrom word mark false [] (delimiters ++ rest) =
      delimiters.flatMap mark ++ scanFrom word mark false [] rest := by
  induction delimiters with
  | nil => rfl
  | cons c others ih =>
      rw [List.cons_append, scanFrom_delimiter silent (delimits c List.mem_cons_self),
        ih fun d later => delimits d (List.mem_cons_of_mem c later), List.flatMap_cons,
        List.append_assoc]

/-- What has been read ends where something may follow. -/
theorem scanFrom_follows (silent : word [] = []) (read : List Char) {rest : List Char}
    (follows : Follows rest) :
    scanFrom word mark false read rest =
      word read.reverse ++ scanFrom word mark false [] rest := by
  cases rest with
  | nil => simp [scanFrom, silent]
  | cons c rest =>
      have delimiter := follows c rfl
      rw [scanFrom_delimiter silent delimiter]
      simp [scanFrom, delimiter]

/-! ## One lexeme -/

theorem scanFrom_plain (plain : ∀ c ∈ text, isPlain c = true) (read rest : List Char) :
    scanFrom word mark false read (text ++ rest) =
      scanFrom word mark false (text.reverse ++ read) rest := by
  induction text generalizing read with
  | nil => rfl
  | cons c text ih =>
      have here := plain c List.mem_cons_self
      simp only [isPlain, Bool.and_eq_true, Bool.not_eq_true', bne_iff_ne] at here
      rw [List.cons_append, scanFrom, here.1]
      simp only [Bool.false_eq_true, if_false, beq_eq_false_iff_ne.mpr here.2]
      rw [ih fun d later => plain d (List.mem_cons_of_mem c later)]
      simp

/-- A text without delimiters and quotes is one lexeme. -/
theorem scans_plain (silent : word [] = []) (plain : ∀ c ∈ text, isPlain c = true) :
    Scans word mark text (word text) := by
  intro rest follows
  rw [scanFrom_plain plain, scanFrom_follows silent _ follows]
  simp

theorem scanFrom_escapeCharacter (c : Char) (read rest : List Char) :
    scanFrom word mark true read (escapeCharacter c ++ rest) =
      scanFrom word mark true ((escapeCharacter c).reverse ++ read) rest := by
  rcases escapeCharacter_cases c with ⟨d, escaped, -, -⟩ | ⟨same, backslash, quote, -⟩
  · simp [escaped, scanFrom]
  · have other : (c != '\'') = true := bne_iff_ne.mpr quote
    simp [same, backslash, scanFrom, other]

theorem scanFrom_escaped (text read rest : List Char) :
    scanFrom word mark true read (text.flatMap escapeCharacter ++ rest) =
      scanFrom word mark true ((text.flatMap escapeCharacter).reverse ++ read) rest := by
  induction text generalizing read with
  | nil => rfl
  | cons c text ih =>
      rw [List.flatMap_cons, List.append_assoc, scanFrom_escapeCharacter, ih]
      simp

/-- A string literal is one lexeme. -/
theorem scans_stringLiteral (silent : word [] = []) (text : String) :
    Scans word mark (stringLiteral text).toList (word (stringLiteral text).toList) := by
  intro rest follows
  rw [stringLiteral, String.toList_ofList]
  rw [List.append_assoc, List.cons_append, scanFrom]
  simp only [show isDelimiter '\'' = false from rfl, Bool.false_eq_true, if_false, beq_self_eq_true]
  rw [scanFrom_escaped, List.cons_append, List.nil_append, scanFrom]
  · rw [bne_self_eq_false, scanFrom_follows silent _ follows]
    simp
  · simp

/-! ## Several lexemes -/

/-- Of a text between delimiters the same is told, between their marks. -/
theorem Scans.between (silent : word [] = []) (scans : Scans word mark text told)
    (opening closing : List Char) (opens : ∀ c ∈ opening, isDelimiter c = true)
    (closes : ∀ c ∈ closing, isDelimiter c = true) :
    Scans word mark (opening ++ text ++ closing)
      (opening.flatMap mark ++ told ++ closing.flatMap mark) := by
  intro rest follows
  rw [List.append_assoc, List.append_assoc, scanFrom_delimiters silent opens,
    scans _ (follows_append closes follows), scanFrom_delimiters silent closes]
  simp only [List.append_assoc]

/-- Of two texts with a delimiter between them both is told, with its mark between. -/
theorem Scans.separated (silent : word [] = []) {second : List Char} {after : List γ}
    (scans : Scans word mark text told) (next : Scans word mark second after)
    {separator : List Char} (some : separator ≠ [])
    (delimits : ∀ c ∈ separator, isDelimiter c = true) :
    Scans word mark (text ++ separator ++ second) (told ++ separator.flatMap mark ++ after) := by
  intro rest follows
  have separates : Follows (separator ++ (second ++ rest)) := by
    cases separator with
    | nil => exact absurd rfl some
    | cons c others => exact follows_cons (delimits c List.mem_cons_self) _
  rw [List.append_assoc, List.append_assoc, scans _ separates,
    scanFrom_delimiters silent delimits, next _ follows]
  simp only [List.append_assoc]

/-- Of joined texts all is told, with the marks between. -/
theorem scans_intercalate (silent : word [] = []) {separator : List Char} (some : separator ≠ [])
    (delimits : ∀ c ∈ separator, isDelimiter c = true) {texts : List (List Char)}
    {tales : List (List γ)} (scans : List.Forall₂ (Scans word mark) texts tales) :
    Scans word mark (separator.intercalate texts) ((separator.flatMap mark).intercalate tales) := by
  induction scans with
  | nil =>
      intro rest _
      rfl
  | @cons text here texts later first others ih =>
      cases others with
      | nil => simpa using first
      | cons second others =>
          have both := first.separated silent ih some delimits
          simpa [List.intercalate, List.intersperse] using both

end

/-! ## The texts of leaves -/

/-- A character of a word: it neither delimits, nor quotes, nor is it a bracket. -/
def isWordCharacter (c : Char) : Bool :=
  isPlain c && !opensBracket c && !closesBracket c

theorem isPlain_of_isWordCharacter {c : Char} (character : isWordCharacter c = true) :
    isPlain c = true := by
  simp only [isWordCharacter, Bool.and_eq_true] at character
  exact character.1.1

/-- The characters that words do not have. -/
def wordMarks : List Char :=
  [' ', '|', '&', '(', ')', '[', ']', '\'', '\x7b', '\x7d']

theorem mem_wordMarks_of_not_isWordCharacter {c : Char} (other : ¬ isWordCharacter c = true) :
    c ∈ wordMarks := by
  rw [Bool.not_eq_true] at other
  simp only [isWordCharacter, isPlain, isDelimiter, opensBracket, closesBracket,
    Bool.and_eq_false_iff, Bool.not_eq_false', List.contains_iff_mem, bne_eq_false_iff_eq,
    Bool.or_eq_true, beq_iff_eq, wordMarks, List.mem_cons, List.not_mem_nil] at other ⊢
  grind

/-- A class without the characters that words do not have consists of characters of words. -/
theorem isWordCharacter_of_class {among : Char → Bool}
    (apart : wordMarks.any among = false) {c : Char} (member : among c = true) :
    isWordCharacter c = true := by
  by_contra other
  have found := List.any_eq_true.mpr ⟨c, mem_wordMarks_of_not_isWordCharacter other, member⟩
  rw [apart] at found
  exact Bool.noConfusion found

theorem isWordCharacter_of_isNameCharacter {c : Char}
    (character : Unicode.isNameCharacter c = true) : isWordCharacter c = true :=
  isWordCharacter_of_class (by decide) character

theorem IsName.characters {name : String} (shape : IsName name) :
    ∀ c ∈ name.toList, Unicode.isNameCharacter c = true := by
  obtain ⟨first, rest, spelled, start, continued⟩ := shape
  intro c member
  rw [spelled] at member
  rcases List.mem_cons.mp member with rfl | later
  · simp only [Unicode.isNameStart, Bool.and_eq_true] at start
    exact start.1.1
  · exact continued c later

/-- A character of a leaf that stands outside quotes. -/
def isLeafCharacter (c : Char) : Bool :=
  Unicode.isNameCharacter c || isNumeric c

theorem isWordCharacter_of_isLeafCharacter {c : Char} (character : isLeafCharacter c = true) :
    isWordCharacter c = true :=
  isWordCharacter_of_class (by decide) character

theorem isLeafCharacter_of_mem_number {text : String} (number : IsNumberText text) :
    ∀ c ∈ text.toList, isLeafCharacter c = true := by
  have words : ∀ word ∈ "-Infinity" :: numberWords, word.toList.all isLeafCharacter = true := by
    decide
  rcases number with word | rfl | digits
  · exact List.all_eq_true.mp (words text (List.mem_cons_of_mem _ word))
  · exact List.all_eq_true.mp (words _ List.mem_cons_self)
  · exact fun c member => Bool.or_eq_true_iff.mpr (Or.inr (digits c member))

namespace TypeExpr

/-- The text of a leaf that can be written is a name, a word or a number, or a literal in
quotes. -/
theorem IsWritable.leaf_or_literal {leaf : TypeExpr} (writable : leaf.IsWritable)
    (options : Options) :
    (∀ c ∈ (leaf.render options.fallback).toList, isLeafCharacter c = true) ∨
      ∃ content, leaf.render options.fallback = stringLiteral content := by
  match leaf with
  | .fallback =>
      left
      simp only [render, Options.fallback]
      split <;> exact List.all_eq_true.mp (by decide)
  | .named name =>
      simp only [render]
      exact Or.inl fun c member =>
        Bool.or_eq_true_iff.mpr (Or.inl (IsName.characters writable c member))
  | .keyword word =>
      have letters : ∀ word ∈ keywords.map (·.2), word.toList.all isLeafCharacter = true := by
        decide
      simp only [render]
      exact Or.inl (List.all_eq_true.mp (letters word writable))
  | .literal text =>
      obtain ⟨value, literal⟩ := writable
      simp only [render]
      rcases literalText?_cases literal with word | quoted | number
      · have letters : ∀ word ∈ ["true", "false", "null"],
            word.toList.all isLeafCharacter = true := by decide
        exact Or.inl (List.all_eq_true.mp (letters text word))
      · exact Or.inr quoted
      · exact Or.inl (isLeafCharacter_of_mem_number number)

/-- The text of a leaf that can be written is a word or a literal in quotes. -/
theorem IsWritable.word_or_literal {leaf : TypeExpr} (writable : leaf.IsWritable)
    (options : Options) :
    (∀ c ∈ (leaf.render options.fallback).toList, isWordCharacter c = true) ∨
      ∃ content, leaf.render options.fallback = stringLiteral content :=
  (writable.leaf_or_literal options).imp_left fun plain c member =>
    isWordCharacter_of_isLeafCharacter (plain c member)

/-! ## The texts of types -/

section

variable {holds : String → Prop} (append : ∀ first second, holds first → holds second →
  holds (first ++ second)) (delimits : ∀ text, text.toList.all isDelimiter = true → holds text)

include append delimits

/-- What holds of texts and of a separator holds of the texts joined by it, when it is kept as
texts are put one after another. -/
theorem intercalate_of_texts {separator : String} (between : holds separator) {texts : List String}
    (each : ∀ text ∈ texts, holds text) : holds (separator.intercalate texts) := by
  induction texts with
  | nil => exact delimits _ rfl
  | cons text rest ih =>
      rw [List.forall_mem_cons] at each
      cases rest with
      | nil =>
          rw [String.intercalate_singleton]
          exact each.1
      | cons next rest =>
          rw [String.intercalate_cons_cons]
          exact append _ _ (append _ _ each.1 between) (ih each.2)

theorem parenthesize_of_text {text : String} (inside : holds text) :
    holds (parenthesize text) := by
  unfold parenthesize
  split
  · exact append _ _ (append _ _ (delimits _ rfl) inside) (delimits _ rfl)
  · exact inside

mutual

/-- What holds of the leaves and of delimiters holds of the text of a type, when it is kept as
texts are put one after another. -/
theorem render_of_leaves {fallback : String} : ∀ type : TypeExpr,
    (∀ leaf ∈ type.leaves, holds (leaf.render fallback)) → holds (type.render fallback)
  | .fallback, leaves => leaves .fallback (by simp)
  | .named name, leaves => leaves (.named name) (by simp)
  | .keyword word, leaves => leaves (.keyword word) (by simp)
  | .literal text, leaves => leaves (.literal text) (by simp)
  | .array item, leaves => by
      have inner := render_of_leaves item (by simpa using leaves)
      exact append _ _ (parenthesize_of_text append delimits inner) (delimits _ rfl)
  | .union members, leaves => by
      have parts := renderMembers_of_leaves members (by simpa using leaves)
      exact intercalate_of_texts append delimits (delimits _ rfl) parts
  | .intersection members, leaves => by
      have parts := renderMembers_of_leaves members (by simpa using leaves)
      exact intercalate_of_texts append delimits (delimits _ rfl) parts

theorem renderMembers_of_leaves {fallback : String} : ∀ members : List TypeExpr,
    (∀ leaf, ∀ member ∈ members, leaf ∈ member.leaves → holds (leaf.render fallback)) →
    ∀ text ∈ renderMembers fallback members, holds text
  | [], _ => fun _ listed => absurd listed List.not_mem_nil
  | member :: rest, leaves => by
      have first := render_of_leaves member fun leaf inside =>
        leaves leaf member List.mem_cons_self inside
      have others := renderMembers_of_leaves rest fun leaf other listed =>
        leaves leaf other (List.mem_cons_of_mem member listed)
      exact List.forall_mem_cons.mpr ⟨parenthesize_of_text append delimits first, others⟩

end

end

end TypeExpr

end AsyncTypes.TypeScript
