import AsyncTypes.Proofs.Expression.Scan

/-!
# The lexemes of a type

Reading the text of a type gives the texts of its leaves: blanks, operators and brackets
separate them, and inside quotes nothing does.  Hence types with one text have leaves
with the same texts, and leaving out a member because of its text loses no name.
-/

namespace AsyncTypes.TypeScript

/-! ## Reading a text -/

/-- A lexeme that has been read, if anything has. -/
def spoken (lexeme : List Char) : List (List Char) :=
  if lexeme.isEmpty then [] else [lexeme]

/-- The lexemes of a text, when it starts inside quotes or not; `read` holds the
characters of the lexeme at its start, most recent first. -/
def lexemesFrom : Bool → List Char → List Char → List (List Char)
  | _, read, [] => spoken read.reverse
  | true, read, '\\' :: c :: rest => lexemesFrom true (c :: '\\' :: read) rest
  | true, read, c :: rest => lexemesFrom (c != '\'') (c :: read) rest
  | false, read, c :: rest =>
      if isDelimiter c then spoken read.reverse ++ lexemesFrom false [] rest
      else lexemesFrom (c == '\'') (c :: read) rest

/-- The text has the given lexemes, and what follows it is read on its own. -/
def Reads (text : List Char) (lexemes : List (List Char)) : Prop :=
  ∀ rest, Follows rest → lexemesFrom false [] (text ++ rest) =
    lexemes ++ lexemesFrom false [] rest

/-- Reading is a scan that tells the lexemes and nothing of the delimiters. -/
theorem lexemesFrom_eq_scanFrom (quoted : Bool) (read text : List Char) :
    lexemesFrom quoted read text = scanFrom spoken (fun _ => []) quoted read text := by
  fun_induction lexemesFrom quoted read text with
  | case1 => rw [scanFrom]
  | case2 read c rest ih => rw [scanFrom, ih]
  | case3 read c rest other ih => rw [scanFrom, ih]; exact other
  | case4 read c rest delimiter ih => rw [scanFrom, if_pos delimiter, ih]; rfl
  | case5 read c rest other ih => rw [scanFrom, if_neg other, ih]

theorem reads_iff {text : List Char} {lexemes : List (List Char)} :
    Reads text lexemes ↔ Scans spoken (fun _ => []) text lexemes := by
  simp only [Reads, Scans, lexemesFrom_eq_scanFrom]

theorem flatMap_silent (delimiters : List Char) :
    delimiters.flatMap (fun _ => ([] : List (List Char))) = [] := by
  simp

theorem intercalate_nil (parts : List (List (List Char))) :
    ([] : List (List Char)).intercalate parts = parts.flatten := by
  induction parts with
  | nil => rfl
  | cons part rest ih =>
      cases rest with
      | nil => simp
      | cons next rest => simpa [List.intercalate, List.intersperse] using ih

/-- A text between brackets has the lexemes of the text. -/
theorem Reads.between {text : List Char} {lexemes : List (List Char)} (reads : Reads text lexemes)
    (opening closing : List Char) (opens : ∀ c ∈ opening, isDelimiter c = true)
    (closes : ∀ c ∈ closing, isDelimiter c = true) :
    Reads (opening ++ text ++ closing) lexemes := by
  have scans := (reads_iff.mp reads).between rfl opening closing opens closes
  rw [flatMap_silent, flatMap_silent, List.nil_append, List.append_nil] at scans
  exact reads_iff.mpr scans

/-- Joined texts have the lexemes of the texts. -/
theorem reads_intercalate {separator : List Char} (some : separator ≠ [])
    (delimits : ∀ c ∈ separator, isDelimiter c = true) {texts : List (List Char)}
    {lexemes : List (List (List Char))} (reads : List.Forall₂ Reads texts lexemes) :
    Reads (separator.intercalate texts) lexemes.flatten := by
  have scans := scans_intercalate rfl some delimits (reads.imp fun _ _ => reads_iff.mp)
  rw [flatMap_silent, intercalate_nil] at scans
  exact reads_iff.mpr scans

/-! ## The text of a type -/

/-- A text in parentheses or not has the same lexemes. -/
theorem Reads.parenthesize {text : String} {lexemes : List (List Char)}
    (reads : Reads text.toList lexemes) : Reads (parenthesize text).toList lexemes := by
  unfold TypeScript.parenthesize
  split
  · simpa using reads.between "(".toList ")".toList (List.all_eq_true.mp (by decide))
      (List.all_eq_true.mp (by decide))
  · exact reads

namespace TypeExpr

/-- The text of a leaf, as the characters of a lexeme. -/
def lexeme (fallback : String) (leaf : TypeExpr) : List (List Char) :=
  spoken (leaf.render fallback).toList

mutual

/-- Reading the text of a type gives the texts of its leaves in order. -/
theorem reads_render {fallback : String} : ∀ type : TypeExpr,
    (∀ leaf ∈ type.leaves, Reads (leaf.render fallback).toList (leaf.lexeme fallback)) →
    Reads (type.render fallback).toList (type.leaves.flatMap (lexeme fallback))
  | .fallback, leaves => by simpa using leaves .fallback
  | .named name, leaves => by simpa using leaves (.named name)
  | .keyword word, leaves => by simpa using leaves (.keyword word)
  | .literal text, leaves => by simpa using leaves (.literal text)
  | .array item, leaves => by
      have inner := (reads_render item (by simpa using leaves)).parenthesize
      simpa [render] using inner.between [] "[]".toList (by simp) (List.all_eq_true.mp (by decide))
  | .union members, leaves => by
      have parts := reads_renderMembers members (by simpa using leaves)
      have whole := reads_intercalate (by decide : " | ".toList ≠ [])
        (List.all_eq_true.mp (by decide)) parts
      rw [render, String.toList_intercalate, leaves_union, List.flatMap_assoc, List.flatMap_def]
      exact whole
  | .intersection members, leaves => by
      have parts := reads_renderMembers members (by simpa using leaves)
      have whole := reads_intercalate (by decide : " & ".toList ≠ [])
        (List.all_eq_true.mp (by decide)) parts
      rw [render, String.toList_intercalate, leaves_intersection, List.flatMap_assoc,
        List.flatMap_def]
      exact whole

theorem reads_renderMembers {fallback : String} : ∀ members : List TypeExpr,
    (∀ leaf, ∀ member ∈ members, leaf ∈ member.leaves →
      Reads (leaf.render fallback).toList (leaf.lexeme fallback)) →
    List.Forall₂ Reads ((renderMembers fallback members).map String.toList)
      (members.map fun member => member.leaves.flatMap (lexeme fallback))
  | [], _ => List.Forall₂.nil
  | member :: rest, leaves => by
      have first := reads_render member fun leaf inside =>
        leaves leaf member List.mem_cons_self inside
      have others := reads_renderMembers rest fun leaf other listed =>
        leaves leaf other (List.mem_cons_of_mem member listed)
      exact List.Forall₂.cons first.parenthesize others

end

end TypeExpr

/-! ## Leaves that are one lexeme -/

namespace TypeExpr

/-- A leaf that can be written is one lexeme. -/
theorem IsWritable.reads {leaf : TypeExpr} (writable : leaf.IsWritable) (options : Options) :
    Reads (leaf.render options.fallback).toList (leaf.lexeme options.fallback) := by
  unfold lexeme
  rw [reads_iff]
  rcases writable.word_or_literal options with word | ⟨content, same⟩
  · exact scans_plain rfl fun c member => isPlain_of_isWordCharacter (word c member)
  · rw [same]
    exact scans_stringLiteral rfl content

/-- Types with one text have leaves with the same texts. -/
theorem Writable.lexemes_eq {options : Options} {first second : TypeExpr}
    (writable : first.Writable) (also : second.Writable)
    (same : first.render options.fallback = second.render options.fallback) :
    first.leaves.flatMap (lexeme options.fallback) =
      second.leaves.flatMap (lexeme options.fallback) := by
  have read :=
    reads_render first (fun leaf inside => (writable leaf inside).reads options) [] follows_nil
  have readAlso :=
    reads_render second (fun leaf inside => (also leaf inside).reads options) [] follows_nil
  rw [same, readAlso] at read
  exact (List.append_cancel_right read).symm

/-- A type that has the text of another mentions the same names, number words aside. -/
theorem Writable.mentions_of_render_eq {options : Options} {first second : TypeExpr}
    (writable : first.Writable) (also : second.Writable)
    (same : first.render options.fallback = second.render options.fallback) {name : String}
    (shape : IsName name) (word : name ∉ numberWords) (mentions : first.Mentions name) :
    second.Mentions name := by
  have some : spoken name.toList = [name.toList] := by
    obtain ⟨c, rest, spelled, -⟩ := shape
    simp [spoken, spelled]
  have read : name.toList ∈ first.leaves.flatMap (lexeme options.fallback) :=
    List.mem_flatMap.mpr ⟨_, mentions, by simp [lexeme, render, some]⟩
  rw [writable.lexemes_eq also same] at read
  obtain ⟨leaf, inside, spelled⟩ := List.mem_flatMap.mp read
  have text : leaf.render options.fallback = name := by
    unfold lexeme spoken at spelled
    split at spelled
    · simp at spelled
    · exact (String.toList_injective (List.mem_singleton.mp spelled)).symm
  rcases (also leaf inside).eq_named (text ▸ shape) with named | ⟨-, number⟩
  · rw [Mentions, ← text, ← named]
    exact inside
  · exact absurd (text ▸ number) word

theorem mentions_of_mem_distinct {options : Options} {members : List TypeExpr}
    (writable : ∀ member ∈ members, member.Writable) {name : String} (shape : IsName name)
    (word : name ∉ numberWords) (mentioned : ∃ member ∈ members, member.Mentions name) :
    ∃ member ∈ distinct (render options.fallback) members, member.Mentions name := by
  obtain ⟨member, listed, mentions⟩ := mentioned
  obtain ⟨kept, keptListed, same⟩ := exists_mem_distinct (render options.fallback) listed
  exact ⟨kept, keptListed, (writable member listed).mentions_of_render_eq
    (writable kept (mem_of_mem_distinct keptListed)) same.symm shape word mentions⟩

/-- A union mentions every name that its members mention, number words aside. -/
theorem mentions_unionOf {options : Options} {members : List TypeExpr}
    (writable : ∀ member ∈ members, member.Writable) {name : String} (shape : IsName name)
    (word : name ∉ numberWords) (mentioned : ∃ member ∈ members, member.Mentions name) :
    (unionOf options.fallback members).Mentions name := by
  rw [Mentions, unionOf, leaves_joined leaves_union]
  exact List.mem_flatMap.mpr (mentions_of_mem_distinct writable shape word mentioned)

/-- An intersection mentions every name that its members mention, number words aside. -/
theorem mentions_intersectionOf {options : Options} {members : List TypeExpr}
    (writable : ∀ member ∈ members, member.Writable) {name : String} (shape : IsName name)
    (word : name ∉ numberWords) (mentioned : ∃ member ∈ members, member.Mentions name) :
    (intersectionOf options.fallback members).Mentions name := by
  rw [Mentions, intersectionOf, leaves_joined leaves_intersection]
  exact List.mem_flatMap.mpr (mentions_of_mem_distinct writable shape word mentioned)

end TypeExpr

end AsyncTypes.TypeScript
