import AsyncTypes.Proofs.Expression.Quoted
import AsyncTypes.Proofs.Expression.Structure

/-!
# Unions of literals

The text of a union of literals is cut at the bars that stand between blanks outside quotes, and
every piece is read as a literal.  What is read are the values of the union in their order, each
once: texts, truth values, `null` and integers are told apart.
-/

namespace AsyncTypes.TypeScript

/-! ## Pieces -/

/-- The pieces of a text that starts inside quotes or not, cut at the bars that stand between
blanks outside quotes. -/
def piecesFrom : Bool → List Char → List (List Char)
  | _, [] => [[]]
  | true, '\\' :: c :: rest => Text.extendFirst '\\' (Text.extendFirst c (piecesFrom true rest))
  | true, c :: rest => Text.extendFirst c (piecesFrom (c != '\'') rest)
  | false, ' ' :: '|' :: ' ' :: rest => [] :: piecesFrom false rest
  | false, c :: rest => Text.extendFirst c (piecesFrom (c == '\'') rest)

/-- The pieces of a text. -/
def pieces (text : String) : List (List Char) :=
  piecesFrom false text.toList

/-- The first of some pieces with a text in front of it. -/
def leading (text : List Char) (parts : List (List Char)) : List (List Char) :=
  text.foldr Text.extendFirst parts

theorem leading_cons (text part : List Char) (rest : List (List Char)) :
    leading text (part :: rest) = (text ++ part) :: rest := by
  induction text with
  | nil => rfl
  | cons c text ih =>
      change Text.extendFirst c (leading text (part :: rest)) = _
      rw [ih]
      rfl

/-- The text is not cut, whatever follows it. -/
def Uncut (text : List Char) : Prop :=
  ∀ rest, piecesFrom false (text ++ rest) = leading text (piecesFrom false rest)

theorem uncut_word {text : List Char} (word : ∀ c ∈ text, isWordCharacter c = true) :
    Uncut text := by
  induction text with
  | nil => exact fun _ => rfl
  | cons c text ih =>
      intro rest
      have here := word c List.mem_cons_self
      have blank : c ≠ ' ' := by
        rintro rfl
        exact absurd here (by decide)
      have quote : (c == '\'') = false := by
        rw [beq_eq_false_iff_ne]
        rintro rfl
        exact absurd here (by decide)
      have later := ih (fun d listed => word d (List.mem_cons_of_mem c listed)) rest
      rw [List.cons_append, piecesFrom, quote, later]
      · rfl
      · exact fun _ same => absurd same blank

theorem piecesFrom_escaped (content rest : List Char) :
    piecesFrom true (content.flatMap escapeCharacter ++ rest) =
      leading (content.flatMap escapeCharacter) (piecesFrom true rest) := by
  induction content with
  | nil => rfl
  | cons c content ih =>
      rw [List.flatMap_cons, List.append_assoc]
      rcases escapeCharacter_cases c with ⟨d, escaped, -, -⟩ | ⟨same, backslash, quote, -⟩
      · rw [escaped]
        simp only [List.cons_append, List.nil_append, piecesFrom, ih]
        rfl
      · have inside : (c != '\'') = true := bne_iff_ne.mpr quote
        rw [same]
        simp only [List.cons_append, List.nil_append]
        rw [piecesFrom, inside, ih]
        · rfl
        · exact fun _ _ same => absurd same backslash

theorem uncut_stringLiteral (text : String) : Uncut (stringLiteral text).toList := by
  intro rest
  rw [stringLiteral, String.toList_ofList, List.append_assoc, List.cons_append, piecesFrom]
  · rw [beq_self_eq_true, piecesFrom_escaped]
    simp [leading, piecesFrom]
  · simp

/-- A text that is not cut is one piece, and so is each of several that are joined. -/
theorem piecesFrom_intercalate {texts : List (List Char)} (some : texts ≠ [])
    (uncut : ∀ text ∈ texts, Uncut text) :
    piecesFrom false ([' ', '|', ' '].intercalate texts) = texts := by
  induction texts with
  | nil => exact absurd rfl some
  | cons text rest ih =>
      have first := uncut text List.mem_cons_self
      cases rest with
      | nil =>
          have alone := first []
          rw [List.append_nil] at alone
          simp [List.intercalate, alone, piecesFrom, leading_cons]
      | cons next rest =>
          have later := ih (List.cons_ne_nil next rest) fun other listed =>
            uncut other (List.mem_cons_of_mem text listed)
          have join : [' ', '|', ' '].intercalate (text :: next :: rest) =
              text ++ (' ' :: '|' :: ' ' :: [' ', '|', ' '].intercalate (next :: rest)) := by
            simp [List.intercalate]
          rw [join, first, piecesFrom, later, leading_cons, List.append_nil]

theorem IsAtom.uncut {text : String} (atom : IsAtom text) : Uncut text.toList := by
  rcases atom with ⟨-, word⟩ | ⟨content, rfl⟩
  · exact uncut_word word
  · exact uncut_stringLiteral content

/-! ## Literals -/

/-- The number that a run of digits spells. -/
def readDigits? (text : List Char) : Option Nat :=
  if text ≠ [] ∧ text.all Char.isDigit then some (Nat.ofDigitChars 10 text 0) else none

/-- The value that a literal is read as: a text in quotes, one of the words `true`, `false` and
`null`, or an integer in digits. -/
def readLiteral? : List Char → Option Scalar
  | '\'' :: inner =>
      match readQuoted inner with
      | some (content, []) => some (.string (String.ofList content))
      | _ => none
  | '-' :: digits => (readDigits? digits).map fun number : Nat => .int (-(number : Int))
  | word =>
      if word = "true".toList then some (.bool true)
      else if word = "false".toList then some (.bool false)
      else if word = "null".toList then some .null
      else (readDigits? word).map fun number : Nat => .int number

end AsyncTypes.TypeScript

namespace AsyncTypes

/-- A text, a truth value, null or an integer. -/
def Scalar.isSimple : Scalar → Bool
  | .null | .bool _ | .int _ | .string _ => true
  | _ => false

end AsyncTypes

namespace AsyncTypes.TypeScript

theorem readDigits?_toDigits (number : Nat) :
    readDigits? (Nat.toDigits 10 number) = some number := by
  have digits : (Nat.toDigits 10 number).all Char.isDigit = true :=
    List.all_eq_true.mpr fun c member => Nat.isDigit_of_mem_toDigits (by decide) (by decide) member
  rw [readDigits?, if_pos ⟨Nat.toDigits_ne_nil, digits⟩, Nat.ofDigitChars_ten_toDigits]

/-- A run of digits is read as a number and as nothing else. -/
theorem readLiteral?_toDigits (number : Nat) :
    readLiteral? (Nat.toDigits 10 number) = some (.int number) := by
  have digits : ∀ c ∈ Nat.toDigits 10 number, c.isDigit = true := fun c member =>
    Nat.isDigit_of_mem_toDigits (by decide) (by decide) member
  have read := readDigits?_toDigits number
  have word : ∀ word : List Char, word.all Char.isDigit = false →
      Nat.toDigits 10 number ≠ word := by
    rintro word other rfl
    rw [List.all_eq_true.mpr digits] at other
    exact Bool.noConfusion other
  unfold readLiteral?
  split
  · next spelled => exact absurd (digits '\'' (by simp [spelled])) (by decide)
  · next spelled => exact absurd (digits '-' (by simp [spelled])) (by decide)
  · rw [if_neg (word _ (by decide)), if_neg (word _ (by decide)), if_neg (word _ (by decide)),
      read, Option.map_some]

/-- The literal of an integer is read as the integer. -/
theorem readLiteral?_int (value : Int) :
    readLiteral? (toString value).toList = some (.int value) := by
  cases value with
  | ofNat number =>
      have digits : (toString (Int.ofNat number)).toList = Nat.toDigits 10 number := by
        simp [Int.toString_eq_repr, Int.repr, Nat.toList_repr]
      rw [digits]
      exact readLiteral?_toDigits number
  | negSucc number =>
      have digits : (toString (Int.negSucc number)).toList =
          '-' :: Nat.toDigits 10 (number + 1) := by
        simp [Int.toString_eq_repr, Int.repr, Nat.toList_repr]
      rw [digits, readLiteral?, readDigits?_toDigits, Option.map_some]
      rfl

/-- The literal of a value is read as the value. -/
theorem readLiteral?_of_literalText? {scalar : Scalar} (simple : scalar.isSimple = true)
    {text : String} (literal : TypeExpr.literalText? (.scalar scalar) = some text) :
    readLiteral? text.toList = some scalar := by
  match scalar with
  | .null =>
      rw [← Option.some.inj literal]
      decide
  | .bool true | .bool false =>
      rw [← Option.some.inj literal]
      decide
  | .int value =>
      rw [← Option.some.inj literal]
      exact readLiteral?_int value
  | .string content =>
      rw [← Option.some.inj literal]
      obtain ⟨inner, spelled, read⟩ := exists_readQuoted_stringLiteral content
      simp only [spelled, readLiteral?, read, String.ofList_toList]

theorem exists_literalText? {scalar : Scalar} (simple : scalar.isSimple = true) :
    ∃ text, TypeExpr.literalText? (.scalar scalar) = some text := by
  match scalar with
  | .null | .bool _ | .int _ | .string _ => exact ⟨_, rfl⟩

/-! ## Unions -/

namespace TypeExpr

variable {scalars : List Scalar}

/-- The type of a simple value is a literal that is read as the value. -/
theorem exists_ofValue {scalar : Scalar} (simple : scalar.isSimple = true) :
    ∃ text, ofValue (.scalar scalar) = .literal text ∧ IsAtom text ∧
      literalText? (.scalar scalar) = some text ∧ readLiteral? text.toList = some scalar := by
  obtain ⟨text, literal⟩ := exists_literalText? simple
  refine ⟨text, ?_, isAtom_of_literal literal, literal, readLiteral?_of_literalText? simple literal⟩
  rw [ofValue, literal]

/-- Beside bars, atoms are written as they are. -/
theorem render_joined_union {fallback : String} {members : List TypeExpr} (some : members ≠ [])
    (atoms : ∀ member ∈ members, IsAtom (member.render fallback)) :
    (joined union members).render fallback =
      String.intercalate " | " (members.map (render fallback)) := by
  have plain : ∀ member ∈ members,
      parenthesize (member.render fallback) = member.render fallback := by
    intro member listed
    have single := (TypeTree.Solid.atom (atoms member listed)).hasOperator_text
    rw [TypeTree.text] at single
    rw [parenthesize, single]
    rfl
  rcases members with _ | ⟨first, _ | ⟨second, rest⟩⟩
  · exact absurd rfl some
  · rfl
  · rw [joined, render, renderMembers_eq_map, List.map_congr_left plain]
    simp

/-- The distinct literals of some values are read as the distinct values, in order. -/
theorem map_readLiteral?_distinct (fallback : String)
    (simple : ∀ scalar ∈ scalars, scalar.isSimple = true) :
    (distinct (render fallback) (scalars.map fun scalar => ofValue (.scalar scalar))).map
        (fun member => readLiteral? (member.render fallback).toList) =
      scalars.eraseDups.map some := by
  let value (member : TypeExpr) : Scalar :=
    (readLiteral? (member.render fallback).toList).getD .null
  have read : ∀ scalar ∈ scalars,
      readLiteral? ((ofValue (.scalar scalar)).render fallback).toList = some scalar := by
    intro scalar listed
    obtain ⟨text, literal, -, -, read⟩ := exists_ofValue (simple scalar listed)
    rw [literal, render, read]
  have own : ∀ scalar ∈ scalars, value (ofValue (.scalar scalar)) = scalar := by
    intro scalar listed
    rw [show value _ = _ from congrArg (·.getD .null) (read scalar listed), Option.getD_some]
  have same : ∀ item ∈ scalars.map fun scalar => ofValue (.scalar scalar),
      ∀ other ∈ scalars.map fun scalar => ofValue (.scalar scalar),
        item.render fallback = other.render fallback ↔ value item = value other := by
    intro item listed other also
    obtain ⟨scalar, known, rfl⟩ := List.mem_map.mp listed
    obtain ⟨second, secondKnown, rfl⟩ := List.mem_map.mp also
    constructor
    · exact fun equal => congrArg (fun text : String => (readLiteral? text.toList).getD .null) equal
    · intro equal
      rw [own scalar known, own second secondKnown] at equal
      rw [equal]
  have kept := map_distinct same
  rw [List.map_map, List.map_congr_left (f := value ∘ _) (g := id) own, List.map_id] at kept
  rw [← kept, List.map_map]
  apply List.map_congr_left
  intro member listed
  obtain ⟨scalar, known, rfl⟩ := List.mem_map.mp (mem_of_mem_distinct listed)
  rw [read scalar known, Function.comp_apply, own scalar known]

/-- The union of some simple values is cut into literals that are read as the values, each once
and in order. -/
theorem map_readLiteral?_pieces (fallback : String) (some : scalars ≠ [])
    (simple : ∀ scalar ∈ scalars, scalar.isSimple = true) :
    (pieces ((ofValues fallback (scalars.map .scalar)).render fallback)).map readLiteral? =
      scalars.eraseDups.map .some := by
  let kept := distinct (render fallback) (scalars.map fun scalar => ofValue (.scalar scalar))
  have atoms : ∀ member ∈ kept, IsAtom (member.render fallback) := by
    intro member listed
    obtain ⟨scalar, known, rfl⟩ := List.mem_map.mp (mem_of_mem_distinct listed)
    obtain ⟨text, literal, atom, -, -⟩ := exists_ofValue (simple scalar known)
    rwa [literal, render]
  have keptSome : kept ≠ [] := by
    obtain ⟨scalar, rest, rfl⟩ := List.exists_cons_of_ne_nil some
    obtain ⟨first, listed, -⟩ := exists_mem_distinct (render fallback)
      (List.mem_map_of_mem (f := fun scalar => ofValue (.scalar scalar)) List.mem_cons_self)
    exact List.ne_nil_of_mem listed
  have written : (ofValues fallback (scalars.map .scalar)).render fallback =
      String.intercalate " | " (kept.map (render fallback)) := by
    rw [ofValues, unionOf, List.map_map]
    exact render_joined_union keptSome atoms
  have cut : pieces ((ofValues fallback (scalars.map .scalar)).render fallback) =
      kept.map fun member => (member.render fallback).toList := by
    rw [written, pieces, String.toList_intercalate, List.map_map]
    apply piecesFrom_intercalate
    · simpa using keptSome
    · intro text listed
      obtain ⟨member, inside, rfl⟩ := List.mem_map.mp listed
      exact (atoms member inside).uncut
  rw [cut, List.map_map]
  exact map_readLiteral?_distinct fallback simple

end TypeExpr

end AsyncTypes.TypeScript
