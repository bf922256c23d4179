import Mathlib.Data.List.Chain
import Mathlib.Data.List.DropRight
import AsyncTypes.TypeScript.Text

/-!
# Text inside comments

A text is made safe for a comment in three steps: terminators are broken, line ends are
joined, and the blanks at both ends go.  Each step keeps a star from standing in front of a
slash, so no later step makes a terminator again that the first one has broken.
-/

namespace AsyncTypes

namespace Unicode

theorem trimEnd_isPrefix (text : List Char) : trimEnd text <+: text :=
  List.rdropWhile_prefix isBlank text

theorem trim_isInfix (text : List Char) : trim text <:+: text :=
  (trimEnd_isPrefix _).isInfix.trans (text.dropWhile_suffix isBlank).isInfix

/-- What is left of a text without the blanks at its ends has none there. -/
theorem trim_trim (text : List Char) : trim (trim text) = trim text := by
  have front : trimStart (trim text) = trim text := by
    have kept : trim text <+: text.dropWhile isBlank := trimEnd_isPrefix _
    have starts := List.head?_dropWhile_not isBlank text
    cases left : trim text with
    | nil => rfl
    | cons c rest =>
        rw [left] at kept
        obtain ⟨more, same⟩ := kept
        rw [← same] at starts
        exact List.dropWhile_cons_of_neg (by simpa using starts)
  rw [trim, front]
  exact List.rdropWhile_idempotent isBlank _

end Unicode

namespace TypeScript

/-! ## Terminators -/

/-- The characters do not end a comment when they stand one after the other. -/
def Apart (c d : Char) : Prop :=
  ¬ (c = '*' ∧ d = '/')

theorem apart_of_ne_star {c : Char} (other : c ≠ '*') (d : Char) : Apart c d :=
  fun both => other both.1

theorem apart_of_ne_slash (c : Char) {d : Char} (other : d ≠ '/') : Apart c d :=
  fun both => other both.2

/-- A text whose neighbours are apart has no terminator in it. -/
theorem no_terminator {text : List Char} (apart : text.IsChain Apart) :
    ¬ ['*', '/'] <:+: text := by
  intro inside
  have pair : ['*', '/'].IsChain Apart := List.IsChain.infix apart inside
  exact List.isChain_pair.mp pair ⟨rfl, rfl⟩

/-- In front of a terminator, a text whose neighbours are apart starts no other one. -/
theorem not_closes {c : Char} {body : List Char} (apart : (c :: body).IsChain Apart)
    (rest more : List Char) (star : c = '*') :
    body ++ '*' :: '/' :: rest ≠ '/' :: more := by
  intro same
  cases body with
  | nil => exact absurd (List.cons.inj same).1 (by decide)
  | cons d body => exact (List.isChain_cons_cons.mp apart).1 ⟨star, (List.cons.inj same).1⟩

/-- Breaking terminators keeps the first character. -/
theorem head?_breakTerminators (text : List Char) :
    (breakTerminators text).head? = text.head? := by
  fun_cases breakTerminators text with
  | case1 rest => rfl
  | case2 c rest => rfl
  | case3 => rfl

theorem isChain_breakTerminators (text : List Char) :
    (breakTerminators text).IsChain Apart := by
  fun_induction breakTerminators text with
  | case1 rest ih =>
      have slash : ('/' :: breakTerminators rest).IsChain Apart :=
        List.isChain_cons.mpr ⟨fun d _ => apart_of_ne_star (by decide) d, ih⟩
      exact .cons_cons (apart_of_ne_slash _ (by decide))
        (.cons_cons (apart_of_ne_star (by decide) _) slash)
  | case2 c rest other ih =>
      rw [List.isChain_cons, head?_breakTerminators]
      refine ⟨?_, ih⟩
      rintro d first ⟨rfl, rfl⟩
      obtain ⟨more, rfl⟩ := List.head?_eq_some_iff.mp first
      exact other more rfl rfl
  | case3 => exact .nil

/-- Where no terminator is, nothing is broken. -/
theorem breakTerminators_eq_self {text : List Char} (apart : text.IsChain Apart) :
    breakTerminators text = text := by
  fun_induction breakTerminators text with
  | case1 rest ih => exact absurd ⟨rfl, rfl⟩ (List.isChain_cons_cons.mp apart).1
  | case2 c rest other ih => rw [ih (List.isChain_cons.mp apart).2]
  | case3 => rfl

/-! ## Line ends -/

theorem isBlank_of_isLineEnd {c : Char} (lineEnd : isLineEnd c = true) :
    Unicode.isBlank c = true := by
  rcases Bool.or_eq_true_iff.mp lineEnd with feed | carriage
  · rw [beq_iff_eq.mp feed]
    decide
  · rw [beq_iff_eq.mp carriage]
    decide

theorem isBlank_of_mem_settleBlanks {run : List Char}
    (blanks : ∀ c ∈ run, Unicode.isBlank c = true) {c : Char} (member : c ∈ settleBlanks run) :
    Unicode.isBlank c = true := by
  unfold settleBlanks at member
  split at member
  · rw [List.mem_singleton.mp member]
    decide
  · exact blanks c (List.mem_reverse.mp member)

/-- Blanks settle to nothing only where there are none. -/
theorem eq_nil_of_settleBlanks {run : List Char} (none : settleBlanks run = []) : run = [] := by
  unfold settleBlanks at none
  split at none
  · exact absurd none (List.cons_ne_nil _ _)
  · exact List.reverse_eq_nil_iff.mp none

theorem apart_of_isBlank_left {c : Char} (blank : Unicode.isBlank c = true) (d : Char) :
    Apart c d := by
  apply apart_of_ne_star
  rintro rfl
  exact absurd blank (by decide)

theorem apart_of_isBlank_right (c : Char) {d : Char} (blank : Unicode.isBlank d = true) :
    Apart c d := by
  apply apart_of_ne_slash
  rintro rfl
  exact absurd blank (by decide)

/-- Blanks in front of a text make no terminator. -/
theorem isChain_blanks_append {blanks text : List Char}
    (blank : ∀ c ∈ blanks, Unicode.isBlank c = true) (apart : text.IsChain Apart) :
    (blanks ++ text).IsChain Apart := by
  induction blanks with
  | nil => exact apart
  | cons c rest ih =>
      rw [List.forall_mem_cons] at blank
      exact List.isChain_cons.mpr ⟨fun d _ => apart_of_isBlank_left blank.1 d, ih blank.2⟩

/-- Joined lines start with a blank, or as the text does after no blanks. -/
theorem head?_joinLines {run text : List Char} (blanks : ∀ c ∈ run, Unicode.isBlank c = true) :
    ∀ d ∈ (joinLines run text).head?,
      Unicode.isBlank d = true ∨ (run = [] ∧ d ∈ text.head?) := by
  fun_induction joinLines run text with
  | case1 run =>
      intro d first
      exact Or.inl (isBlank_of_mem_settleBlanks blanks (List.mem_of_mem_head? first))
  | case2 run c rest blank ih =>
      intro d first
      rcases ih (List.forall_mem_cons.mpr ⟨blank, blanks⟩) d first with blankFirst | ⟨none, -⟩
      · exact Or.inl blankFirst
      · exact absurd none (List.cons_ne_nil c run)
  | case3 run c rest other ih =>
      intro d first
      cases settled : settleBlanks run with
      | nil =>
          rw [settled] at first
          exact Or.inr ⟨eq_nil_of_settleBlanks settled, first⟩
      | cons blank more =>
          rw [settled] at first
          have same : d = blank := by simpa using first.symm
          exact Or.inl (isBlank_of_mem_settleBlanks blanks (by simp [settled, same]))

theorem isChain_joinLines {run text : List Char} (blanks : ∀ c ∈ run, Unicode.isBlank c = true)
    (apart : text.IsChain Apart) : (joinLines run text).IsChain Apart := by
  fun_induction joinLines run text with
  | case1 run =>
      rw [← List.append_nil (settleBlanks run)]
      exact isChain_blanks_append (fun _ => isBlank_of_mem_settleBlanks blanks) .nil
  | case2 run c rest blank ih =>
      exact ih (List.forall_mem_cons.mpr ⟨blank, blanks⟩) (List.isChain_cons.mp apart).2
  | case3 run c rest other ih =>
      apply isChain_blanks_append fun _ => isBlank_of_mem_settleBlanks blanks
      obtain ⟨first, later⟩ := List.isChain_cons.mp apart
      refine List.isChain_cons.mpr ⟨?_, ih (by simp) later⟩
      intro d next
      rcases head?_joinLines (by simp) d next with blank | ⟨-, same⟩
      · exact apart_of_isBlank_right c blank
      · exact first d same

theorem not_isLineEnd_of_mem_joinLines {run text : List Char} {c : Char}
    (member : c ∈ joinLines run text) : isLineEnd c = false := by
  have settled : ∀ {run : List Char}, c ∈ settleBlanks run → isLineEnd c = false := by
    intro run member
    unfold settleBlanks at member
    split at member
    · rw [List.mem_singleton.mp member]
      rfl
    · next none =>
        rw [Bool.not_eq_true, List.any_eq_false] at none
        simpa using none c (List.mem_reverse.mp member)
  fun_induction joinLines run text with
  | case1 run => exact settled member
  | case2 run d rest blank ih => exact ih member
  | case3 run d rest other ih =>
      rcases List.mem_append.mp member with front | later
      · exact settled front
      · rcases List.mem_cons.mp later with rfl | later
        · rw [← Bool.not_eq_true]
          exact fun lineEnd => other (isBlank_of_isLineEnd lineEnd)
        · exact ih later

/-- Where no line ends, nothing is joined. -/
theorem joinLines_eq_append {run text : List Char}
    (online : ∀ c ∈ run.reverse ++ text, isLineEnd c = false) :
    joinLines run text = run.reverse ++ text := by
  have settled : ∀ run : List Char, (∀ c ∈ run.reverse, isLineEnd c = false) →
      settleBlanks run = run.reverse := by
    intro run online
    have none : run.any isLineEnd = false := by simpa using online
    rw [settleBlanks, none]
    rfl
  fun_induction joinLines run text with
  | case1 run => rw [List.append_nil, settled run (by simpa using online)]
  | case2 run c rest blank ih =>
      rw [List.reverse_cons, List.append_assoc] at ih
      exact ih online
  | case3 run c rest other ih =>
      rw [List.forall_mem_append, List.forall_mem_cons] at online
      rw [settled run online.1, ih online.2.2]
      rfl

/-! ## Safe texts -/

instance : DecidableRel Apart :=
  fun c d => inferInstanceAs (Decidable (¬ (c = '*' ∧ d = '/')))

/-- No terminator stands in the text. -/
def Unbroken (text : String) : Prop :=
  text.toList.IsChain Apart

instance (text : String) : Decidable (Unbroken text) :=
  inferInstanceAs (Decidable (text.toList.IsChain Apart))

theorem unbroken_commentText (text : String) : Unbroken (commentText text) := by
  rw [Unbroken, commentText, String.toList_ofList]
  have joined : (joinLines [] (breakTerminators text.toList)).IsChain Apart :=
    isChain_joinLines (by simp) (isChain_breakTerminators _)
  exact List.IsChain.infix joined (Unicode.trim_isInfix _)

theorem not_isLineEnd_of_mem_commentText {text : String} {c : Char}
    (member : c ∈ (commentText text).toList) : isLineEnd c = false := by
  rw [commentText, String.toList_ofList] at member
  exact not_isLineEnd_of_mem_joinLines ((Unicode.trim_isInfix _).subset member)

/-- A text that is safe already stays as it is. -/
theorem commentText_commentText (text : String) :
    commentText (commentText text) = commentText text := by
  have online : ∀ c ∈ (commentText text).toList, isLineEnd c = false :=
    fun _ => not_isLineEnd_of_mem_commentText
  have again : commentText (commentText text) = String.ofList
      (Unicode.trim (joinLines [] (breakTerminators (commentText text).toList))) := rfl
  rw [again, breakTerminators_eq_self (unbroken_commentText text),
    joinLines_eq_append (by simpa using online)]
  simp only [List.reverse_nil, List.nil_append, commentText, String.toList_ofList]
  rw [Unicode.trim_trim]

/-- A text without a terminator that also makes none with what stands around it. -/
def IsFrame (text : String) : Prop :=
  Unbroken text ∧ text ≠ "" ∧ text.toList.head? ≠ some '/' ∧ text.toList.getLast? ≠ some '*'

instance (text : String) : Decidable (IsFrame text) :=
  inferInstanceAs (Decidable (_ ∧ _ ∧ _ ∧ _))

/-- A text stands safely between two frames, and the three are a frame. -/
theorem IsFrame.around {front back : String} (frame : IsFrame front) {text : String}
    (unbroken : Unbroken text) (also : IsFrame back) : IsFrame (front ++ text ++ back) := by
  obtain ⟨frontUnbroken, frontSome, frontHead, frontLast⟩ := frame
  obtain ⟨backUnbroken, backSome, backHead, backLast⟩ := also
  have frontList : front.toList ≠ [] := mt String.toList_eq_nil_iff.mp frontSome
  have backList : back.toList ≠ [] := mt String.toList_eq_nil_iff.mp backSome
  refine ⟨?_, ?_, ?_, ?_⟩
  · rw [Unbroken, String.toList_append, String.toList_append]
    refine List.isChain_append.mpr ⟨List.isChain_append.mpr ⟨frontUnbroken, unbroken, ?_⟩,
      backUnbroken, ?_⟩
    · rintro c last d -
      exact apart_of_ne_star (fun star => frontLast (star ▸ last)) d
    · rintro c - d first
      exact apart_of_ne_slash c fun slash => backHead (slash ▸ first)
  · exact fun none => backSome (String.append_eq_empty_iff.mp none).2
  · rwa [String.toList_append, String.toList_append, List.append_assoc,
      List.head?_append_of_ne_nil _ frontList]
  · rwa [String.toList_append, List.getLast?_append_of_ne_nil _ backList]

end TypeScript

end AsyncTypes
