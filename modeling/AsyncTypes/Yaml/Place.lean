import AsyncTypes.Yaml.Fault

/-!
# Places in a YAML text

A place is what is left of a text, with the line and the column at which it starts.
Columns decide how the blocks of a text nest, so every step forward keeps them up to
date.
-/

namespace AsyncTypes.Yaml

/-! ## Classes of characters -/

/-- A character that ends a line. -/
def isBreak (c : Char) : Bool :=
  c == '\n' || c == '\r' || c == '\x85' || c == '\u2028' || c == '\u2029'

/-- A character that leaves a gap on a line or ends it. -/
def isGap (c : Char) : Bool :=
  c == ' ' || c == '\t' || isBreak c

/-- A letter, a digit, a hyphen or an underscore. -/
def isWordCharacter (c : Char) : Bool :=
  c.isAlphanum || c == '-' || c == '_'

/-- A gap, or nothing, follows. -/
def atGap (text : List Char) : Bool :=
  text.head?.all isGap

/-- A space, the end of the line, or nothing, follows. -/
def atSpace (text : List Char) : Bool :=
  text.head?.all fun c => c == ' ' || isBreak c

/-- The end of the line, or nothing, follows. -/
def atLineEnd (text : List Char) : Bool :=
  text.head?.all isBreak

/-- Three hyphens or three points, and then a gap, follow. -/
def atMarker : List Char → Bool
  | '-' :: '-' :: '-' :: rest => atGap rest
  | '.' :: '.' :: '.' :: rest => atGap rest
  | _ => false

/-! ## Places -/

/-- What is left of a text, and where it starts. -/
structure Place where
  rest : List Char
  position : Nat
  line : Nat
  column : Nat
deriving Inhabited

/-- The text cannot be divided into tokens here. -/
def noToken {α : Type} : Except Fault α :=
  .error (.malformed .token)

namespace Place

/-- The start of a text. -/
def start (text : List Char) : Place :=
  ⟨text, 0, 0, 0⟩

/-- The next character. -/
def next? (place : Place) : Option Char :=
  place.rest.head?

/-- The place after the next character.  A return right before a newline does not end
the line, and a byte order mark takes no column. -/
def advance (place : Place) : Place :=
  match place.rest with
  | [] => place
  | c :: rest =>
      if isBreak c && !(c == '\r' && rest.head? == some '\n') then
        ⟨rest, place.position + 1, place.line + 1, 0⟩
      else if c == '\ufeff' then ⟨rest, place.position + 1, place.line, place.column⟩
      else ⟨rest, place.position + 1, place.line, place.column + 1⟩

/-- A step takes one character away, if there is one. -/
@[simp]
theorem rest_advance (place : Place) : place.advance.rest = place.rest.tail := by
  unfold advance
  split
  · next empty => simp [empty]
  · next rest filled =>
      split
      · simp [filled]
      · split <;> simp [filled]

/-- The place after some characters. -/
def skip : Nat → Place → Place
  | 0, place => place
  | count + 1, place => skip count place.advance

/-- Skipping characters drops them from the text. -/
@[simp]
theorem rest_skip (count : Nat) (place : Place) : (place.skip count).rest = place.rest.drop count := by
  induction count generalizing place with
  | zero => rfl
  | succ count ih => simp [skip, ih, List.drop_tail]

/-- The characters up to the first that fails a test, and the place after them. -/
def span (test : Char → Bool) (place : Place) : List Char × Place :=
  let text := place.rest.takeWhile test
  (text, place.skip text.length)

/-- The first place whose next character fails a test. -/
def skipWhile (test : Char → Bool) (place : Place) : Place :=
  (place.span test).2

/-- The first place after spaces. -/
def skipSpaces (place : Place) : Place :=
  place.skipWhile (· == ' ')

/-- The end of the line, when a comment fills the rest of it. -/
def skipComment (place : Place) : Place :=
  if place.next? == some '#' then place.skipWhile (!isBreak ·) else place

/-- The end of the line, as the character that it stands for, and the place after it:
the separators of Unicode stand for themselves, all other ends for a newline. -/
def lineBreak? (place : Place) : Option (Char × Place) :=
  match place.rest with
  | '\r' :: '\n' :: _ => some ('\n', place.skip 2)
  | c :: _ =>
      if c == '\u2028' || c == '\u2029' then some (c, place.advance)
      else if isBreak c then some ('\n', place.advance)
      else none
  | [] => none

/-- The first place behind spaces, within a block that starts at a column. -/
def skipIndent (indent : Nat) (place : Place) : Place :=
  let spaces := (place.rest.takeWhile (· == ' ')).length
  place.skip (min spaces (indent - place.column))

/-- The rest of a line that must hold nothing but a comment, and the end of the line. -/
def finishLine (place : Place) : Except Fault Place :=
  let finish := place.skipSpaces.skipComment
  if atLineEnd finish.rest then .ok ((finish.lineBreak?.map (·.2)).getD finish) else noToken

end Place

/-! ## Folding lines -/

/-- The ends of several lines, folded: one newline alone becomes a space, and before
others it is dropped. -/
def foldBreaks (first : Char) (others : List Char) : List Char :=
  if first != '\n' then first :: others
  else if others.isEmpty then [' ']
  else others

end AsyncTypes.Yaml
