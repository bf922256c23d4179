import AsyncTypes.Yaml.Place

/-!
# Plain scalars

A plain scalar stands without quotes.  It ends before a gap that nothing of it follows,
before a colon that ends a key, and inside brackets before their punctuation.  It may go
on over several lines, which are folded, as long as they are indented far enough and do
not start with a document marker.
-/

namespace AsyncTypes.Yaml

/-- A character that a plain scalar inside brackets cannot hold. -/
def isPunctuation (c : Char) : Bool :=
  c == ',' || c == '?' || c == '[' || c == ']' || c == '\x7b' || c == '\x7d'

/-- What may follow the colon of a key. -/
def endsKey (inFlow : Bool) (text : List Char) : Bool :=
  atGap text || (inFlow && text.head?.any fun c => isPunctuation c && c != '?')

/-- How many characters of a plain scalar come before the next gap. -/
def plainLength (inFlow : Bool) : List Char → Nat
  | [] => 0
  | c :: rest =>
      if isGap c || (c == ':' && endsKey inFlow rest) || (inFlow && isPunctuation c) then 0
      else plainLength inFlow rest + 1

/-- A part of a plain scalar never reaches beyond the text. -/
theorem plainLength_le (inFlow : Bool) (text : List Char) : plainLength inFlow text ≤ text.length := by
  induction text with
  | nil => simp [plainLength]
  | cons c rest ih =>
      simp only [plainLength, List.length_cons]
      split <;> omega

/-- A gap inside a plain scalar: the text that it stands for when the scalar goes on
after it, the place after it, and whether it ends a line.  Before a document marker it
stands for nothing. -/
structure PlainGap where
  text : Option (List Char)
  place : Place
  endsLine : Bool

/-- The further ends of lines in a gap, most recent first in `done`; none when a marker
follows one of them. -/
def plainBreaks : Nat → List Char → Place → Option (List Char) × Place
  | 0, done, place => (some done.reverse, place)
  | budget + 1, done, place =>
      if place.next? == some ' ' then plainBreaks budget done place.advance
      else
        match place.lineBreak? with
        | none => (some done.reverse, place)
        | some (c, next) =>
            if atMarker next.rest then (none, next) else plainBreaks budget (c :: done) next

/-- The gap at a place. -/
def plainGap (place : Place) : PlainGap :=
  let (spaces, after) := place.span (· == ' ')
  match after.lineBreak? with
  | none => ⟨some spaces, after, false⟩
  | some (c, next) =>
      if atMarker next.rest then ⟨none, next, true⟩
      else
        let (breaks, finish) := plainBreaks next.rest.length [] next
        ⟨breaks.map (foldBreaks c), finish, true⟩

/-- A plain scalar: its text, the place after it and the gap behind it, and whether
that gap ends a line. -/
structure Plain where
  text : List Char
  place : Place
  endsLine : Bool

/-- The plain scalar at a place, whose further lines start at `indent` or later.  The
text so far is most recent first in `done`, and `gap` is what stands between it and the
next part. -/
def plainFrom (inFlow : Bool) (indent : Nat) :
    Nat → List Char → List Char → Bool → Place → Plain
  | 0, done, _, endsLine, place => ⟨done.reverse, place, endsLine⟩
  | budget + 1, done, gap, endsLine, place =>
      let length := plainLength inFlow place.rest
      if length = 0 then ⟨done.reverse, place, endsLine⟩
      else
        let text := (place.rest.take length).reverse ++ (gap.reverse ++ done)
        let behind := plainGap (place.skip length)
        let next := behind.place
        match behind.text with
        | none | some [] => ⟨text.reverse, next, behind.endsLine⟩
        | some spaces =>
            if next.next? == some '#' || (!inFlow && next.column < indent) then
              ⟨text.reverse, next, behind.endsLine⟩
            else plainFrom inFlow indent budget text spaces behind.endsLine next

/-- The plain scalar at a place. -/
def Place.plain (inFlow : Bool) (indent : Nat) (place : Place) : Plain :=
  plainFrom inFlow indent (place.rest.length + 1) [] [] false place

end AsyncTypes.Yaml
