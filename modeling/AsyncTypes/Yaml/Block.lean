import AsyncTypes.Yaml.Place

/-!
# Block scalars

A block scalar is made of whole lines that are indented alike.  A literal one keeps its
lines; a folded one joins neighbouring lines that do not start with a blank.  What is
left of the line ends at its end is decided by its header.
-/

namespace AsyncTypes.Yaml

/-- What becomes of the line ends at the end of a block: one is kept, none, or all. -/
inductive Chomping
  | clip
  | strip
  | keep
deriving DecidableEq, Inhabited

/-- The header of a block: its chomping and, when it is given, its indentation. -/
structure BlockHeader where
  chomping : Chomping
  indent : Option Nat

/-- The sign for a chomping. -/
def chomping? : Char → Option Chomping
  | '+' => some .keep
  | '-' => some .strip
  | _ => none

/-- The indentation that a header gives as one digit; zero is none. -/
def indentDigit? (c : Char) : Except Fault (Option Nat) :=
  if c == '0' then noToken
  else if c.isDigit then .ok (some (c.toNat - '0'.toNat))
  else .ok none

/-- The header at a place: a sign and a digit in either order, each at most once. -/
def blockHeader (place : Place) : Except Fault (BlockHeader × Place) := do
  let sign (place : Place) : Option Chomping := place.next?.bind chomping?
  let digit (place : Place) : Except Fault (Option Nat) :=
    (place.next?.map indentDigit?).getD (.ok none)
  let (header, after) ←
    match sign place with
    | some chomping => do
        let indent ← digit place.advance
        pure (⟨chomping, indent⟩, if indent.isSome then place.skip 2 else place.advance)
    | none => do
        match ← digit place with
        | none => pure (⟨.clip, none⟩, place)
        | some indent =>
            match sign place.advance with
            | some chomping => pure (⟨chomping, some indent⟩, place.skip 2)
            | none => pure (⟨.clip, some indent⟩, place.advance)
  if atSpace after.rest then return (header, after) else noToken

/-- The empty lines at the head of a block and the widest of their indentations, most
recent first in `done`. -/
def blockIndent : Nat → List Char → Nat → Place → List Char × Nat × Place
  | 0, done, widest, place => (done.reverse, widest, place)
  | budget + 1, done, widest, place =>
      if place.next? == some ' ' then
        blockIndent budget done (max widest place.advance.column) place.advance
      else
        match place.lineBreak? with
        | some (c, next) => blockIndent budget (c :: done) widest next
        | none => (done.reverse, widest, place)

/-- The empty lines before the next line of a block, most recent first in `done`. -/
def blockBreaks (indent : Nat) : Nat → List Char → Place → List Char × Place
  | 0, done, place => (done.reverse, place)
  | budget + 1, done, place =>
      let inside := place.skipIndent indent
      match inside.lineBreak? with
      | some (c, next) => blockBreaks indent budget (c :: done) next
      | none => (done.reverse, inside)

/-- A line of the block starts at a place. -/
def startsLine (indent : Nat) (place : Place) : Bool :=
  place.column == indent && !place.rest.isEmpty

/-- A blank is at a place. -/
def atBlank (place : Place) : Bool :=
  place.next?.any fun c => c == ' ' || c == '\t'

/-- The lines of a block: their text, the end of the last of them, the empty lines
behind it, and the place after all. -/
structure BlockLines where
  text : List Char
  lastBreak : List Char
  breaks : List Char
  place : Place

/-- The lines of a block from a place on, after some empty lines.  The text so far is
most recent first in `done`. -/
def blockLines (folded : Bool) (indent : Nat) :
    Nat → List Char → List Char → List Char → Place → BlockLines
  | 0, done, lastBreak, breaks, place => ⟨done.reverse, lastBreak, breaks, place⟩
  | budget + 1, done, lastBreak, breaks, place =>
      if startsLine indent place then
        let (line, finish) := place.span (!isBreak ·)
        let (lineEnd, after) := match finish.lineBreak? with
          | some (c, next) => ([c], next)
          | none => ([], finish)
        let (empty, next) := blockBreaks indent after.rest.length [] after
        let text := line.reverse ++ (breaks.reverse ++ done)
        if startsLine indent next then
          let joined :=
            if folded && lineEnd == ['\n'] && !atBlank place && !atBlank next then
              if empty.isEmpty then [' '] else []
            else lineEnd
          blockLines folded indent budget (joined ++ text) lineEnd empty next
        else ⟨text.reverse, lineEnd, empty, next⟩
      else ⟨done.reverse, lastBreak, breaks, place⟩

/-- The text of a block after chomping. -/
def BlockLines.chomped (lines : BlockLines) : Chomping → List Char
  | .strip => lines.text
  | .clip => lines.text ++ lines.lastBreak
  | .keep => lines.text ++ lines.lastBreak ++ lines.breaks

/-- The block scalar whose sign is at a place; `least` is the least indentation of its
lines. -/
def Place.block (folded : Bool) (least : Nat) (place : Place) : Except Fault (String × Place) := do
  let (header, after) ← blockHeader place.advance
  let body ← after.finishLine
  let budget := body.rest.length + 1
  let (indent, breaks, first) := match header.indent with
    | some width =>
        let indent := least + width - 1
        (indent, blockBreaks indent budget [] body)
    | none =>
        let (breaks, widest, first) := blockIndent budget [] 0 body
        (max least widest, breaks, first)
  let lines := blockLines folded indent budget [] [] breaks first
  return (String.ofList (lines.chomped header.chomping), lines.place)

end AsyncTypes.Yaml
