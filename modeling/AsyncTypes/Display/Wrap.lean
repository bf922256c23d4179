import AsyncTypes.Text.Split
import AsyncTypes.Unicode.Blank
import AsyncTypes.Unicode.Width

/-!
# Wrapping text

Text is laid out on lines of a limited width.  Lines are broken before words; a blank
stays at the end of its line as far as it fits.  A word that is wider than a line is cut
into pieces.  Widths are counted in columns, of which a wide character takes two.
-/

namespace AsyncTypes.Display

open AsyncTypes.Unicode (isBlank textWidth trimEnd)

/-! ## Characters that are not shown -/

/-- Signs to the terminal that are left out: bell, backspace, the vertical feeds and the
return. -/
def isTerminalSign (c : Char) : Bool :=
  c == '\x07' || c == '\x08' || c == '\x0b' || c == '\x0c' || c == '\r'

/-- The columns between two tab stops. -/
def tabWidth : Nat := 8

/-- A line without tabs: each becomes spaces up to the next tab stop.  `column` is the
width of the line before the text. -/
def expandTabs (column : Nat) : List Char → List Char
  | [] => []
  | c :: rest =>
      if c == '\t' then
        let spaces := tabWidth - column % tabWidth
        List.replicate spaces ' ' ++ expandTabs (column + spaces) rest
      else c :: expandTabs (column + Unicode.width c) rest

/-! ## Words -/

/-- The words of a line, each with the blanks behind it, the first also with those before
it.  A line of blanks has none. -/
def wordsFrom : Nat → List Char → List (List Char)
  | 0, _ => []
  | budget + 1, text =>
      let lead := text.takeWhile isBlank
      let body := text.drop lead.length
      let core := body.takeWhile (!isBlank ·)
      let tail := (body.drop core.length).takeWhile isBlank
      if core.isEmpty then []
      else (lead ++ core ++ tail) :: wordsFrom budget (body.drop (core.length + tail.length))

/-- The words of a line. -/
def words (line : List Char) : List (List Char) :=
  wordsFrom line.length line

/-- The pieces of a word, each as long as fits; `piece` and `column` are the piece that
was begun and its width. -/
def chopFrom (width : Nat) (piece : List Char) (column : Nat) : List Char → List (List Char)
  | [] => [piece]
  | c :: rest =>
      if width < column + Unicode.width c then
        piece :: chopFrom width [c] (Unicode.width c) rest
      else chopFrom width (piece ++ [c]) (column + Unicode.width c) rest

/-- The pieces of a word, each as long as fits. -/
def chop (width : Nat) (word : List Char) : List (List Char) :=
  chopFrom width [] 0 word

/-! ## Lines -/

/-- Lines under construction: those that are complete, the current one and its width. -/
structure Layout where
  complete : List (List Char)
  current : List Char
  column : Nat

namespace Layout

/-- No lines. -/
def start : Layout :=
  ⟨[], [], 0⟩

/-- All lines. -/
def lines (layout : Layout) : List (List Char) :=
  layout.complete ++ [layout.current]

/-- Complete the current line, unless nothing was laid out so far, and begin the next. -/
def breakBefore (layout : Layout) (text : List Char) : Layout :=
  if layout.complete.isEmpty && layout.current.isEmpty then ⟨[], text, textWidth text⟩
  else ⟨layout.lines, text, textWidth text⟩

/-- Lay out one more word. -/
def add (width : Nat) (layout : Layout) (word : List Char) : Layout :=
  let needed := textWidth (trimEnd word)
  if layout.column + needed ≤ width then
    { layout with
      current := layout.current ++ word, column := layout.column + textWidth word }
  else if width < needed then (chop width word).foldl breakBefore layout
  else layout.breakBefore word

end Layout

/-- A line broken into lines of a width. -/
def breakLine (width : Nat) (line : List Char) : List (List Char) :=
  match words line with
  | [] => [line]
  | first :: rest => ((first :: rest).foldl (Layout.add width) .start).lines

/-- A line without the blanks at its end that reach beyond a number of characters. -/
def trimExcess (width : Nat) (line : List Char) : List Char :=
  let blanks := line.length - (trimEnd line).length
  line.take (line.length - min blanks (line.length - width))

/-- The beginning of a line that fits, filled up when it falls short by half a wide
character. -/
def crop (width : Nat) (line : List Char) : List Char :=
  if textWidth line ≤ width then line
  else
    let kept := (chop width line).headD []
    kept ++ List.replicate (width - textWidth kept) ' '

/-- The lines of a text within a width. -/
def wrap (width : Nat) (text : String) : List (List Char) :=
  let shown := text.toList.filter (!isTerminalSign ·)
  (Text.split '\n' shown).flatMap fun line =>
    (breakLine width (expandTabs 0 line)).map fun part => crop width (trimExcess width part)

/-- A text always has a line. -/
theorem wrap_ne_nil (width : Nat) (text : String) : wrap width text ≠ [] := by
  have some := Text.split_ne_nil '\n' (text.toList.filter (!isTerminalSign ·))
  intro empty
  simp only [wrap, List.flatMap_eq_nil_iff, List.map_eq_nil_iff] at empty
  match lines : Text.split '\n' (text.toList.filter (!isTerminalSign ·)) with
  | [] => exact some lines
  | line :: rest =>
      have none := empty line (by simp [lines])
      unfold breakLine at none
      split at none <;> simp [Layout.lines] at none

end AsyncTypes.Display
