import AsyncTypes.Display.Wrap

/-!
# Panels

A panel is a box around a text, with a title in its top border.  It is as wide as its
longest line or its title need, but never wider than the terminal.
-/

namespace AsyncTypes.Display

open AsyncTypes.Unicode (textWidth)

/-- A character that ends a line of text. -/
def endsTextLine (c : Char) : Bool :=
  c == '\n' || ('\x1c' ≤ c && c ≤ '\x1e') || c == '\x85' || c == '\u2028' || c == '\u2029'

/-- The widest line of a text; `column` is the width of the line that was begun. -/
def longestFrom (column : Nat) : List Char → Nat
  | [] => column
  | c :: rest =>
      if endsTextLine c then max column (longestFrom 0 rest)
      else longestFrom (column + Unicode.width c) rest

/-- The widest line of a text, before it is wrapped. -/
def longestLine (text : String) : Nat :=
  longestFrom 0 (text.toList.filter (!isTerminalSign ·))

/-- A character several times. -/
def rule (count : Nat) (c : Char) : List Char :=
  List.replicate count c

/-- A title in the middle of a line of a width, with more of the line behind it than
before it when the two cannot be equal. -/
def centred (width : Nat) (title : List Char) : List Char :=
  let space := width - title.length
  rule (space / 2) '─' ++ title.take width ++ rule (space - space / 2) '─'

/-- The top border of a panel.  A narrow one has no title. -/
def topBorder (inner : Nat) (title : String) : List Char :=
  let line := if inner ≤ 2 then rule inner '─'
    else '─' :: centred (inner - 2) (' ' :: title.toList ++ [' ']) ++ ['─']
  '╭' :: line ++ ['╮']

/-- A line of a panel, filled up to its width. -/
def bodyLine (inner : Nat) (line : List Char) : List Char :=
  '│' :: ' ' :: line ++ rule (inner - 2 - textWidth line) ' ' ++ [' ', '│']

/-- The width inside the borders of a panel. -/
def innerWidth (terminal : Nat) (title text : String) : Nat :=
  min (terminal - 2) (max (longestLine text + 2) (title.length + 4))

/-- A panel on a terminal of a width. -/
def panel (terminal : Nat) (title text : String) : List String :=
  let inner := innerWidth terminal title text
  let body := (wrap (inner - 2) text).map (bodyLine inner)
  let bottom := '╰' :: rule inner '─' ++ ['╯']
  (topBorder inner title :: body ++ [bottom]).map String.ofList

end AsyncTypes.Display
