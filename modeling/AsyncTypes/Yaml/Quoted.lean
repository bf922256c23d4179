import AsyncTypes.Json.Reader
import AsyncTypes.Yaml.Place

/-!
# Quoted scalars

Between single quotes only the quote itself is special, and it is written twice.
Between double quotes a backslash escapes the character after it.  In both, lines are
folded and the blanks around their ends are dropped.
-/

namespace AsyncTypes.Yaml

/-- The character for a one-letter escape. -/
def escaped? : Char → Option Char
  | '0' => some '\x00'
  | 'a' => some '\x07'
  | 'b' => some '\x08'
  | 't' | '\t' => some '\t'
  | 'n' => some '\n'
  | 'v' => some '\x0b'
  | 'f' => some '\x0c'
  | 'r' => some '\r'
  | 'e' => some '\x1b'
  | ' ' => some ' '
  | '"' => some '"'
  | '\\' => some '\\'
  | '/' => some '/'
  | 'N' => some '\x85'
  | '_' => some '\xa0'
  | 'L' => some '\u2028'
  | 'P' => some '\u2029'
  | _ => none

/-- How many hexadecimal digits follow the letter of an escape. -/
def escapeWidth? : Char → Option Nat
  | 'x' => some 2
  | 'u' => some 4
  | 'U' => some 8
  | _ => none

/-- The character with a code.  Half of a pair of code units has none and is replaced. -/
def characterOf (code : Nat) : Except Fault Char :=
  if 0x7fffffff < code then .error (.overflow "Python int too large to convert to C int")
  else if 0x10ffff < code then .error (.badValue "chr() arg not in range(0x110000)")
  else if Json.isHighSurrogate code || Json.isLowSurrogate code then .ok '\ufffd'
  else .ok (Char.ofNat code)

/-- The character of an escape with that many hexadecimal digits. -/
def codeEscape (width : Nat) (place : Place) : Except Fault (Char × Place) := do
  let digits := place.rest.take width
  match Json.hexNumber? digits with
  | some code =>
      if digits.length = width then return (← characterOf code, place.skip width)
      else noToken
  | none => noToken

/-- The ends of empty lines in a quoted scalar, most recent first in `done`.  A document
marker must not follow any of them. -/
def quotedBreaks : Nat → List Char → Place → Except Fault (List Char × Place)
  | 0, done, place => .ok (done.reverse, place)
  | budget + 1, done, place =>
      if atMarker place.rest then noToken
      else
        let after := place.skipWhile fun c => c == ' ' || c == '\t'
        match after.lineBreak? with
        | some (c, next) => quotedBreaks budget (c :: done) next
        | none => .ok (done.reverse, after)

/-- The text that a gap in a quoted scalar stands for. -/
def quotedGap (place : Place) : Except Fault (List Char × Place) := do
  let (blanks, after) := place.span fun c => c == ' ' || c == '\t'
  match after.lineBreak? with
  | some (c, next) =>
      let (breaks, finish) ← quotedBreaks (next.rest.length + 1) [] next
      return (foldBreaks c breaks, finish)
  | none => return (blanks, after)

/-- The text that an escape stands for, from the character after the backslash. -/
def quotedEscape (place : Place) : Except Fault (List Char × Place) := do
  match place.next? with
  | none => noToken
  | some c =>
      match escaped? c, escapeWidth? c with
      | some value, _ => return ([value], place.advance)
      | none, some width =>
          let (value, next) ← codeEscape width place.advance
          return ([value], next)
      | none, none =>
          match place.lineBreak? with
          | some (_, next) => quotedBreaks (next.rest.length + 1) [] next
          | none => noToken

/-- The text between quotes from a place on, most recent first in `done`, and the place
after the closing quote. -/
def quotedFrom (double : Bool) : Nat → List Char → Place → Except Fault (String × Place)
  | 0, _, _ => noToken
  | budget + 1, done, place => do
      match place.rest with
      | [] => noToken
      | c :: rest =>
          if isGap c then
            let (text, next) ← quotedGap place
            if next.rest.isEmpty then noToken
            else quotedFrom double budget (text.reverse ++ done) next
          else if double then
            if c == '"' then return (String.ofList done.reverse, place.advance)
            else if c == '\\' then
              let (text, next) ← quotedEscape place.advance
              quotedFrom double budget (text.reverse ++ done) next
            else quotedFrom double budget (c :: done) place.advance
          else if c == '\'' then
            if rest.head? == some '\'' then quotedFrom double budget (c :: done) (place.skip 2)
            else return (String.ofList done.reverse, place.advance)
          else quotedFrom double budget (c :: done) place.advance

/-- The quoted scalar whose opening quote is at a place. -/
def Place.quoted (double : Bool) (place : Place) : Except Fault (String × Place) :=
  quotedFrom double (place.rest.length + 1) [] place.advance

end AsyncTypes.Yaml
