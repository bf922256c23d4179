import AsyncTypes.Yaml.Block
import AsyncTypes.Yaml.Plain
import AsyncTypes.Yaml.Property
import AsyncTypes.Yaml.Quoted

/-!
# Tokens

The tokens of a text, in order.  Indentation is turned into tokens that open and close
blocks.  Whether a scalar is a key shows only at the colon behind it, so the place of
every token that may start a key is remembered as a candidate, and the token that marks
a key is put in front of it later.

A token is served only when no candidate before it is open.  So a fault is met when the
first token is asked for that could not be served before it.
-/

namespace AsyncTypes.Yaml

/-- A token. -/
inductive Token
  | directive (directive : Directive)
  | documentStart
  | documentEnd
  | streamEnd
  | blockSequenceStart
  | blockMappingStart
  | blockEnd
  | flowSequenceStart
  | flowSequenceEnd
  | flowMappingStart
  | flowMappingEnd
  | blockEntry
  | flowEntry
  | key
  | value
  | alias (name : String)
  | anchor (name : String)
  | tag (tag : TagText)
  | scalar (text : String) (isPlain : Bool)
deriving DecidableEq, Inhabited

/-- The tokens that can be served, and the fault that is met behind them. -/
structure Tokens where
  served : List Token
  fault : Option Fault

/-! ## Candidates for keys -/

/-- A token that may start a key, by its number and its place.  It is required when it
stands where only a key can stand. -/
structure Candidate where
  number : Nat
  required : Bool
  place : Place

/-- A key lies on one line and has at most 1024 characters. -/
def Candidate.isOpen (candidate : Candidate) (place : Place) : Bool :=
  candidate.place.line == place.line && place.position - candidate.place.position ≤ 1024

/-! ## The state of the division -/

/-- The state of the division of a text into tokens: the place that was reached, the
tokens found, most recent first, and their number; the columns of the open blocks, the
candidate of the blocks and those of the open brackets, innermost first; and whether a
key may start here. -/
structure Lexer where
  place : Place
  tokens : List Token
  count : Nat
  indents : List Nat
  candidate : Option Candidate
  brackets : List (Option Candidate)
  keysAllowed : Bool
  finished : Bool

namespace Lexer

/-- The start of a text. -/
def start (text : List Char) : Lexer :=
  { place := .start text
    tokens := []
    count := 0
    indents := []
    candidate := none
    brackets := []
    keysAllowed := true
    finished := false }

/-- The place is inside brackets. -/
def inFlow (lexer : Lexer) : Bool :=
  !lexer.brackets.isEmpty

/-- The place with some more tokens. -/
def emit (lexer : Lexer) (token : Token) : Lexer :=
  { lexer with tokens := token :: lexer.tokens, count := lexer.count + 1 }

/-- The lexer after some characters. -/
def skip (lexer : Lexer) (count : Nat) : Lexer :=
  { lexer with place := lexer.place.skip count }

/-- Say whether a key may start next. -/
def allowKeys (lexer : Lexer) (allowed : Bool) : Lexer :=
  { lexer with keysAllowed := allowed }

/-- The least indentation of text inside the innermost block. -/
def innerIndent (lexer : Lexer) : Nat :=
  match lexer.indents with
  | [] => 0
  | indent :: _ => indent + 1

/-! ### Candidates -/

/-- The candidate of the innermost bracket, or of the blocks outside all brackets. -/
def current (lexer : Lexer) : Option Candidate :=
  match lexer.brackets with
  | [] => lexer.candidate
  | candidate :: _ => candidate

/-- Replace the candidate of the innermost bracket. -/
def withCurrent (lexer : Lexer) (candidate : Option Candidate) : Lexer :=
  match lexer.brackets with
  | [] => { lexer with candidate := candidate }
  | _ :: outer => { lexer with brackets := candidate :: outer }

/-- How many tokens can be served: those before the first open candidate. -/
def servable (lexer : Lexer) : Nat :=
  let open' := (lexer.candidate :: lexer.brackets).filterMap id
  open'.foldl (fun least candidate => min least candidate.number) lexer.count

/-- Close the candidates that can no longer start a key.  One that is required must not
be closed. -/
def closeStale (lexer : Lexer) : Except Fault Lexer :=
  let isStale (candidate : Candidate) : Bool := !candidate.isOpen lexer.place
  let all := (lexer.candidate :: lexer.brackets).filterMap id
  if all.any fun candidate => candidate.required && isStale candidate then noToken
  else
    let keep (candidate : Option Candidate) : Option Candidate := candidate.filter (!isStale ·)
    .ok { lexer with candidate := keep lexer.candidate, brackets := lexer.brackets.map keep }

/-- Close the innermost candidate, which must not be required. -/
def closeCurrent (lexer : Lexer) : Except Fault Lexer :=
  if lexer.current.any (·.required) then noToken else .ok (lexer.withCurrent none)

/-- Remember the next token as a candidate, where a key may start. -/
def propose (lexer : Lexer) : Except Fault Lexer :=
  if lexer.keysAllowed then do
    let required := !lexer.inFlow && lexer.indents.head? == some lexer.place.column
    let closed ← lexer.closeCurrent
    return closed.withCurrent (some ⟨lexer.count, required, lexer.place⟩)
  else .ok lexer

/-! ### Blocks -/

/-- Close the blocks that are indented more than a column. -/
def closeBlocks (lexer : Lexer) (inside : Nat → Bool) : Lexer :=
  if lexer.inFlow then lexer
  else
    let closed := lexer.indents.takeWhile inside
    { lexer with
      indents := lexer.indents.drop closed.length
      tokens := closed.map (fun _ => Token.blockEnd) ++ lexer.tokens
      count := lexer.count + closed.length }

/-- The column starts a new block. -/
def opensBlock (lexer : Lexer) (column : Nat) : Bool :=
  lexer.innerIndent ≤ column

/-- Open a block at a column, unless one is open there. -/
def openBlock (lexer : Lexer) (token : Token) (column : Nat) : Lexer :=
  if !lexer.inFlow && lexer.opensBlock column then
    { lexer.emit token with indents := column :: lexer.indents }
  else lexer

/-- Put a token in front of the token with a number. -/
def insertAt (lexer : Lexer) (number : Nat) (token : Token) : Lexer :=
  let behind := lexer.count - number
  { lexer with
    tokens := lexer.tokens.take behind ++ token :: lexer.tokens.drop behind
    count := lexer.count + 1 }

/-- Turn a candidate into a key, and open a block for it unless one is open at its
column. -/
def markKey (lexer : Lexer) (candidate : Candidate) : Lexer :=
  let column := candidate.place.column
  let marked := lexer.insertAt candidate.number .key
  if !lexer.inFlow && lexer.opensBlock column then
    { marked.insertAt candidate.number .blockMappingStart with indents := column :: lexer.indents }
  else marked

/-! ## One token -/

/-- Leave the blanks, comments and empty lines before the next token.  Outside brackets a
key may start on a new line. -/
def skipToToken : Nat → Lexer → Lexer
  | 0, lexer => lexer
  | budget + 1, lexer =>
      let finish := lexer.place.skipSpaces.skipComment
      match finish.lineBreak? with
      | some (_, next) =>
          skipToToken budget
            { lexer with place := next, keysAllowed := lexer.keysAllowed || !lexer.inFlow }
      | none => { lexer with place := finish }

/-- A mark at the very start is no part of the text. -/
def skipByteOrderMark (lexer : Lexer) : Lexer :=
  if lexer.place.position = 0 && lexer.place.next? == some '\ufeff' then lexer.skip 1 else lexer

/-- The end of the text closes all blocks. -/
def finish (lexer : Lexer) : Except Fault Lexer := do
  let closed ← (lexer.closeBlocks fun _ => true).closeCurrent
  return { closed.emit .streamEnd with
    finished := true, candidate := none, brackets := closed.brackets.map fun _ => none }

/-- A directive closes all blocks. -/
def directive (lexer : Lexer) : Except Fault Lexer := do
  let closed ← (lexer.closeBlocks fun _ => true).closeCurrent
  let (directive, next) ← closed.place.directive
  return { (closed.allowKeys false).emit (.directive directive) with place := next }

/-- A document marker closes all blocks. -/
def marker (lexer : Lexer) (token : Token) : Except Fault Lexer := do
  let closed ← (lexer.closeBlocks fun _ => true).closeCurrent
  return (closed.allowKeys false).emit token |>.skip 3

/-- An opening bracket may start a key itself, and keys may start behind it. -/
def openBracket (lexer : Lexer) (token : Token) : Except Fault Lexer := do
  let proposed ← lexer.propose
  let inside := { proposed with brackets := none :: proposed.brackets }
  return (inside.allowKeys true).emit token |>.skip 1

/-- A closing bracket.  Where no bracket is open, nothing behind it counts. -/
def closeBracket (lexer : Lexer) (token : Token) : Except Fault Lexer := do
  let closed ← lexer.closeCurrent
  let outside := { closed with
    brackets := closed.brackets.tail, finished := closed.brackets.isEmpty }
  return (outside.allowKeys false).emit token |>.skip 1

/-- A comma inside brackets. -/
def flowEntry (lexer : Lexer) : Except Fault Lexer := do
  let closed ← lexer.closeCurrent
  return (closed.allowKeys true).emit .flowEntry |>.skip 1

/-- A hyphen before an item of a block. -/
def blockEntry (lexer : Lexer) : Except Fault Lexer := do
  if !lexer.inFlow && !lexer.keysAllowed then noToken
  let opened := lexer.openBlock .blockSequenceStart lexer.place.column
  let closed ← opened.closeCurrent
  return (closed.allowKeys true).emit .blockEntry |>.skip 1

/-- A question mark before a key. -/
def keyMark (lexer : Lexer) : Except Fault Lexer := do
  if !lexer.inFlow && !lexer.keysAllowed then noToken
  let opened := lexer.openBlock .blockMappingStart lexer.place.column
  let closed ← opened.closeCurrent
  return (closed.allowKeys (!lexer.inFlow)).emit .key |>.skip 1

/-- A colon before a value: it makes the candidate a key, or stands for itself. -/
def valueMark (lexer : Lexer) : Except Fault Lexer := do
  match lexer.current with
  | some candidate =>
      let marked := (lexer.withCurrent none).markKey candidate
      return (marked.allowKeys false).emit .value |>.skip 1
  | none =>
      if !lexer.inFlow && !lexer.keysAllowed then noToken
      let opened := lexer.openBlock .blockMappingStart lexer.place.column
      return (opened.allowKeys (!lexer.inFlow)).emit .value |>.skip 1

/-- A token that may start a key. -/
def keyToken {α : Type} (lexer : Lexer) (scan : Place → Except Fault (α × Place))
    (token : α → Token) : Except Fault Lexer := do
  let proposed ← lexer.propose
  let (result, next) ← scan proposed.place
  return { (proposed.allowKeys false).emit (token result) with place := next }

/-- A block scalar. -/
def blockScalar (lexer : Lexer) (folded : Bool) : Except Fault Lexer := do
  let closed ← lexer.closeCurrent
  let (text, next) ← closed.place.block folded (max lexer.innerIndent 1)
  return { (closed.allowKeys true).emit (.scalar text false) with place := next }

/-- A plain scalar.  A key may start behind it when the gap there ends a line. -/
def plainScalar (lexer : Lexer) : Except Fault Lexer := do
  let proposed ← lexer.propose
  let plain := proposed.place.plain lexer.inFlow lexer.innerIndent
  return { (proposed.allowKeys plain.endsLine).emit (.scalar (String.ofList plain.text) true) with
    place := plain.place }

/-- A character that has a meaning of its own at the start of a token. -/
def isIndicator (c : Char) : Bool :=
  "-?:,[]\x7b\x7d#&*!|>\x27\"%@\x60".toList.contains c

/-- A plain scalar starts here. -/
def startsPlain (inFlow : Bool) (c : Char) (rest : List Char) : Bool :=
  (!isGap c && !isIndicator c) ||
    (!atGap rest && (c == '-' || (!inFlow && (c == '?' || c == ':'))))

/-- The token at the place of the lexer. -/
def token (lexer : Lexer) : Except Fault Lexer :=
  let atStart := lexer.place.column = 0
  match lexer.place.rest with
  | [] => lexer.finish
  | c :: rest =>
      if c == '%' && atStart then lexer.directive
      else if atStart && atMarker (c :: rest) then
        lexer.marker (if c == '-' then .documentStart else .documentEnd)
      else if c == '[' then lexer.openBracket .flowSequenceStart
      else if c == '\x7b' then lexer.openBracket .flowMappingStart
      else if c == ']' then lexer.closeBracket .flowSequenceEnd
      else if c == '\x7d' then lexer.closeBracket .flowMappingEnd
      else if c == ',' then lexer.flowEntry
      else if c == '-' && atGap rest then lexer.blockEntry
      else if c == '?' && (lexer.inFlow || atGap rest) then lexer.keyMark
      else if c == ':' && (lexer.inFlow || atGap rest) then lexer.valueMark
      else if c == '*' then lexer.keyToken Place.anchorName .alias
      else if c == '&' then lexer.keyToken Place.anchorName .anchor
      else if c == '!' then lexer.keyToken Place.tag .tag
      else if c == '|' && !lexer.inFlow then lexer.blockScalar false
      else if c == '>' && !lexer.inFlow then lexer.blockScalar true
      else if c == '\'' then lexer.keyToken (Place.quoted false) (.scalar · false)
      else if c == '"' then lexer.keyToken (Place.quoted true) (.scalar · false)
      else if startsPlain lexer.inFlow c rest then lexer.plainScalar
      else noToken

/-- The next token, with all that comes before it.  A candidate may be stale before the
token or behind it. -/
def next (lexer : Lexer) : Except Fault Lexer := do
  let there := skipToToken (lexer.place.rest.length + 1) lexer.skipByteOrderMark
  let closed ← there.closeStale
  let after ← (closed.closeBlocks (closed.place.column < ·)).token
  if after.finished then return after else after.closeStale

/-! ## All tokens -/

/-- The tokens found, up to a fault. -/
def upTo (lexer : Lexer) (fault : Fault) : Tokens :=
  ⟨(lexer.tokens.drop (lexer.count - lexer.servable)).reverse, some fault⟩

/-- The tokens from the state of a lexer on. -/
def run : Nat → Lexer → Tokens
  | 0, lexer => ⟨lexer.tokens.reverse, none⟩
  | budget + 1, lexer =>
      match lexer.next with
      | .error fault => lexer.upTo fault
      | .ok after => if after.finished then ⟨after.tokens.reverse, none⟩ else run budget after

end Lexer

/-- The tokens of a text. -/
def Tokens.ofText (text : List Char) : Tokens :=
  Lexer.run (text.length + 2) (.start text)

end AsyncTypes.Yaml
