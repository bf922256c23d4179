import AsyncTypes.Json.Reader
import AsyncTypes.Number.Integer
import AsyncTypes.Unicode.Word

/-!
# Patterns

Which texts are regular expressions.  A pattern is read once, from left to right,
without being built: of what has been read only that much is kept as later parts can
depend on.  That is the number of characters that a part can match, which has to be
fixed inside a look-behind, the groups that have been opened and closed, and the
flags.

Besides being valid or not, a pattern can ask for more repetitions than can be
counted, or set two flags at its start that exclude each other.
-/

namespace AsyncTypes.Pattern

/-! ## Tokens -/

/-- A character of a pattern, or a character behind a backslash. -/
inductive Token
  | plain (c : Char)
  | escaped (c : Char)
deriving DecidableEq

/-- The tokens of a pattern; a backslash at its end is none. -/
def tokens : List Char → List Token
  | [] => []
  | ['\\'] => []
  | '\\' :: c :: rest => .escaped c :: tokens rest
  | c :: rest => .plain c :: tokens rest

/-- A pattern ends with a backslash that escapes nothing. -/
def isCut : List Char → Bool
  | [] => false
  | ['\\'] => true
  | '\\' :: _ :: rest => isCut rest
  | _ :: rest => isCut rest

/-! ## Verdicts and memory -/

/-- Why a pattern is not accepted. -/
inductive Problem
  | invalid
  | repetitionTooLarge
  | flagsExclusive
deriving DecidableEq

/-- The least and the greatest number of characters that a part matches. -/
structure Width where
  least : Nat
  greatest : Nat
deriving DecidableEq, Inhabited

namespace Width

/-- Beyond this number all widths are alike. -/
def limit : Nat := Nat.pow 2 64

/-- The width of one part after another. -/
def add (first second : Width) : Width :=
  ⟨min (first.least + second.least) limit, min (first.greatest + second.greatest) limit⟩

/-- The width of one part or another. -/
def either (first second : Width) : Width :=
  ⟨min first.least second.least, max first.greatest second.greatest⟩

end Width

/-- A repetition without an upper bound, and the first number that is too large for a
bound. -/
def unbounded : Nat := Nat.pow 2 32 - 1

/-- The width of a part that is repeated. -/
def Width.repeated (width : Width) (least greatest : Nat) : Width :=
  ⟨min (width.least * least) limit,
    if greatest = unbounded && width.greatest ≠ 0 then limit
    else min (width.greatest * greatest) limit⟩

/-- What is kept of the text that has been read. -/
structure Memory where
  rest : List Token
  /-- Behind the last token the pattern is cut short. -/
  cut : Bool
  /-- The widths of the groups that are closed; `none` for one that is open. -/
  groups : List (Option Width)
  names : List (String × Nat)
  /-- Inside a look-behind, the number of groups at its start. -/
  behindFrom : Option Nat
  conditions : List Nat
  flags : List Char
  hasRepeat : Bool

/-- Reading a part of a pattern. -/
abbrev Reader := StateT Memory (Except Problem)

/-- The pattern is no regular expression. -/
def reject {α : Type} : Reader α :=
  throw .invalid

/-- The next token, if there is one. -/
def peek : Reader (Option Token) := do
  return (← get).rest.head?

/-- Take the next token, if there is one.  What stands behind it is looked at, too. -/
def take : Reader (Option Token) := do
  let memory ← get
  let left := memory.rest.tail
  if memory.cut && left.isEmpty then reject
  set { memory with rest := left }
  return memory.rest.head?

/-- Take the next token if it is the given character. -/
def takeIf (c : Char) : Reader Bool := do
  if (← peek) == some (.plain c) then
    discard take
    return true
  else return false

/-- Take a character that has to be there. -/
def expect (c : Char) : Reader Unit := do
  if !(← takeIf c) then reject

/-- Take at most some plain characters of a kind. -/
def takeWhile (allowed : Char → Bool) : Nat → Reader (List Char)
  | 0 => return []
  | count + 1 => do
      match ← peek with
      | some (.plain c) =>
          if allowed c then
            discard take
            let others ← takeWhile allowed count
            return c :: others
          else return []
      | _ => return []

/-- The number of tokens that are left. -/
def remaining : Reader Nat := do
  return (← get).rest.length

/-- The text of a token. -/
def Token.text : Token → List Char
  | .plain c => [c]
  | .escaped c => ['\\', c]

/-- The text up to a closing character, which has to be there after at least one
token. -/
def takeUntil (close : Char) : Nat → Reader (List Char)
  | 0 => reject
  | budget + 1 => do
      match ← take with
      | none => reject
      | some token =>
          if token == .plain close then return []
          else
            let others ← takeUntil close budget
            return token.text ++ others

/-- A name up to a closing character. -/
def takeName (close : Char) : Reader (List Char) := do
  let name ← takeUntil close ((← remaining) + 1)
  if name.isEmpty then reject else return name

/-! ## Groups -/

/-- A group has been closed. -/
def isClosed (memory : Memory) (group : Nat) : Bool :=
  (memory.groups[group]?.join).isSome

/-- Inside a look-behind only groups that were closed before it can be referred to. -/
def checkBehind (group : Nat) : Reader Unit := do
  let memory ← get
  match memory.behindFrom with
  | none => return ()
  | some first =>
      if isClosed memory group && group < first then return () else reject

/-- The width of a group that a back reference repeats. -/
def referTo (group : Nat) : Reader Width := do
  let memory ← get
  match memory.groups[group]?.join with
  | none => reject
  | some width => do
      checkBehind group
      return width

/-- Open a group, perhaps with a name of its own. -/
def openGroup (name : Option String) : Reader Nat := do
  let memory ← get
  let group := memory.groups.length
  match name with
  | none => set { memory with groups := memory.groups ++ [none] }
  | some name =>
      if memory.names.any fun entry => entry.1 == name then reject
      else
        set { memory with
          groups := memory.groups ++ [none]
          names := memory.names ++ [(name, group)] }
  return group

/-- Close a group with the width of its content. -/
def closeGroup (group : Nat) (width : Width) : Reader Unit :=
  modify fun memory => { memory with groups := memory.groups.set group (some width) }

/-- A text that can name a group. -/
def isGroupName : List Char → Bool
  | [] => false
  | c :: rest =>
      Unicode.isWordCharacter c && !Unicode.isDigit c && rest.all Unicode.isWordCharacter

/-! ## Escapes -/

/-- An octal digit. -/
def isOctal (c : Char) : Bool :=
  '0' ≤ c && c ≤ '7'

/-- The value of octal digits. -/
def octalValue (digits : List Char) : Nat :=
  digits.foldl (fun total c => total * 8 + (c.toNat - '0'.toNat)) 0

/-- The code that a fixed number of hexadecimal digits gives. -/
def takeCode (count : Nat) : Reader Nat := do
  let digits ← takeWhile (fun c => (Json.hexValue? c).isSome) count
  if digits.length < count then reject
  match Json.hexNumber? digits with
  | some code => if code < 0x110000 then return code else reject
  | none => reject

/-- What an escape in a pattern stands for. -/
inductive Escape
  | character (code : Nat)
  | category
  | position
  | group (width : Width)

/-- Letters that stand for a control character. -/
def controls : List (Char × Nat) :=
  [('a', 7), ('b', 8), ('f', 12), ('n', 10), ('r', 13), ('t', 9), ('v', 11), ('\\', 92)]

/-- Letters that stand for a category of characters. -/
def categories : List Char :=
  ['d', 'D', 's', 'S', 'w', 'W']

/-- Letters that stand for a position. -/
def positions : List Char :=
  ['A', 'b', 'B', 'Z']

/-- A text in the form of a character's name, which has at least two characters. -/
def isCharacterName (name : List Char) : Bool :=
  1 < name.length && name.any Char.isAlpha &&
    name.all fun c => c.isAlphanum || c == ' ' || c == '-'

/-- The escapes that give a character by its code or its name, and those of characters
that have no other meaning. -/
def characterEscape (c : Char) : Reader Nat := do
  if c == 'x' then takeCode 2
  else if c == 'u' then takeCode 4
  else if c == 'U' then takeCode 8
  else if c == 'N' then
    expect '\x7b'
    let name ← takeName '\x7d'
    if isCharacterName name then return 0 else reject
  else if c.isAlphanum then reject
  else return c.toNat

/-- An escape inside a set of characters. -/
def setEscape (c : Char) : Reader Escape := do
  match controls.find? fun entry => entry.1 == c with
  | some entry => return .character entry.2
  | none =>
      if categories.contains c then return .category
      else if isOctal c then
        let more ← takeWhile isOctal 2
        let code := octalValue (c :: more)
        if code ≤ 0o377 then return .character code else reject
      else
        let code ← characterEscape c
        return .character code

/-- A back reference or an octal escape that starts with a digit other than zero. -/
def digitEscape (first : Char) : Reader Escape := do
  match ← takeWhile Char.isDigit 1 with
  | [second] =>
      let third ← if isOctal first && isOctal second then takeWhile isOctal 1 else pure []
      if third.isEmpty then
        let width ← referTo (Json.natOfDigits [first, second])
        return .group width
      else
        let code := octalValue (first :: second :: third)
        if code ≤ 0o377 then return .character code else reject
  | _ =>
      let width ← referTo (Json.natOfDigits [first])
      return .group width

/-- An escape outside sets. -/
def outerEscape (c : Char) : Reader Escape := do
  if categories.contains c then return .category
  else if positions.contains c then return .position
  else
    match controls.find? fun entry => entry.1 == c with
    | some entry => return .character entry.2
    | none =>
        if c == '0' then
          let more ← takeWhile isOctal 2
          return .character (octalValue more)
        else if c.isDigit then digitEscape c
        else
          let code ← characterEscape c
          return .character code

/-! ## Sets -/

/-- The code of a member of a set, none for a category. -/
def setMember : Token → Reader (Option Nat)
  | .plain c => return some c.toNat
  | .escaped c => do
      match ← setEscape c with
      | .character code => return some code
      | _ => return none

/-- The members of a set up to its closing bracket, which is a member when it comes
first. -/
def readSet : Nat → Bool → Reader Unit
  | 0, _ => reject
  | budget + 1, isFirst => do
      match ← take with
      | none => reject
      | some token =>
          if token == .plain ']' && !isFirst then return ()
          else
            let low ← setMember token
            if ← takeIf '-' then
              match ← take with
              | none => reject
              | some other =>
                  if other == .plain ']' then return ()
                  else
                    match low, ← setMember other with
                    | some low, some high =>
                        if high < low then reject else readSet budget false
                    | _, _ => reject
            else readSet budget false

/-! ## Flags -/

/-- The letters of flags. -/
def flagLetters : List Char :=
  ['i', 'L', 'm', 's', 'x', 'a', 't', 'u']

/-- Flags that exclude each other. -/
def charsetFlags : List Char :=
  ['a', 'L', 'u']

/-- Flags that are turned on, from one on, and the character after them. -/
def readFlagsOn : Nat → List Char → Char → Reader (List Char × Char)
  | 0, _, _ => reject
  | budget + 1, on, flag => do
      if flag == 'L' then reject
      let now := flag :: on
      if charsetFlags.contains flag && now.any fun other =>
          charsetFlags.contains other && other != flag then reject
      match ← take with
      | some (.plain c) =>
          if c == ')' || c == '-' || c == ':' then return (now, c)
          else if flagLetters.contains c then readFlagsOn budget now c
          else reject
      | _ => reject

/-- Flags that are turned off, from one on, up to the colon after them. -/
def readFlagsOff : Nat → List Char → Char → Reader (List Char)
  | 0, _, _ => reject
  | budget + 1, off, flag => do
      if charsetFlags.contains flag then reject
      match ← take with
      | some (.plain c) =>
          if c == ':' then return flag :: off
          else if flagLetters.contains c then readFlagsOff budget (flag :: off) c
          else reject
      | _ => reject

/-- What a list of flags applies to. -/
inductive FlagScope
  | whole (on : List Char)
  | group (on off : List Char)

/-- A list of flags, from its first character on. -/
def readFlags (first : Char) : Reader FlagScope := do
  let budget ← remaining
  let (on, close) ←
    if first == '-' then pure ([], '-') else readFlagsOn (budget + 1) [] first
  if close == ')' then return .whole on
  if on.contains 't' then reject
  if close == ':' then return .group on []
  match ← take with
  | some (.plain c) =>
      if flagLetters.contains c then
        let off ← readFlagsOff (budget + 1) [] c
        if off.contains 't' || off.any on.contains then reject
        return .group on off
      else reject
  | _ => reject

/-! ## Sequences -/

/-- What a quantifier has to know of the part in front of it. -/
inductive Part
  | position
  | repetition
  | other
deriving DecidableEq

/-- The sequence read so far: the width of all parts but the last, and the last. -/
structure Sequence where
  before : Width
  last : Option (Part × Width)

namespace Sequence

/-- No part yet. -/
def start : Sequence :=
  ⟨⟨0, 0⟩, none⟩

/-- The width of all parts. -/
def width (sequence : Sequence) : Width :=
  match sequence.last with
  | some (_, width) => sequence.before.add width
  | none => sequence.before

/-- One more part. -/
def push (part : Part) (width : Width) (sequence : Sequence) : Sequence :=
  ⟨sequence.width, some (part, width)⟩

/-- One more character. -/
def pushOne (sequence : Sequence) : Sequence :=
  sequence.push .other ⟨1, 1⟩

/-- No part has been read. -/
def isEmpty (sequence : Sequence) : Bool :=
  sequence.last.isNone

end Sequence

/-- The bound that some digits give, or a default without digits. -/
def boundOf (digits : List Char) (default : Nat) : Reader Nat := do
  if digits.isEmpty then return default
  else
    let bound := Json.natOfDigits digits
    if unbounded ≤ bound then throw .repetitionTooLarge else return bound

/-- The bounds in braces; none when the braces are no quantifier, and then nothing has
been taken. -/
def readBraces : Reader (Option (Nat × Nat)) := do
  let start := (← get).rest
  let giveUp : Reader (Option (Nat × Nat)) := do
    modify fun memory => { memory with rest := start }
    return none
  if (← peek) == some (.plain '\x7d') then return none
  let budget := start.length
  let low ← takeWhile Char.isDigit budget
  let high ← if ← takeIf ',' then takeWhile Char.isDigit budget else pure low
  if ← takeIf '\x7d' then
    let least ← boundOf low 0
    let greatest ← boundOf high unbounded
    if greatest < least then reject
    return some (least, greatest)
  else giveUp

/-- Repeat the last part of a sequence. -/
def repeatLast (sequence : Sequence) (least greatest : Nat) : Reader Sequence := do
  match sequence.last with
  | some (.other, width) => do
      if !(← takeIf '?') then discard (takeIf '+')
      modify fun memory => { memory with hasRepeat := true }
      return { sequence with last := some (.repetition, width.repeated least greatest) }
  | _ => reject

/-- Skip a comment up to the end of its line. -/
def skipLine : Nat → Reader Unit
  | 0 => return ()
  | budget + 1 => do
      match ← take with
      | none => return ()
      | some token => if token == .plain '\n' then return () else skipLine budget

/-- Skip a comment in parentheses. -/
def skipComment : Nat → Reader Unit
  | 0 => reject
  | budget + 1 => do
      match ← take with
      | none => reject
      | some token => if token == .plain ')' then return () else skipComment budget

/-- A blank that does not count when comments are allowed. -/
def isIgnoredBlank (c : Char) : Bool :=
  [' ', '\t', '\n', '\r', '\x0b', '\x0c'].contains c

/-- The group that the condition of a conditional part names. -/
def readCondition : Reader Nat := do
  let name ← takeName ')'
  let memory ← get
  if isGroupName name then
    match memory.names.find? fun entry => entry.1.toList == name with
    | some entry => return entry.2
    | none => reject
  else
    match Number.integer? 10 name with
    | some number =>
        if 0 < number then
          modify fun memory => { memory with conditions := number.toNat :: memory.conditions }
          return number.toNat
        else reject
    | none => reject

mutual

/-- Alternatives up to the end of the pattern or of a group. -/
def readAlternatives : Nat → Bool → Bool → Bool → Reader Width
  | 0, _, _, _ => reject
  | budget + 1, verbose, outermost, isFirst => do
      let width ← readSequence budget verbose (outermost && isFirst) Sequence.start
      if ← takeIf '|' then
        let memory ← get
        let verbose := if outermost then memory.flags.contains 'x' else verbose
        let others ← readAlternatives budget verbose outermost false
        return width.either others
      else return width

/-- A sequence up to a bar, a closing parenthesis or the end of the pattern. -/
def readSequence : Nat → Bool → Bool → Sequence → Reader Width
  | 0, _, _, _ => reject
  | budget + 1, verbose, mayFlag, sequence => do
      match ← peek with
      | none | some (.plain '|') | some (.plain ')') => return sequence.width
      | some (.escaped c) => do
          discard take
          let next ← match ← outerEscape c with
            | .position => pure (sequence.push .position ⟨0, 0⟩)
            | .group width => pure (sequence.push .other width)
            | _ => pure sequence.pushOne
          readSequence budget verbose mayFlag next
      | some (.plain c) => do
          discard take
          let again := readSequence budget verbose mayFlag
          let size := (← remaining) + 1
          if verbose && isIgnoredBlank c then again sequence
          else if verbose && c == '#' then
            skipLine size
            again sequence
          else if c == '^' || c == '$' then again (sequence.push .position ⟨0, 0⟩)
          else if c == '[' then
            discard (takeIf '^')
            readSet size true
            again sequence.pushOne
          else if c == '?' then
            let next ← repeatLast sequence 0 1
            again next
          else if c == '*' then
            let next ← repeatLast sequence 0 unbounded
            again next
          else if c == '+' then
            let next ← repeatLast sequence 1 unbounded
            again next
          else if c == '\x7b' then
            match ← readBraces with
            | none => again sequence.pushOne
            | some (least, greatest) =>
                let next ← repeatLast sequence least greatest
                again next
          else if c == '(' then readGroup budget verbose mayFlag sequence
          else again sequence.pushOne

/-- A group after its opening parenthesis, and the rest of the sequence around it. -/
def readGroup : Nat → Bool → Bool → Sequence → Reader Width
  | 0, _, _, _ => reject
  | budget + 1, verbose, mayFlag, sequence => do
      let again := readSequence budget verbose mayFlag
      let size := (← remaining) + 1
      let content (verbose : Bool) : Reader Width := do
        let width ← readAlternatives budget verbose false true
        expect ')'
        return width
      let capture (name : Option String) : Reader Width := do
        let group ← openGroup name
        let width ← content verbose
        closeGroup group width
        again (sequence.push .other width)
      let inPlace : Reader Width := do
        let width ← content verbose
        again (sequence.push .other width)
      let lookAhead : Reader Width := do
        discard (content verbose)
        again (sequence.push .other ⟨0, 0⟩)
      if !(← takeIf '?') then capture none
      else
        match ← take with
        | some (.plain 'P') => do
            if ← takeIf '<' then
              let name ← takeName '>'
              if isGroupName name then capture (some (String.ofList name)) else reject
            else if ← takeIf '=' then
              let name ← takeName ')'
              match (← get).names.find? fun entry => entry.1.toList == name with
              | some entry =>
                  let width ← referTo entry.2
                  again (sequence.push .other width)
              | none => reject
            else reject
        | some (.plain ':') => inPlace
        | some (.plain '>') => inPlace
        | some (.plain '#') => do
            skipComment size
            again sequence
        | some (.plain '=') => lookAhead
        | some (.plain '!') => lookAhead
        | some (.plain '<') => do
            let marks ← takeWhile (fun c => c == '=' || c == '!') 1
            if marks.isEmpty then reject
            let outer := (← get).behindFrom
            modify fun memory =>
              { memory with behindFrom := some (outer.getD memory.groups.length) }
            let width ← readAlternatives budget verbose false true
            modify fun memory => { memory with behindFrom := outer }
            expect ')'
            if width.least ≠ width.greatest || unbounded < width.least then reject
            again (sequence.push .other ⟨0, 0⟩)
        | some (.plain '(') => do
            let group ← readCondition
            checkBehind group
            let yes ← readSequence budget verbose false Sequence.start
            let width ←
              if ← takeIf '|' then
                let no ← readSequence budget verbose false Sequence.start
                if (← peek) == some (.plain '|') then reject
                pure (yes.either no)
              else pure ⟨0, yes.greatest⟩
            expect ')'
            again (sequence.push .other width)
        | some (.plain c) => do
            if !(flagLetters.contains c || c == '-') then reject
            match ← readFlags c with
            | .whole on => do
                if !mayFlag || !sequence.isEmpty then reject
                modify fun memory => { memory with flags := on ++ memory.flags }
                let memory ← get
                readSequence budget (memory.flags.contains 'x') mayFlag sequence
            | .group on off => do
                let width ← content ((verbose || on.contains 'x') && !off.contains 'x')
                again (sequence.push .other width)
        | _ => reject

end

/-! ## Whole patterns -/

/-- A whole pattern: nothing is left, conditions name groups that exist, and a pattern
for templates repeats nothing. -/
def readPattern (size : Nat) : Reader Unit := do
  discard (readAlternatives (3 * size + 3) false true true)
  let memory ← get
  if memory.flags.contains 'a' && memory.flags.contains 'u' then throw .flagsExclusive
  if !memory.rest.isEmpty then reject
  if memory.conditions.any fun group => memory.groups.length ≤ group then reject
  if memory.flags.contains 't' && memory.hasRepeat then reject

/-- Why a text is no regular expression, if it is none. -/
def problem? (text : String) : Option Problem :=
  let tokens := tokens text.toList
  let cut := isCut text.toList
  if cut && tokens.isEmpty then some .invalid
  else
    let memory : Memory := ⟨tokens, cut, [none], [], none, [], [], false⟩
    match (readPattern tokens.length).run memory with
    | .ok _ => none
    | .error problem => some problem

/-- The text is a regular expression. -/
def isValid (text : String) : Bool :=
  (problem? text).isNone

end AsyncTypes.Pattern
