import AsyncTypes.Yaml.Form
import AsyncTypes.Yaml.Node
import AsyncTypes.Yaml.Token

/-!
# From tokens to a node

A text holds at most one document, and a document is one node.  Nodes are read by
recursive descent over the tokens.  Anchors are known from the start of their node on:
an alias inside that node marks an endless place.
-/

namespace AsyncTypes.Yaml

/-- The state of a composition: the tokens that are left, the fault behind them, the
anchors met so far, each with its node once that is complete, and the handles of tags
with their meanings. -/
structure Composition where
  tokens : List Token
  fault : Fault
  anchors : List (String × Option Node)
  handles : List (String × String)

/-- Work of a composition. -/
abbrev Compose := StateT Composition (Except Fault)

namespace Compose

/-- The handles that need no directive. -/
def commonHandles : List (String × String) :=
  [("!", "!"), ("!!", Tag.commonBeginning)]

/-- The start of a composition. -/
def start (tokens : Tokens) : Composition :=
  { tokens := tokens.served
    fault := tokens.fault.getD (.malformed .token)
    anchors := []
    handles := commonHandles }

/-- The tokens do not form a document. -/
def misplaced {α : Type} : Compose α :=
  throw (.malformed .grammar)

/-- The next token. -/
def peek : Compose Token := do
  let state ← get
  match state.tokens with
  | token :: _ => return token
  | [] => throw state.fault

/-- Take the next token away. -/
def skip : Compose Unit :=
  modify fun state => { state with tokens := state.tokens.tail }

/-- Take the next token away if it is the given one. -/
def takeIf (token : Token) : Compose Bool := do
  if (← peek) == token then
    skip
    return true
  else return false

/-- The next token is one of some. -/
def isAt (tokens : List Token) : Compose Bool :=
  return tokens.contains (← peek)

/-! ## Properties of nodes -/

/-- What may stand before the content of a node. -/
structure Properties where
  anchor : Option String
  tag : Option TagText

/-- The anchor before a node. -/
def takeAnchor : Compose (Option String) := do
  match ← peek with
  | .anchor name =>
      skip
      return some name
  | _ => return none

/-- The tag before a node. -/
def takeTag : Compose (Option TagText) := do
  match ← peek with
  | .tag tag =>
      skip
      return some tag
  | _ => return none

/-- The properties before a node: an anchor and a tag, in either order. -/
def properties : Compose Properties := do
  match ← takeAnchor with
  | some anchor => return ⟨some anchor, ← takeTag⟩
  | none =>
      match ← takeTag with
      | some tag => return ⟨← takeAnchor, some tag⟩
      | none => return ⟨none, none⟩

/-- The name of a tag, whose handle must be known. -/
def tagName (tag : TagText) : Compose String := do
  match tag.handle with
  | none => return tag.text
  | some handle =>
      match (← get).handles.lookup handle with
      | some meaning => return meaning ++ tag.text
      | none => misplaced

/-- The name of a tag, unless it leaves the tag open. -/
def givenTag (name : Option String) : Option Tag :=
  (name.filter (· != "!")).map Tag.ofName

/-- The tag of a scalar: the one given, or the one of its form when it is plain or its tag
is left open, or else that of a text. -/
def scalarTag (name : Option String) (text : String) (isPlain : Bool) : Tag :=
  match givenTag name with
  | some tag => tag
  | none => if isPlain || name.isSome then Form.tagOf text.toList else .str

/-- An anchor must not be used twice. -/
def openAnchor (anchor : Option String) : Compose Unit := do
  match anchor with
  | none => return ()
  | some name =>
      if ((← get).anchors.lookup name).isSome then throw (.malformed .graph)
      modify fun state => { state with anchors := (name, none) :: state.anchors }

/-- A complete node, under its anchor. -/
def closeAnchor (anchor : Option String) (node : Node) : Compose Node := do
  match anchor with
  | none => return node
  | some name =>
      modify fun state => { state with anchors := (name, some node) :: state.anchors }
      return node

/-- The node that an alias repeats. -/
def repeated (name : String) : Compose Node := do
  match (← get).anchors.lookup name with
  | some (some node) => return node
  | some none => return .endless
  | none => throw (.malformed .graph)

/-! ## Nodes -/

/-- Where a node stands: inside brackets, in a block, or where a block sequence needs no
indentation of its own. -/
inductive Position
  | flow
  | block
  | indentless
deriving DecidableEq

mutual

/-- A node.  The budget bounds the depth of the descent. -/
def node : Nat → Position → Compose Node
  | 0, _ => misplaced
  | budget + 1, position => do
      match ← peek with
      | .alias name =>
          skip
          repeated name
      | _ =>
          let ⟨anchor, tag⟩ ← properties
          let name ← tag.mapM tagName
          let next ← peek
          match next with
          | .scalar text isPlain =>
              skip
              openAnchor anchor
              closeAnchor anchor (.scalar (scalarTag name text isPlain) text)
          | _ =>
              let inBlock := position != .flow
              let sequenceTag := (givenTag name).getD .seq
              let mappingTag := (givenTag name).getD .map
              if next == .blockEntry && position == .indentless then do
                openAnchor anchor
                let items ← indentlessItems budget []
                closeAnchor anchor (.sequence sequenceTag items)
              else if next == .flowSequenceStart then do
                openAnchor anchor
                skip
                let items ← flowItems budget []
                closeAnchor anchor (.sequence sequenceTag items)
              else if next == .flowMappingStart then do
                openAnchor anchor
                skip
                let entries ← flowEntries budget []
                closeAnchor anchor (.mapping mappingTag entries)
              else if next == .blockSequenceStart && inBlock then do
                openAnchor anchor
                skip
                let items ← blockItems budget []
                closeAnchor anchor (.sequence sequenceTag items)
              else if next == .blockMappingStart && inBlock then do
                openAnchor anchor
                skip
                let entries ← blockEntries budget []
                closeAnchor anchor (.mapping mappingTag entries)
              else if anchor.isSome || tag.isSome then do
                openAnchor anchor
                closeAnchor anchor (.scalar ((givenTag name).getD .null) "")
              else misplaced

/-- A node, or the empty one before one of some tokens. -/
def nodeUnless : Nat → Position → List Token → Compose Node
  | 0, _, _ => misplaced
  | budget + 1, position, ends => do
      if ← isAt ends then return .empty else node budget position

/-- The value of a key, which may be left out before one of some tokens. -/
def valueOf : Nat → Position → List Token → Compose Node
  | 0, _, _ => misplaced
  | budget + 1, position, ends => do
      if ← takeIf .value then nodeUnless budget position ends else return .empty

/-- The items of a block sequence, most recent first in `done`. -/
def blockItems : Nat → List Node → Compose (List Node)
  | 0, _ => misplaced
  | budget + 1, done => do
      if ← takeIf .blockEntry then
        let item ← nodeUnless budget .block [.blockEntry, .blockEnd]
        blockItems budget (item :: done)
      else if ← takeIf .blockEnd then return done.reverse
      else misplaced

/-- The items of a block sequence that has no indentation of its own. -/
def indentlessItems : Nat → List Node → Compose (List Node)
  | 0, _ => misplaced
  | budget + 1, done => do
      if ← takeIf .blockEntry then
        let item ← nodeUnless budget .block [.blockEntry, .key, .value, .blockEnd]
        indentlessItems budget (item :: done)
      else return done.reverse

/-- The entries of a block mapping, most recent first in `done`. -/
def blockEntries : Nat → List (Node × Node) → Compose (List (Node × Node))
  | 0, _ => misplaced
  | budget + 1, done => do
      let ends : List Token := [.key, .value, .blockEnd]
      if ← takeIf .key then
        let key ← nodeUnless budget .indentless ends
        let value ← valueOf budget .indentless ends
        blockEntries budget ((key, value) :: done)
      else if ← takeIf .blockEnd then return done.reverse
      else misplaced

/-- The items of a sequence in brackets, most recent first in `done`.  A key makes a
mapping with one entry. -/
def flowItems : Nat → List Node → Compose (List Node)
  | 0, _ => misplaced
  | budget + 1, done => do
      if ← takeIf .flowSequenceEnd then return done.reverse
      unless done.isEmpty do
        unless ← takeIf .flowEntry do misplaced
      let ends : List Token := [.flowEntry, .flowSequenceEnd]
      if ← takeIf .key then
        let key ← nodeUnless budget .flow (.value :: ends)
        let value ← valueOf budget .flow ends
        flowItems budget (.mapping .map [(key, value)] :: done)
      else if ← takeIf .flowSequenceEnd then return done.reverse
      else
        let item ← node budget .flow
        flowItems budget (item :: done)

/-- The entries of a mapping in brackets, most recent first in `done`.  A node without a
key's mark is a key without a value. -/
def flowEntries : Nat → List (Node × Node) → Compose (List (Node × Node))
  | 0, _ => misplaced
  | budget + 1, done => do
      if ← takeIf .flowMappingEnd then return done.reverse
      unless done.isEmpty do
        unless ← takeIf .flowEntry do misplaced
      let ends : List Token := [.flowEntry, .flowMappingEnd]
      if ← takeIf .key then
        let key ← nodeUnless budget .flow (.value :: ends)
        let value ← valueOf budget .flow ends
        flowEntries budget ((key, value) :: done)
      else if ← takeIf .flowMappingEnd then return done.reverse
      else
        let key ← node budget .flow
        flowEntries budget ((key, .empty) :: done)

end

/-! ## Documents -/

/-- The directives before a document: at most one version, whose first number is one, and
each handle at most once. -/
def directives : Nat → Bool → List (String × String) → Compose (List (String × String))
  | 0, _, _ => misplaced
  | budget + 1, versioned, handles => do
      match ← peek with
      | .directive (.version major _) =>
          skip
          if versioned || major != 1 then misplaced
          directives budget true handles
      | .directive (.handle handle meaning) =>
          skip
          if (handles.lookup handle).isSome then misplaced
          directives budget versioned ((handle, meaning) :: handles)
      | .directive .other =>
          skip
          directives budget versioned handles
      | _ => return handles

/-- Skip the ends of documents. -/
def skipEnds : Nat → Compose Unit
  | 0 => return ()
  | budget + 1 => do
      if ← takeIf .documentEnd then skipEnds budget

/-- The mark at the start of a document; none at the end of the text. -/
def explicitStart (budget : Nat) : Compose Bool := do
  skipEnds budget
  if ← isAt [.streamEnd] then return false
  else
    let handles ← directives budget false []
    modify fun state => { state with handles := handles ++ commonHandles }
    if ← takeIf .documentStart then return true else misplaced

/-- A token that starts a document with a mark, or ends the text. -/
def isBoundary : Token → Bool
  | .directive _ | .documentStart | .streamEnd => true
  | _ => false

/-- The first document of the text, if there is one. -/
def firstDocument (budget : Nat) : Compose (Option Node) := do
  if isBoundary (← peek) then
    if ← explicitStart budget then
      let next ← peek
      if isBoundary next || next == .documentEnd then return some .empty
      else return some (← node budget .block)
    else return none
  else return some (← node budget .block)

/-- The only document of the text. -/
def onlyDocument (budget : Nat) : Compose (Option Node) := do
  match ← firstDocument budget with
  | none => return none
  | some root =>
      let _ ← takeIf .documentEnd
      if ← explicitStart budget then throw (.malformed .graph)
      return some root

end Compose

/-- The node that tokens spell; none when the text holds no document. -/
def Node.ofTokens (tokens : Tokens) : Except Fault (Option Node) :=
  (Compose.onlyDocument (4 * tokens.served.length + 8)).run' (Compose.start tokens)

end AsyncTypes.Yaml
