import AsyncTypes.Json.Reader
import AsyncTypes.Yaml.Place

/-!
# Anchors, tags and directives

An anchor names a node and an alias repeats it.  A tag says what a node denotes: in
full, or by a handle and what follows it.  Directives stand before a document; they
name the version of the language and give handles their meaning.
-/

namespace AsyncTypes.Yaml

/-- A tag as it is written: a handle, unless the tag is given in full, and a text. -/
structure TagText where
  handle : Option String
  text : String
deriving DecidableEq, Inhabited

/-- What a directive says. -/
inductive Directive
  | version (major minor : Nat)
  | handle (handle meaning : String)
  | other
deriving DecidableEq, Inhabited

/-! ## Anchors and aliases -/

/-- What may follow the name of an anchor or an alias. -/
def endsName (text : List Char) : Bool :=
  atGap text || text.head?.any fun c =>
    "?:,]\x7d%@\x60".toList.contains c

/-- The name after the sign of an anchor or an alias. -/
def Place.anchorName (place : Place) : Except Fault (String × Place) :=
  let (name, after) := place.advance.span isWordCharacter
  if !name.isEmpty && endsName after.rest then .ok (String.ofList name, after) else noToken

/-! ## Tags -/

/-- A character of a tag's text. -/
def isTagCharacter (c : Char) : Bool :=
  c.isAlphanum || "-;/?:@&=+$,_.!~*\x27()[]%".toList.contains c

/-- The bytes of the escapes at a place: a percent sign and two hexadecimal digits each,
most recent first in `done`. -/
def escapedBytes : Nat → List UInt8 → Place → Except Fault (List UInt8 × Place)
  | 0, done, place => .ok (done.reverse, place)
  | budget + 1, done, place =>
      match place.rest with
      | '%' :: high :: low :: _ =>
          match Json.hexNumber? [high, low] with
          | some value => escapedBytes budget (UInt8.ofNat value :: done) (place.skip 3)
          | none => noToken
      | '%' :: _ => noToken
      | _ => .ok (done.reverse, place)

/-- The text of a tag, most recent first in `done`; escapes are the bytes of their
characters. -/
def tagTextFrom : Nat → List Char → Place → Except Fault (List Char × Place)
  | 0, done, place => .ok (done.reverse, place)
  | budget + 1, done, place =>
      match place.next? with
      | none => .ok (done.reverse, place)
      | some c =>
          if c == '%' then do
            let (bytes, next) ← escapedBytes place.rest.length [] place
            match String.fromUTF8? ⟨bytes.toArray⟩ with
            | some text => tagTextFrom budget (text.toList.reverse ++ done) next
            | none => noToken
          else if isTagCharacter c then tagTextFrom budget (c :: done) place.advance
          else .ok (done.reverse, place)

/-- The text of a tag, which is not empty. -/
def Place.tagText (place : Place) : Except Fault (String × Place) := do
  let (text, after) ← tagTextFrom place.rest.length [] place
  if after.position = place.position then noToken else return (String.ofList text, after)

/-- A handle: an exclamation mark, alone or around a word. -/
def Place.tagHandle (place : Place) : Except Fault (String × Place) :=
  if place.next? != some '!' then noToken
  else if place.advance.next? == some ' ' then .ok ("!", place.advance)
  else
    let (word, after) := place.advance.span isWordCharacter
    if after.next? == some '!' then
      .ok (String.ofList ('!' :: word ++ ['!']), after.advance)
    else noToken

/-- A second exclamation mark comes before the next space. -/
def hasHandle (text : List Char) : Bool :=
  (text.takeWhile fun c => c != ' ' && !isBreak c).contains '!'

/-- The tag whose exclamation mark is at a place. -/
def Place.tag (place : Place) : Except Fault (TagText × Place) := do
  let inside := place.advance
  let (tag, after) ←
    if inside.next? == some '<' then do
      let (text, after) ← inside.advance.tagText
      if after.next? == some '>' then pure (TagText.mk none text, after.advance) else noToken
    else if atGap inside.rest then pure (TagText.mk none "!", inside)
    else if hasHandle inside.rest then do
      let (handle, after) ← place.tagHandle
      let (text, after) ← after.tagText
      pure (TagText.mk (some handle) text, after)
    else do
      let (text, after) ← inside.tagText
      pure (TagText.mk (some "!") text, after)
  if atSpace after.rest then return (tag, after) else noToken

/-! ## Directives -/

/-- A number of a version. -/
def Place.versionNumber (place : Place) : Except Fault (Nat × Place) :=
  let (digits, after) := place.span Char.isDigit
  if digits.isEmpty then noToken else .ok (Json.natOfDigits digits, after)

/-- The two numbers of a version. -/
def Place.versionDirective (place : Place) : Except Fault (Directive × Place) := do
  let (major, point) ← place.skipSpaces.versionNumber
  if point.next? != some '.' then noToken
  let (minor, after) ← point.advance.versionNumber
  if atSpace after.rest then return (.version major minor, after) else noToken

/-- A handle and its meaning. -/
def Place.handleDirective (place : Place) : Except Fault (Directive × Place) := do
  let (handle, gap) ← place.skipSpaces.tagHandle
  if gap.next? != some ' ' then noToken
  let (meaning, after) ← gap.skipSpaces.tagText
  if atSpace after.rest then return (.handle handle meaning, after) else noToken

/-- The directive whose percent sign is at a place. -/
def Place.directive (place : Place) : Except Fault (Directive × Place) := do
  let (name, after) := place.advance.span isWordCharacter
  if name.isEmpty || !atSpace after.rest then noToken
  let (directive, finish) ←
    if name == ['Y', 'A', 'M', 'L'] then after.versionDirective
    else if name == ['T', 'A', 'G'] then after.handleDirective
    else pure (.other, after.skipWhile (!isBreak ·))
  return (directive, ← finish.finishLine)

end AsyncTypes.Yaml
