import AsyncTypes.Number.Real
import AsyncTypes.Number.Refusal
import AsyncTypes.Yaml.Base64
import AsyncTypes.Yaml.Form

/-!
# Values of scalars

What the text of a scalar denotes under its tag.  Untagged scalars have the tag of their
form, so they are seldom refused; a text under a tag that was written may be anything.
-/

namespace AsyncTypes.Yaml

/-- A sign in front of a number without its underscores, and what follows it. -/
def signedBody (text : List Char) : Except Fault (Bool × List Char) :=
  match text with
  | [] => .error (.badIndex "string index out of range")
  | _ => .ok (Number.takeSign text)

/-- A number with a sign. -/
def signed (negative : Bool) (value : Int) : Int :=
  if negative then -value else value

/-- The integer that a text spells in a base. -/
def integerIn (base : Nat) (text : List Char) : Except Fault Int :=
  (Number.readInteger base text).mapError .badValue

/-- The value of an integer: its base is given by what it starts with, or is sixty when
colons divide it. -/
def integerValue (text : List Char) : Except Fault Int := do
  let (negative, body) ← signedBody (text.filter (· != '_'))
  match body with
  | [] => .error (.badIndex "string index out of range")
  | ['0'] => return 0
  | '0' :: 'b' :: rest => return signed negative (← integerIn 2 rest)
  | '0' :: 'x' :: rest => return signed negative (← integerIn 16 rest)
  | '0' :: _ => return signed negative (← integerIn 8 body)
  | _ =>
      if body.contains ':' then
        let parts ← (Text.split ':' body).mapM (integerIn 10)
        return signed negative (parts.foldl (fun total part => total * 60 + part) 0)
      else return signed negative (← integerIn 10 body)

/-- The double that a text spells. -/
def realIn (text : List Char) : Except Fault Number.Binary64 :=
  match Number.real? text with
  | some value => .ok value
  | none => .error (.badValue (Number.realRefusal (String.ofList text)))

/-- The sum of doubles in base sixty, the last of them counting one, added from the last
to the first. -/
def sexagesimalSum (parts : List Number.Binary64) : Number.Binary64 :=
  let weighted := parts.reverse.zipIdx.map fun (part, index) =>
    Float.ofBits part.bits * Float.ofBits (Number.Binary64.ofInt (Int.pow 60 index)).bits
  ⟨(weighted.foldl (· + ·) 0.0).toBits⟩

/-- A double with its sign changed. -/
def signedReal (negative : Bool) (value : Number.Binary64) : Number.Binary64 :=
  if negative && !value.isNaN then ⟨value.bits ^^^ ((1 : UInt64) <<< (63 : UInt64))⟩ else value

/-- The value of a number with a point. -/
def realValue (text : List Char) : Except Fault Number.Binary64 := do
  let (negative, body) ← signedBody (Unicode.lowerText (text.filter (· != '_')))
  if body == ".inf".toList then return .infinity negative
  else if body == ".nan".toList then return .nan
  else if body.contains ':' then
    let parts ← (Text.split ':' body).mapM realIn
    return signedReal negative (sexagesimalSum parts)
  else return signedReal negative (← realIn body)

/-- The truth value of a word. -/
def truthValue (text : String) : Except Fault Bool :=
  let word := String.ofList (Unicode.lowerText text.toList)
  if ["yes", "true", "on"].contains word then .ok true
  else if ["no", "false", "off"].contains word then .ok false
  else .error (.badKey (Quoted.text word))

/-- The timestamp that a text spells. -/
def timestampValue (text : String) : Except Fault Scalar :=
  match Timestamp.ofText? (Form.withoutFinalNewline text.toList) with
  | some timestamp => timestamp.value
  | none => .error (.badAttribute "'NoneType' object has no attribute 'groupdict'")

/-- The value of a text under a tag. -/
def scalarValue (tag : Tag) (text : String) : Except Fault Scalar :=
  match tag with
  | .null => .ok .null
  | .bool => (truthValue text).map .bool
  | .int => (integerValue text.toList).map .int
  | .float => (realValue text.toList).map .float
  | .timestamp => timestampValue text
  | .str => .ok (.string text)
  | .binary =>
      match Base64.decode text.toList with
      | some content => .ok (.bytes content)
      | none => .error (.malformed .value)
  | _ => .error (.malformed .value)

end AsyncTypes.Yaml
