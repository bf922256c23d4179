import AsyncTypes.Yaml.Composition
import AsyncTypes.Yaml.Scalar

/-!
# What a node denotes

A meaning is a node with its scalars read, its merges carried out and its refusals in
their places.  Collections are filled level by level: what is refused in a collection
comes after everything that is refused above it.  So the fault of a document is the first
one of the highest level that has any, and a document without faults denotes a value.
-/

namespace AsyncTypes.Yaml

/-- What a node denotes: a scalar, a collection, or a refusal.  A hollow collection is
refused only when it is filled. -/
inductive Meaning
  | scalar (value : Scalar)
  | list (items : List Meaning)
  | map (entries : List (Meaning × Meaning))
  | set (entries : List (Meaning × Meaning))
  | pairs (entries : List (Meaning × Meaning))
  | endless
  | refused (fault : Fault)
  | hollow (fault : Fault)
deriving Inhabited

/-- A node denotes no value. -/
def Fault.noValue : Fault :=
  .malformed .value

namespace Meaning

/-- Entries of a mapping. -/
abbrev Entries := List (Meaning × Meaning)

/-! ## From nodes -/

/-- The meaning of a text under a tag; a scalar that is tagged as a collection is
hollow. -/
def ofText (tag : Tag) (text : String) : Meaning :=
  if tag.isCollection then .hollow .noValue
  else
    match scalarValue tag text with
    | .ok value => .scalar value
    | .error fault => .refused fault

/-- The text that a node stands for as a scalar: a mapping has that of its value key. -/
def textOf? : Node → Option String
  | .scalar _ text => some text
  | .mapping _ entries => inEntries entries
  | _ => none
where
  /-- The text under the first value key. -/
  inEntries : List (Node × Node) → Option String
    | [] => none
    | (key, value) :: rest => if key.tag == .value then textOf? value else inEntries rest

/-- The meaning of a mapping that is tagged as a scalar.  A timestamp needs a text of its
own. -/
def ofScalarTag (tag : Tag) (node : Node) : Meaning :=
  match textOf? node with
  | some text =>
      if tag == .timestamp then
        .refused (.wrongType "expected string or bytes-like object, got \x27list\x27")
      else ofText tag text
  | none => .refused .noValue

mutual

/-- The meaning of a node. -/
def ofNode : Node → Meaning
  | .scalar tag text => ofText tag text
  | .sequence tag items =>
      match tag with
      | .seq => .list (ofItems items)
      | .omap | .pairs => .pairs (ofPairs items)
      | .map | .set => .hollow .noValue
      | _ => .refused .noValue
  | .mapping tag entries =>
      match tag with
      | .map =>
          match ofEntries entries with
          | .ok (merged, own) => .map (merged ++ own)
          | .error fault => .hollow fault
      | .set =>
          match ofEntries entries with
          | .ok (merged, own) => .set (merged ++ own)
          | .error fault => .hollow fault
      | .seq | .omap | .pairs => .hollow .noValue
      | _ => if tag.isScalar then ofScalarTag tag (.mapping tag entries) else .refused .noValue
  | .endless => .endless

/-- The meanings of the items of a sequence. -/
def ofItems : List Node → List Meaning
  | [] => []
  | item :: rest => ofNode item :: ofItems rest

/-- The pairs of a sequence of mappings with one entry each, up to an item that is none. -/
def ofPairs : List Node → Entries
  | [] => []
  | .mapping _ [(key, value)] :: rest => (ofNode key, ofNode value) :: ofPairs rest
  | _ => [(.refused .noValue, .scalar .null)]

/-- The entries that a mapping takes over by merges, and its own. -/
def ofEntries : List (Node × Node) → Except Fault (Entries × Entries)
  | [] => .ok ([], [])
  | (key, value) :: rest =>
      if key.tag == .merge then do
        let first ← mergedFrom value
        let (merged, own) ← ofEntries rest
        return (first ++ merged, own)
      else do
        let (merged, own) ← ofEntries rest
        let entry := match key with
          | .scalar .value text => (.scalar (.string text), ofNode value)
          | _ => (ofNode key, ofNode value)
        return (merged, entry :: own)

/-- The entries that a merge takes from a node: a mapping, or a sequence of mappings. -/
def mergedFrom : Node → Except Fault Entries
  | .mapping _ entries => do
      let (merged, own) ← ofEntries entries
      return merged ++ own
  | .sequence _ items => mergedFromItems items
  | .endless => .ok []
  | .scalar _ _ => .error .noValue

/-- The entries that a merge takes from the items of a sequence.  Those of the first item
come last, so that they win. -/
def mergedFromItems : List Node → Except Fault Entries
  | [] => .ok []
  | .mapping _ entries :: rest => do
      let (merged, own) ← ofEntries entries
      let others ← mergedFromItems rest
      return others ++ (merged ++ own)
  | .endless :: rest => mergedFromItems rest
  | _ :: _ => .error .noValue

end

/-! ## Faults -/

/-- A collection cannot be a key. -/
def keyFault : Meaning → List Fault
  | .scalar _ | .refused _ => []
  | _ => [.noValue]

mutual

/-- The faults of a meaning, each with its level, in the order of the document. -/
def faults (level : Nat) : Meaning → List (Nat × Fault)
  | .scalar _ | .endless => []
  | .refused fault => [(level, fault)]
  | .hollow fault => [(level + 1, fault)]
  | .list items => itemFaults (level + 1) items
  | .map entries => entryFaults (level + 1) entries
  | .set entries => entryFaults (level + 1) entries
  | .pairs entries => pairFaults (level + 1) entries

/-- The faults of items. -/
def itemFaults (level : Nat) : List Meaning → List (Nat × Fault)
  | [] => []
  | item :: rest => faults level item ++ itemFaults level rest

/-- The faults of entries whose keys must be scalars. -/
def entryFaults (level : Nat) : List (Meaning × Meaning) → List (Nat × Fault)
  | [] => []
  | (key, value) :: rest =>
      faults level key ++ (keyFault key).map (fun fault => (level, fault)) ++
        faults level value ++ entryFaults level rest

/-- The faults of pairs. -/
def pairFaults (level : Nat) : List (Meaning × Meaning) → List (Nat × Fault)
  | [] => []
  | (first, second) :: rest =>
      faults level first ++ faults level second ++ pairFaults level rest

end

/-- The first fault of the highest level. -/
def firstFault (meaning : Meaning) : Option Fault :=
  let earliest (best : Option (Nat × Fault)) (fault : Nat × Fault) : Option (Nat × Fault) :=
    match best with
    | some (level, found) => if fault.1 < level then some fault else some (level, found)
    | none => some fault
  ((meaning.faults 0).foldl earliest none).map (·.2)

/-! ## Values -/

/-- A nest of lists, as deep as a number says. -/
def nest : Nat → Value
  | 0 => .list []
  | levels + 1 => .list [nest levels]

/-- What an endless node stands for: a nest that is deeper than any document may be. -/
def endlessValue : Value :=
  nest 100

/-- A meaning as a key. -/
def keyOf : Meaning → Scalar
  | .scalar value => value
  | _ => .null

mutual

/-- The value of a meaning without faults. -/
def value : Meaning → Value
  | .scalar value => .scalar value
  | .list items => .list (itemValues items)
  | .map entries => .map (AsyncTypes.Entries.ofList (entryValues entries))
  | .set entries =>
      .set ((AsyncTypes.Entries.ofList (entryValues entries)).map (·.1))
  | .pairs entries => .list (pairValues entries)
  | .endless => endlessValue
  | .refused _ | .hollow _ => .null

/-- The values of items. -/
def itemValues : List Meaning → List Value
  | [] => []
  | item :: rest => value item :: itemValues rest

/-- The keys and values of entries. -/
def entryValues : List (Meaning × Meaning) → List (Scalar × Value)
  | [] => []
  | (key, content) :: rest => (keyOf key, value content) :: entryValues rest

/-- The values of pairs. -/
def pairValues : List (Meaning × Meaning) → List Value
  | [] => []
  | (first, second) :: rest => .pair (value first) (value second) :: pairValues rest

end

end Meaning

/-! ## Texts -/

/-- A character that a text may hold. -/
def isAllowed (c : Char) : Bool :=
  let code := c.toNat
  c == '\t' || c == '\n' || c == '\r' || (0x20 ≤ code && code ≤ 0x7e) || code == 0x85 ||
    (0xa0 ≤ code && code ≤ 0xd7ff) || (0xe000 ≤ code && code ≤ 0xfffd) || 0x10000 ≤ code

/-- The value that a node denotes. -/
def Node.value (node : Node) : Except Fault Value :=
  let meaning := Meaning.ofNode node
  match meaning.firstFault with
  | some fault => .error fault
  | none => .ok meaning.value

/-- The value that a text denotes; null when it holds no document. -/
def read (text : String) : Except Fault Value := do
  if !text.toList.all isAllowed then .error (.malformed .character)
  else
    match ← Node.ofTokens (.ofText text.toList) with
    | some root => root.value
    | none => .ok .null

end AsyncTypes.Yaml
