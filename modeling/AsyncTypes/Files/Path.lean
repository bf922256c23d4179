import AsyncTypes.Text.Split
import AsyncTypes.Unicode.Case

/-!
# Paths

A path is a root, which is empty for a relative path, and the names on the way.  Empty
names and single points add nothing to the way and are left out.
-/

namespace AsyncTypes

/-- A path in normal form. -/
structure Path where
  root : String
  parts : List String
deriving DecidableEq, Inhabited

namespace Path

/-- The root that a text starts with: two slashes are a root of their own, one or more
than two are the root of all. -/
def rootOf : List Char → String
  | '/' :: '/' :: '/' :: _ => "/"
  | '/' :: '/' :: _ => "//"
  | '/' :: _ => "/"
  | _ => ""

/-- The path that a text spells. -/
def ofText (text : String) : Path :=
  let names := (Text.split '/' text.toList).map String.ofList
  ⟨rootOf text.toList, names.filter fun name => name != "" && name != "."⟩

/-- The text of a path; a path without names is the place where it starts. -/
def text (path : Path) : String :=
  let body := path.root ++ String.intercalate "/" path.parts
  if body == "" then "." else body

/-- The last name of a path. -/
def name (path : Path) : String :=
  path.parts.getLast?.getD ""

/-- The path without its last name. -/
def parent (path : Path) : Path :=
  ⟨path.root, path.parts.dropLast⟩

/-- The suffix of a name: what follows its last point, with the point, unless the point
starts or ends the name. -/
def suffixOf (name : List Char) : List Char :=
  let tail := (name.reverse.takeWhile (· != '.')).reverse
  let before := name.length - tail.length
  if 1 < before && !tail.isEmpty then '.' :: tail else []

/-- Taking as long as all items pass takes everything. -/
theorem takeWhile_eq_self {α : Type} (test : α → Bool) {items : List α}
    (passes : ∀ item ∈ items, test item = true) : items.takeWhile test = items := by
  induction items with
  | nil => rfl
  | cons item rest ih =>
      rw [List.takeWhile_cons, passes item List.mem_cons_self]
      simp [ih fun other member => passes other (List.mem_cons_of_mem _ member)]

/-- A name without a point has no suffix. -/
theorem suffixOf_of_notMem {name : List Char} (plain : '.' ∉ name) : suffixOf name = [] := by
  have whole : name.reverse.takeWhile (· != '.') = name.reverse := by
    refine takeWhile_eq_self _ fun c member => ?_
    have other : c ≠ '.' := fun same => plain (same ▸ List.mem_reverse.mp member)
    simpa using other
  simp [suffixOf, whole]

/-- The suffix of a path, in lower case. -/
def kind (path : Path) : String :=
  String.ofList (Unicode.lowerText (suffixOf path.name.toList))

end Path

end AsyncTypes
