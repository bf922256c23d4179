import AsyncTypes.Files.Path
import AsyncTypes.Value.Text

/-!
# File trees

A file tree says for every place whether there is a file with some content, a directory,
or nothing.  Places are lists of names; the directories on the way to an entry are there
without being listed.  Operations answer with the new tree or with a fault.
-/

namespace AsyncTypes

/-- Why an operation on files fails. -/
inductive FileFault
  | notFound
  | alreadyThere
  | notADirectory
  | isADirectory
  | nameTooLong
  | embeddedNull
deriving DecidableEq, Inhabited

namespace FileFault

/-- A fault with a number, at a path. -/
def numbered (number : Nat) (complaint : String) (path : Path) : String :=
  s!"[Errno {number}] {complaint}: {Quoted.text path.text}"

/-- The wording of a fault at a path. -/
def message : FileFault → Path → String
  | .notFound => numbered 2 "No such file or directory"
  | .alreadyThere => numbered 17 "File exists"
  | .notADirectory => numbered 20 "Not a directory"
  | .isADirectory => numbered 21 "Is a directory"
  | .nameTooLong => numbered 36 "File name too long"
  | .embeddedNull => fun _ => "embedded null byte"

end FileFault

/-- What is at a place. -/
inductive FileEntry
  | directory
  | file (content : ByteArray)

/-- The entries of a file tree, by their places; the first one of a place counts. -/
structure FileTree where
  entries : List (List String × FileEntry)

namespace FileTree

/-- The name of the directory above. -/
def above : String := ".."

/-- The entry at a place.  The places above the tree are directories. -/
def entryAt? (tree : FileTree) (place : List String) : Option FileEntry :=
  if place.all fun name => name == above || name == "/" then some .directory
  else
    match tree.entries.lookup place with
    | some entry => some entry
    | none =>
        if tree.entries.any fun entry => place.isPrefixOf entry.1 then some .directory else none

/-- Put an entry at a place. -/
def put (tree : FileTree) (place : List String) (entry : FileEntry) : FileTree :=
  ⟨(place, entry) :: tree.entries⟩

/-- An entry that was put at a place is there. -/
theorem entryAt?_put_self (tree : FileTree) (place : List String) (entry : FileEntry)
    (below : (place.all fun name => name == above || name == "/") = false) :
    (tree.put place entry).entryAt? place = some entry := by
  simp [entryAt?, put, below]

/-! ## Finding places -/

/-- The most bytes of a name. -/
def maxNameSize : Nat := 255

/-- The most bytes of a path. -/
def maxPathSize : Nat := 4095

/-- The place one name further. -/
def stepTo (place : List String) (name : String) : List String :=
  if name == above then
    match place.getLast? with
    | none => [above]
    | some last => if last == above then place ++ [above] else if last == "/" then place
        else place.dropLast
  else place ++ [name]

/-- The place that names lead to from a place.  Every place on the way is a directory. -/
def walk (tree : FileTree) : List String → List String → Except FileFault (List String)
  | place, [] => .ok place
  | place, name :: rest =>
      match tree.entryAt? place with
      | none => .error .notFound
      | some (.file _) => .error .notADirectory
      | some .directory =>
          if maxNameSize < name.utf8ByteSize then .error .nameTooLong
          else walk tree (stepTo place name) rest

/-- The place that a path leads to. -/
def locate (tree : FileTree) (path : Path) : Except FileFault (List String) :=
  if path.text.toList.contains '\x00' then .error .embeddedNull
  else if maxPathSize < path.text.utf8ByteSize then .error .nameTooLong
  else walk tree (if path.root == "" then [] else ["/"]) path.parts

/-- What is at a path. -/
def status (tree : FileTree) (path : Path) : Except FileFault FileEntry := do
  match tree.entryAt? (← tree.locate path) with
  | some entry => return entry
  | none => .error .notFound

/-- There is a directory at a path. -/
def isDirectory (tree : FileTree) (path : Path) : Bool :=
  match tree.status path with
  | .ok .directory => true
  | _ => false

/-! ## Changes -/

/-- Make a directory where nothing is. -/
def makeDirectory (tree : FileTree) (path : Path) : Except FileFault FileTree := do
  let place ← tree.locate path
  match tree.entryAt? place with
  | some _ => .error .alreadyThere
  | none => return tree.put place .directory

/-- What an operation leaves behind: the files, and the fault that ended it with the path at
which it was met. -/
structure Effect where
  files : FileTree
  fault : Option (FileFault × Path)

/-- Make a directory unless it is there. -/
def ensureOne (tree : FileTree) (path : Path) : Effect :=
  match tree.makeDirectory path with
  | .ok made => ⟨made, none⟩
  | .error fault => ⟨tree, if tree.isDirectory path then none else some (fault, path)⟩

/-- Make a directory and those above it, unless they are there.  The directories that were made
before a fault stay. -/
def makeDirectories (tree : FileTree) : Nat → Path → Effect
  | 0, path => ⟨tree, some (.notFound, path)⟩
  | levels + 1, path =>
      match tree.makeDirectory path with
      | .error .notFound =>
          let outer := makeDirectories tree levels path.parent
          match outer.fault with
          | some _ => outer
          | none => outer.files.ensureOne path
      | _ => tree.ensureOne path

/-- Make a directory and those above it, unless they are there. -/
def ensureDirectory (tree : FileTree) (path : Path) : Effect :=
  tree.makeDirectories (path.parts.length + 1) path

/-- Write a file, which replaces the one that is there. -/
def replace (tree : FileTree) (path : Path) (content : ByteArray) :
    Except FileFault FileTree := do
  let place ← tree.locate path
  match tree.entryAt? place with
  | some .directory => .error .isADirectory
  | _ => return tree.put place (.file content)

/-- Write a file, after making the directories on the way to it. -/
def save (tree : FileTree) (path : Path) (content : ByteArray) : Effect :=
  let prepared := tree.ensureDirectory path.parent
  match prepared.fault with
  | some _ => prepared
  | none =>
      match prepared.files.replace path content with
      | .ok written => ⟨written, none⟩
      | .error fault => ⟨prepared.files, some (fault, path)⟩

/-! ## Listing -/

/-- The files of a list of entries, the first one of each place. -/
def filesOf : List (List String × FileEntry) → List (List String × ByteArray)
  | [] => []
  | (place, .file content) :: rest =>
      (place, content) :: (filesOf rest).filter fun entry => entry.1 != place
  | (place, .directory) :: rest => (filesOf rest).filter fun entry => entry.1 != place

/-- The files of a tree. -/
def files (tree : FileTree) : List (List String × ByteArray) :=
  filesOf tree.entries

end FileTree

end AsyncTypes
