import AsyncTypes.Files.Tree

/-!
# Changes to files

Making directories changes no regular file, whether it succeeds or not, since a directory is
put only where nothing is.  Writing a file changes what is at one place, and only when that is
no directory; so the path of the file leads to the same place afterwards.
-/

namespace AsyncTypes.FileTree

/-- The content of the regular file at a place. -/
def fileAt? (tree : FileTree) (place : List String) : Option ByteArray :=
  match tree.entryAt? place with
  | some (.file content) => some content
  | _ => none

/-- Two trees have the same regular files. -/
def SameFiles (tree other : FileTree) : Prop :=
  ∀ place, other.fileAt? place = tree.fileAt? place

/-- The file at the path holds the content, and all other regular files are those of the tree
before. -/
structure Replaced (before after : FileTree) (path : Path) (content : ByteArray) : Prop where
  written : after.status path = .ok (.file content)
  others : ∀ place, after.locate path ≠ .ok place → after.fileAt? place = before.fileAt? place

variable {tree other after : FileTree} {path : Path} {place way : List String}
  {content : ByteArray} {entry : FileEntry}

theorem SameFiles.refl (tree : FileTree) : SameFiles tree tree :=
  fun _ => rfl

theorem SameFiles.trans (first : SameFiles tree other) (second : SameFiles other after) :
    SameFiles tree after :=
  fun place => (second place).trans (first place)

/-! ## Entries that are put -/

/-- The place is a place above the tree. -/
def isOutside (place : List String) : Bool :=
  place.all fun name => name == above || name == "/"

theorem entryAt?_of_isOutside (tree : FileTree) (outside : isOutside place = true) :
    tree.entryAt? place = some .directory :=
  if_pos outside

/-- What is at a place in the tree is listed for it, or it is a directory on the way to what is
listed. -/
theorem entryAt?_of_inside (tree : FileTree) (inside : isOutside place = false) :
    tree.entryAt? place =
      match tree.entries.lookup place with
      | some entry => some entry
      | none =>
          if tree.entries.any fun entry => place.isPrefixOf entry.1 then some .directory
          else none :=
  if_neg (by simpa [isOutside] using inside)

/-- A place where something is put holds it, and another place keeps its entry or becomes a
directory where nothing was. -/
theorem entryAt?_put_of_ne (apart : way ≠ place) :
    (tree.put place entry).entryAt? way = tree.entryAt? way ∨
      (tree.entryAt? way = none ∧ (tree.put place entry).entryAt? way = some .directory) := by
  cases outside : isOutside way with
  | true => exact Or.inl (by rw [entryAt?_of_isOutside _ outside, entryAt?_of_isOutside _ outside])
  | false =>
      rw [entryAt?_of_inside _ outside, entryAt?_of_inside _ outside, put, List.lookup_cons,
        beq_eq_false_iff_ne.mpr apart, List.any_cons]
      cases tree.entries.lookup way with
      | some listed => exact Or.inl rfl
      | none =>
          cases tree.entries.any fun entry => way.isPrefixOf entry.1 with
          | true => exact Or.inl (by rw [Bool.or_true])
          | false =>
              cases way.isPrefixOf place with
              | true => exact Or.inr ⟨rfl, rfl⟩
              | false => exact Or.inl rfl

/-- Other places keep their regular files when something is put at one. -/
theorem fileAt?_put_of_ne (apart : way ≠ place) :
    (tree.put place entry).fileAt? way = tree.fileAt? way := by
  unfold fileAt?
  rcases entryAt?_put_of_ne apart with same | ⟨before, now⟩
  · rw [same]
  · rw [before, now]

/-- A place that holds no directory is inside the tree. -/
theorem isOutside_of_not_directory (plain : tree.entryAt? place ≠ some .directory) :
    isOutside place = false := by
  cases outside : isOutside place with
  | false => rfl
  | true => exact absurd (entryAt?_of_isOutside tree outside) plain

/-! ## Directories -/

/-- A directory that is put where nothing was changes no regular file. -/
theorem sameFiles_put_directory (absent : tree.entryAt? place = none) :
    SameFiles tree (tree.put place .directory) := by
  intro way
  by_cases apart : way = place
  · subst apart
    have plain : tree.entryAt? way ≠ some .directory := by simp [absent]
    have inside : isOutside way = false := isOutside_of_not_directory plain
    rw [fileAt?, entryAt?_put_self _ _ _ inside, fileAt?, absent]
  · exact fileAt?_put_of_ne apart

theorem sameFiles_makeDirectory (made : tree.makeDirectory path = .ok after) :
    SameFiles tree after := by
  unfold makeDirectory at made
  cases located : tree.locate path with
  | error fault =>
      rw [located] at made
      exact nomatch made
  | ok place =>
      rw [located] at made
      cases held : tree.entryAt? place with
      | some entry =>
          simp only [bind, Except.bind, held] at made
          exact nomatch made
      | none =>
          simp only [bind, Except.bind, held] at made
          cases made
          exact sameFiles_put_directory held

theorem sameFiles_ensureOne (tree : FileTree) (path : Path) :
    SameFiles tree (tree.ensureOne path).files := by
  unfold ensureOne
  cases made : tree.makeDirectory path with
  | ok other => exact sameFiles_makeDirectory made
  | error fault => exact .refl tree

/-- Making directories changes no regular file, even when it ends with a fault. -/
theorem sameFiles_makeDirectories (tree : FileTree) (levels : Nat) (path : Path) :
    SameFiles tree (tree.makeDirectories levels path).files := by
  induction levels generalizing path with
  | zero => exact .refl tree
  | succ levels ih =>
      rw [makeDirectories]
      split
      · dsimp only
        split
        · exact ih path.parent
        · exact (ih path.parent).trans (sameFiles_ensureOne _ path)
      · exact sameFiles_ensureOne tree path

/-! ## Files -/

/-- Names lead to the same place when a file is put where no directory is, since every place on
the way is a directory. -/
theorem walk_put {start finish : List String} {names : List String}
    (plain : tree.entryAt? place ≠ some .directory)
    (walked : tree.walk start names = .ok finish) :
    (tree.put place (.file content)).walk start names = .ok finish := by
  induction names generalizing start with
  | nil => exact walked
  | cons name rest ih =>
      rw [walk] at walked ⊢
      cases held : tree.entryAt? start with
      | none =>
          rw [held] at walked
          exact nomatch walked
      | some entry =>
          cases entry with
          | file other =>
              rw [held] at walked
              exact nomatch walked
          | directory =>
              have apart : start ≠ place := fun same => plain (same ▸ held)
              have kept : (tree.put place (.file content)).entryAt? start = some .directory := by
                rcases entryAt?_put_of_ne apart with same | ⟨absent, -⟩
                · rw [same, held]
                · exact nomatch held.symm.trans absent
              rw [held] at walked
              rw [kept]
              dsimp only at walked ⊢
              split at walked
              · exact nomatch walked
              · next short =>
                  rw [if_neg short]
                  exact ih walked

theorem locate_put (plain : tree.entryAt? place ≠ some .directory)
    (located : tree.locate path = .ok way) :
    (tree.put place (.file content)).locate path = .ok way := by
  unfold locate at located ⊢
  split at located
  · exact nomatch located
  · split at located
    · exact nomatch located
    · next sound short =>
        rw [if_neg sound, if_neg short]
        exact walk_put plain located

/-- A file that is written is at its path, and the other files stay. -/
theorem replaced_of_replace (written : tree.replace path content = .ok after) :
    Replaced tree after path content := by
  unfold replace at written
  cases located : tree.locate path with
  | error fault =>
      rw [located] at written
      exact nomatch written
  | ok place =>
      rw [located] at written
      have plain : tree.entryAt? place ≠ some .directory := by
        intro directory
        simp only [bind, Except.bind, directory] at written
        exact nomatch written
      have put : after = tree.put place (.file content) := by
        simp only [bind, Except.bind] at written
        exact (Except.ok.inj written).symm
      subst put
      have relocated := @locate_put _ _ _ _ content plain located
      constructor
      · rw [status, relocated]
        simp only [bind, Except.bind, entryAt?_put_self _ _ _ (isOutside_of_not_directory plain)]
        rfl
      · intro other elsewhere
        refine fileAt?_put_of_ne fun same => elsewhere ?_
        rw [relocated, same]

/-- Saving a file leaves it at its path, and no other regular file is changed; or it ends with a
fault, and no regular file is changed. -/
theorem save_cases (tree : FileTree) (path : Path) (content : ByteArray) :
    ((tree.save path content).fault = none ∧
        Replaced tree (tree.save path content).files path content) ∨
      ((tree.save path content).fault ≠ none ∧ SameFiles tree (tree.save path content).files) := by
  have prepared := sameFiles_makeDirectories tree (path.parent.parts.length + 1) path.parent
  unfold save ensureDirectory
  dsimp only
  generalize tree.makeDirectories (path.parent.parts.length + 1) path.parent = effect at prepared
  obtain ⟨files, fault⟩ := effect
  cases fault with
  | some fault => exact Or.inr ⟨Option.some_ne_none _, prepared⟩
  | none =>
      dsimp only at prepared ⊢
      cases written : files.replace path content with
      | error fault => exact Or.inr ⟨Option.some_ne_none _, prepared⟩
      | ok after =>
          have replaced := replaced_of_replace written
          refine Or.inl ⟨rfl, replaced.written, fun place elsewhere => ?_⟩
          rw [replaced.others place elsewhere, prepared place]

end AsyncTypes.FileTree
