import Concordance.FileTree.Basic

/-!
# Changing a file tree

Each change is a single step : it gives a new tree, or it fails and the tree stays as it was.
Files are written into directories that exist (`write`), directories are made one at a time
or with all that leads to them (`makeDirectory`, `makeDirectories`), and files and whole
directories are removed (`removeFile`, `removeTree`).
-/

namespace Concordance.FileTree

/-! ## What keeps a tree closed -/

/-- What stands around an entry is a directory. -/
theorem get?_around {tree : FileTree} {name : String} {around : Place}
    (h : name :: around ∈ tree.entries) : tree.get? around = some .directory := by
  cases around with
  | nil => rfl
  | cons n a => exact (tree.closed name (n :: a) h).resolve_left (by simp)

/-- A directory is the top or has an entry. -/
theorem eq_nil_or_of_get? {tree : FileTree} {place : Place}
    (h : tree.get? place = some .directory) :
    place = [] ∨ tree.entries[place]? = some .directory := by
  cases place with
  | nil => exact .inl rfl
  | cons n a => exact .inr h

/-- The tree with another entry at a place inside a directory. -/
def put (tree : FileTree) (name : String) (around : Place) (entry : Entry)
    (inside : tree.get? around = some .directory)
    (free : tree.get? (name :: around) ≠ some .directory) : FileTree where
  entries := tree.entries.insert (name :: around) entry
  top := by
    simp [Std.ExtTreeMap.mem_insert, tree.top]
  closed := by
    intro n a h
    have dir : tree.get? a = some .directory := by
      rw [Std.ExtTreeMap.mem_insert] at h
      rcases h with h | h
      · obtain ⟨rfl, rfl⟩ : name = n ∧ around = a := by simpa using h
        exact inside
      · exact get?_around h
    refine (eq_nil_or_of_get? dir).imp_right fun h => ?_
    rw [Std.ExtTreeMap.getElem?_insert, if_neg]
    · exact h
    · intro e
      obtain rfl : name :: around = a := by simpa using e
      exact free dir

/-- The tree without the file at a place. -/
def dropFile (tree : FileTree) (place : Place) (content : ByteArray)
    (isFile : tree.get? place = some (.file content)) : FileTree where
  entries := tree.entries.erase place
  top h := tree.top (Std.ExtTreeMap.mem_of_mem_erase h)
  closed := by
    intro n a h
    refine (eq_nil_or_of_get? (get?_around (Std.ExtTreeMap.mem_of_mem_erase h))).imp_right
      fun e => ?_
    rw [Std.ExtTreeMap.getElem?_erase, if_neg]
    · exact e
    · intro c
      obtain rfl : place = a := by simpa using c
      rw [get?_around (Std.ExtTreeMap.mem_of_mem_erase h)] at isFile
      simp at isFile

/-- The tree without the entries at and below a place. -/
def dropTree (tree : FileTree) (place : Place) : FileTree where
  entries := tree.entries.filter fun key _ => !place.isSuffixOf key
  top h := tree.top (Std.ExtTreeMap.mem_of_mem_filter h)
  closed := by
    intro n a h
    refine (eq_nil_or_of_get? (get?_around (Std.ExtTreeMap.mem_of_mem_filter h))).imp_right
      fun e => ?_
    obtain ⟨m, hm⟩ := Std.ExtTreeMap.mem_filter.mp h
    rw [Std.ExtTreeMap.getElem?_filter', e, Option.filter_some, if_pos]
    rw [Std.ExtTreeMap.getKey_eq, Bool.not_eq_true'] at hm
    rw [Bool.not_eq_true', Bool.eq_false_iff]
    intro below
    rw [List.isSuffixOf_iff_suffix] at below
    simp [List.isSuffixOf_iff_suffix.mpr (below.trans (List.suffix_cons n a))] at hm

/-! ## Writing -/

/-- Write a file into a directory; a file that stands there is replaced. -/
def write (tree : FileTree) (place : Place) (content : ByteArray) : Except Fault FileTree :=
  match place with
  | [] => .error .isDirectory
  | name :: around =>
    if inside : tree.get? around = some .directory then
      if free : tree.get? (name :: around) ≠ some .directory then
        .ok (tree.put name around (.file content) inside free)
      else .error .isDirectory
    else .error (tree.obstacle around)

/-- Make a directory inside a directory. -/
def makeDirectory (tree : FileTree) (place : Place) : Except Fault FileTree :=
  match place with
  | [] => .error .alreadyExists
  | name :: around =>
    if inside : tree.get? around = some .directory then
      if free : tree.get? (name :: around) = none then
        .ok (tree.put name around .directory inside (by simp [free]))
      else .error .alreadyExists
    else .error (tree.obstacle around)

/-- Make a directory, and first the directories around it that are missing. A directory that
exists is left as it is. -/
def makeDirectories (tree : FileTree) : (place : Place) → Except Fault FileTree
  | [] => .ok tree
  | name :: around =>
    match tree.get? (name :: around) with
    | some .directory => .ok tree
    | some (.file _) => .error .alreadyExists
    | none =>
      match tree.obstacle around with
      | .notFound => do (← tree.makeDirectories around).makeDirectory (name :: around)
      | fault => .error fault

/-- Write a file, and first make the directories that lead to it. -/
def save (tree : FileTree) (place : Place) (content : ByteArray) : Except Fault FileTree := do
  (← tree.makeDirectories place.tail).write place content

/-- Write a text in UTF-8, and first make the directories that lead to it. -/
def saveText (tree : FileTree) (place : Place) (text : String) : Except Fault FileTree :=
  tree.save place text.toUTF8

/-! ## Removing -/

/-- Remove a file. -/
def removeFile (tree : FileTree) (place : Place) : Except Fault FileTree :=
  match h : tree.get? place with
  | some (.file content) => .ok (tree.dropFile place content h)
  | some .directory => .error .isDirectory
  | none => .error (tree.obstacle place.tail)

/-- Remove a directory with all that is below it. -/
def removeTree (tree : FileTree) (place : Place) : Except Fault FileTree := do
  match ← tree.lookup place with
  | .directory => return tree.dropTree place
  | .file _ => throw .notDirectory

end Concordance.FileTree
