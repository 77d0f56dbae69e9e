import Std.Data.ExtTreeMap

/-!
# File trees

A file tree says which places hold directories and which hold files. A place is the list of
names that lead to it, the innermost first, so the tail of a place is the directory around
it; the empty list is the top, which always is a directory. Only places below the top have an
entry, and the place around an entry is a directory (`FileTree.closed`). Two trees with the
same entries are equal.

`lookup` finds an entry or says why there is none, and the readers build on it.
-/

namespace Concordance

/-- The names that lead to an entry, the innermost first. -/
abbrev Place := List String

/-- What stands at a place. -/
inductive FileTree.Entry
  /-- A directory; its content is given by the places below it. -/
  | directory
  /-- A file. -/
  | file (content : ByteArray)

instance : DecidableEq FileTree.Entry
  | .directory, .directory => isTrue rfl
  | .directory, .file _ => isFalse nofun
  | .file _, .directory => isFalse nofun
  | .file a, .file b =>
    if h : a.data = b.data then isTrue (congrArg _ (ByteArray.ext h))
    else isFalse fun e => h (by cases e; rfl)

/-- Why an operation on files fails. -/
inductive FileTree.Fault
  /-- There is no such entry. -/
  | notFound
  /-- A file was expected. -/
  | isDirectory
  /-- A directory was expected. -/
  | notDirectory
  /-- The place is taken. -/
  | alreadyExists
  /-- The content is not UTF-8. -/
  | invalidText
  /-- A name has a NUL character. -/
  | nulInName
  /-- A name or a path has too many bytes. -/
  | nameTooLong
  deriving Repr, DecidableEq

/-- The fault in the words of the operating system. -/
def FileTree.Fault.message : FileTree.Fault → String
  | notFound => "No such file or directory (os error 2)"
  | isDirectory => "Is a directory (os error 21)"
  | notDirectory => "Not a directory (os error 20)"
  | alreadyExists => "File exists (os error 17)"
  | invalidText => "stream did not contain valid UTF-8"
  | nulInName => "file name contained an unexpected NUL byte"
  | nameTooLong => "File name too long (os error 36)"

/-- Directories and files by place. -/
structure FileTree where
  /-- The entries below the top. -/
  entries : Std.ExtTreeMap Place FileTree.Entry
  /-- The top has no entry of its own. -/
  top : [] ∉ entries
  /-- What stands around an entry is a directory. -/
  closed : ∀ (name : String) (around : Place), name :: around ∈ entries →
    around = [] ∨ entries[around]? = some .directory

namespace FileTree

@[ext] theorem ext {s t : FileTree} (h : s.entries = t.entries) : s = t := by
  cases s; cases t; cases h; rfl

instance : DecidableEq FileTree := fun s t =>
  if h : s.entries = t.entries then isTrue (ext h) else isFalse fun e => h (congrArg entries e)

/-- The tree without entries. -/
def empty : FileTree where
  entries := ∅
  top := Std.ExtTreeMap.not_mem_empty
  closed _ _ h := absurd h Std.ExtTreeMap.not_mem_empty

instance : Inhabited FileTree := ⟨empty⟩

/-! ## Looking up -/

/-- What stands at a place. -/
def get? (tree : FileTree) : Place → Option Entry
  | [] => some .directory
  | name :: around => tree.entries[name :: around]?

/-- Why nothing stands at a place below `around` : a file is in the way, or an entry is
missing. -/
def obstacle (tree : FileTree) : (around : Place) → Fault
  | [] => .notFound
  | name :: around =>
    match tree.get? (name :: around) with
    | some .directory => .notFound
    | some (.file _) => .notDirectory
    | none => tree.obstacle around

/-- What stands at a place, or why nothing does. -/
def lookup (tree : FileTree) (place : Place) : Except Fault Entry :=
  match tree.get? place with
  | some entry => .ok entry
  | none => .error (tree.obstacle place.tail)

/-- Whether anything stands at a place. -/
def has (tree : FileTree) (place : Place) : Bool :=
  (tree.get? place).isSome

/-- Whether a file stands at a place. -/
def hasFile (tree : FileTree) (place : Place) : Bool :=
  match tree.get? place with
  | some (.file _) => true
  | _ => false

/-! ## Reading -/

/-- The content of a file. -/
def read (tree : FileTree) (place : Place) : Except Fault ByteArray := do
  match ← tree.lookup place with
  | .directory => throw .isDirectory
  | .file content => return content

/-- The content of a file as text. -/
def readText (tree : FileTree) (place : Place) : Except Fault String := do
  match String.fromUTF8? (← tree.read place) with
  | some text => return text
  | none => throw .invalidText

/-- The names in a directory. -/
def names (tree : FileTree) (place : Place) : Except Fault (List String) := do
  match ← tree.lookup place with
  | .directory => return tree.entries.keys.filterMap fun
    | name :: around => if around = place then some name else none
    | [] => none
  | .file _ => throw .notDirectory

end FileTree

end Concordance
