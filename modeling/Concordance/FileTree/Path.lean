import Concordance.FileTree.Basic
import Concordance.Text.Blank

/-!
# Paths

A path is the written form of a place. `Place.path` writes the absolute path of a place.
A path is followed name by name : an absolute path from the top, any other from a starting
place. An empty name and a single dot stay where they are, and two dots lead to the
surrounding directory. `Place.follow` does this for any path; `FileTree.locate` asks that each
name is followed from a directory that exists.
-/

namespace Concordance

/-- The absolute path of a place. -/
def Place.path (place : Place) : String :=
  if place.isEmpty then "/" else String.join (place.reverse.map ("/" ++ ·))

/-- The names of a path. -/
def pathNames (path : String) : List String :=
  (Text.fieldChars '/' path.toList).map String.ofList

/-- The place where a path begins. -/
def Place.origin (start : Place) (path : String) : Place :=
  if path.startsWith "/" then [] else start

/-- The place one name further. -/
def Place.enter (place : Place) (name : String) : Place :=
  if name == "" || name == "." then place
  else if name == ".." then place.tail
  else name :: place

/-- The place that a path leads to. -/
def Place.follow (start : Place) (path : String) : Place :=
  (pathNames path).foldl Place.enter (Place.origin start path)

namespace FileTree

/-- The greatest number of bytes of a name. -/
def maxNameBytes : Nat := 255

/-- The greatest number of bytes of a path. -/
def maxPathBytes : Nat := 4095

/-- Follow one name of a path. -/
def enter (tree : FileTree) (place : Place) (name : String) : Except Fault Place := do
  match ← tree.lookup place with
  | .file _ => throw .notDirectory
  | .directory =>
    if maxNameBytes < name.utf8ByteSize then throw .nameTooLong else return place.enter name

/-- The place that a path leads to. The last name need not exist. -/
def locate (tree : FileTree) (start : Place) (path : String) : Except Fault Place :=
  if path.isEmpty then .error .notFound
  else if path.toList.contains '\x00' then .error .nulInName
  else if maxPathBytes < path.utf8ByteSize then .error .nameTooLong
  else (pathNames path).foldlM tree.enter (Place.origin start path)

/-- The content of the file that a path leads to, as text. -/
def readPath (tree : FileTree) (start : Place) (path : String) : Except Fault String := do
  tree.readText (← tree.locate start path)

end FileTree

end Concordance
