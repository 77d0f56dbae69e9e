import Concordance.FileTree.Change

/-!
# Edits

An edit is a sequence of steps on a file tree. Each step looks at the tree or changes it; the
first step that fails ends the edit, and what the steps before it did remains.
-/

namespace Concordance.FileTree

/-- Steps on a file tree that give a value or fail. -/
abbrev Edit (ε α : Type) := ExceptT ε (StateM FileTree) α

namespace Edit

variable {ε α : Type}

/-- A step that leaves the tree as it is. -/
def look (f : FileTree → Except ε α) : Edit ε α :=
  fun tree => (f tree, tree)

/-- A step that changes the tree, unless it fails. -/
def change (f : FileTree → Except ε FileTree) : Edit ε Unit :=
  fun tree =>
    match f tree with
    | .ok tree => (.ok (), tree)
    | .error e => (.error e, tree)

/-- The result of an edit and the tree it leaves. -/
def apply (edit : Edit ε α) (tree : FileTree) : Except ε α × FileTree :=
  edit.run.run tree

end Edit

end Concordance.FileTree
