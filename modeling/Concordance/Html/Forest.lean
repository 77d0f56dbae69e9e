/-!
# Forests of nodes

A forest is a list of nodes where an element holds a forest of its own. It is written in the
form of first child and next sibling, so that recursion on it is structural. Comments are not
part of it, but keep the texts around them apart.
-/

namespace Concordance.Html

/-- Sibling nodes with what is inside them. -/
inductive Forest
  /-- No nodes. -/
  | nil
  /-- A text and its following siblings. -/
  | text (s : List Char) (next : Forest)
  /-- An element with its name, its inside, and its following siblings. -/
  | element (name : String) (inner next : Forest)
  deriving Repr, DecidableEq

/-- The texts of a forest in document order, each with the names of the elements around it,
innermost first; `around` stands around the whole forest. -/
def Forest.texts (around : List String) : Forest → List (List String × List Char)
  | nil => []
  | text s next => (around, s) :: next.texts around
  | element name inner next => inner.texts (name :: around) ++ next.texts around

end Concordance.Html
