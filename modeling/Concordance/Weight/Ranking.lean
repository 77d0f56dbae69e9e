import Concordance.Weight.TermVector

/-!
# Ranking

`rank` scores every document against a query, keeps the positive scores, and lists the best
first; documents with equal scores stand in the order of their numbers.
-/

namespace Concordance

/-- A document with its score. -/
structure Hit (α : Type) where
  /-- The document. -/
  doc : DocId
  /-- Its similarity to the query. -/
  score : α
  deriving Repr

/-- Whether `a` may stand before `b` : a higher score, or the same score and a number that is
not greater. -/
def Hit.before {α : Type} [Scalar α] (a b : Hit α) : Bool :=
  match Scalar.order b.score a.score with
  | .lt => true
  | .gt => false
  | .eq => a.doc ≤ b.doc

/-- The orders in which the vectors of a ranking are walked. -/
structure Walks where
  /-- That of the query. -/
  query : Walk
  /-- Those of the documents. -/
  document : DocId → Walk

/-- All vectors are walked in the order in which their terms are listed. -/
def Walks.inOrder : Walks where
  query := .inOrder
  document _ := .inOrder

/-- A term vector for every document with terms. -/
structure DocumentVectors (α : Type) where
  /-- The vectors by document. -/
  vectors : Std.ExtTreeMap DocId (TermVector α)

namespace DocumentVectors

variable {ν α : Type} [Counter ν] [Scalar α]

/-- The vectors of the documents of a space. -/
def ofSpace (space : TermSpace ν) : DocumentVectors α :=
  ⟨Std.ExtTreeMap.ofList (space.documents.map fun doc => (doc, TermVector.ofDocument space doc))⟩

/-- The vector of a document, if it has terms. -/
def get? (vectors : DocumentVectors α) (doc : DocId) : Option (TermVector α) :=
  vectors.vectors[doc]?

/-- The number of vectors. -/
def size (vectors : DocumentVectors α) : Nat :=
  vectors.vectors.size

/-- Every document with its score, in the order of the documents. -/
def scores (vectors : DocumentVectors α) (walks : Walks) (query : TermVector α) :
    List (Hit α) :=
  let queryNorm := query.norm walks.query
  vectors.vectors.toList.map fun p =>
    let walk := walks.document p.1
    ⟨p.1, query.cosineBy p.2 walks.query walk queryNorm (p.2.norm walk)⟩

/-- The documents with a positive score, best first. -/
def rank (vectors : DocumentVectors α) (walks : Walks) (query : TermVector α) : List (Hit α) :=
  ((vectors.scores walks query).filter fun hit =>
    Scalar.isPositive hit.score).mergeSort Hit.before

end DocumentVectors

end Concordance
