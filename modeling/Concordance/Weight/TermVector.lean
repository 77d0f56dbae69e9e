import Concordance.Weight.TermWeight

/-!
# Term vectors

A term vector is a finite map from terms to weights. The dot product walks the vector with
fewer terms and looks them up in the other one. A query has a vector only if its norm is not
zero, so every query vector can be compared.

What a map holds does not say in which order it is walked. The order decides how a sum is rounded,
so it is given along with the vector wherever weights are summed.
-/

namespace Concordance

/-- An order in which the terms of a map are walked. -/
structure Walk where
  /-- The terms, in this order. -/
  order : List String → List String
  /-- Each of them is met, as often as it is there. -/
  perm (terms : List String) : (order terms).Perm terms

/-- The order in which the terms are listed. -/
def Walk.inOrder : Walk where
  order terms := terms
  perm terms := .refl terms

/-- Terms with their weights. -/
structure TermVector (α : Type) where
  /-- The weights by term. -/
  weights : Std.ExtTreeMap String α

namespace TermVector

variable {ν α : Type} [Counter ν] [Scalar α]

/-- The vector of a list of weighted terms. -/
def ofList (weights : List (String × α)) : TermVector α :=
  ⟨Std.ExtTreeMap.ofList weights⟩

/-- The weight of a term, zero if the vector does not have it. -/
def weight (v : TermVector α) (term : String) : α :=
  v.weights[term]?.getD Scalar.zero

/-- The number of terms. -/
def size (v : TermVector α) : Nat :=
  v.weights.size

/-- The terms with their weights, as they are walked. -/
def entries (v : TermVector α) (walk : Walk) : List (String × α) :=
  (walk.order v.weights.keys).map fun term => (term, v.weight term)

/-- The Euclidean length. -/
def norm (v : TermVector α) (walk : Walk) : α :=
  Scalar.sqrt (Scalar.sum ((v.entries walk).map fun p => p.2 * p.2))

/-- The sum over the entries of the vector with fewer terms, of the products of both weights. -/
def dotAlong (v w : TermVector α) (vEntries wEntries : List (String × α)) : α :=
  if v.size ≤ w.size then Scalar.sum (vEntries.map fun p => p.2 * w.weight p.1)
  else Scalar.sum (wEntries.map fun p => p.2 * v.weight p.1)

/-- The dot product. -/
def dot (v w : TermVector α) (vWalk wWalk : Walk) : α :=
  v.dotAlong w (v.entries vWalk) (w.entries wWalk)

/-- The cosine of two vectors with the given norms, zero if one of them has no length. -/
def cosineBy (v w : TermVector α) (vWalk wWalk : Walk) (vNorm wNorm : α) : α :=
  if Scalar.isZero vNorm || Scalar.isZero wNorm then Scalar.zero
  else v.dot w vWalk wWalk / (vNorm * wNorm)

/-- The cosine of two vectors, zero if one of them has no length. -/
def cosine (v w : TermVector α) (vWalk wWalk : Walk) : α :=
  v.cosineBy w vWalk wWalk (v.norm vWalk) (w.norm wWalk)

/-- The vector of a query : the shares of its lemmas times the inverse frequencies of the
corpus. There is none without lemmas, nor if every weight is zero. -/
def ofQuery? (walk : Walk) (lemmas : List String) (space : TermSpace ν) :
    Option (TermVector α) :=
  let table : FrequencyTable ν := .ofTerms lemmas
  if table.isEmpty then none
  else
    let v := ofList (table.terms.map fun lem =>
      (lem, table.share α lem * space.inverseFrequency α lem))
    if Scalar.isZero (v.norm walk) then none else some v

/-- The vector of a document of the space. -/
def ofDocument (space : TermSpace ν) (doc : DocId) : TermVector α :=
  ofList ((space.weights α doc).map fun w => (w.term, w.weight))

end TermVector

end Concordance
