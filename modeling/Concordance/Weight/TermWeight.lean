import Concordance.Statistics
import Concordance.Weight.Scalar

/-!
# Term weights

The weight of a term in a document is its share of the document's terms times the logarithm
of the inverse share of documents that contain it. A term that no document contains weighs
nothing.
-/

namespace Concordance

variable {ν : Type} [Counter ν] (α : Type) [Scalar α]

/-- The share of a term among the terms of a document. -/
def FrequencyTable.share (table : FrequencyTable ν) (term : String) : α :=
  if table.isEmpty then Scalar.zero
  else (Scalar.ofNat (Counter.toNat (table.count term)) : α) /
    Scalar.ofNat (Counter.toNat table.total)

namespace TermSpace

/-- The logarithm of the number of documents over the number of those with the term. -/
def inverseFrequency (space : TermSpace ν) (term : String) : α :=
  let df := Counter.toNat (space.documentFrequency term)
  if df = 0 then Scalar.zero
  else Scalar.ln ((Scalar.ofNat space.numDocs : α) / Scalar.ofNat df)

/-- The share of a term in a document of the space. -/
def share (space : TermSpace ν) (doc : DocId) (term : String) : α :=
  match space.table? doc with
  | some table => table.share α term
  | none => Scalar.zero

end TermSpace

/-- The weight of one term of a document. -/
structure TermWeight where
  /-- The term. -/
  term : String
  /-- Its inverse document frequency. -/
  inverse : α
  /-- Its share times its inverse document frequency. -/
  weight : α

/-- The weights of all terms of a document, terms ascending. -/
def TermSpace.weights (space : TermSpace ν) (doc : DocId) : List (TermWeight α) :=
  match space.table? doc with
  | none => []
  | some table => table.terms.map fun term =>
    let inverse : α := space.inverseFrequency α term
    ⟨term, inverse, table.share α term * inverse⟩

end Concordance
