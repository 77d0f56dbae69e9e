import Concordance.Listing.Basic
import Concordance.Number.Fixed
import Concordance.Postings
import Concordance.Weight.TermWeight

/-!
# Listings of an index

Listings made from a corpus to be read by people : the documents of each lemma, and the
weights of the terms of a document with four decimal places.
-/

namespace Concordance

open Listing

/-- The line of a lemma with its documents. -/
def Postings.renderLine (entry : String × DocSet) : List Char :=
  entry.1.toList ++ ':' :: ' ' ::
    joinWith [',', ' '] (entry.2.toList.map fun id => Decimal.digits id.toNat)

/-- The inverted index, lemmas and documents ascending. -/
def Postings.render (postings : Postings) : String :=
  String.ofList (joinWith ['\n'] (postings.lists.toList.map renderLine))

/-- The line of a term with its inverse document frequency and its weight. -/
def TermWeight.renderLine (w : TermWeight Float) : List Char :=
  w.term.toList ++ ' ' :: (fixed 4 w.inverse).toList ++ ' ' :: (fixed 4 w.weight).toList

/-- The weights of the terms of a document, terms ascending; empty for a document without
terms. -/
def TermSpace.renderWeights (space : TermSpace UInt32) (doc : DocId) : String :=
  String.ofList (joinWith ['\n'] ((space.weights Float doc).map TermWeight.renderLine))

end Concordance
