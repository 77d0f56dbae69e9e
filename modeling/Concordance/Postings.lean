import Concordance.Document

/-!
# Postings

The inverted index of a corpus : each lemma with the set of documents that have it, and the
set of all documents, within which negation is taken.
-/

namespace Concordance

/-- Lemmas with the documents that contain them. -/
structure Postings where
  /-- The documents of each lemma. -/
  lists : Std.ExtTreeMap String DocSet
  /-- All documents, those without lemmas included. -/
  all : DocSet
  deriving DecidableEq

namespace Postings

/-- The postings of no document. -/
def empty : Postings := ⟨∅, ∅⟩

/-- Enter one document under each of its lemmas. -/
def addDocument (postings : Postings) (doc : Document) : Postings where
  lists := doc.lemmas.foldl
    (fun lists lem => lists.insert lem ((lists[lem]?.getD ∅).insert doc.id))
    postings.lists
  all := postings.all.insert doc.id

/-- The postings of a corpus. -/
def ofCorpus (corpus : Corpus) : Postings :=
  corpus.docs.foldl addDocument empty

/-- The documents of a lemma, if it occurs. -/
def get? (postings : Postings) (lem : String) : Option DocSet :=
  postings.lists[lem]?

/-- The documents of a lemma, none if it does not occur. -/
def find (postings : Postings) (lem : String) : DocSet :=
  (postings.get? lem).getD ∅

/-- The number of lemmas. -/
def size (postings : Postings) : Nat :=
  postings.lists.size

end Postings

end Concordance
