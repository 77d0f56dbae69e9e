import Std.Data.ExtTreeMap
import Std.Data.ExtTreeSet

/-!
# Documents and corpora

A document is a page after normalization : its visible text, its tokens in order, and its
tokens grouped by lemma. A corpus holds documents under their numbers, in ascending order,
together with the addresses they were fetched from. Maps and sets are ordered by key, and
two of them with the same entries are equal.
-/

namespace Concordance

/-- The number of a document. -/
abbrev DocId := UInt32

/-- A set of document numbers. -/
abbrev DocSet := Std.ExtTreeSet DocId

/-- Each lemma with the distinct tokens recorded under it. -/
abbrev LemmaGroups := Std.ExtTreeMap String (Std.ExtTreeSet String)

namespace LemmaGroups

/-- Record `token` under `lemma`. -/
def record (groups : LemmaGroups) (lem token : String) : LemmaGroups :=
  groups.insert lem ((groups[lem]?.getD ∅).insert token)

end LemmaGroups

/-- A normalized document. -/
structure Document where
  /-- The number of the document. -/
  id : DocId
  /-- The visible text of the page. -/
  text : String
  /-- The tokens in document order, with repetitions. -/
  tokens : List String
  /-- The tokens by lemma. -/
  lemmaGroups : LemmaGroups
  deriving DecidableEq

namespace Document

/-- The document whose tokens are grouped by `lemmatize`. -/
def ofTokens (id : DocId) (text : String) (tokens : List String)
    (lemmatize : String → String) : Document where
  id := id
  text := text
  tokens := tokens
  lemmaGroups := tokens.foldl (fun groups t => groups.record (lemmatize t) t) ∅

/-- The lemmas of the document, ascending. -/
def lemmas (doc : Document) : List String :=
  doc.lemmaGroups.keys

/-- Every grouped token with the smallest lemma it is recorded under. -/
def tokenLemmas (doc : Document) : Std.ExtTreeMap String String :=
  doc.lemmaGroups.toList.foldl (fun map group =>
    group.2.toList.foldl (fun map token => map.insertIfNew token group.1) map) ∅

end Document

/-- Documents and addresses by document number. -/
structure Corpus where
  /-- The documents. -/
  documents : Std.ExtTreeMap DocId Document
  /-- The addresses of the documents. -/
  urls : Std.ExtTreeMap DocId String
  deriving DecidableEq

namespace Corpus

/-- The corpus without documents. -/
def empty : Corpus := ⟨∅, ∅⟩

/-- The corpus of `docs`; of two documents with one number the later one counts. -/
def ofDocuments (docs : List Document) : Corpus where
  documents := docs.foldl (fun map doc => map.insert doc.id doc) ∅
  urls := ∅

/-- The corpus with other addresses. -/
def withUrls (corpus : Corpus) (urls : Std.ExtTreeMap DocId String) : Corpus :=
  { corpus with urls }

/-- The document filed under `id`. -/
def get? (corpus : Corpus) (id : DocId) : Option Document :=
  corpus.documents[id]?

/-- The numbers under which documents are filed, ascending. -/
def ids (corpus : Corpus) : List DocId :=
  corpus.documents.keys

/-- The documents in the order of their numbers. -/
def docs (corpus : Corpus) : List Document :=
  corpus.documents.values

/-- The address of a document. -/
def url? (corpus : Corpus) (id : DocId) : Option String :=
  corpus.urls[id]?

/-- The number of documents. -/
def size (corpus : Corpus) : Nat :=
  corpus.documents.size

end Corpus

end Concordance
