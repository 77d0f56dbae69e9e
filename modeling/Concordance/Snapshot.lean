import Concordance.BooleanSearch
import Concordance.Normalizer
import Concordance.Weight.Ranking

/-!
# Snapshots

A snapshot is all that is derived from one corpus : boolean search, statistics, and the
vectors of its documents. It is built once and only read afterwards.
-/

namespace Concordance

/-- A corpus with its indexes. -/
structure Snapshot (ν α : Type) where
  /-- The corpus. -/
  corpus : Corpus
  /-- Boolean search over it. -/
  boolean : BooleanSearch
  /-- Its term frequencies. -/
  statistics : Statistics ν
  /-- The lemma vectors of its documents. -/
  vectors : DocumentVectors α

namespace Snapshot

variable {ν α : Type} [Counter ν] [Scalar α]

/-- The snapshot of a corpus. -/
def ofCorpus (corpus : Corpus) : Snapshot ν α :=
  let statistics : Statistics ν := .ofCorpus corpus
  { corpus
    boolean := BooleanSearch.ofCorpus corpus
    statistics
    vectors := DocumentVectors.ofSpace statistics.lemmas }

/-- The documents that satisfy a boolean query. -/
def search (snapshot : Snapshot ν α) (query : String) : Except Query.Malformed DocSet :=
  snapshot.boolean.search query

/-- The vector of a query text. -/
def queryVector? (snapshot : Snapshot ν α) (walk : Walk) (normalizer : Normalizer)
    (query : String) : Option (TermVector α) :=
  TermVector.ofQuery? walk (normalizer.lemmas query) snapshot.statistics.lemmas

/-- The documents similar to a query text, best first. A query without a vector finds
nothing. -/
def rank (snapshot : Snapshot ν α) (walks : Walks) (normalizer : Normalizer) (query : String) :
    List (Hit α) :=
  match snapshot.queryVector? walks.query normalizer query with
  | some vector => snapshot.vectors.rank walks vector
  | none => []

end Snapshot

end Concordance
