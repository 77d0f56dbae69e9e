import Concordance.Document

/-!
# Term frequencies

`FrequencyTable` counts the terms of one document, `TermSpace` those of a corpus. Two spaces
are kept side by side, one of tokens and one of lemmas; they share the number of documents
and never mix their counts. The weights derived from the counts are in
`Concordance.Weight.Scalar` and the modules above it.

Counts are kept in any type of counters. The program has counters of 32 bits, which start again
from zero after `2 ^ 32` steps, unless it is compiled to stop there; a statement about exact counts
takes the natural numbers.
-/

namespace Concordance

/-- The two kinds of terms. -/
inductive Vocabulary
  /-- Surface tokens. -/
  | tokens
  /-- Lemmas. -/
  | lemmas
  deriving Repr, DecidableEq

/-- The name of a kind of terms. -/
def Vocabulary.name : Vocabulary → String
  | tokens => "token"
  | lemmas => "lemma"

/-! ## Counters -/

/-- A type to count in. After `modulus` steps a counter is zero again; a modulus of zero stands for
a counter that never starts again. -/
class Counter (ν : Type) where
  /-- Nothing counted. -/
  zero : ν
  /-- One more. -/
  next : ν → ν
  /-- The number that a counter shows. -/
  toNat : ν → Nat
  /-- After how many steps a counter is zero again. -/
  modulus : Nat
  toNat_zero : toNat zero = 0
  toNat_next (count : ν) : toNat (next count) = (toNat count + 1) % modulus

/-- Natural numbers never start again. -/
instance : Counter Nat where
  zero := 0
  next count := count + 1
  toNat count := count
  modulus := 0
  toNat_zero := rfl
  toNat_next count := (Nat.mod_zero (count + 1)).symm

/-- Counters of 32 bits. -/
instance : Counter UInt32 where
  zero := 0
  next count := count + 1
  toNat := UInt32.toNat
  modulus := 2 ^ 32
  toNat_zero := rfl
  toNat_next count := UInt32.toNat_add count 1

/-! ## One document -/

variable {ν : Type} [Counter ν]

/-- Terms with their number of occurrences, and the number of all occurrences. -/
structure FrequencyTable (ν : Type) where
  /-- The occurrences of each term. -/
  counts : Std.ExtTreeMap String ν
  /-- The number of terms counted. -/
  total : ν
  deriving DecidableEq

namespace FrequencyTable

/-- The table of no terms. -/
def empty : FrequencyTable ν := ⟨∅, Counter.zero⟩

/-- The occurrences of a term. -/
def count (table : FrequencyTable ν) (term : String) : ν :=
  table.counts[term]?.getD Counter.zero

/-- Count one more occurrence. -/
def add (table : FrequencyTable ν) (term : String) : FrequencyTable ν where
  counts := table.counts.insert term (Counter.next (table.count term))
  total := Counter.next table.total

/-- The table of a list of terms. -/
def ofTerms (terms : List String) : FrequencyTable ν :=
  terms.foldl add empty

/-- Whether the term occurs. -/
def contains (table : FrequencyTable ν) (term : String) : Bool :=
  table.counts.contains term

/-- The terms that occur, ascending. -/
def terms (table : FrequencyTable ν) : List String :=
  table.counts.keys

/-- Whether the total shows that nothing was counted. -/
def isEmpty (table : FrequencyTable ν) : Bool :=
  Counter.toNat table.total == 0

end FrequencyTable

/-- The counts of one document in both vocabularies. -/
structure Analysis (ν : Type) where
  /-- Occurrences of tokens. -/
  tokens : FrequencyTable ν
  /-- Occurrences of the lemmas of the tokens. -/
  lemmas : FrequencyTable ν
  deriving DecidableEq

/-- Count the tokens of a document and their lemmas. A token in no group is its own lemma. -/
def Document.analyze (doc : Document) : Analysis ν :=
  let lemmaOf := doc.tokenLemmas
  { tokens := FrequencyTable.ofTerms doc.tokens
    lemmas := FrequencyTable.ofTerms (doc.tokens.map fun t => lemmaOf[t]?.getD t) }

/-! ## A corpus -/

/-- The frequencies of one vocabulary. -/
structure TermSpace (ν : Type) where
  /-- The tables of the documents that are not empty. -/
  frequencies : Std.ExtTreeMap DocId (FrequencyTable ν)
  /-- The number of documents that contain each term. -/
  documentFrequencies : Std.ExtTreeMap String ν
  /-- The number of all documents. -/
  numDocs : Nat
  deriving DecidableEq

namespace TermSpace

/-- Count one more document for each term of a table. -/
def countTerms (counts : Std.ExtTreeMap String ν) (table : FrequencyTable ν) :
    Std.ExtTreeMap String ν :=
  table.terms.foldl
    (fun counts term => counts.insert term (Counter.next (counts[term]?.getD Counter.zero))) counts

/-- The space of the given tables. Empty tables are left out, and of two tables for one
document the later one counts. -/
def ofTables (numDocs : Nat) (tables : List (DocId × FrequencyTable ν)) : TermSpace ν :=
  let kept : Std.ExtTreeMap DocId (FrequencyTable ν) :=
    tables.foldl (fun map t => if t.2.isEmpty then map else map.insert t.1 t.2) ∅
  { frequencies := kept
    documentFrequencies := kept.values.foldl countTerms ∅
    numDocs }

/-- The number of documents that contain a term. -/
def documentFrequency (space : TermSpace ν) (term : String) : ν :=
  space.documentFrequencies[term]?.getD Counter.zero

/-- The table of a document, if it has terms. -/
def table? (space : TermSpace ν) (doc : DocId) : Option (FrequencyTable ν) :=
  space.frequencies[doc]?

/-- The documents with terms, ascending. -/
def documents (space : TermSpace ν) : List DocId :=
  space.frequencies.keys

/-- The number of distinct terms. -/
def vocabularySize (space : TermSpace ν) : Nat :=
  space.documentFrequencies.size

end TermSpace

/-- The term spaces of a corpus. -/
structure Statistics (ν : Type) where
  /-- The space of tokens. -/
  tokens : TermSpace ν
  /-- The space of lemmas. -/
  lemmas : TermSpace ν
  deriving DecidableEq

namespace Statistics

/-- The statistics of a corpus. -/
def ofCorpus (corpus : Corpus) : Statistics ν :=
  let analyses : List (DocId × Analysis ν) := corpus.docs.map fun doc => (doc.id, doc.analyze)
  { tokens := TermSpace.ofTables corpus.size (analyses.map fun a => (a.1, a.2.tokens))
    lemmas := TermSpace.ofTables corpus.size (analyses.map fun a => (a.1, a.2.lemmas)) }

/-- The space of a vocabulary. -/
def space (statistics : Statistics ν) : Vocabulary → TermSpace ν
  | .tokens => statistics.tokens
  | .lemmas => statistics.lemmas

end Statistics

end Concordance
