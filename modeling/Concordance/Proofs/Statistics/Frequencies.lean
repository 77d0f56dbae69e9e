import Mathlib.Data.Set.Card
import Concordance.Proofs.Statistics.Agreement

/-!
# Document frequencies count documents

Empty tables are left out before repeated ones replace each other, and terms are counted afterwards.
So a space has for each document the last of its tables that is not empty, the document frequency of
a term is the number of documents whose table has it, and the vocabulary is the set of the terms of
these tables, whatever number of documents the space is given. In a space of a corpus this number is
the size of the corpus, and it bounds every document frequency from above, as one does from below
for the terms that occur (`Statistics.documentFrequency_counts`).

The counters of the program have 32 bits, so all this holds of numbers below `2 ^ 32` : of documents
with a term, and of tokens of a document.
-/

namespace Concordance

variable {ν : Type} [Counter ν]

/-- A list without repetitions is as long as the set of its elements is large. -/
theorem encard_setOf_mem {β : Type} {elements : List β} (h : elements.Nodup) :
    {x | x ∈ elements}.encard = elements.length := by
  classical
  rw [← List.coe_toFinset, Set.encard_coe_eq_coe_finsetCard, List.toFinset_card_of_nodup h]

namespace TermSpace

variable {numDocs : Nat} {tables : List (DocId × FrequencyTable ν)} {term : String}

/-- Documents whose table has a term are as many as the space finds for it. -/
theorem encard_documents_with : {id | ∃ table, (ofTables numDocs tables).table? id = some table ∧
    table.contains term = true}.encard = ((ofTables numDocs tables).documentsWith term).size := by
  rw [← Std.ExtTreeSet.length_toList, ← encard_setOf_mem (nodup_elements _)]
  simp only [Std.ExtTreeSet.mem_toList, mem_documentsWith_iff]

/-- The vocabulary is the set of the terms of all tables. -/
theorem encard_vocabulary : {term | ∃ id table, (ofTables numDocs tables).table? id = some table ∧
    table.contains term = true}.encard = (ofTables numDocs tables).vocabularySize := by
  rw [vocabularySize, ← Std.ExtTreeMap.length_keys, ← encard_setOf_mem Std.ExtTreeMap.nodup_keys]
  simp only [Std.ExtTreeMap.mem_keys, mem_documentFrequencies_iff, mem_documentsWith_iff]

end TermSpace

namespace Statistics

variable {corpus : Corpus} {vocabulary : Vocabulary} {id : DocId} {table : FrequencyTable ν}
  {term : String}

/-- A term of a table is in some document. -/
theorem documentFrequency_pos (hfits : Counter.Fits ν corpus.size)
    (h : ((ofCorpus corpus).space vocabulary).table? id = some table)
    (hterm : table.contains term = true) :
    1 ≤ Counter.toNat
      (((ofCorpus corpus : Statistics ν).space vocabulary).documentFrequency term) := by
  have hmem : id ∈ ((ofCorpus corpus : Statistics ν).space vocabulary).documentsWith term :=
    TermSpace.mem_documentsWith_iff.2 ⟨table, h, hterm⟩
  rw [toNat_documentFrequency_of_fits vocabulary hfits, ← Std.ExtTreeSet.length_toList]
  exact List.length_pos_of_mem (Std.ExtTreeSet.mem_toList.2 hmem)

/-- Where documents are filed under their own numbers, every term that a document counts is in some
document. -/
theorem documentFrequency_pos_of_mem_docs (hfits : Counter.Fits ν corpus.size)
    (hfiled : ∀ (id : DocId) (doc : Document), corpus.get? id = some doc → doc.id = id)
    {doc : Document} (hdoc : doc ∈ corpus.docs) (htokens : Counter.Fits ν doc.tokens.length)
    (hterm : ((doc.analyze : Analysis ν).table vocabulary).contains term = true) :
    1 ≤ Counter.toNat
      (((ofCorpus corpus : Statistics ν).space vocabulary).documentFrequency term) := by
  have htable : ((ofCorpus corpus).space vocabulary).table? doc.id =
      some ((doc.analyze : Analysis ν).table vocabulary) :=
    (table?_space_eq_some_iff vocabulary hfiled).2
      ⟨⟨doc, hdoc, rfl, rfl⟩, Document.isEmpty_table_of_contains vocabulary htokens hterm⟩
  exact documentFrequency_pos hfits htable hterm

/-- A space has for each document the last of its tables that is not empty, its document frequencies
are numbers of documents, up to multiples of `2 ^ 32`, and its vocabulary is the set of their terms.
The spaces of a corpus are given its size, hold the documents whose number of tokens is no such
multiple, and no document frequency is above the number of documents. Where every document has fewer
tokens, the documents with tokens are held; where there are fewer documents, a term of a table is in
at least one document. Where documents are moreover filed under their own numbers, none replaces
another one, and the bounds hold for the terms of every document with fewer tokens. -/
theorem documentFrequency_counts (numDocs : Nat) (tables : List (DocId × FrequencyTable UInt32))
    (corpus : Corpus) (vocabulary : Vocabulary) :
    (let space := TermSpace.ofTables numDocs tables
    (∀ id, space.table? id =
      (tables.reverse.find? fun t => t.1 == id && !t.2.isEmpty).map Prod.snd) ∧
    (∀ term, let documents := {id | ∃ table, space.table? id = some table ∧
        table.contains term = true}
      (∃ n : Nat, documents.encard = n ∧ space.documentFrequency term = .ofNat n) ∧
      (documents.encard < 2 ^ 32 → documents.encard = (space.documentFrequency term).toNat)) ∧
    {term | ∃ id table, space.table? id = some table ∧ table.contains term = true}.encard =
      space.vocabularySize) ∧
    let space := (ofCorpus corpus : Statistics UInt32).space vocabulary
    space.numDocs = corpus.size ∧
    (∀ id, id ∈ space.documents ↔
      ∃ doc ∈ corpus.docs, doc.id = id ∧ doc.tokens.length % 2 ^ 32 ≠ 0) ∧
    (∀ term, (space.documentFrequency term).toNat ≤ space.numDocs) ∧
    ((∀ doc ∈ corpus.docs, doc.tokens.length < 2 ^ 32) →
      ∀ id, id ∈ space.documents ↔ ∃ doc ∈ corpus.docs, doc.id = id ∧ doc.tokens ≠ []) ∧
    (corpus.size < 2 ^ 32 →
      (∀ id table term, space.table? id = some table → table.contains term = true →
        1 ≤ (space.documentFrequency term).toNat) ∧
      ((∀ id doc, corpus.get? id = some doc → doc.id = id) →
        ∀ doc ∈ corpus.docs, doc.tokens.length < 2 ^ 32 → ∀ term,
          ((doc.analyze : Analysis UInt32).table vocabulary).contains term = true →
            1 ≤ (space.documentFrequency term).toNat)) := by
  refine ⟨⟨fun _ => TermSpace.table?_ofTables, fun term => ⟨?_, fun hlt => ?_⟩,
    TermSpace.encard_vocabulary⟩, numDocs_space, fun _ => mem_documents_iff,
    fun _ => @documentFrequency_le UInt32 _ corpus _ vocabulary, fun htokens id => ?_,
    fun hsize => ⟨fun _ _ _ => documentFrequency_pos (Counter.fits_uint32 hsize), ?_⟩⟩
  · exact ⟨_, TermSpace.encard_documents_with,
      TermSpace.documentFrequency_eq_ofNat_size.trans (Counter.ofNat_uint32 _)⟩
  · rw [TermSpace.encard_documents_with] at hlt ⊢
    have hsize : ((TermSpace.ofTables numDocs tables).documentsWith term).size < 2 ^ 32 := by
      exact_mod_cast hlt
    exact congrArg _ (TermSpace.toNat_documentFrequency.trans (Nat.mod_eq_of_lt hsize)).symm
  · rw [mem_documents_iff]
    refine exists_congr fun doc => and_congr_right fun hdoc => and_congr_right fun _ => ?_
    rw [(Counter.fits_uint32 (htokens doc hdoc)).mod_ne_zero_iff, ne_eq, List.length_eq_zero_iff]
  · intro hfiled doc hdoc htokens term
    exact documentFrequency_pos_of_mem_docs (Counter.fits_uint32 hsize) hfiled hdoc
      (Counter.fits_uint32 htokens)

/-- Tables of which the first one is replaced, and the last one is empty. -/
def replacedTables : List (DocId × FrequencyTable UInt32) := [
  (1, .ofTerms ["кот", "кот"]),
  (2, .ofTerms []),
  (1, .ofTerms ["дом"]),
  (3, .ofTerms ["сыр", "дом", "сыр"]),
  (1, .ofTerms [])]

/-- The replaced table is not counted, and the empty ones are passed over. The lemma of a document
is in at least one document. -/
theorem documentFrequency_replacedTables :
    let space := TermSpace.ofTables 2 replacedTables
    let corpus := Corpus.ofDocuments severalLemmatizers
    let documents := {id | ∃ table, space.table? id = some table ∧ table.contains "дом" = true}
    space.table? 1 = some (.ofTerms ["дом"]) ∧ space.documentFrequency "кот" = 0 ∧
    documents.encard < 2 ^ 32 ∧ documents.encard = 2 ∧
    {term | ∃ id table, space.table? id = some table ∧ table.contains term = true}.encard = 2 ∧
    (∀ doc ∈ corpus.docs, doc.tokens.length < 2 ^ 32) ∧ corpus.size < 2 ^ 32 ∧
    (∀ id, id ∈ (ofCorpus corpus : Statistics UInt32).lemmas.documents ↔
      ∃ doc ∈ corpus.docs, doc.id = id ∧ doc.tokens ≠ []) ∧
    1 ≤ ((ofCorpus corpus : Statistics UInt32).lemmas.documentFrequency "зверь").toNat := by
  intro space corpus documents
  obtain ⟨⟨htable, hfrequency, hvocabulary⟩, -, -, -, hdocuments, hbelow⟩ :=
    documentFrequency_counts 2 replacedTables corpus .lemmas
  have htokens : ∀ doc ∈ corpus.docs, doc.tokens.length < 2 ^ 32 :=
    fun _ hdoc => (mem_severalLemmatizers hdoc).2
  have hsize : corpus.size < 2 ^ 32 := by decide +kernel
  obtain ⟨hkept, -⟩ := hbelow hsize
  have hthird : (ofCorpus corpus : Statistics UInt32).lemmas.table? 3 =
      some (.ofTerms ["зверь", "зверь"]) := by
    decide +kernel
  have hhouse : space.documentFrequency "дом" = 2 := by decide +kernel
  have hcount : (space.documentsWith "дом").size = 2 := by decide +kernel
  have hencard : documents.encard < 2 ^ 32 := by
    have htwo : documents.encard = (2 : Nat) := hcount ▸ TermSpace.encard_documents_with
    rw [htwo]
    exact_mod_cast (by decide : 2 < 2 ^ 32)
  have htwo : space.vocabularySize = 2 := by decide +kernel
  refine ⟨(htable 1).trans (by decide +kernel), by decide +kernel, hencard, ?_, ?_, htokens, hsize,
    hdocuments htokens, ?_⟩
  · rw [(hfrequency "дом").2 hencard, hhouse]
    rfl
  · rw [hvocabulary, htwo]
    rfl
  · exact hkept 3 _ "зверь" hthird (by decide +kernel)

end Statistics

end Concordance
