import Concordance.Proofs.Statistics.Agreement
import Concordance.Snapshot

/-!
# Vectors of queries and documents

Queries and documents have their weights from tables : the share of each term times its inverse
document frequency (`TermVector.ofTable`). A query vector is that of the table of its lemmas, unless
it has no length (`TermVector.ofQuery?_eq_some_iff`), and a document vector that of the document's
table (`DocumentVectors.get?_ofSpace_eq_some_iff`).

A text has one table of lemmas, whether it is asked for or stands in a document. So the vector of a
document is also the vector of its text as a query (`Snapshot.queryVector?_normalize`).
-/

namespace Concordance

variable {ν α : Type} [Counter ν] [Scalar α]

/-! ## Vectors of tables -/

namespace TermVector

variable {space : TermSpace ν} {table : FrequencyTable ν} {lemmas : List String} {id : DocId}
  {term : String} {walk : Walk}

/-- The share of each term of a table times its inverse document frequency. -/
def ofTable (space : TermSpace ν) (table : FrequencyTable ν) : TermVector α :=
  ofList (table.terms.map fun term => (term, table.share α term * space.inverseFrequency α term))

/-- The terms of the vector are those of the table. -/
theorem getElem?_weights_ofTable : (ofTable space table : TermVector α).weights[term]? =
    if table.contains term then some (table.share α term * space.inverseFrequency α term)
    else none := by
  rw [ofTable, ofList, getElem?_ofList_map]
  simp only [FrequencyTable.mem_terms_iff]

/-- A term of a table weighs its share times its inverse document frequency. -/
theorem weight_ofTable_of_contains (h : table.contains term = true) :
    (ofTable space table : TermVector α).weight term =
      table.share α term * space.inverseFrequency α term := by
  rw [weight, getElem?_weights_ofTable, if_pos h, Option.getD_some]

/-- Other terms weigh nothing. -/
theorem weight_ofTable_of_not_contains (h : table.contains term = false) :
    (ofTable space table : TermVector α).weight term = Scalar.zero := by
  rw [weight, getElem?_weights_ofTable, if_neg (by simp [h]), Option.getD_none]

/-- A vector depends on the terms of a table and on their shares. -/
theorem ofTable_congr {table' : FrequencyTable ν}
    (hterms : ∀ term, table.contains term = table'.contains term)
    (hshares : ∀ term, table.share α term = table'.share α term) :
    (ofTable space table : TermVector α) = ofTable space table' := by
  have hweights : (ofTable space table : TermVector α).weights = (ofTable space table').weights := by
    refine Std.ExtTreeMap.ext_getElem? fun term => ?_
    rw [getElem?_weights_ofTable, getElem?_weights_ofTable, hterms, hshares]
  exact congrArg mk hweights

theorem ofQuery?_eq_ite : (ofQuery? walk lemmas space : Option (TermVector α)) =
    if (FrequencyTable.ofTerms lemmas : FrequencyTable ν).isEmpty then none
    else if Scalar.isZero ((ofTable space (.ofTerms lemmas) : TermVector α).norm walk) then none
    else some (ofTable space (.ofTerms lemmas)) :=
  rfl

/-- A query with lemmas has the vector of their table, unless that has no length. -/
theorem ofQuery?_eq_some_iff {v : TermVector α} : ofQuery? walk lemmas space = some v ↔
    (FrequencyTable.ofTerms lemmas : FrequencyTable ν).isEmpty = false ∧
      Scalar.isZero (v.norm walk) = false ∧ v = ofTable space (.ofTerms lemmas) := by
  rw [ofQuery?_eq_ite, Option.ite_none_left_eq_some, Option.ite_none_left_eq_some, Bool.not_eq_true,
    Bool.not_eq_true, Option.some.injEq]
  refine and_congr_right fun _ => ⟨?_, ?_⟩
  · rintro ⟨hzero, rfl⟩
    exact ⟨hzero, rfl⟩
  · rintro ⟨hzero, rfl⟩
    exact ⟨hzero, rfl⟩

/-- A document of a space has the vector of its table. -/
theorem ofDocument_eq_ofTable (h : space.table? id = some table) :
    (ofDocument space id : TermVector α) = ofTable space table := by
  rw [ofDocument, TermSpace.weights, h, List.map_map]
  rfl

end TermVector

namespace DocumentVectors

variable {space : TermSpace ν} {id : DocId}

/-- Exactly the documents with a table have a vector, that of the table. -/
theorem get?_ofSpace_eq_some_iff {v : TermVector α} :
    (ofSpace space).get? id = some v ↔
      ∃ table, space.table? id = some table ∧ v = .ofTable space table := by
  rw [get?, ofSpace, getElem?_ofList_map, Option.ite_none_right_eq_some,
    TermSpace.mem_documents_iff, Option.some.injEq]
  constructor
  · rintro ⟨⟨table, htable⟩, rfl⟩
    exact ⟨table, htable, TermVector.ofDocument_eq_ofTable htable⟩
  · rintro ⟨table, htable, rfl⟩
    exact ⟨⟨table, htable⟩, TermVector.ofDocument_eq_ofTable htable⟩

/-- The hits are the documents whose vectors have a positive cosine with the query, with this
cosine as their score. -/
theorem mem_rank_iff {vectors : DocumentVectors α} {walks : Walks} {query : TermVector α}
    {hit : Hit α} : hit ∈ vectors.rank walks query ↔ ∃ v, vectors.get? hit.doc = some v ∧
      query.cosine v walks.query (walks.document hit.doc) = hit.score ∧
      Scalar.isPositive hit.score = true := by
  rw [rank, List.mem_mergeSort, List.mem_filter, scores, List.mem_map]
  constructor
  · rintro ⟨⟨⟨id, v⟩, hmem, rfl⟩, hpos⟩
    exact ⟨v, Std.ExtTreeMap.mem_toList_iff_getElem?_eq_some.1 hmem, rfl, hpos⟩
  · rintro ⟨v, hget, hscore, hpos⟩
    refine ⟨⟨(hit.doc, v), Std.ExtTreeMap.mem_toList_iff_getElem?_eq_some.2 hget, ?_⟩, hpos⟩
    exact congrArg (Hit.mk hit.doc) hscore

end DocumentVectors

/-! ## Documents of a corpus -/

namespace Statistics

/-- In a corpus a document is found under its number, with its table of lemmas, unless that is
empty. -/
theorem table?_lemmas_id_eq_some_iff {corpus : Corpus} {doc : Document} {table : FrequencyTable ν}
    (hfiled : ∀ (id : DocId) (doc : Document), corpus.get? id = some doc → doc.id = id)
    (hdoc : doc ∈ corpus.docs) :
    (ofCorpus corpus).lemmas.table? doc.id = some table ↔
      doc.analyze.lemmas = table ∧ table.isEmpty = false := by
  rw [table?_lemmas_eq_some_iff hfiled]
  refine and_congr_left fun _ => ⟨?_, fun htable => ⟨doc, hdoc, rfl, htable⟩⟩
  rintro ⟨other, hother, hid, htable⟩
  rwa [Corpus.eq_of_id_eq_of_filed hfiled hother hdoc hid] at htable

end Statistics

namespace Snapshot

/-- A document made of a text counts the lemmas of the text, and the text as a query has a vector
exactly if the document has one with a length, which is then the same. This holds whatever the
counters and the arithmetic are, and in whichever order the query is walked. -/
theorem queryVector?_normalize {normalizer : Normalizer} {docs : List Document}
    {urls : Std.ExtTreeMap DocId String} {id : DocId} {text : String}
    (hdoc : normalizer.normalize id text ∈ (Corpus.ofDocuments docs).docs) :
    let snapshot : Snapshot ν α := ofCorpus ((Corpus.ofDocuments docs).withUrls urls)
    ((normalizer.normalize id text).analyze : Analysis ν).lemmas =
        FrequencyTable.ofTerms (normalizer.lemmas text) ∧
      ∀ walk v, snapshot.queryVector? walk normalizer text = some v ↔
        snapshot.vectors.get? id = some v ∧ Scalar.isZero (v.norm walk) = false := by
  intro snapshot
  have hfiled : ∀ (id : DocId) (doc : Document),
      ((Corpus.ofDocuments docs).withUrls urls).get? id = some doc → doc.id = id :=
    fun _ _ => Corpus.id_eq_of_get?_ofDocuments
  have htable : ((normalizer.normalize id text).analyze : Analysis ν).lemmas =
      FrequencyTable.ofTerms (normalizer.lemmas text) :=
    Document.lemmas_analyze_ofTokens
  have hfound : ∀ table, snapshot.statistics.lemmas.table? id = some table ↔
      FrequencyTable.ofTerms (normalizer.lemmas text) = table ∧ table.isEmpty = false := by
    intro table
    rw [← htable]
    exact Statistics.table?_lemmas_id_eq_some_iff hfiled hdoc
  refine ⟨htable, fun walk v => ?_⟩
  have hvector : snapshot.vectors.get? id = some v ↔
      ∃ table, snapshot.statistics.lemmas.table? id = some table ∧
        v = .ofTable snapshot.statistics.lemmas table :=
    DocumentVectors.get?_ofSpace_eq_some_iff
  rw [queryVector?, TermVector.ofQuery?_eq_some_iff, hvector]
  constructor
  · rintro ⟨hempty, hzero, hv⟩
    exact ⟨⟨_, (hfound _).2 ⟨rfl, hempty⟩, hv⟩, hzero⟩
  · rintro ⟨⟨table, hget, hv⟩, hzero⟩
    obtain ⟨rfl, hempty⟩ := (hfound table).1 hget
    exact ⟨hempty, hzero, hv⟩

/-- The stemmer without stop words. -/
def stemming : Normalizer := ⟨TokenFilter.standard.withStopWords [], .stemmer⟩

/-- A text with two forms of one word, and a document that shares no lemma with it. -/
def catAndHouse : List Document :=
  [stemming.normalize 1 "Коты, кот и дом", .ofTokens 2 "Сыр" ["сыр"] id]

/-- The first text counts the lemma `кот` twice, and its document has a vector. -/
theorem queryVector?_catAndHouse :
    let snapshot : Snapshot UInt32 Float := ofCorpus ((Corpus.ofDocuments catAndHouse).withUrls ∅)
    let query : FrequencyTable UInt32 := .ofTerms (stemming.lemmas "Коты, кот и дом")
    stemming.normalize 1 "Коты, кот и дом" ∈ (Corpus.ofDocuments catAndHouse).docs ∧
      query.count "кот" = 2 ∧
      (stemming.normalize 1 "Коты, кот и дом").analyze.lemmas = query ∧
      ∃ v, snapshot.vectors.get? 1 = some v ∧ ∀ walk, Scalar.isZero (v.norm walk) = false →
        snapshot.queryVector? walk stemming "Коты, кот и дом" = some v := by
  intro snapshot query
  have hdoc : stemming.normalize 1 "Коты, кот и дом" ∈ (Corpus.ofDocuments catAndHouse).docs :=
    Corpus.mem_docs_iff.2 ⟨1, (Corpus.get?_ofDocuments _ _).trans rfl⟩
  obtain ⟨htable, hvector⟩ :=
    @queryVector?_normalize UInt32 Float _ _ stemming catAndHouse ∅ 1 "Коты, кот и дом" hdoc
  have hcount : query.count "кот" = 2 := by decide +kernel
  have hsome : (snapshot.vectors.get? 1).isSome = true := by decide +kernel
  obtain ⟨v, hv⟩ := Option.isSome_iff_exists.1 hsome
  exact ⟨hdoc, hcount, htable, v, hv, fun walk hlength => (hvector walk v).2 ⟨hv, hlength⟩⟩

end Snapshot

end Concordance
