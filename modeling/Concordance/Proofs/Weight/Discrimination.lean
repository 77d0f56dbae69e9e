import Concordance.Proofs.Weight.Exact
import Concordance.Proofs.Weight.Vectors

/-!
# Discriminating lemmas

A lemma discriminates if some documents of the corpus have it and others do not. The inverse
document frequency of such a lemma is positive in exact arithmetic, and that of any other one is
zero (`TermSpace.inverseFrequency_pos_iff`), because no lemma is in more documents than there are
(`Statistics.documentFrequency_le`). So the terms with a weight, in a query as in a
document, are the discriminating ones among its lemmas (`TermVector.weight_ofTable_pos_iff`).

Ranking leaves out queries and documents without length and scores that are not positive. None of
this drops or adds a document : a query has a vector exactly if it has a discriminating lemma, and
finds exactly the documents that share one with it (`Snapshot.rank_discriminating`).

What is shown for counters of any type holds as long as they can show the numbers of tokens and
documents; exact counts are natural numbers, which can.
-/

namespace Concordance

variable {ν : Type} [Counter ν]

open Counter (toNat Fits)

/-! ## Document frequencies -/

/-- The corpus has documents with the term and documents without it. -/
def TermSpace.Discriminates (space : TermSpace ν) (term : String) : Prop :=
  0 < toNat (space.documentFrequency term) ∧ toNat (space.documentFrequency term) < space.numDocs

namespace Statistics

variable {corpus : Corpus} {lem : String}

/-- The document frequency of a lemma is the number of documents that count it. -/
theorem documentFrequency_lemmas_eq_countP (hfits : corpus.Fits ν)
    (hfiled : ∀ (id : DocId) (doc : Document), corpus.get? id = some doc → doc.id = id) :
    toNat ((ofCorpus corpus : Statistics ν).lemmas.documentFrequency lem) =
      corpus.docs.countP fun doc => (doc.analyze : Analysis ν).lemmas.contains lem := by
  have hdistinct : (corpus.docs.filter fun doc =>
      (doc.analyze : Analysis ν).lemmas.contains lem).Pairwise (·.id ≠ ·.id) :=
    (Corpus.pairwise_docs hfiled).filter _
  have hmem : ∀ id, id ∈ ((ofCorpus corpus : Statistics ν).lemmas.documentsWith lem).toList ↔
      id ∈ (corpus.docs.filter fun doc =>
        (doc.analyze : Analysis ν).lemmas.contains lem).map (·.id) := by
    intro id
    simp only [Std.ExtTreeSet.mem_toList, TermSpace.mem_documentsWith_iff,
      table?_lemmas_eq_some_iff hfiled, List.mem_map, List.mem_filter]
    constructor
    · rintro ⟨_, ⟨⟨doc, hdoc, hid, rfl⟩, -⟩, hlem⟩
      exact ⟨doc, ⟨hdoc, hlem⟩, hid⟩
    · rintro ⟨doc, ⟨hdoc, hlem⟩, hid⟩
      exact ⟨_, ⟨⟨doc, hdoc, hid, rfl⟩,
        Document.isEmpty_table_of_contains .lemmas (hfits.tokens doc hdoc) hlem⟩, hlem⟩
  have hperm :=
    (List.perm_ext_iff_of_nodup (nodup_elements _) (List.pairwise_map.2 hdistinct)).2 hmem
  calc toNat ((ofCorpus corpus : Statistics ν).lemmas.documentFrequency lem)
    _ = ((ofCorpus corpus : Statistics ν).lemmas.documentsWith lem).size :=
      toNat_documentFrequency_of_fits .lemmas hfits.size
    _ = ((corpus.docs.filter fun doc =>
          (doc.analyze : Analysis ν).lemmas.contains lem).map (·.id)).length := by
      rw [← Std.ExtTreeSet.length_toList, hperm.length_eq]
    _ = corpus.docs.countP fun doc => (doc.analyze : Analysis ν).lemmas.contains lem := by
      rw [List.length_map, List.countP_eq_length_filter]

variable (hfits : corpus.Fits ν)
  (hfiled : ∀ (id : DocId) (doc : Document), corpus.get? id = some doc → doc.id = id)

include hfits hfiled

/-- A lemma occurs exactly if some document counts it. -/
theorem documentFrequency_lemmas_pos_iff :
    0 < toNat ((ofCorpus corpus : Statistics ν).lemmas.documentFrequency lem) ↔
      ∃ doc ∈ corpus.docs, (doc.analyze : Analysis ν).lemmas.contains lem = true := by
  rw [documentFrequency_lemmas_eq_countP hfits hfiled, List.countP_pos_iff]

/-- A lemma is missing somewhere exactly if it is in fewer documents than there are. -/
theorem documentFrequency_lemmas_lt_iff :
    toNat ((ofCorpus corpus : Statistics ν).lemmas.documentFrequency lem) < corpus.size ↔
      ∃ doc ∈ corpus.docs, (doc.analyze : Analysis ν).lemmas.contains lem = false := by
  rw [documentFrequency_lemmas_eq_countP hfits hfiled, ← length_docs,
    List.countP_le_length.lt_iff_ne, ne_eq, List.countP_eq_length]
  simp

end Statistics

/-! ## Weights -/

namespace FrequencyTable

variable {table : FrequencyTable ν} {terms : List String} {term : String}

/-- The share of a term is the number of its occurrences among all of them. -/
theorem share_ofTerms (hfits : Fits ν terms.length) (term : String) :
    (ofTerms terms : FrequencyTable ν).share ℝ term = terms.count term / terms.length := by
  rw [share, toNat_count_ofTerms hfits, toNat_total_ofTerms hfits]
  cases hempty : (ofTerms terms : FrequencyTable ν).isEmpty with
  | true =>
    rw [isEmpty, toNat_total_ofTerms hfits, beq_iff_eq] at hempty
    rw [hempty, Nat.cast_zero, div_zero]
    rfl
  | false => rfl

theorem share_nonneg : 0 ≤ table.share ℝ term := by
  rw [share]
  split
  · exact le_refl 0
  · exact div_nonneg (Nat.cast_nonneg _) (Nat.cast_nonneg _)

/-- The terms with a share are those that occur. -/
theorem share_ofTerms_pos_iff (hfits : Fits ν terms.length) :
    0 < (ofTerms terms : FrequencyTable ν).share ℝ term ↔ term ∈ terms := by
  rw [share_ofTerms hfits]
  constructor
  · intro h
    by_contra hterm
    rw [List.count_eq_zero_of_not_mem hterm, Nat.cast_zero, zero_div] at h
    exact lt_irrefl 0 h
  · intro hterm
    have hcount : 0 < terms.count term := List.count_pos_iff.2 hterm
    have hlength : 0 < terms.length := List.length_pos_of_mem hterm
    positivity

end FrequencyTable

namespace TermSpace

variable {space : TermSpace ν} {term : String}

/-- Where a term is in no more documents than there are, its inverse document frequency is not
negative. -/
theorem inverseFrequency_nonneg (h : toNat (space.documentFrequency term) ≤ space.numDocs) :
    0 ≤ space.inverseFrequency ℝ term := by
  rw [inverseFrequency]
  split
  · exact le_refl 0
  · next hzero =>
    refine Real.log_nonneg ?_
    show (1 : ℝ) ≤ space.numDocs / toNat (space.documentFrequency term)
    rw [one_le_div (Nat.cast_pos.2 (Nat.pos_of_ne_zero hzero))]
    exact Nat.cast_le.2 h

/-- It is positive exactly for the terms that discriminate. -/
theorem inverseFrequency_pos_iff :
    0 < space.inverseFrequency ℝ term ↔ space.Discriminates term := by
  rw [inverseFrequency, Discriminates]
  split
  · next hzero => simp [hzero, Scalar.zero]
  · next hzero =>
    have hdf : (0 : ℝ) < toNat (space.documentFrequency term) :=
      Nat.cast_pos.2 (Nat.pos_of_ne_zero hzero)
    show 0 < Real.log (space.numDocs / toNat (space.documentFrequency term)) ↔ _
    rw [Real.log_pos_iff (by positivity), one_lt_div hdf, Nat.cast_lt]
    exact (and_iff_right (Nat.pos_of_ne_zero hzero)).symm

end TermSpace

namespace TermVector

variable {space : TermSpace ν} {table : FrequencyTable ν} {terms : List String} {term : String}

/-- Over the reals a term weighs its share times its inverse document frequency, be it in the
table or not. -/
theorem weight_ofTable (hfits : Fits ν terms.length) :
    (ofTable space (.ofTerms terms) : TermVector ℝ).weight term =
      (FrequencyTable.ofTerms terms : FrequencyTable ν).share ℝ term *
        space.inverseFrequency ℝ term := by
  cases h : (FrequencyTable.ofTerms terms : FrequencyTable ν).contains term with
  | true => exact weight_ofTable_of_contains h
  | false =>
    have hterm : term ∉ terms := by
      rw [← FrequencyTable.contains_ofTerms_iff (ν := ν), h]
      exact Bool.false_ne_true
    rw [weight_ofTable_of_not_contains h, FrequencyTable.share_ofTerms hfits,
      List.count_eq_zero_of_not_mem hterm, Nat.cast_zero, zero_div, zero_mul]
    rfl

theorem weight_ofTable_nonneg (h : toNat (space.documentFrequency term) ≤ space.numDocs) :
    0 ≤ (ofTable space table : TermVector ℝ).weight term := by
  cases hterm : table.contains term with
  | true =>
    rw [weight_ofTable_of_contains hterm]
    exact mul_nonneg FrequencyTable.share_nonneg (TermSpace.inverseFrequency_nonneg h)
  | false => exact (weight_ofTable_of_not_contains hterm).ge

/-- The terms with a weight are those of the table that discriminate. -/
theorem weight_ofTable_pos_iff (hfits : Fits ν terms.length) :
    0 < (ofTable space (.ofTerms terms) : TermVector ℝ).weight term ↔
      term ∈ terms ∧ space.Discriminates term := by
  rw [weight_ofTable hfits, ← FrequencyTable.share_ofTerms_pos_iff hfits,
    ← TermSpace.inverseFrequency_pos_iff]
  constructor
  · intro h
    have hshare : 0 < (FrequencyTable.ofTerms terms : FrequencyTable ν).share ℝ term :=
      FrequencyTable.share_nonneg.lt_of_ne' (left_ne_zero_of_mul h.ne')
    exact ⟨hshare, (pos_iff_pos_of_mul_pos h).1 hshare⟩
  · exact fun h => mul_pos h.1 h.2

end TermVector

/-! ## Queries and hits -/

/-- In exact arithmetic the hits are the documents whose vectors have a positive product with the
query. -/
theorem DocumentVectors.mem_map_doc_rank_iff {vectors : DocumentVectors ℝ} {walks : Walks}
    {query : TermVector ℝ} {id : DocId} : id ∈ (vectors.rank walks query).map (·.doc) ↔
      ∃ v, vectors.get? id = some v ∧ 0 < query.dot v walks.query (walks.document id) := by
  simp only [List.mem_map, mem_rank_iff, Scalar.isPositive_iff, ← TermVector.cosine_pos_iff]
  constructor
  · rintro ⟨hit, ⟨v, hget, hscore, hpos⟩, rfl⟩
    exact ⟨v, hget, hscore ▸ hpos⟩
  · rintro ⟨v, hget, hpos⟩
    exact ⟨⟨id, query.cosine v walks.query (walks.document id)⟩, ⟨v, hget, rfl, hpos⟩, rfl⟩

namespace Snapshot

variable {corpus : Corpus} {normalizer : Normalizer} {walk : Walk} {walks : Walks} {query : String}
  {id : DocId}

/-- No term weighs less than nothing, in a document or in a query. -/
theorem weight_nonneg (table : FrequencyTable ν) (term : String) : 0 ≤ (TermVector.ofTable
    (Statistics.ofCorpus corpus : Statistics ν).lemmas table : TermVector ℝ).weight term :=
  TermVector.weight_ofTable_nonneg (Statistics.documentFrequency_le .lemmas)

/-- A query has a vector exactly if one of its lemmas discriminates. -/
theorem exists_ofQuery?_iff {lemmas : List String} (hfits : Fits ν lemmas.length) :
    (∃ v : TermVector ℝ, TermVector.ofQuery? walk lemmas
      (Statistics.ofCorpus corpus : Statistics ν).lemmas = some v) ↔
    ∃ lem ∈ lemmas, (Statistics.ofCorpus corpus : Statistics ν).lemmas.Discriminates lem := by
  constructor
  · rintro ⟨v, hv⟩
    obtain ⟨-, hlength, rfl⟩ := TermVector.ofQuery?_eq_some_iff.1 hv
    rw [Scalar.isZero_eq_false_iff, ne_eq, TermVector.norm_eq_zero_iff] at hlength
    obtain ⟨lem, hlem⟩ := not_forall.1 hlength
    exact ⟨lem, (TermVector.weight_ofTable_pos_iff hfits).1 ((weight_nonneg _ _).lt_of_ne' hlem)⟩
  · rintro ⟨lem, hlem⟩
    have hweight := (TermVector.weight_ofTable_pos_iff hfits).2 hlem
    refine ⟨_, TermVector.ofQuery?_eq_some_iff.2 ⟨?_, ?_, rfl⟩⟩
    · exact FrequencyTable.isEmpty_ofTerms_of_contains hfits
        (FrequencyTable.contains_ofTerms_iff.2 hlem.1)
    · rw [Scalar.isZero_eq_false_iff, ne_eq, TermVector.norm_eq_zero_iff]
      exact fun hzero => hweight.ne' (hzero lem)

/-! ## Exact counts -/

theorem exists_queryVector?_iff :
    (∃ v, (ofCorpus corpus : Snapshot Nat ℝ).queryVector? walk normalizer query = some v) ↔
      ∃ lem ∈ normalizer.lemmas query,
        (Statistics.ofCorpus corpus : Statistics Nat).lemmas.Discriminates lem :=
  exists_ofQuery?_iff (Counter.fits_nat _)

/-- The vectors of a list of lemmas and of a document have a positive product exactly if they share
a lemma that discriminates. -/
theorem dot_ofTable_pos_iff {lemmas : List String} {doc : Document} {vWalk wWalk : Walk} :
    0 < TermVector.dot (α := ℝ)
        (.ofTable (Statistics.ofCorpus corpus : Statistics Nat).lemmas (.ofTerms lemmas))
        (.ofTable (Statistics.ofCorpus corpus : Statistics Nat).lemmas doc.analyze.lemmas)
        vWalk wWalk ↔
      ∃ lem ∈ lemmas, (doc.analyze : Analysis Nat).lemmas.contains lem = true ∧
        (Statistics.ofCorpus corpus : Statistics Nat).lemmas.Discriminates lem := by
  obtain ⟨terms, hterms⟩ : ∃ terms, (doc.analyze : Analysis Nat).lemmas = .ofTerms terms := ⟨_, rfl⟩
  simp only [hterms, TermVector.dot_pos_iff (weight_nonneg _) (weight_nonneg _),
    TermVector.weight_ofTable_pos_iff (Counter.fits_nat _), FrequencyTable.contains_ofTerms_iff]
  constructor
  · rintro ⟨lem, ⟨hlem, -⟩, hterm, hdiscriminates⟩
    exact ⟨lem, hlem, hterm, hdiscriminates⟩
  · rintro ⟨lem, hlem, hterm, hdiscriminates⟩
    exact ⟨lem, ⟨hlem, hdiscriminates⟩, hterm, hdiscriminates⟩

variable (hfiled : ∀ (id : DocId) (doc : Document), corpus.get? id = some doc → doc.id = id)

include hfiled

/-- A query finds exactly the documents that share a discriminating lemma with it. -/
theorem mem_map_doc_rank_iff :
    id ∈ ((ofCorpus corpus : Snapshot Nat ℝ).rank walks normalizer query).map (·.doc) ↔
      ∃ doc ∈ corpus.docs, doc.id = id ∧ ∃ lem ∈ normalizer.lemmas query,
        (doc.analyze : Analysis Nat).lemmas.contains lem = true ∧
          (Statistics.ofCorpus corpus : Statistics Nat).lemmas.Discriminates lem := by
  rw [rank]
  cases hquery : (ofCorpus corpus : Snapshot Nat ℝ).queryVector? walks.query normalizer query with
  | none =>
    refine iff_of_false (by simp) ?_
    rintro ⟨-, -, -, lem, hlem, -, hdiscriminates⟩
    obtain ⟨v, hv⟩ := exists_queryVector?_iff.2 ⟨lem, hlem, hdiscriminates⟩
    rw [hquery] at hv
    cases hv
  | some v =>
    obtain ⟨-, -, rfl⟩ := TermVector.ofQuery?_eq_some_iff.1 hquery
    refine DocumentVectors.mem_map_doc_rank_iff.trans ?_
    constructor
    · rintro ⟨w, hget, hdot⟩
      obtain ⟨table, htable, rfl⟩ := DocumentVectors.get?_ofSpace_eq_some_iff.1 hget
      obtain ⟨⟨doc, hdoc, hid, rfl⟩, -⟩ := (Statistics.table?_lemmas_eq_some_iff hfiled).1 htable
      exact ⟨doc, hdoc, hid, dot_ofTable_pos_iff.1 hdot⟩
    · rintro ⟨doc, hdoc, hid, lem, hlem, hcontains, hdiscriminates⟩
      refine ⟨_, DocumentVectors.get?_ofSpace_eq_some_iff.2 ⟨doc.analyze.lemmas, ?_, rfl⟩, ?_⟩
      · exact (Statistics.table?_lemmas_eq_some_iff hfiled).2 ⟨⟨doc, hdoc, hid, rfl⟩,
          FrequencyTable.isEmpty_ofTerms_of_contains (Counter.fits_nat _) hcontains⟩
      · exact dot_ofTable_pos_iff.2 ⟨lem, hlem, hcontains, hdiscriminates⟩

omit hfiled in
/-- Ranking finds exactly the documents whose table has a lemma of the query that is in fewer
documents than there are, and a query has no vector exactly if each of its lemmas is in no
document or in all of them. -/
theorem rank_discriminating (docs : List Document) (urls : Std.ExtTreeMap DocId String)
    (walks : Walks) (normalizer : Normalizer) (query : String) :
    let corpus := (Corpus.ofDocuments docs).withUrls urls
    let snapshot : Snapshot Nat ℝ := ofCorpus corpus
    let df := snapshot.statistics.lemmas.documentFrequency
    (∀ id, id ∈ (snapshot.rank walks normalizer query).map (·.doc) ↔
      ∃ doc ∈ corpus.docs, doc.id = id ∧ ∃ lem ∈ normalizer.lemmas query,
        (doc.analyze : Analysis Nat).lemmas.contains lem = true ∧ df lem < corpus.size) ∧
    (snapshot.queryVector? walks.query normalizer query = none ↔
      ∀ lem ∈ normalizer.lemmas query, ¬(0 < df lem ∧ df lem < corpus.size)) := by
  intro corpus snapshot df
  have hfiled : ∀ (id : DocId) (doc : Document), corpus.get? id = some doc → doc.id = id :=
    fun _ _ => Corpus.id_eq_of_get?_ofDocuments
  constructor
  · intro id
    refine (mem_map_doc_rank_iff hfiled).trans ?_
    constructor
    · rintro ⟨doc, hdoc, hid, lem, hlem, hcontains, hdiscriminates⟩
      exact ⟨doc, hdoc, hid, lem, hlem, hcontains, hdiscriminates.2⟩
    · rintro ⟨doc, hdoc, hid, lem, hlem, hcontains, hlt⟩
      have hpos : 0 < df lem :=
        (Statistics.documentFrequency_lemmas_pos_iff corpus.fits_nat hfiled).2
          ⟨doc, hdoc, hcontains⟩
      exact ⟨doc, hdoc, hid, lem, hlem, hcontains, hpos, hlt⟩
  · rw [Option.eq_none_iff_forall_ne_some, ← not_exists, exists_queryVector?_iff]
    exact not_exists.trans (forall_congr' fun _ => not_and)

end Snapshot

end Concordance
