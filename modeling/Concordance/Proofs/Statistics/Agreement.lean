import Concordance.Proofs.Grouping
import Concordance.Proofs.Index.Corpora

/-!
# Postings and statistics agree

Boolean search reads the lemmas of a document off its groups, and the statistics count the lemmas of
its tokens. If the documents were made of tokens, whatever their lemmas are, both find a lemma in
the same documents (`Document.MadeOfTokens.contains_lemmas_iff`) : the postings of a lemma are the
documents that count it, its document frequency is their number, and both have the same vocabulary
(`Statistics.agrees_postings`).

The statistics leave out a document whose number of tokens is shown as zero by a counter. With
counters of 32 bits this also happens to a document of `2 ^ 32` tokens, so they agree with the
postings as long as every document has fewer tokens; and with `2 ^ 32` documents that have a lemma
its document frequency would be shown as zero.
-/

namespace Concordance

variable {ν : Type} [Counter ν]

/-! ## One document -/

namespace Document

variable {doc : Document} {lem : String}

/-- A document whose groups come from its tokens, by some function from tokens to lemmas. -/
def MadeOfTokens (doc : Document) : Prop :=
  ∃ lemmatize, doc = ofTokens doc.id doc.text doc.tokens lemmatize

/-- A lemma is counted in a document exactly if the document has a group for it. -/
theorem MadeOfTokens.contains_lemmas_iff (h : doc.MadeOfTokens) :
    (doc.analyze : Analysis ν).lemmas.contains lem = true ↔ lem ∈ doc.lemmaGroups := by
  obtain ⟨lemmatize, hdoc⟩ := h
  rw [hdoc, lemmas_analyze_ofTokens, mem_lemmaGroups_ofTokens_iff,
    FrequencyTable.contains_ofTerms_iff, List.mem_map]

/-- A document with a group has tokens. -/
theorem MadeOfTokens.length_tokens_ne_zero (h : doc.MadeOfTokens) (hlem : lem ∈ doc.lemmaGroups) :
    doc.tokens.length ≠ 0 := by
  obtain ⟨lemmatize, hdoc⟩ := h
  rw [hdoc, mem_lemmaGroups_ofTokens_iff] at hlem
  obtain ⟨token, htoken, -⟩ := hlem
  exact Nat.ne_of_gt (List.length_pos_of_mem htoken)

end Document

/-! ## A corpus -/

namespace Statistics

variable {corpus : Corpus} {id : DocId} {table : FrequencyTable ν} {lem : String}

/-- Each document keeps its table, unless that is empty. -/
theorem table?_space_eq_some_iff (vocabulary : Vocabulary)
    (hfiled : ∀ (id : DocId) (doc : Document), corpus.get? id = some doc → doc.id = id) :
    ((ofCorpus corpus).space vocabulary).table? id = some table ↔
      (∃ doc ∈ corpus.docs, doc.id = id ∧ doc.analyze.table vocabulary = table) ∧
        table.isEmpty = false := by
  rw [space_ofCorpus, TermSpace.table?_ofTables_eq_some_iff]
  · simp
  · rw [List.pairwise_map]
    exact Corpus.pairwise_docs hfiled

theorem table?_lemmas_eq_some_iff
    (hfiled : ∀ (id : DocId) (doc : Document), corpus.get? id = some doc → doc.id = id) :
    (ofCorpus corpus).lemmas.table? id = some table ↔
      (∃ doc ∈ corpus.docs, doc.id = id ∧ doc.analyze.lemmas = table) ∧ table.isEmpty = false :=
  table?_space_eq_some_iff .lemmas hfiled

/-- The documents that count a lemma are those that have a group for it, except for documents whose
number of tokens is shown as zero. -/
theorem mem_documentsWith_lemmas_iff
    (hfiled : ∀ (id : DocId) (doc : Document), corpus.get? id = some doc → doc.id = id)
    (hmade : ∀ doc ∈ corpus.docs, doc.MadeOfTokens) :
    id ∈ (ofCorpus corpus : Statistics ν).lemmas.documentsWith lem ↔
      ∃ doc ∈ corpus.docs, doc.id = id ∧ lem ∈ doc.lemmaGroups ∧
        doc.tokens.length % Counter.modulus ν ≠ 0 := by
  simp only [TermSpace.mem_documentsWith_iff, table?_lemmas_eq_some_iff hfiled]
  constructor
  · rintro ⟨_, ⟨⟨doc, hdoc, hid, rfl⟩, hempty⟩, hlem⟩
    exact ⟨doc, hdoc, hid, (hmade doc hdoc).contains_lemmas_iff.1 hlem,
      (Document.isEmpty_table_eq_false_iff .lemmas).1 hempty⟩
  · rintro ⟨doc, hdoc, hid, hlem, htokens⟩
    exact ⟨_, ⟨⟨doc, hdoc, hid, rfl⟩,
      (Document.isEmpty_table_eq_false_iff .lemmas).2 htokens⟩,
      (hmade doc hdoc).contains_lemmas_iff.2 hlem⟩

/-- Where a counter can show the number of tokens of each document, the postings of a lemma are the
documents whose table counts it. -/
theorem find_eq_documentsWith
    (hfiled : ∀ (id : DocId) (doc : Document), corpus.get? id = some doc → doc.id = id)
    (hmade : ∀ doc ∈ corpus.docs, doc.MadeOfTokens)
    (hfits : ∀ doc ∈ corpus.docs, Counter.Fits ν doc.tokens.length) :
    (Postings.ofCorpus corpus).find lem =
      (ofCorpus corpus : Statistics ν).lemmas.documentsWith lem := by
  refine Std.ExtTreeSet.ext_mem fun id => ?_
  rw [Postings.mem_find_iff, mem_documentsWith_lemmas_iff hfiled hmade]
  refine exists_congr fun doc => and_congr_right fun hdoc => and_congr_right fun _ => ?_
  rw [(hfits doc hdoc).mod_ne_zero_iff]
  exact iff_self_and.2 (hmade doc hdoc).length_tokens_ne_zero

/-- Where it can show the number of documents, a document frequency is a number of documents. -/
theorem toNat_documentFrequency_of_fits (vocabulary : Vocabulary) {term : String}
    (hfits : Counter.Fits ν corpus.size) :
    Counter.toNat (((ofCorpus corpus : Statistics ν).space vocabulary).documentFrequency term) =
      (((ofCorpus corpus : Statistics ν).space vocabulary).documentsWith term).size := by
  rw [space_ofCorpus]
  refine TermSpace.toNat_documentFrequency_of_fits ?_
  rwa [List.length_map, length_docs]

/-- The documents whose table counts a lemma are those that have it, except for documents whose
number of tokens is a multiple of `2 ^ 32`, and its document frequency is their number, up to such
multiples. If no document has so many tokens, then the postings of a lemma are the documents whose
table counts it, and the postings have as many lemmas as the vocabulary; and if there are not so
many documents, the document frequency of a lemma is the number of its postings. -/
theorem agrees_postings {list : List Document} {urls : Std.ExtTreeMap DocId String}
    (hmade : ∀ doc ∈ (Corpus.ofDocuments list).docs, doc.MadeOfTokens) :
    let corpus := (Corpus.ofDocuments list).withUrls urls
    let space := (ofCorpus corpus : Statistics UInt32).lemmas
    let postings := Postings.ofCorpus corpus
    (∀ lem, (∀ id, id ∈ space.documentsWith lem ↔ ∃ doc ∈ corpus.docs, doc.id = id ∧
        lem ∈ doc.lemmaGroups ∧ doc.tokens.length % 2 ^ 32 ≠ 0) ∧
      space.documentFrequency lem = .ofNat (space.documentsWith lem).size) ∧
    ((∀ doc ∈ corpus.docs, doc.tokens.length < 2 ^ 32) →
      (∀ lem, postings.find lem = space.documentsWith lem) ∧
      postings.size = space.vocabularySize ∧
      (corpus.size < 2 ^ 32 →
        ∀ lem, (space.documentFrequency lem).toNat = (postings.find lem).size)) := by
  intro corpus space postings
  have hfiled : ∀ (id : DocId) (doc : Document), corpus.get? id = some doc → doc.id = id :=
    fun _ _ => Corpus.id_eq_of_get?_ofDocuments
  refine ⟨fun lem => ⟨fun id => mem_documentsWith_lemmas_iff hfiled hmade, ?_⟩, fun htokens => ?_⟩
  · exact TermSpace.documentFrequency_eq_ofNat_size.trans (Counter.ofNat_uint32 _)
  have hfind : ∀ lem, postings.find lem = space.documentsWith lem := fun lem =>
    find_eq_documentsWith hfiled hmade fun doc hdoc => Counter.fits_uint32 (htokens doc hdoc)
  refine ⟨hfind, size_eq_of_mem_iff fun lem => ?_, fun hsize lem => ?_⟩
  · rw [Postings.mem_lists_iff, hfind]
    exact TermSpace.mem_documentFrequencies_iff.symm
  · rw [hfind]
    exact toNat_documentFrequency_of_fits .lemmas (Counter.fits_uint32 hsize)

/-- Documents with a lemmatizer each, one of them without tokens. -/
def severalLemmatizers : List Document := [
  .ofTokens 1 "Коты, кот и дом" ["коты", "кот", "дом"] fun token =>
    if token = "коты" then "кот" else token,
  .ofTokens 2 "Он" [] fun token => token,
  .ofTokens 3 "Кот" ["кот", "кот"] fun _ => "зверь",
  .ofTokens 4 "Кот" ["кот"] fun token => token]

theorem mem_severalLemmatizers {doc : Document}
    (h : doc ∈ (Corpus.ofDocuments severalLemmatizers).docs) :
    doc.MadeOfTokens ∧ doc.tokens.length < 2 ^ 32 := by
  have hmem : doc ∈ severalLemmatizers := Corpus.mem_of_mem_docs_ofDocuments h
  simp only [severalLemmatizers, List.mem_cons, List.not_mem_nil, or_false] at hmem
  rcases hmem with rfl | rfl | rfl | rfl
  all_goals exact ⟨⟨_, rfl⟩, by decide⟩

/-- Of the three documents with the token `кот` two have it as their lemma. -/
theorem agrees_postings_severalLemmatizers :
    let corpus := (Corpus.ofDocuments severalLemmatizers).withUrls ∅
    let space := (ofCorpus corpus : Statistics UInt32).lemmas
    (∀ doc ∈ (Corpus.ofDocuments severalLemmatizers).docs, doc.MadeOfTokens) ∧
    (∀ doc ∈ corpus.docs, doc.tokens.length < 2 ^ 32) ∧ corpus.size < 2 ^ 32 ∧
    ((Postings.ofCorpus corpus).find "кот").toList = [1, 4] ∧
    (space.documentsWith "кот").toList = [1, 4] ∧
    space.documentFrequency "кот" = 2 ∧ space.vocabularySize = 3 := by
  intro corpus space
  have hmade : ∀ doc ∈ (Corpus.ofDocuments severalLemmatizers).docs, doc.MadeOfTokens :=
    fun _ hdoc => (mem_severalLemmatizers hdoc).1
  have htokens : ∀ doc ∈ corpus.docs, doc.tokens.length < 2 ^ 32 :=
    fun _ hdoc => (mem_severalLemmatizers hdoc).2
  have hsize : corpus.size < 2 ^ 32 := by decide +kernel
  obtain ⟨-, hagrees⟩ := @agrees_postings _ ∅ hmade
  obtain ⟨hfind, hvocabulary, hfrequency⟩ := hagrees htokens
  have hposted : ((Postings.ofCorpus corpus).find "кот").toList = [1, 4] := by decide +kernel
  have hposted' : ((Postings.ofCorpus corpus).find "кот").size = 2 := by decide +kernel
  have hlemmas : (Postings.ofCorpus corpus).size = 3 := by decide +kernel
  exact ⟨hmade, htokens, hsize, hposted, hfind "кот" ▸ hposted,
    UInt32.toNat_inj.1 ((hfrequency hsize "кот").trans hposted'), hvocabulary.symm.trans hlemmas⟩

end Statistics

end Concordance
