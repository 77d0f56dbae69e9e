import Concordance.Proofs.CleanWords
import Concordance.Proofs.Search.Composition
import Concordance.Proofs.Search.Meaning
import Concordance.Proofs.Weight.Discrimination

/-!
# Searching and ranking for a token

In a corpus of one normalizer a word is recorded under one lemma, the one that the normalizer gives
it (`Corpus.MadeBy.records_iff`), and a token is read alike by both engines : as a query it is an
operand, and as a text it is itself.

So boolean search for a token finds the documents with its lemma
(`Corpus.MadeBy.mem_documentsOf_iff`). Ranking finds the same ones if there are others, since the
lemma discriminates then, and nothing if there are none (`Snapshot.search_rank_token`).
-/

namespace Concordance

/-- All documents were made by the normalizer. -/
def Corpus.MadeBy (corpus : Corpus) (normalizer : Normalizer) : Prop :=
  ∀ doc ∈ corpus.docs, doc = normalizer.normalize doc.id doc.text

namespace Corpus.MadeBy

variable {corpus : Corpus} {normalizer : Normalizer} (hmade : corpus.MadeBy normalizer)
  {doc : Document} {token lem : String} {id : DocId}

include hmade

/-! ## Documents of a normalizer -/

theorem tokens_eq (hdoc : doc ∈ corpus.docs) : doc.tokens = normalizer.tokenize doc.text :=
  congrArg Document.tokens (hmade doc hdoc)

theorem mem_lemmaGroups_iff (hdoc : doc ∈ corpus.docs) :
    lem ∈ doc.lemmaGroups ↔ lem ∈ doc.tokens.map normalizer.lemmatize := by
  rw [hmade doc hdoc, List.mem_map]
  exact Document.mem_lemmaGroups_ofTokens_iff

/-- The lemmas that a document counts are those of its tokens. -/
theorem contains_lemmas_iff (hdoc : doc ∈ corpus.docs) :
    (doc.analyze : Analysis Nat).lemmas.contains lem = true ↔
      lem ∈ doc.tokens.map normalizer.lemmatize := by
  have htokens : doc.MadeOfTokens := by
    refine ⟨normalizer.lemmatize, ?_⟩
    rw [hmade.tokens_eq hdoc]
    exact hmade doc hdoc
  rw [htokens.contains_lemmas_iff, hmade.mem_lemmaGroups_iff hdoc]

/-- A token of the corpus is recorded under its lemma, and nothing else is recorded. -/
theorem records_iff : corpus.Records token lem ↔
    (∃ doc ∈ corpus.docs, token ∈ doc.tokens) ∧ normalizer.lemmatize token = lem := by
  have hgroup : ∀ doc ∈ corpus.docs, ∀ other, other ∈ doc.lemmaGroups[lem]?.getD ∅ ↔
      other ∈ doc.tokens ∧ normalizer.lemmatize other = lem := by
    intro doc hdoc other
    rw [hmade doc hdoc]
    exact Document.mem_group_ofTokens_iff
  constructor
  · rintro ⟨doc, hdoc, group, hget, other, hother, rfl⟩
    obtain ⟨htoken, hlem⟩ := (hgroup doc hdoc other).1 (by rwa [hget])
    -- tokens are entered in lower case, which they are in already
    have hlower : Text.lower other = other :=
      Normalizer.lower_of_mem_tokenize (hmade.tokens_eq hdoc ▸ htoken)
    rw [hlower]
    exact ⟨⟨doc, hdoc, htoken⟩, hlem⟩
  · rintro ⟨⟨doc, hdoc, htoken⟩, hlem⟩
    have hother := (hgroup doc hdoc token).2 ⟨htoken, hlem⟩
    cases hget : doc.lemmaGroups[lem]? with
    | none =>
      rw [hget] at hother
      exact absurd hother Std.ExtTreeSet.not_mem_empty
    | some group =>
      rw [hget] at hother
      exact ⟨doc, hdoc, group, hget, token, hother,
        Normalizer.lower_of_mem_tokenize (hmade.tokens_eq hdoc ▸ htoken)⟩

/-! ## The two engines -/

variable (htoken : ∃ doc ∈ corpus.docs, token ∈ doc.tokens)

include htoken

/-- A token denotes the documents that have a token with its lemma. -/
theorem mem_documentsOf_iff : id ∈ (BooleanSearch.ofCorpus corpus).documentsOf token ↔
    ∃ doc ∈ corpus.docs, doc.id = id ∧
      normalizer.lemmatize token ∈ doc.tokens.map normalizer.lemmatize := by
  have hmeaning : ∀ lem, lem ∈ (BooleanSearch.ofCorpus corpus).meanings token ↔
      normalizer.lemmatize token = lem := by
    intro lem
    simp only [BooleanSearch.mem_meanings_iff, hmade.records_iff, htoken, true_and,
      forall_eq', false_and, or_false]
  have hfind : id ∈ (Postings.ofCorpus corpus).find (normalizer.lemmatize token) ↔
      ∃ doc ∈ corpus.docs, doc.id = id ∧
        normalizer.lemmatize token ∈ doc.tokens.map normalizer.lemmatize := by
    rw [Postings.mem_find_iff]
    refine exists_congr fun doc => and_congr_right fun hdoc => and_congr_right fun _ => ?_
    exact hmade.mem_lemmaGroups_iff hdoc
  rw [BooleanSearch.mem_documentsOf_iff, ← hfind]
  constructor
  · rintro ⟨lem, hlem, hid⟩
    rwa [(hmeaning lem).1 hlem]
  · exact fun hid => ⟨_, (hmeaning _).2 rfl, hid⟩

/-- The documents that a token denotes are all of the corpus exactly if none lacks its lemma. -/
theorem documentsOf_eq_docIds_iff
    (hfiled : ∀ (id : DocId) (doc : Document), corpus.get? id = some doc → doc.id = id) :
    (BooleanSearch.ofCorpus corpus).documentsOf token = corpus.docIds ↔
      ∀ doc ∈ corpus.docs, normalizer.lemmatize token ∈ doc.tokens.map normalizer.lemmatize := by
  have hids : ∀ id, id ∈ corpus.docIds ↔ ∃ doc ∈ corpus.docs, doc.id = id := by
    intro id
    rw [← Postings.all_ofCorpus, Postings.mem_all_iff]
  constructor
  · intro heq doc hdoc
    have hid : doc.id ∈ (BooleanSearch.ofCorpus corpus).documentsOf token := by
      rw [heq, hids]
      exact ⟨doc, hdoc, rfl⟩
    obtain ⟨other, hother, hsame, hlem⟩ := (hmade.mem_documentsOf_iff htoken).1 hid
    rwa [Corpus.eq_of_id_eq_of_filed hfiled hother hdoc hsame] at hlem
  · intro h
    refine Std.ExtTreeSet.ext_mem fun id => ?_
    rw [hmade.mem_documentsOf_iff htoken, hids]
    exact exists_congr fun doc => and_congr_right fun hdoc => and_iff_left (h doc hdoc)

variable (hmin : 1 ≤ normalizer.filter.minChars)

include hmin

/-- Searching for a token is answered. -/
theorem search_token : (BooleanSearch.ofCorpus corpus).search token =
    .ok ((BooleanSearch.ofCorpus corpus).documentsOf token) := by
  obtain ⟨doc, hdoc, hmem⟩ := htoken
  have hlex : Query.lex token = [.operand token] :=
    Normalizer.lex_of_mem_tokenize hmin (hmade.tokens_eq hdoc ▸ hmem)
  have hderives : Query.Derives .expression (Query.lex token) (.word token) := by
    rw [hlex]
    exact .ofTerm (.ofFactor (.ofPrimary .word))
  exact BooleanSearch.search_eq_value hderives

/-- As a text, a token has its lemma only. -/
theorem lemmas_token : normalizer.lemmas token = [normalizer.lemmatize token] := by
  obtain ⟨doc, hdoc, hmem⟩ := htoken
  rw [Normalizer.lemmas, Normalizer.tokenize_of_mem_tokenize hmin (hmade.tokens_eq hdoc ▸ hmem),
    List.map_singleton]

/-- Ranking for a token finds the documents with its lemma, provided that some document does not
have it. -/
theorem mem_map_doc_rank_iff (walks : Walks)
    (hfiled : ∀ (id : DocId) (doc : Document), corpus.get? id = some doc → doc.id = id) :
    id ∈ ((Snapshot.ofCorpus corpus : Snapshot Nat ℝ).rank walks normalizer token).map (·.doc) ↔
      (∃ doc ∈ corpus.docs, doc.id = id ∧
        normalizer.lemmatize token ∈ doc.tokens.map normalizer.lemmatize) ∧
      ∃ doc ∈ corpus.docs,
        normalizer.lemmatize token ∉ doc.tokens.map normalizer.lemmatize := by
  have hdiscriminates : (Statistics.ofCorpus corpus : Statistics Nat).lemmas.Discriminates
      (normalizer.lemmatize token) ↔ ∃ doc ∈ corpus.docs,
        normalizer.lemmatize token ∉ doc.tokens.map normalizer.lemmatize := by
    obtain ⟨doc, hdoc, hmem⟩ := htoken
    have hpos : 0 < (Statistics.ofCorpus corpus : Statistics Nat).lemmas.documentFrequency
        (normalizer.lemmatize token) :=
      (Statistics.documentFrequency_lemmas_pos_iff corpus.fits_nat hfiled).2
        ⟨doc, hdoc, (hmade.contains_lemmas_iff hdoc).2 (List.mem_map_of_mem hmem)⟩
    refine (and_iff_right hpos).trans
      ((Statistics.documentFrequency_lemmas_lt_iff corpus.fits_nat hfiled).trans ?_)
    refine exists_congr fun doc => and_congr_right fun hdoc => ?_
    rw [← hmade.contains_lemmas_iff hdoc, Bool.not_eq_true]
  rw [Snapshot.mem_map_doc_rank_iff hfiled, hmade.lemmas_token htoken hmin, ← hdiscriminates]
  simp only [List.mem_singleton, exists_eq_left]
  constructor
  · rintro ⟨doc, hdoc, hid, hlem, h⟩
    exact ⟨⟨doc, hdoc, hid, (hmade.contains_lemmas_iff hdoc).1 hlem⟩, h⟩
  · rintro ⟨⟨doc, hdoc, hid, hlem⟩, h⟩
    exact ⟨doc, hdoc, hid, (hmade.contains_lemmas_iff hdoc).2 hlem, h⟩

end Corpus.MadeBy

namespace Snapshot

/-- Searching for a token finds the documents that have a token with its lemma. Ranking for it finds
the same documents, unless they are all of the corpus : then it finds nothing. -/
theorem search_rank_token {docs : List Document} {urls : Std.ExtTreeMap DocId String}
    {normalizer : Normalizer} {token : String} (hmin : 1 ≤ normalizer.filter.minChars)
    (hmade : ((Corpus.ofDocuments docs).withUrls urls).MadeBy normalizer)
    (htoken : ∃ doc ∈ ((Corpus.ofDocuments docs).withUrls urls).docs, token ∈ doc.tokens) :
    let corpus := (Corpus.ofDocuments docs).withUrls urls
    let snapshot : Snapshot Nat ℝ := ofCorpus corpus
    ∃ found, snapshot.search token = .ok found ∧
      (∀ id, id ∈ found ↔ ∃ doc ∈ corpus.docs, doc.id = id ∧
        normalizer.lemmatize token ∈ doc.tokens.map normalizer.lemmatize) ∧
      ∀ walks, (found ≠ corpus.docIds →
          ∀ id, id ∈ (snapshot.rank walks normalizer token).map (·.doc) ↔ id ∈ found) ∧
        (found = corpus.docIds → snapshot.rank walks normalizer token = []) := by
  intro corpus snapshot
  have hfiled : ∀ (id : DocId) (doc : Document), corpus.get? id = some doc → doc.id = id :=
    fun _ _ => Corpus.id_eq_of_get?_ofDocuments
  -- a document without the lemma is one that the search does not find
  have hrank : ∀ walks id, id ∈ (snapshot.rank walks normalizer token).map (·.doc) ↔
      id ∈ (BooleanSearch.ofCorpus corpus).documentsOf token ∧
        (BooleanSearch.ofCorpus corpus).documentsOf token ≠ corpus.docIds := by
    intro walks id
    rw [ne_eq, hmade.documentsOf_eq_docIds_iff htoken hfiled, hmade.mem_documentsOf_iff htoken]
    simp only [not_forall, exists_prop]
    exact hmade.mem_map_doc_rank_iff htoken hmin walks hfiled
  refine ⟨_, hmade.search_token htoken hmin, fun _ => hmade.mem_documentsOf_iff htoken,
    fun walks => ⟨?_, ?_⟩⟩
  · exact fun hne id => (hrank walks id).trans (and_iff_left hne)
  · intro heq
    refine List.eq_nil_iff_forall_not_mem.2 fun hit hhit => ?_
    exact ((hrank walks hit.doc).1 (List.mem_map_of_mem hhit)).2 heq

/-- Three texts, of which two have a form of one word. -/
def catsAndHouse : List Document :=
  [stemming.normalize 1 "Коты и дом", stemming.normalize 2 "Кот", stemming.normalize 3 "дом"]

/-- The plural finds both texts that have the word, by searching and by ranking. -/
theorem search_rank_cats :
    let corpus := (Corpus.ofDocuments catsAndHouse).withUrls ∅
    let snapshot : Snapshot Nat ℝ := ofCorpus corpus
    1 ≤ stemming.filter.minChars ∧ corpus.MadeBy stemming ∧
      (∃ doc ∈ corpus.docs, "коты" ∈ doc.tokens) ∧
      ∃ found, snapshot.search "коты" = .ok found ∧ found.toList = [1, 2] ∧
        ∀ walks id, id ∈ (snapshot.rank walks stemming "коты").map (·.doc) ↔ id ∈ found := by
  intro corpus snapshot
  have hmin : 1 ≤ stemming.filter.minChars := by decide
  have hmade : corpus.MadeBy stemming := by
    intro doc hdoc
    have hmem : doc ∈ catsAndHouse := Corpus.mem_of_mem_docs_ofDocuments hdoc
    simp only [catsAndHouse, List.mem_cons, List.not_mem_nil, or_false] at hmem
    rcases hmem with rfl | rfl | rfl <;> rfl
  have htoken : ∃ doc ∈ corpus.docs, "коты" ∈ doc.tokens :=
    ⟨stemming.normalize 1 "Коты и дом",
      Corpus.mem_docs_iff.2 ⟨1, (Corpus.get?_ofDocuments _ _).trans rfl⟩, by decide +kernel⟩
  obtain ⟨found, hfound, -, hrank⟩ := search_rank_token hmin hmade htoken
  have hlist : ((BooleanSearch.ofCorpus corpus).search "коты").toOption.map (·.toList) =
      some [1, 2] := by
    decide +kernel
  have hids : corpus.docIds.toList = [1, 2, 3] := by decide +kernel
  have hboolean : (BooleanSearch.ofCorpus corpus).search "коты" = .ok found := hfound
  rw [hboolean] at hlist
  have htwo : found.toList = [1, 2] := Option.some.inj hlist
  refine ⟨hmin, hmade, htoken, found, hfound, htwo, fun walks => (hrank walks).1 ?_⟩
  rintro rfl
  rw [hids] at htwo
  cases htwo

end Snapshot

end Concordance
