import Concordance.Proofs.Index.Corpora

/-!
# Postings invert the lemma groups

A corpus holds the lemmas of each document, and its postings the documents of each lemma. The one
is the exact inverse of the other (`Postings.Inverts`) : each document is entered under each of its
lemmas and under no other, so a lemma that no document has is without a list, and documents without
lemmas are counted among all documents. This leaves no choice of the postings
(`Postings.inverts_iff_eq`).

Documents are entered under their own numbers, so the corpus has to file them there. A corpus made
of documents does, and of several with one number it has only the last one
(`Corpus.get?_ofDocuments`), so the others are not entered. `BooleanSearch.inverts_lemmaGroups` says
for these corpora what postings and the lemmas of tokens hold.
-/

namespace Concordance

section Missing

variable {β : Type} [Ord β] [Std.TransOrd β] {found found' : Option (Std.ExtTreeSet β)}

/-- What a set holds that may be missing. -/
theorem exists_mem_iff_mem_getD {x : β} : (∃ set ∈ found, x ∈ set) ↔ x ∈ found.getD ∅ := by
  cases found <;> simp

/-- Sets that hold the same are equal, if they are missing alike. -/
theorem eq_of_mem_getD_iff [Std.LawfulEqOrd β] (hnone : found = none ↔ found' = none)
    (hmem : ∀ x, x ∈ found.getD ∅ ↔ x ∈ found'.getD ∅) : found = found' := by
  cases found with
  | none => exact (hnone.1 rfl).symm
  | some set =>
    cases found' with
    | none => exact hnone.2 rfl
    | some other => exact congrArg some (Std.ExtTreeSet.ext_mem hmem)

end Missing

namespace Postings

/-! ## The inverse of a corpus -/

/-- Postings that hold the lemmas of a corpus, document by document, and nothing else. -/
structure Inverts (postings : Postings) (corpus : Corpus) : Prop where
  /-- A document is in the list of a lemma exactly if it has the lemma. -/
  mem_iff : ∀ doc ∈ corpus.docs, ∀ lem,
    (∃ ids ∈ postings.get? lem, doc.id ∈ ids) ↔ lem ∈ doc.lemmaGroups
  /-- A lemma is without a list exactly if no document has it. -/
  none_iff : ∀ lem, postings.get? lem = none ↔ ∀ doc ∈ corpus.docs, lem ∉ doc.lemmaGroups
  /-- No list is empty. -/
  nonempty : ∀ lem, ∀ ids ∈ postings.get? lem, ∃ id, id ∈ ids
  /-- All documents are those of the corpus. -/
  all_iff : ∀ id, id ∈ postings.all ↔ id ∈ corpus.ids
  /-- Lists hold no others. -/
  subset_all : ∀ lem, ∀ ids ∈ postings.get? lem, ∀ id ∈ ids, id ∈ postings.all

section Filed

variable {corpus : Corpus} {postings : Postings} {id : DocId} {lem : String}
  (hfiled : ∀ (id : DocId) (doc : Document), corpus.get? id = some doc → doc.id = id)

include hfiled

theorem mem_all_iff_mem_ids : id ∈ (ofCorpus corpus).all ↔ id ∈ corpus.ids := by
  rw [mem_all_iff, Corpus.mem_ids_iff]
  constructor
  · rintro ⟨doc, hdoc, rfl⟩
    obtain ⟨id, hget⟩ := Corpus.mem_docs_iff.1 hdoc
    rw [hfiled id doc hget]
    exact ⟨doc, hget⟩
  · rintro ⟨doc, hget⟩
    exact ⟨doc, Corpus.mem_docs_iff.2 ⟨id, hget⟩, hfiled id doc hget⟩

theorem inverts_ofCorpus : (ofCorpus corpus).Inverts corpus where
  mem_iff doc hdoc lem := by
    rw [exists_mem_iff_mem_getD]
    exact mem_find_iff_of_mem_docs hfiled hdoc
  none_iff _ := get?_eq_none_iff
  nonempty _ _ := exists_mem_of_get?
  all_iff _ := mem_all_iff_mem_ids hfiled
  subset_all _ ids hids _ hid := mem_all_of_mem_find (exists_mem_iff_mem_getD.1 ⟨ids, hids, hid⟩)

/-- What is found for a lemma follows from the inverse alone : a number in a list is that of a
document of the corpus, which then has the lemma. -/
theorem Inverts.mem_find_iff_exists (h : postings.Inverts corpus) :
    id ∈ postings.find lem ↔ ∃ doc ∈ corpus.docs, doc.id = id ∧ lem ∈ doc.lemmaGroups := by
  rw [find, ← exists_mem_iff_mem_getD]
  constructor
  · rintro ⟨ids, hids, hid⟩
    have hmem : id ∈ corpus.ids := (h.all_iff id).1 (h.subset_all lem ids hids id hid)
    obtain ⟨doc, hget⟩ := Corpus.mem_ids_iff.1 hmem
    have hdoc : doc ∈ corpus.docs := Corpus.mem_docs_iff.2 ⟨id, hget⟩
    obtain rfl := hfiled id doc hget
    exact ⟨doc, hdoc, rfl, (h.mem_iff doc hdoc lem).1 ⟨ids, hids, hid⟩⟩
  · rintro ⟨doc, hdoc, rfl, hlem⟩
    exact (h.mem_iff doc hdoc lem).2 hlem

/-- No other postings invert the corpus. -/
theorem inverts_iff_eq : postings.Inverts corpus ↔ postings = ofCorpus corpus := by
  refine ⟨fun h => ?_, fun heq => heq ▸ inverts_ofCorpus hfiled⟩
  have hall : postings.all = (ofCorpus corpus).all := Std.ExtTreeSet.ext_mem fun id =>
    (h.all_iff id).trans (mem_all_iff_mem_ids hfiled).symm
  have hlists : postings.lists = (ofCorpus corpus).lists := by
    refine Std.ExtTreeMap.ext_getElem? fun lem => eq_of_mem_getD_iff ?_ fun id => ?_
    · exact (h.none_iff lem).trans get?_eq_none_iff.symm
    · exact (h.mem_find_iff_exists hfiled).trans mem_find_iff.symm
  calc postings
    _ = ⟨postings.lists, postings.all⟩ := rfl
    _ = ofCorpus corpus := by rw [hlists, hall]

end Filed

end Postings

/-! ## Corpora made of documents -/

namespace BooleanSearch

/-- Over a corpus made of documents, whatever they hold and whichever have the same number, the
postings are the inverse of the lemma groups, and a word has exactly the lemmas under which some
document groups a token that is the word in lower case. -/
theorem inverts_lemmaGroups (list : List Document) :
    let corpus := Corpus.ofDocuments list
    let search := ofCorpus corpus
    search.postings.Inverts corpus ∧
    (∀ word lem,
      (∃ lemmas ∈ search.lemmasFor? word, lem ∈ lemmas) ↔ corpus.Records word lem) ∧
    ∀ word, search.lemmasFor? word = none ↔ ∀ lem, ¬corpus.Records word lem := by
  intro corpus search
  refine ⟨?_, fun word lem => ?_, fun word => lemmasFor?_eq_none_iff⟩
  · exact Postings.inverts_ofCorpus fun _ _ => Corpus.id_eq_of_get?_ofDocuments
  · exact exists_mem_iff_mem_getD.trans mem_tokenLemmas_iff

/-- A capitalized token under two lemmas, and a lemma that groups no token. -/
def steel : Document where
  id := 3
  text := "Стали"
  tokens := ["Стали"]
  lemmaGroups :=
    ((LemmaGroups.record ∅ "сталь" "Стали").record "стать" "Стали").insert "дом" ∅

/-- A document that a later one replaces, and one that holds nothing. -/
def catsReplaced : List Document := [
  .ofTokens 1 "Кот" ["кот"] id,
  .ofTokens 2 "" [] id,
  steel,
  .ofTokens 1 "Пёс" ["пёс"] id]

/-- The lemma without tokens has a list and is the lemma of no word, the one of the replaced
document has no list, and the document that holds nothing is one of all. -/
theorem inverts_lemmaGroups_catsReplaced :
    let corpus := Corpus.ofDocuments catsReplaced
    let search := ofCorpus corpus
    steel ∈ corpus.docs ∧
    (∃ ids ∈ search.postings.get? "дом", 3 ∈ ids) ∧
    (∀ word, ¬∃ lemmas ∈ search.lemmasFor? word, "дом" ∈ lemmas) ∧
    (∀ lem ∈ ["сталь", "стать"], ∃ lemmas ∈ search.lemmasFor? "стали", lem ∈ lemmas) ∧
    search.postings.get? "кот" = none ∧
    2 ∈ search.postings.all := by
  intro corpus search
  obtain ⟨hinverts, hrecords, -⟩ := inverts_lemmaGroups catsReplaced
  have hsteel : steel ∈ corpus.docs := by decide +kernel
  have htokens : ∀ doc ∈ corpus.docs, doc.lemmaGroups["дом"]?.getD ∅ = ∅ := by decide +kernel
  refine ⟨hsteel, (hinverts.mem_iff steel hsteel "дом").2 (by decide +kernel), fun word => ?_,
    fun lem hlem => (hrecords "стали" lem).2 ?_, (hinverts.none_iff "кот").2 (by decide +kernel),
    (hinverts.all_iff 2).2 (by decide +kernel)⟩
  · rw [hrecords]
    rintro ⟨doc, hdoc, tokens, hgroup, token, htoken, -⟩
    have hempty := htokens doc hdoc
    rw [hgroup, Option.getD_some] at hempty
    exact Std.ExtTreeSet.not_mem_empty (hempty ▸ htoken)
  · have hgroup : steel.lemmaGroups[lem]? = some (.ofList ["Стали"]) := by
      revert lem
      decide +kernel
    exact ⟨steel, hsteel, _, hgroup, "Стали", by decide +kernel, by decide +kernel⟩

end BooleanSearch

end Concordance
