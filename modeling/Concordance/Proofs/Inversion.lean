import Concordance.BooleanSearch
import Concordance.Proofs.Contents

/-!
# Inverted maps

Postings and the lemmas of tokens are built alike : pairs of a key and a value are entered one
after the other into a map from keys to sets (`enter`). The map then holds under each key
exactly the values it was paired with, and no empty set (`mem_invert_iff`,
`exists_mem_of_getElem?_invert`).

For the postings of a corpus this says which documents a lemma is found in
(`Postings.mem_find_iff`), for the lemmas of tokens under which lemmas a word is recorded
(`BooleanSearch.mem_tokenLemmas_iff`). A corpus made of documents files each of them under its
own number, so a number stands for one document (`Corpus.eq_of_id_eq_of_filed`).
-/

set_option linter.unusedSectionVars false

namespace Concordance

/-! ## Entering pairs -/

section Enter

variable {κ β : Type} [Ord κ] [Std.TransOrd κ] [Std.LawfulEqOrd κ] [Ord β] [Std.TransOrd β]
  [Std.LawfulEqOrd β]

/-- Enter a value under a key. -/
def enter (map : Std.ExtTreeMap κ (Std.ExtTreeSet β)) (pair : κ × β) :
    Std.ExtTreeMap κ (Std.ExtTreeSet β) :=
  map.insert pair.1 ((map[pair.1]?.getD ∅).insert pair.2)

/-- The map that holds each value under its keys. -/
def invert (pairs : List (κ × β)) : Std.ExtTreeMap κ (Std.ExtTreeSet β) :=
  pairs.foldl enter ∅

theorem mem_getD_enter_iff {map : Std.ExtTreeMap κ (Std.ExtTreeSet β)} {pair : κ × β} {k : κ}
    {x : β} : x ∈ (enter map pair)[k]?.getD ∅ ↔ pair = (k, x) ∨ x ∈ map[k]?.getD ∅ := by
  obtain ⟨k', y⟩ := pair
  by_cases hk : k' = k
  · subst hk
    rw [enter, Std.ExtTreeMap.getElem?_insert_self, Option.getD_some, Std.ExtTreeSet.mem_insert,
      Std.LawfulEqCmp.compare_eq_iff_eq, Prod.mk.injEq]
    exact or_congr_left (by simp)
  · rw [enter, Std.ExtTreeMap.getElem?_insert, if_neg (mt Std.LawfulEqCmp.compare_eq_iff_eq.1 hk)]
    simp [hk]

theorem mem_getD_foldl_enter_iff {k : κ} {x : β} :
    ∀ (pairs : List (κ × β)) (map : Std.ExtTreeMap κ (Std.ExtTreeSet β)),
      x ∈ (pairs.foldl enter map)[k]?.getD ∅ ↔ (k, x) ∈ pairs ∨ x ∈ map[k]?.getD ∅
  | [], map => by simp
  | pair :: pairs, map => by
    rw [List.foldl_cons, mem_getD_foldl_enter_iff pairs, mem_getD_enter_iff, List.mem_cons,
      or_assoc, or_left_comm, eq_comm]

/-- A value is held under exactly the keys it was paired with. -/
theorem mem_invert_iff {pairs : List (κ × β)} {k : κ} {x : β} :
    x ∈ (invert pairs)[k]?.getD ∅ ↔ (k, x) ∈ pairs := by
  rw [invert, mem_getD_foldl_enter_iff]
  simp

theorem mem_foldl_enter_iff {k : κ} :
    ∀ (pairs : List (κ × β)) (map : Std.ExtTreeMap κ (Std.ExtTreeSet β)),
      k ∈ pairs.foldl enter map ↔ (∃ x, (k, x) ∈ pairs) ∨ k ∈ map
  | [], map => by simp
  | (k', y) :: pairs, map => by
    rw [List.foldl_cons, mem_foldl_enter_iff pairs, enter, Std.ExtTreeMap.mem_insert,
      Std.LawfulEqCmp.compare_eq_iff_eq]
    simp only [List.mem_cons, Prod.mk.injEq, exists_or, exists_and_left, exists_eq, and_true,
      eq_comm (a := k')]
    rw [or_assoc, or_left_comm]

/-- A key that was paired with nothing holds no set. -/
theorem getElem?_invert_eq_none_iff {pairs : List (κ × β)} {k : κ} :
    (invert pairs)[k]? = none ↔ ∀ x, (k, x) ∉ pairs := by
  rw [← Option.not_isSome_iff_eq_none, Std.ExtTreeMap.isSome_getElem?_iff_mem, invert,
    mem_foldl_enter_iff]
  simp

/-- No set that is held is empty. -/
theorem exists_mem_of_getElem?_invert {pairs : List (κ × β)} {k : κ} {s : Std.ExtTreeSet β}
    (h : (invert pairs)[k]? = some s) : ∃ x, x ∈ s := by
  refine Classical.byContradiction fun hempty => ?_
  have hnone : (invert pairs)[k]? = none := by
    refine getElem?_invert_eq_none_iff.2 fun x hx => hempty ⟨x, ?_⟩
    have hmem := mem_invert_iff.2 hx
    rwa [h, Option.getD_some] at hmem
  rw [h] at hnone
  cases hnone

end Enter

/-! ## Documents of a corpus -/

namespace Corpus

/-- The documents are the values of the map. -/
theorem docs_eq (corpus : Corpus) : corpus.docs = corpus.documents.toList.map Prod.snd :=
  values_eq corpus.documents

theorem mem_docs_iff {corpus : Corpus} {doc : Document} :
    doc ∈ corpus.docs ↔ ∃ id, corpus.get? id = some doc := by
  rw [docs_eq, List.mem_map]
  constructor
  · rintro ⟨⟨id, doc⟩, hmem, rfl⟩
    exact ⟨id, Std.ExtTreeMap.mem_toList_iff_getElem?_eq_some.1 hmem⟩
  · rintro ⟨id, hget⟩
    exact ⟨(id, doc), Std.ExtTreeMap.mem_toList_iff_getElem?_eq_some.2 hget, rfl⟩

/-- Documents that are filed under their own numbers have different numbers. -/
theorem pairwise_docs {corpus : Corpus}
    (hfiled : ∀ (id : DocId) (doc : Document), corpus.get? id = some doc → doc.id = id) :
    corpus.docs.Pairwise (·.id ≠ ·.id) := by
  have hid : ∀ entry ∈ corpus.documents.toList, entry.2.id = entry.1 := fun entry hentry =>
    hfiled entry.1 entry.2 (Std.ExtTreeMap.mem_toList_iff_getElem?_eq_some.1 hentry)
  rw [docs_eq, List.pairwise_map]
  refine Std.ExtTreeMap.distinct_keys_toList.imp_of_mem fun {a b} ha hb hne => ?_
  rw [hid a ha, hid b hb]
  exact mt Std.LawfulEqCmp.compare_eq_iff_eq.2 hne

/-- A corpus made of documents files each of them under its number. -/
theorem id_eq_of_get?_ofDocuments {list : List Document} {id : DocId} {doc : Document}
    (h : (ofDocuments list).get? id = some doc) : doc.id = id := by
  have hfold : ∀ (list : List Document) (map : Std.ExtTreeMap DocId Document),
      (∀ (id : DocId) (doc : Document), map[id]? = some doc → doc.id = id) →
      ∀ (id : DocId) (doc : Document),
        (list.foldl (fun map doc => map.insert doc.id doc) map)[id]? = some doc →
        doc.id = id := by
    intro list
    induction list with
    | nil => exact fun map hmap => hmap
    | cons d list ih =>
      intro map hmap
      refine ih _ fun id doc hget => ?_
      rw [Std.ExtTreeMap.getElem?_insert] at hget
      split at hget
      · next hid =>
        rw [← Option.some.inj hget]
        exact Std.LawfulEqCmp.compare_eq_iff_eq.1 hid
      · exact hmap id doc hget
  exact hfold list ∅ (by simp) id doc h

/-- Documents that are filed under their own numbers are told apart by them. -/
theorem eq_of_id_eq_of_filed {corpus : Corpus} {doc doc' : Document}
    (hfiled : ∀ (id : DocId) (doc : Document), corpus.get? id = some doc → doc.id = id)
    (h : doc ∈ corpus.docs) (h' : doc' ∈ corpus.docs) (hid : doc.id = doc'.id) : doc = doc' := by
  obtain ⟨id, hget⟩ := mem_docs_iff.1 h
  obtain ⟨id', hget'⟩ := mem_docs_iff.1 h'
  have heq : id = id' := by
    rw [← hfiled id doc hget, ← hfiled id' doc' hget', hid]
  rw [heq, hget'] at hget
  exact (Option.some.inj hget).symm

end Corpus

/-! ## Postings -/

namespace Postings

theorem lists_foldl_addDocument : ∀ (docs : List Document) (postings : Postings),
    (docs.foldl addDocument postings).lists =
      (docs.flatMap fun doc => doc.lemmas.map fun lem => (lem, doc.id)).foldl enter postings.lists
  | [], _ => rfl
  | doc :: docs, postings => by
    rw [List.foldl_cons, lists_foldl_addDocument docs, List.flatMap_cons, List.foldl_append,
      List.foldl_map]
    rfl

theorem mem_all_foldl_addDocument {id : DocId} : ∀ (docs : List Document) (postings : Postings),
    id ∈ (docs.foldl addDocument postings).all ↔
      (∃ doc ∈ docs, doc.id = id) ∨ id ∈ postings.all
  | [], _ => by simp
  | doc :: docs, postings => by
    rw [List.foldl_cons, mem_all_foldl_addDocument docs, addDocument, Std.ExtTreeSet.mem_insert,
      Std.LawfulEqCmp.compare_eq_iff_eq]
    simp only [List.mem_cons, exists_eq_or_imp]
    rw [or_assoc, or_left_comm]

theorem lists_ofCorpus (corpus : Corpus) : (ofCorpus corpus).lists =
    invert (corpus.docs.flatMap fun doc => doc.lemmas.map fun lem => (lem, doc.id)) :=
  lists_foldl_addDocument corpus.docs empty

/-- A lemma is found in the documents that have it. -/
theorem mem_find_iff {corpus : Corpus} {lem : String} {id : DocId} :
    id ∈ (ofCorpus corpus).find lem ↔
      ∃ doc ∈ corpus.docs, doc.id = id ∧ lem ∈ doc.lemmaGroups := by
  rw [find, get?, lists_ofCorpus, mem_invert_iff]
  simp only [List.mem_flatMap, List.mem_map, Prod.mk.injEq, Document.lemmas,
    Std.ExtTreeMap.mem_keys]
  constructor
  · rintro ⟨doc, hdoc, lem', hlem, rfl, rfl⟩
    exact ⟨doc, hdoc, rfl, hlem⟩
  · rintro ⟨doc, hdoc, rfl, hlem⟩
    exact ⟨doc, hdoc, lem, hlem, rfl, rfl⟩

/-- A document of a corpus is found under the lemmas that it has, and under no others. -/
theorem mem_find_iff_of_mem_docs {corpus : Corpus} {doc : Document} {lem : String}
    (hfiled : ∀ (id : DocId) (doc : Document), corpus.get? id = some doc → doc.id = id)
    (hdoc : doc ∈ corpus.docs) :
    doc.id ∈ (ofCorpus corpus).find lem ↔ lem ∈ doc.lemmaGroups := by
  refine mem_find_iff.trans ⟨?_, fun hlem => ⟨doc, hdoc, rfl, hlem⟩⟩
  rintro ⟨other, hother, hid, hlem⟩
  rwa [Corpus.eq_of_id_eq_of_filed hfiled hother hdoc hid] at hlem

/-- A lemma that no document has is given no list. -/
theorem get?_eq_none_iff {corpus : Corpus} {lem : String} :
    (ofCorpus corpus).get? lem = none ↔ ∀ doc ∈ corpus.docs, lem ∉ doc.lemmaGroups := by
  rw [get?, lists_ofCorpus, getElem?_invert_eq_none_iff]
  simp only [List.mem_flatMap, List.mem_map, Prod.mk.injEq, Document.lemmas,
    Std.ExtTreeMap.mem_keys]
  constructor
  · exact fun h doc hdoc hlem => h doc.id ⟨doc, hdoc, lem, hlem, rfl, rfl⟩
  · rintro h id ⟨doc, hdoc, lem, hlem, rfl, rfl⟩
    exact h doc hdoc hlem

/-- No list is empty. -/
theorem exists_mem_of_get? {corpus : Corpus} {lem : String} {ids : DocSet}
    (h : (ofCorpus corpus).get? lem = some ids) : ∃ id, id ∈ ids := by
  rw [get?, lists_ofCorpus] at h
  exact exists_mem_of_getElem?_invert h

/-- The lemmas with a list are those that are found somewhere. -/
theorem mem_lists_iff {corpus : Corpus} {lem : String} :
    lem ∈ (ofCorpus corpus).lists ↔ ∃ id, id ∈ (ofCorpus corpus).find lem := by
  simp only [find, get?, lists_ofCorpus, mem_invert_iff]
  rw [invert, mem_foldl_enter_iff]
  simp

/-- Negation is taken within the numbers of all documents. -/
theorem mem_all_iff {corpus : Corpus} {id : DocId} :
    id ∈ (ofCorpus corpus).all ↔ ∃ doc ∈ corpus.docs, doc.id = id := by
  rw [ofCorpus, mem_all_foldl_addDocument]
  simp [empty]

/-- A lemma is found in documents of the corpus only. -/
theorem mem_all_of_mem_find {corpus : Corpus} {lem : String} {id : DocId}
    (h : id ∈ (ofCorpus corpus).find lem) : id ∈ (ofCorpus corpus).all := by
  obtain ⟨doc, hdoc, hid, -⟩ := mem_find_iff.1 h
  exact mem_all_iff.2 ⟨doc, hdoc, hid⟩

end Postings

/-! ## Lemmas of tokens -/

/-- Some document of the corpus groups a token that is `word` in lower case under `lem`. -/
def Corpus.Records (corpus : Corpus) (word lem : String) : Prop :=
  ∃ doc ∈ corpus.docs, ∃ tokens, doc.lemmaGroups[lem]? = some tokens ∧
    ∃ token ∈ tokens, Text.lower token = word

namespace BooleanSearch

theorem lemmasOfTokens_eq_invert (corpus : Corpus) : lemmasOfTokens corpus =
    invert (corpus.docs.flatMap fun doc => doc.lemmaGroups.toList.flatMap fun group =>
      group.2.toList.map fun token => (Text.lower token, group.1)) := by
  rw [invert, List.foldl_flatMap]
  simp only [List.foldl_flatMap, List.foldl_map]
  rfl

/-- A word has the lemmas it is recorded under. -/
theorem mem_tokenLemmas_iff {corpus : Corpus} {word lem : String} :
    lem ∈ ((ofCorpus corpus).lemmasFor? word).getD ∅ ↔ corpus.Records word lem := by
  rw [lemmasFor?, ofCorpus, lemmasOfTokens_eq_invert, mem_invert_iff]
  simp only [List.mem_flatMap, List.mem_map, Prod.mk.injEq, Std.ExtTreeSet.mem_toList,
    Corpus.Records]
  constructor
  · rintro ⟨doc, hdoc, ⟨lem', tokens⟩, hgroup, token, htoken, rfl, rfl⟩
    exact ⟨doc, hdoc, tokens, Std.ExtTreeMap.mem_toList_iff_getElem?_eq_some.1 hgroup,
      token, htoken, rfl⟩
  · rintro ⟨doc, hdoc, tokens, hgroup, token, htoken, rfl⟩
    exact ⟨doc, hdoc, (lem, tokens), Std.ExtTreeMap.mem_toList_iff_getElem?_eq_some.2 hgroup,
      token, htoken, rfl, rfl⟩

/-- A word that is not recorded has no set of lemmas. -/
theorem lemmasFor?_eq_none_iff {corpus : Corpus} {word : String} :
    (ofCorpus corpus).lemmasFor? word = none ↔ ∀ lem, ¬corpus.Records word lem := by
  simp only [← mem_tokenLemmas_iff]
  rw [lemmasFor?, ofCorpus, lemmasOfTokens_eq_invert, getElem?_invert_eq_none_iff]
  simp only [mem_invert_iff]

/-- A recorded word has a lemma. -/
theorem toList_ne_nil_of_lemmasFor? {corpus : Corpus} {word : String}
    {lemmas : Std.ExtTreeSet String} (h : (ofCorpus corpus).lemmasFor? word = some lemmas) :
    lemmas.toList ≠ [] := by
  rw [lemmasFor?, ofCorpus, lemmasOfTokens_eq_invert] at h
  obtain ⟨lem, hlem⟩ := exists_mem_of_getElem?_invert h
  exact List.ne_nil_of_mem (Std.ExtTreeSet.mem_toList.2 hlem)

end BooleanSearch

end Concordance
