import Concordance.Listing.UrlIndex
import Concordance.Proofs.Inversion
import Concordance.Proofs.Listing.Document

/-!
# Corpora that can be listed

A corpus made from documents files under each number the last document that has it
(`Corpus.get?_ofDocuments`). A corpus is recorded if each of its documents can be listed and is filed
under its own number. The texts in the files of a kind are those of its documents (`Corpus.files`).
-/

namespace Concordance.Corpus

variable {corpus : Corpus} {list : List Document} {id : DocId} {doc : Document}

/-! ## Corpora made from documents -/

/-- Of several documents with one number the last one counts. -/
theorem get?_ofDocuments (list : List Document) (id : DocId) :
    (ofDocuments list).get? id = list.reverse.find? (·.id == id) := by
  have hdocs : (ofDocuments list).documents = .ofList (list.map fun doc => (doc.id, doc)) := by
    rw [Std.ExtTreeMap.ofList_eq_foldl, List.foldl_map]
    rfl
  rw [get?, hdocs, getElem?_ofList, ← List.map_reverse, List.find?_map, Option.map_map]
  exact Option.map_id'

/-- If no two documents have one number, each counts. -/
theorem get?_ofDocuments_eq_some_iff
    (hunique : ∀ d ∈ list, ∀ d' ∈ list, d.id = d'.id → d = d') :
    (ofDocuments list).get? id = some doc ↔ doc ∈ list ∧ doc.id = id := by
  rw [get?_ofDocuments]
  constructor
  · intro h
    exact ⟨List.mem_reverse.1 (List.mem_of_find?_eq_some h), by simpa using List.find?_some h⟩
  · rintro ⟨hmem, rfl⟩
    cases h : list.reverse.find? (·.id == doc.id) with
    | none =>
      have hnone := List.find?_eq_none.1 h doc (List.mem_reverse.2 hmem)
      simp at hnone
    | some other =>
      have hother : other.id = doc.id := by simpa using List.find?_some h
      rw [hunique other (List.mem_reverse.1 (List.mem_of_find?_eq_some h)) doc hmem hother]

/-- A corpus is made of no documents only if it has none. -/
theorem documents_ofDocuments_eq_empty_iff : (ofDocuments list).documents = ∅ ↔ list = [] := by
  refine ⟨fun hempty => List.eq_nil_iff_forall_not_mem.2 fun doc hdoc => ?_, fun h => h ▸ rfl⟩
  have hnone : (ofDocuments list).get? doc.id = none := by
    rw [get?, hempty, Std.ExtTreeMap.getElem?_empty]
  rw [get?_ofDocuments, List.find?_eq_none] at hnone
  exact hnone doc (List.mem_reverse.2 hdoc) (beq_self_eq_true doc.id)

theorem mem_of_mem_docs_ofDocuments (h : doc ∈ (ofDocuments list).docs) : doc ∈ list := by
  obtain ⟨id, hget⟩ := mem_docs_iff.1 h
  rw [get?_ofDocuments] at hget
  exact List.mem_reverse.1 (List.mem_of_find?_eq_some hget)

/-! ## What is listed -/

/-- A corpus whose documents can be listed. -/
structure Recorded (corpus : Corpus) : Prop where
  /-- A document is filed under its own number. -/
  filed : ∀ (id : DocId) (doc : Document), corpus.get? id = some doc → doc.id = id
  /-- Each document can be listed. -/
  documents : ∀ doc ∈ corpus.docs, doc.Recorded

/-- No lemma of a document has a colon. -/
def ColonFree (corpus : Corpus) : Prop :=
  ∀ doc ∈ corpus.docs, doc.lemmaGroups.ColonFree

/-- One text for each document. -/
def files (corpus : Corpus) (content : Document → String) : Std.ExtTreeMap DocId String :=
  corpus.documents.map fun _ doc => content doc

variable {content : Document → String}

theorem getElem?_files (h : corpus.get? id = some doc) :
    (corpus.files content)[id]? = some (content doc) := by
  rw [files, Std.ExtTreeMap.getElem?_map, show corpus.documents[id]? = some doc from h]
  rfl

theorem keys_files : (corpus.files content).keys = corpus.ids :=
  Std.ExtTreeMap.keys_map

theorem isEmpty_files_iff : (corpus.files content).isEmpty ↔ corpus.documents = ∅ := by
  rw [Std.ExtTreeMap.isEmpty_iff, files, Std.ExtTreeMap.map_eq_empty_iff]

theorem pairwise_ids (corpus : Corpus) : corpus.ids.Pairwise (· ≤ ·) := by
  refine Std.ExtTreeMap.ordered_keys.imp fun h => Std.isLE_compare.1 ?_
  rw [h]
  rfl

theorem mem_ids_iff : id ∈ corpus.ids ↔ ∃ doc, corpus.get? id = some doc := by
  rw [ids, Std.ExtTreeMap.mem_keys, Std.ExtTreeMap.mem_iff_isSome_getElem?, Option.isSome_iff_exists]
  rfl

/-- A corpus has the numbers of the documents that it is made from. -/
theorem mem_ids_ofDocuments_iff : id ∈ (ofDocuments list).ids ↔ ∃ doc ∈ list, doc.id = id := by
  simp only [mem_ids_iff, get?_ofDocuments, ← Option.isSome_iff_exists, List.find?_isSome,
    List.mem_reverse, beq_iff_eq]

/-- The files of one more document. -/
theorem files_insert (content : Document → String) (documents : Std.ExtTreeMap DocId Document)
    (urls : Std.ExtTreeMap DocId String) (doc : Document) :
    files ⟨documents.insert doc.id doc, urls⟩ content =
      (files ⟨documents, urls⟩ content).insert doc.id (content doc) := by
  refine Std.ExtTreeMap.ext_getElem? fun id => ?_
  simp only [files, Std.ExtTreeMap.getElem?_map, Std.ExtTreeMap.getElem?_insert]
  split
  · rfl
  · rfl

end Concordance.Corpus
