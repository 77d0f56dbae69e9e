import Concordance.Proofs.Build.Steps
import Concordance.Proofs.Index.Loading

/-!
# Writing the listings

Into cleared directories the documents of a corpus are written one after the other; each adds its
listings to those that are there (`saveDocument_yields`), so that at the end the directories hold
the listings of the corpus (`saveDocuments_yields`, `rewriteListings_yields`). In the same way the
weights are written (`writeWeightsOf_yields`).
-/

namespace Concordance.Build

open FileTree FileTree.Edit

variable {layout : Layout} {tree : FileTree} {root : Place} {sub : String}

/-- One file more in a directory of documents. -/
theorem saveText_yields {files : Std.ExtTreeMap DocId String} (h : tree.Holds (sub :: root) files)
    (hroot : tree.get? root = some .directory) (id : DocId) (text : String) :
    Yields (Index.saveText (id.fileName "txt" :: sub :: root) text) tree True fun _ tree' =>
      tree'.Holds (sub :: root) (files.insert id text) ∧ AgreeOutside root [sub] tree tree' := by
  obtain ⟨tree', hsave, hholds, hagree⟩ := h.exists_save hroot id text
  refine Yields.change_of_ok ?_ ⟨hholds, hagree⟩
  rw [hsave]
  rfl

/-! ## Documents -/

/-- The directories of the listings of documents. -/
def documentDirs : List String := ["texts", "tokens", "lemmas"]

/-- A document adds its listings to those that are there. -/
theorem saveDocument_yields {documents : Std.ExtTreeMap DocId Document}
    {urls : Std.ExtTreeMap DocId String} (h : Index.Listed layout ⟨documents, urls⟩ tree)
    (hroot : tree.get? layout.root = some .directory) (doc : Document) :
    Yields (Index.saveDocument layout doc) tree True fun _ tree' =>
      Index.Listed layout ⟨documents.insert doc.id doc, urls⟩ tree' ∧
        AgreeOutside layout.root documentDirs tree tree' := by
  refine ((saveText_yields h.texts hroot doc.id doc.text).bind fun _ mid hmid => ?_).congr_guard
    and_self_iff
  obtain ⟨htexts, hagree⟩ := hmid
  have htokens := h.tokens.congr fun place hplace => hagree.below (by decide) hplace
  refine ((saveText_yields htokens (hagree.directory hroot) doc.id
    (TokenListing.render doc.tokens)).bind fun _ mid' hmid' => ?_).congr_guard and_self_iff
  obtain ⟨htokens, hagree'⟩ := hmid'
  have hboth := hagree.trans hagree'
  have hlemmas := h.lemmas.congr fun place hplace => hboth.below (by decide) hplace
  refine (saveText_yields hlemmas (hboth.directory hroot) doc.id
    (LemmaIndex.render doc.lemmaGroups)).imp Iff.rfl ?_
  rintro - - tree' ⟨hlemmas, hagree''⟩
  refine ⟨⟨?_, ?_, ?_⟩, hboth.trans hagree''⟩
  · rw [Corpus.files_insert]
    exact htexts.congr fun place hplace => (hagree'.trans hagree'').below (by decide) hplace
  · rw [Corpus.files_insert]
    exact htokens.congr fun place hplace => hagree''.below (by decide) hplace
  · rw [Corpus.files_insert]
    exact hlemmas

/-- Where nothing is listed, the listings of the corpus of some documents are written. -/
theorem saveDocuments_yields (docs : List Document)
    (hclear : ∀ sub ∈ documentDirs, ∀ place, sub :: layout.root <:+ place → tree.get? place = none)
    (hroot : tree.get? layout.root = some .directory) :
    Yields (docs.forM fun doc => editIndex (Index.saveDocument layout doc)) tree True fun _ tree' =>
      Index.Listed layout (Corpus.ofDocuments docs) tree' ∧
        AgreeOutside layout.root documentDirs tree tree' := by
  refine Yields.forM (fun documents tree' => Index.Listed layout ⟨documents, ∅⟩ tree' ∧
    AgreeOutside layout.root documentDirs tree tree') (fun doc _ documents mid hmid => ?_) ?_
  · obtain ⟨hlisted, hagree⟩ := hmid
    refine (saveDocument_yields hlisted (hagree.directory hroot) doc).adapt.imp Iff.rfl ?_
    exact fun _ _ tree' h => ⟨h.1, (hagree.trans h.2).mono (by simp)⟩
  · have hempty : ∀ content, Corpus.files ⟨∅, ∅⟩ content = ∅ := fun content =>
      Std.ExtTreeMap.map_eq_empty_iff.2 rfl
    refine ⟨⟨?_, ?_, ?_⟩, .refl _ _ _⟩ <;> rw [hempty]
    · exact .empty (hclear "texts" (by decide))
    · exact .empty (hclear "tokens" (by decide))
    · exact .empty (hclear "lemmas" (by decide))

/-- What an earlier build left of its corpus is removed, and the listings of some documents are
written. -/
def rewriteListings (layout : Layout) (docs : List Document) : Edit Failure Unit := do
  removeFile layout.corpus
  [layout.textsDir, layout.tokensDir, layout.lemmasDir].forM clear
  docs.forM fun doc => editIndex (Index.saveDocument layout doc)

/-- The listings are rewritten unless the corpus in binary form is a directory, or a file stands in the
place of their directories. -/
theorem rewriteListings_yields (docs : List Document)
    (hroot : tree.get? layout.root = some .directory) :
    Yields (rewriteListings layout docs) tree
      (tree.get? layout.corpus ≠ some .directory ∧ NoFiles layout.root documentDirs tree)
      fun _ tree' => Index.Listed layout (Corpus.ofDocuments docs) tree' ∧
        tree'.get? layout.corpus = none ∧
        AgreeOutside layout.root ("corpus.bin" :: documentDirs) tree tree' := by
  refine (removeFile_yields hroot).bind fun _ mid₁ h₁ => ?_
  obtain ⟨hnone, hagree₁⟩ := h₁
  -- the three directories are still as they were
  have hfree := hagree₁.noFiles_iff (by decide : ∀ sub ∈ documentDirs, _)
  refine (((forM_clear_yields (by decide) (hagree₁.directory hroot)).congr_guard hfree).bind
    fun _ mid₂ h₂ => ?_).congr_guard (and_iff_left trivial)
  obtain ⟨hclear, hagree₂⟩ := h₂
  have hroot₂ := (hagree₁.trans hagree₂).directory hroot
  refine (saveDocuments_yields docs hclear hroot₂).imp Iff.rfl ?_
  rintro - - tree' ⟨hlisted, hagree₃⟩
  have hafter := hagree₂.trans hagree₃
  exact ⟨hlisted, (hafter.entry (by decide)).trans hnone, (hagree₁.trans hafter).mono (by decide)⟩

/-! ## Weights -/

/-- The directories of the weight listings. -/
def weightDirs : List String := ["tfidf_tokens", "tfidf_lemmas"]

/-- The weight listing of each document, for one vocabulary. -/
def weightFiles (corpus : Corpus) (vocabulary : Vocabulary) : Std.ExtTreeMap DocId String :=
  corpus.documents.map fun id _ => ((Statistics.ofCorpus corpus).space vocabulary).renderWeights id

theorem foldl_insert_ids (corpus : Corpus) (f : DocId → String) :
    corpus.ids.foldl (fun files id => files.insert id (f id)) (∅ : Std.ExtTreeMap DocId String) =
      corpus.documents.map fun id _ => f id := by
  have hfold : ∀ (ids : List DocId) (files : Std.ExtTreeMap DocId String) (k : DocId),
      (ids.foldl (fun files id => files.insert id (f id)) files)[k]? =
        if k ∈ ids then some (f k) else files[k]? := by
    intro ids
    induction ids with
    | nil => simp
    | cons id ids ih =>
      intro files k
      rw [List.foldl_cons, ih, Std.ExtTreeMap.getElem?_insert]
      by_cases hid : id = k
      · simp [hid]
      · have hne : compare id k ≠ .eq := mt Std.LawfulEqCmp.eq_of_compare hid
        simp [hne, eq_comm (a := k), hid]
  refine Std.ExtTreeMap.ext_getElem? fun k => ?_
  have hmem : k ∈ corpus.ids ↔ corpus.documents[k]?.isSome := by
    rw [Corpus.ids, Std.ExtTreeMap.mem_keys, Std.ExtTreeMap.mem_iff_isSome_getElem?]
  rw [hfold, Std.ExtTreeMap.getElem?_map]
  cases hget : corpus.documents[k]? with
  | none => rw [if_neg (by simp [hmem, hget]), Std.ExtTreeMap.getElem?_empty, Option.map_none]
  | some doc => rw [if_pos (by simp [hmem, hget]), Option.map_some]

/-- Write the weight listings of all documents, for one vocabulary. -/
def saveVocabulary (layout : Layout) (corpus : Corpus) (vocabulary : Vocabulary) :
    Edit Index.Failure Unit :=
  corpus.ids.forM fun id => Index.saveText (layout.weights vocabulary id)
    (((Statistics.ofCorpus corpus).space vocabulary).renderWeights id)

theorem saveWeights_eq (corpus : Corpus) : Index.saveWeights layout corpus (.ofCorpus corpus) =
    [Vocabulary.tokens, Vocabulary.lemmas].forM (saveVocabulary layout corpus) := rfl

/-- Into a cleared directory the weights of all documents are written. -/
theorem saveVocabulary_yields (corpus : Corpus) (vocabulary : Vocabulary)
    (hdir : layout.weightsDir vocabulary = sub :: layout.root)
    (hclear : ∀ place, sub :: layout.root <:+ place → tree.get? place = none)
    (hroot : tree.get? layout.root = some .directory) :
    Yields (saveVocabulary layout corpus vocabulary) tree True fun _ tree' =>
      tree'.Holds (sub :: layout.root) (weightFiles corpus vocabulary) ∧
        AgreeOutside layout.root [sub] tree tree' := by
  rw [weightFiles, ← foldl_insert_ids]
  refine Yields.forM (fun files tree' => tree'.Holds (sub :: layout.root) files ∧
    AgreeOutside layout.root [sub] tree tree') (fun id _ files mid hmid => ?_)
    ⟨.empty hclear, .refl _ _ _⟩
  obtain ⟨hholds, hagree⟩ := hmid
  rw [Layout.weights, hdir]
  refine (saveText_yields hholds (hagree.directory hroot) id _).imp Iff.rfl ?_
  exact fun _ _ tree' h => ⟨h.1, (hagree.trans h.2).mono (by simp)⟩

/-- The weight listings of a corpus replace those of an earlier build, unless a file stands in the
place of their directories. -/
theorem writeWeightsOf_yields (corpus : Corpus) (hroot : tree.get? layout.root = some .directory) :
    Yields (writeWeightsOf layout corpus) tree
      (NoFiles layout.root weightDirs tree) fun _ tree' =>
        (∀ vocabulary, tree'.Holds (layout.weightsDir vocabulary) (weightFiles corpus vocabulary)) ∧
          AgreeOutside layout.root weightDirs tree tree' := by
  have hsave : ∀ mid, ((∀ sub ∈ weightDirs, ∀ place, sub :: layout.root <:+ place →
        mid.get? place = none) ∧ AgreeOutside layout.root weightDirs tree mid) →
      Yields (Index.saveWeights layout corpus (.ofCorpus corpus)) mid True fun _ tree' =>
        (∀ vocabulary, tree'.Holds (layout.weightsDir vocabulary) (weightFiles corpus vocabulary)) ∧
          AgreeOutside layout.root weightDirs tree tree' := by
    rintro mid ⟨hclear, hagree⟩
    rw [saveWeights_eq]
    refine ((saveVocabulary_yields corpus .tokens rfl (hclear "tfidf_tokens" (by decide))
      (hagree.directory hroot)).forM_cons fun mid' hmid' => ?_).congr_guard and_self_iff
    obtain ⟨htokens, hagree'⟩ := hmid'
    have hclear' : ∀ place, "tfidf_lemmas" :: layout.root <:+ place → mid'.get? place = none :=
      fun place hplace => (hagree'.below (by decide) hplace).trans
        (hclear "tfidf_lemmas" (by decide) place hplace)
    have hboth := hagree.trans hagree'
    refine ((saveVocabulary_yields corpus .lemmas rfl hclear' (hboth.directory hroot)).forM_cons
      fun last hlast => (Yields.forM_nil _).imp Iff.rfl ?_).congr_guard and_self_iff
    rintro - - tree' rfl
    obtain ⟨hlemmas, hagree''⟩ := hlast
    refine ⟨fun vocabulary => ?_, (hboth.trans hagree'').mono (by decide)⟩
    cases vocabulary with
    | tokens => exact htokens.congr fun place hplace => hagree''.below (by decide) hplace
    | lemmas => exact hlemmas
  have hclear := forM_clear_yields (by decide : weightDirs.Nodup) hroot
  exact (hclear.bind fun _ mid hmid => (hsave mid hmid).adapt).congr_guard (and_iff_left trivial)

end Concordance.Build
