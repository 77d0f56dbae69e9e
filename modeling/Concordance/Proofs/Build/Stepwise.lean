import Concordance.Proofs.Build.Built

/-!
# Building step by step

Normalizing the pages, then writing the inverted index, then writing the weights gives the index that
building in one go gives, if no lemma has a colon (`build_eq_steps`). The steps read the corpus back
from its listings, which then are read unchanged; only the corpus in binary form is not written by
them, and the date in the metadata is that of the normalization.
-/

namespace Concordance.Build

open FileTree FileTree.Edit

variable {layout : Layout} {settings : Settings} {createdAt : String}
  {tree tree' built : FileTree} {corpus : Corpus}

/-- There are pages only in a directory. -/
theorem directory_of_pageIds_ne_nil (hpages : pageIds layout tree ≠ []) :
    tree.get? layout.root = some .directory := by
  obtain ⟨id, hid⟩ := List.exists_mem_of_ne_nil _ hpages
  exact get?_around_of_get? (directory_of_mem_pageIds hid)

/-- Normalized listings without colons give the corpus they were made of. -/
theorem Normalized.loadCorpus_eq (h : Normalized layout settings createdAt corpus tree)
    (hrecorded : corpus.Recorded) (hne : corpus.documents ≠ ∅) (hfree : corpus.ColonFree) :
    Index.loadCorpus layout tree = .ok corpus := by
  obtain ⟨read, hload, hiff⟩ := Index.exists_loadCorpus h.listed hrecorded hne h.urls
  rw [hload, hiff.2 hfree]

/-- On a normalized directory the two steps for the whole corpus leave an index. -/
theorem exists_steps (h : Normalized layout settings createdAt corpus tree)
    (hroot : tree.get? layout.root = some .directory) (hrecorded : corpus.Recorded)
    (hne : corpus.documents ≠ ∅) (hfree : corpus.ColonFree)
    (hindex : tree.get? layout.invertedIndex ≠ some .directory)
    (hweights : NoFiles layout.root weightDirs tree) :
    ∃ mid tree', (writeInvertedIndex layout).apply tree = (.ok (), mid) ∧
      (writeWeights layout).apply mid = (.ok (), tree') ∧
      Built layout settings createdAt corpus tree' ∧
      AgreeOutside layout.root ("inverted_index.txt" :: weightDirs) tree tree' := by
  have hload := h.loadCorpus_eq hrecorded hne hfree
  obtain ⟨⟨⟩, mid, hrun, read, hread, hindexed, hagree⟩ :=
    (writeInvertedIndex_yields hroot).exists_post ⟨⟨corpus, hload⟩, hindex⟩
  obtain rfl := Except.ok.inj (hread.symm.trans hload)
  -- the inverted index is not among the listings, so the second step reads the same corpus
  have hmid := h.congr hroot hagree (by decide)
  have hload' := hmid.loadCorpus_eq hrecorded hne hfree
  have hweights' : NoFiles layout.root weightDirs mid := (hagree.noFiles_iff (by decide)).2 hweights
  obtain ⟨⟨⟩, tree', hrun', read', hread', hholds, hagree'⟩ :=
    (writeWeights_yields (hagree.directory hroot)).exists_post ⟨⟨read, hload'⟩, hweights'⟩
  obtain rfl := Except.ok.inj (hread'.symm.trans hload')
  exact ⟨mid, tree', hrun, hrun', ⟨hmid.congr (hagree.directory hroot) hagree' (by decide),
    (hagree'.entry (by decide)).trans hindexed, hholds⟩, hagree.trans hagree'⟩

/-- If no lemma has a colon, a directory that can be built in one go can be built step by step, and
both ways lead to the same directory, but for the corpus in binary form and the date. -/
theorem build_eq_steps (createdAt' : String) (hpages : pageIds layout tree ≠ [])
    (hfree : ∀ lemmatizer, settings.lemmatizer tree layout.start = .ok lemmatizer →
      lemmatizer.ColonFree)
    (hbuild : (build layout settings createdAt).apply tree = (.ok (), built)) :
    ∃ corpus normalized indexed weighted,
      (normalizePages layout settings createdAt').apply tree = (.ok corpus, normalized) ∧
      (writeInvertedIndex layout).apply normalized = (.ok (), indexed) ∧
      (writeWeights layout).apply indexed = (.ok (), weighted) ∧
      (∀ place, place ≠ layout.corpus → place ≠ layout.metadata →
        weighted.get? place = built.get? place) ∧
      (∃ content, built.get? layout.corpus = some (.file content)) ∧
      weighted.get? layout.corpus = none ∧
      ∃ metadata : Metadata,
        built.get? layout.metadata =
          some (.file { metadata with createdAt }.render.toUTF8) ∧
        weighted.get? layout.metadata =
          some (.file { metadata with createdAt := createdAt' }.render.toUTF8) := by
  have hroot := directory_of_pageIds_ne_nil hpages
  obtain ⟨⟨hnormalizable, hindex, hweights⟩, corpus, hsource, hbuilt, hbinary, hagree⟩ :=
    (build_yields layout settings createdAt hroot).of_run _ _ hbuild
  obtain ⟨read, normalized, hrun, hread, hnormalized, hnone, hagree₁⟩ :=
    (normalizePages_yields layout settings createdAt' hroot).exists_post hnormalizable
  obtain rfl := Except.ok.inj (hread.symm.trans hsource)
  have hindex' : normalized.get? layout.invertedIndex ≠ some .directory := by
    rw [Layout.invertedIndex, hagree₁.entry (by decide)]
    exact hindex
  have hweights' : NoFiles layout.root weightDirs normalized :=
    (hagree₁.noFiles_iff (by decide)).2 hweights
  obtain ⟨indexed, weighted, hrun₂, hrun₃, hweighted, hagree₂⟩ := exists_steps hnormalized
    (hagree₁.directory hroot) (recorded_of_source hsource)
    ((documents_ne_empty_iff hsource).2 hpages) (colonFree_of_source hsource hfree) hindex' hweights'
  have hcorpus : weighted.get? layout.corpus = none :=
    (hagree₂.entry (by decide)).trans hnone
  have hall : AgreeOutside layout.root builtNames tree weighted :=
    (hagree₁.trans hagree₂).mono (by decide)
  refine ⟨read, normalized, indexed, weighted, hrun, hrun₂, hrun₃, fun place hne hmetadata => ?_,
    ⟨_, hbinary⟩, hcorpus, describe read settings createdAt, hbuilt.metadata, hweighted.metadata⟩
  by_cases hplace : ∃ sub ∈ builtNames, sub :: layout.root <:+ place
  · obtain ⟨sub, hsub, hsuffix⟩ := hplace
    exact hbuilt.get?_eq hweighted (ne_directory_of_file hbinary) (by simp [hcorpus]) hsub hsuffix
      hne hmetadata
  · simp only [not_exists, not_and] at hplace
    rw [hall place hplace, hagree place hplace]

set_option maxRecDepth 10000 in
/-- With a dictionary without colons, and over what other builds left, the steps and a build lead to
the same directory. -/
theorem build_eq_steps_leftOvers :
    pageIds ⟨[], []⟩ leftOvers ≠ [] ∧
    (∀ lemmatizer, Settings.lemmatizer { dictionary := some "dict.txt" } leftOvers [] =
      .ok lemmatizer → lemmatizer.ColonFree) ∧
    ∃ built corpus normalized indexed weighted,
      (build ⟨[], []⟩ { dictionary := some "dict.txt" } "today").apply leftOvers = (.ok (), built) ∧
      (normalizePages ⟨[], []⟩ { dictionary := some "dict.txt" } "tomorrow").apply leftOvers =
        (.ok corpus, normalized) ∧
      (writeInvertedIndex ⟨[], []⟩).apply normalized = (.ok (), indexed) ∧
      (writeWeights ⟨[], []⟩).apply indexed = (.ok (), weighted) ∧
      ∀ place, place ≠ ["corpus.bin"] → place ≠ ["meta.json"] →
        weighted.get? place = built.get? place := by
  have hpages : pageIds ⟨[], []⟩ leftOvers ≠ [] := by decide +kernel
  have hfree := colonFree_of_readPath (by decide +kernel :
    (leftOvers.readPath [] "dict.txt").toOption = some "коты кот\n")
  obtain ⟨⟨⟩, built, hbuild⟩ := isOk_apply_iff.1 (by decide +kernel : ((build ⟨[], []⟩
    { dictionary := some "dict.txt" } "today").apply leftOvers).1.isOk = true)
  obtain ⟨corpus, normalized, indexed, weighted, hrun, hrun', hrun'', hsame, -⟩ :=
    build_eq_steps "tomorrow" hpages hfree hbuild
  exact ⟨hpages, hfree, built, corpus, normalized, indexed, weighted, hbuild, hrun, hrun', hrun'',
    hsame⟩

end Concordance.Build
