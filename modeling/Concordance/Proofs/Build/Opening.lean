import Concordance.Proofs.Build.Stepwise

/-!
# Opening what was built

A normalized directory is read again by each later step exactly if there is a document, since of no
documents there is no directory of listings (`usable_iff`). After a build the corpus stands in the
directory twice, in binary form and in its listings; an index that is opened without the binary form
is the same exactly if no lemma has a colon (`listings_agree_iff`).
-/

namespace Concordance.Build

open FileTree FileTree.Edit

variable {layout : Layout} {settings : Settings} {createdAt : String}
  {tree tree' built : FileTree} {corpus : Corpus}

/-! ## After a normalization -/

/-- The listings can be read exactly if there is a document. -/
theorem Normalized.exists_loadCorpus_iff (h : Normalized layout settings createdAt corpus tree)
    (hroot : tree.get? layout.root = some .directory) (hrecorded : corpus.Recorded) :
    (∃ read, Index.loadCorpus layout tree = .ok read) ↔ corpus.documents ≠ ∅ := by
  by_cases hempty : corpus.documents = ∅
  · simp [Index.loadCorpus_of_eq_empty h.listed hempty hroot, hempty]
  · obtain ⟨read, hload, -⟩ := Index.exists_loadCorpus h.listed hrecorded hempty h.urls
    exact iff_of_true ⟨read, hload⟩ hempty

theorem forall_weightDirs_iff {p : Place → Prop} :
    (∀ sub ∈ weightDirs, p (sub :: layout.root)) ↔
      ∀ vocabulary, p (layout.weightsDir vocabulary) := by
  simp only [weightDirs, List.forall_mem_cons, List.not_mem_nil, false_implies, implies_true,
    and_true]
  constructor
  · rintro ⟨htokens, hlemmas⟩ (_ | _)
    · exact htokens
    · exact hlemmas
  · exact fun h => ⟨h .tokens, h .lemmas⟩

/-- After a normalization each of the later steps succeeds exactly if there is a document and
nothing is in its way : no directory in the place of the inverted index, no file in the place of a
directory of weights, and files that describe a normalizer where the settings name some. -/
theorem usable_iff (hroot : tree.get? layout.root = some .directory)
    (hrun : (normalizePages layout settings createdAt).apply tree = (.ok corpus, tree')) :
    ((∃ indexed, (writeInvertedIndex layout).apply tree' = (.ok (), indexed)) ↔
      corpus.documents ≠ ∅ ∧ tree'.get? layout.invertedIndex ≠ some .directory) ∧
    ((∃ weighted, (writeWeights layout).apply tree' = (.ok (), weighted)) ↔
      corpus.documents ≠ ∅ ∧ ∀ vocabulary content,
        tree'.get? (layout.weightsDir vocabulary) ≠ some (.file content)) ∧
    ((∃ opened, Index.load layout tree' = .ok opened) ↔
      corpus.documents ≠ ∅ ∧
        ∃ normalizer, settings.normalizer tree' layout.start = .ok normalizer) := by
  obtain ⟨-, hsource, hnormalized, hnone, hagree⟩ :=
    (normalizePages_yields layout settings createdAt hroot).of_run _ _ hrun
  have hroot' := hagree.directory hroot
  have hload := hnormalized.exists_loadCorpus_iff hroot' (recorded_of_source hsource)
  have hhas : tree'.has layout.corpus = false := by rw [has, hnone, Option.isSome_none]
  refine ⟨?_, ?_, ?_⟩
  · rw [(writeInvertedIndex_yields hroot').exists_run_iff, hload]
  · rw [(writeWeights_yields hroot').exists_run_iff, hload]
    exact and_congr_right fun _ =>
      forall_weightDirs_iff (p := fun dir => ∀ content, tree'.get? dir ≠ some (.file content))
  · simp only [Index.load_eq_ok_iff hnormalized.metadata, hhas, Bool.false_eq_true, if_false]
    rw [← hload]
    constructor
    · rintro ⟨opened, read, normalizer, hread, hnormalizer, -⟩
      exact ⟨⟨read, hread⟩, normalizer, hnormalizer⟩
    · rintro ⟨⟨read, hread⟩, normalizer, hnormalizer⟩
      exact ⟨_, read, normalizer, hread, hnormalizer, rfl⟩

set_option maxRecDepth 10000 in
/-- A directory with a page is usable after its normalization. -/
theorem usable_onePage :
    FileTree.get? onePage [] = some .directory ∧
    ∃ corpus normalized,
      (normalizePages ⟨[], []⟩ { dictionary := some "dict.txt" } "today").apply onePage =
        (.ok corpus, normalized) ∧
      (∃ indexed, (writeInvertedIndex ⟨[], []⟩).apply normalized = (.ok (), indexed)) ∧
      (∃ weighted, (writeWeights ⟨[], []⟩).apply normalized = (.ok (), weighted)) ∧
      ∃ opened, Index.load ⟨[], []⟩ normalized = .ok opened := by
  have hready : (Settings.normalizer { dictionary := some "dict.txt" } ((normalizePages ⟨[], []⟩
      { dictionary := some "dict.txt" } "today").apply onePage).2 []).isOk = true := by
    decide +kernel
  obtain ⟨corpus, normalized, hrun⟩ := isOk_apply_iff.1 (by decide +kernel : ((normalizePages ⟨[], []⟩
    { dictionary := some "dict.txt" } "today").apply onePage).1.isOk = true)
  obtain ⟨-, hsource, -, -, hagree⟩ :=
    (normalizePages_yields ⟨[], []⟩ { dictionary := some "dict.txt" } "today" get?_nil).of_run _ _ hrun
  have hne : corpus.documents ≠ ∅ := (documents_ne_empty_iff hsource).2 (by decide +kernel)
  have hindex : normalized.get? ["inverted_index.txt"] = none :=
    (hagree.entry (by decide)).trans (by decide +kernel)
  have hweights : ∀ vocabulary, normalized.get? (Layout.weightsDir ⟨[], []⟩ vocabulary) = none := by
    rintro (_ | _)
    · exact (hagree.entry (by decide)).trans (by decide +kernel)
    · exact (hagree.entry (by decide)).trans (by decide +kernel)
  rw [hrun, isOk_iff] at hready
  obtain ⟨hindexed, hweighted, hopened⟩ := usable_iff get?_nil hrun
  exact ⟨get?_nil, corpus, normalized, hrun,
    hindexed.2 ⟨hne, by simp [Layout.invertedIndex, hindex]⟩,
    hweighted.2 ⟨hne, by simp [hweights]⟩, hopened.2 ⟨hne, hready⟩⟩

/-- A directory without pages. -/
def noPages : FileTree := (empty.makeDirectory ["pages"]).toOption.getD empty

set_option maxRecDepth 10000 in
/-- A directory without pages is normalized, and is not usable afterwards. -/
theorem unusable_noPages :
    noPages.get? ["pages"] = some .directory ∧
    ∃ corpus normalized,
      (normalizePages ⟨[], []⟩ {} "today").apply noPages = (.ok corpus, normalized) ∧
      (∀ indexed, (writeInvertedIndex ⟨[], []⟩).apply normalized ≠ (.ok (), indexed)) ∧
      (∀ weighted, (writeWeights ⟨[], []⟩).apply normalized ≠ (.ok (), weighted)) ∧
      ∀ opened, Index.load ⟨[], []⟩ normalized ≠ .ok opened := by
  have hfails : (((writeInvertedIndex ⟨[], []⟩).apply ((normalizePages ⟨[], []⟩ {} "today").apply
      noPages).2).1.isOk || ((writeWeights ⟨[], []⟩).apply ((normalizePages ⟨[], []⟩ {} "today").apply
      noPages).2).1.isOk || (Index.load ⟨[], []⟩ ((normalizePages ⟨[], []⟩ {} "today").apply
      noPages).2).isOk) = false := by
    decide +kernel
  obtain ⟨corpus, normalized, hrun⟩ := isOk_apply_iff.1 (by decide +kernel :
    ((normalizePages ⟨[], []⟩ {} "today").apply noPages).1.isOk = true)
  simp only [hrun, Bool.or_eq_false_iff] at hfails
  obtain ⟨⟨hindexed, hweighted⟩, hopened⟩ := hfails
  refine ⟨by decide +kernel, corpus, normalized, hrun, fun indexed h => ?_, fun weighted h => ?_,
    fun opened h => ?_⟩
  · exact absurd (isOk_apply_iff.2 ⟨(), indexed, h⟩) (by simp [hindexed])
  · exact absurd (isOk_apply_iff.2 ⟨(), weighted, h⟩) (by simp [hweighted])
  · exact absurd (isOk_iff.2 ⟨opened, h⟩) (by simp [hopened])

/-! ## After a build -/

/-- After a build the corpus in binary form is the corpus that was normalized. The listings give a
corpus as well, and it is the same exactly if no lemma has a colon. Under the same condition an index
that was opened is opened unchanged when the binary form is removed, as long as the files that its
settings name are still there. -/
theorem listings_agree_iff (hpages : pageIds layout tree ≠ [])
    (hbuild : (build layout settings createdAt).apply tree = (.ok (), built))
    (hsize : ∀ content, built.get? layout.corpus = some (.file content) → content.size < 2 ^ 64) :
    ∃ corpus read listed,
      (∃ normalized, (normalizePages layout settings createdAt).apply tree =
        (.ok corpus, normalized)) ∧
      Index.loadCorpusFile layout built = .ok corpus ∧
      Index.loadCorpus layout built = .ok read ∧ (read = corpus ↔ corpus.ColonFree) ∧
      built.removeFile layout.corpus = .ok listed ∧
      ((∀ path ∈ settings.paths,
          listed.readPath layout.start path = built.readPath layout.start path) →
        ∀ opened, Index.load layout built = .ok opened →
          (Index.load layout listed = .ok opened ↔ corpus.ColonFree)) := by
  have hroot := directory_of_pageIds_ne_nil hpages
  obtain ⟨⟨hnormalizable, -⟩, corpus, hsource, hbuilt, hfile, hagree⟩ :=
    (build_yields layout settings createdAt hroot).of_run _ _ hbuild
  obtain ⟨corpus', normalized, hrun, hsource', -⟩ :=
    (normalizePages_yields layout settings createdAt hroot).exists_post hnormalizable
  obtain rfl := Except.ok.inj (hsource'.symm.trans hsource)
  have hrecorded := recorded_of_source hsource
  have hne := (documents_ne_empty_iff hsource).2 hpages
  have hbinary := Index.loadCorpusFile_eq hfile (hsize _ hfile)
  obtain ⟨read, hread, hiff⟩ := Index.exists_loadCorpus hbuilt.listed hrecorded hne hbuilt.urls
  obtain ⟨listed, hremove, hnone, hagree'⟩ := exists_removeFile_entry hfile
  have hlisted := hbuilt.toNormalized.congr (hagree.directory hroot) hagree' (by decide)
  obtain ⟨read', hread', hiff'⟩ := Index.exists_loadCorpus hlisted.listed hrecorded hne hlisted.urls
  have hhas : built.has layout.corpus = true := by rw [has, hfile, Option.isSome_some]
  have hhas' : listed.has layout.corpus = false := by
    rw [has, Layout.corpus, hnone, Option.isSome_none]
  exact ⟨corpus', read, listed, ⟨normalized, hrun⟩, hbinary, hread, hiff, hremove,
    fun hpaths opened hopened => (Index.load_listed_iff hbuilt.metadata hlisted.metadata hhas hhas'
      hbinary hread' (Settings.normalizer_congr hpaths) hopened).trans hiff'⟩

set_option maxRecDepth 10000 in
/-- With a dictionary without colons the listings give the corpus that was normalized. -/
theorem listings_agree_onePage :
    pageIds ⟨[], []⟩ onePage ≠ [] ∧
    ∃ corpus normalized built,
      (normalizePages ⟨[], []⟩ { dictionary := some "dict.txt" } "today").apply onePage =
        (.ok corpus, normalized) ∧
      (build ⟨[], []⟩ { dictionary := some "dict.txt" } "today").apply onePage = (.ok (), built) ∧
      (∀ content, built.get? ["corpus.bin"] = some (.file content) → content.size < 2 ^ 64) ∧
      Index.loadCorpusFile ⟨[], []⟩ built = .ok corpus ∧
      Index.loadCorpus ⟨[], []⟩ built = .ok corpus ∧ corpus.ColonFree := by
  have hpages : pageIds ⟨[], []⟩ onePage ≠ [] := by decide +kernel
  obtain ⟨⟨⟩, built, hbuild⟩ := isOk_apply_iff.1 (by decide +kernel : ((build ⟨[], []⟩
    { dictionary := some "dict.txt" } "today").apply onePage).1.isOk = true)
  have hsize : ∀ content, built.get? ["corpus.bin"] = some (.file content) →
      content.size < 2 ^ 64 := fun _ hcontent => size_lt_of_onePage hbuild hcontent
  obtain ⟨corpus, read, -, ⟨normalized, hrun⟩, hbinary, hread, hiff, -⟩ :=
    listings_agree_iff hpages hbuild hsize
  obtain ⟨-, hsource, -⟩ := (normalizePages_yields _ _ _ get?_nil).of_run _ _ hrun
  have hfree : corpus.ColonFree :=
    colonFree_of_source hsource (colonFree_of_readPath (by decide +kernel))
  obtain rfl := hiff.2 hfree
  exact ⟨hpages, read, normalized, built, hrun, hbuild, hsize, hbinary, hread, hfree⟩

/-- The page of `onePage` with a dictionary that has a colon in a lemma. -/
def colonDictionary : FileTree :=
  ofTexts [(["1.html", "pages"], "<p>коты</p>"), (["dict.txt"], "коты ко:т\n")]

set_option maxRecDepth 10000 in
/-- With the lemma `ко:т` the listings give another corpus than the one in binary form. -/
theorem listings_disagree_colonDictionary :
    pageIds ⟨[], []⟩ colonDictionary ≠ [] ∧ ∃ built corpus read,
      (build ⟨[], []⟩ { dictionary := some "dict.txt" } "today").apply colonDictionary =
        (.ok (), built) ∧
      Index.loadCorpusFile ⟨[], []⟩ built = .ok corpus ∧
      Index.loadCorpus ⟨[], []⟩ built = .ok read ∧ read ≠ corpus := by
  have hdiffer : ((Index.loadCorpus ⟨[], []⟩ ((build ⟨[], []⟩ { dictionary := some "dict.txt" }
      "today").apply colonDictionary).2).toOption.bind fun read =>
        (Index.loadCorpusFile ⟨[], []⟩ ((build ⟨[], []⟩ { dictionary := some "dict.txt" }
          "today").apply colonDictionary).2).toOption.map fun corpus => decide (read = corpus)) =
      some false := by
    decide +kernel
  obtain ⟨⟨⟩, built, hbuild⟩ := isOk_apply_iff.1 (by decide +kernel : ((build ⟨[], []⟩
    { dictionary := some "dict.txt" } "today").apply colonDictionary).1.isOk = true)
  rw [hbuild] at hdiffer
  obtain ⟨read, hread, hdiffer⟩ := Option.bind_eq_some_iff.1 hdiffer
  obtain ⟨corpus, hcorpus, hne⟩ := Option.map_eq_some_iff.1 hdiffer
  exact ⟨by decide +kernel, built, corpus, read, hbuild, toOption_eq_some_iff.1 hcorpus,
    toOption_eq_some_iff.1 hread, of_decide_eq_false hne⟩

end Concordance.Build
