import Concordance.Proofs.Build.Normalized

/-!
# What a build leaves behind

The listings of the whole corpus are made from the corpus that is listed
(`writeInvertedIndex_yields`, `writeWeights_yields`), or at once from the corpus that was normalized
(`build_yields`). In both ways the directory holds an index (`Built`), and what such a directory holds
is determined by its corpus, its settings and its date (`Built.get?_eq`).
-/

namespace Concordance.Build

open FileTree FileTree.Edit

variable {layout : Layout} {settings : Settings} {createdAt createdAt' : String}
  {tree tree' : FileTree} {corpus : Corpus} {place : Place} {subs : List String}

/-- A directory that also holds the listings of the whole corpus. -/
structure Built (layout : Layout) (settings : Settings) (createdAt : String) (corpus : Corpus)
    (tree : FileTree) : Prop extends Normalized layout settings createdAt corpus tree where
  /-- The inverted index. -/
  invertedIndex : tree.get? layout.invertedIndex =
    some (.file (Postings.ofCorpus corpus).render.toUTF8)
  /-- The weight listings. -/
  weights : ∀ vocabulary,
    tree.Holds (layout.weightsDir vocabulary) (weightFiles corpus vocabulary)

/-- What a build removes or writes. -/
def builtNames : List String := normalizedNames ++ "inverted_index.txt" :: weightDirs

/-! ## What changes elsewhere leave -/

/-- Changes elsewhere in the directory leave it normalized. -/
theorem Normalized.congr (h : Normalized layout settings createdAt corpus tree)
    (hroot : tree.get? layout.root = some .directory)
    (hagree : AgreeOutside layout.root subs tree tree')
    (hsubs : ∀ sub ∈ "index.txt" :: "meta.json" :: documentDirs, sub ∉ subs) :
    Normalized layout settings createdAt corpus tree' where
  listed := h.listed.congr hagree fun sub hsub =>
    hsubs sub (List.mem_cons_of_mem _ (List.mem_cons_of_mem _ hsub))
  metadata := (hagree.entry (hsubs _ (by decide))).trans h.metadata
  urls := by
    rw [Index.UrlsRead, loadUrls_congr hroot (hagree.directory hroot)
      (hagree.entry (hsubs _ (by decide)))]
    exact h.urls

/-! ## Single steps -/

/-- The inverted index is that of the corpus that is listed. -/
theorem writeInvertedIndex_yields (hroot : tree.get? layout.root = some .directory) :
    Yields (writeInvertedIndex layout) tree
      ((∃ corpus, Index.loadCorpus layout tree = .ok corpus) ∧
        tree.get? layout.invertedIndex ≠ some .directory)
      fun _ tree' => ∃ corpus, Index.loadCorpus layout tree = .ok corpus ∧
        tree'.get? layout.invertedIndex = some (.file (Postings.ofCorpus corpus).render.toUTF8) ∧
        AgreeOutside layout.root ["inverted_index.txt"] tree tree' := by
  refine (lookIndex_yields _).bind fun corpus _ hlook => ?_
  obtain ⟨hload, rfl⟩ := hlook
  exact (save_yields hroot _).adapt.imp Iff.rfl fun _ _ tree' h => ⟨corpus, hload, h⟩

/-- The weights are those of the corpus that is listed. -/
theorem writeWeights_yields (hroot : tree.get? layout.root = some .directory) :
    Yields (writeWeights layout) tree
      ((∃ corpus, Index.loadCorpus layout tree = .ok corpus) ∧
        NoFiles layout.root weightDirs tree)
      fun _ tree' => ∃ corpus, Index.loadCorpus layout tree = .ok corpus ∧
        (∀ vocabulary, tree'.Holds (layout.weightsDir vocabulary) (weightFiles corpus vocabulary)) ∧
        AgreeOutside layout.root weightDirs tree tree' := by
  refine (lookIndex_yields _).bind fun corpus _ hlook => ?_
  obtain ⟨hload, rfl⟩ := hlook
  exact (writeWeightsOf_yields corpus hroot).imp Iff.rfl fun _ _ tree' h => ⟨corpus, hload, h⟩

/-! ## The whole build -/

/-- What a build needs, and what it leaves behind. -/
theorem build_yields (layout : Layout) (settings : Settings) (createdAt : String)
    (hroot : tree.get? layout.root = some .directory) :
    Yields (build layout settings createdAt) tree
      (((∃ corpus, source layout settings tree = .ok corpus) ∧ Unobstructed layout tree) ∧
        tree.get? layout.invertedIndex ≠ some .directory ∧ NoFiles layout.root weightDirs tree)
      fun _ tree' => ∃ corpus, source layout settings tree = .ok corpus ∧
        Built layout settings createdAt corpus tree' ∧
        tree'.get? layout.corpus = some (.file ⟨corpus.encode.toArray⟩) ∧
        AgreeOutside layout.root builtNames tree tree' := by
  refine (normalizePages_yields layout settings createdAt hroot).bind fun corpus mid₁ h₁ => ?_
  obtain ⟨hsource, hnormalized, hnone, hagree₁⟩ := h₁
  have hindex : mid₁.get? layout.invertedIndex ≠ some .directory ↔
      tree.get? layout.invertedIndex ≠ some .directory := by
    rw [Layout.invertedIndex, hagree₁.entry (by decide)]
  have hroot₁ := hagree₁.directory hroot
  refine ((save_yields hroot₁ _).adapt.congr_guard hindex).bind fun _ mid₂ h₂ => ?_
  obtain ⟨hindexed, hagree₂⟩ := h₂
  have hagree₁₂ := hagree₁.trans hagree₂
  have hweights := hagree₁₂.noFiles_iff (by decide : ∀ sub ∈ weightDirs, _)
  have hroot₂ := hagree₁₂.directory hroot
  refine (((writeWeightsOf_yields corpus hroot₂).congr_guard hweights).bind
    fun _ mid₃ h₃ => ?_).congr_guard (and_iff_left trivial)
  obtain ⟨hholds, hagree₃⟩ := h₃
  have hroot₃ := hagree₃.directory hroot₂
  -- the normalization has removed the corpus in binary form, so nothing is in its way
  have hfree : mid₃.get? layout.corpus ≠ some .directory := by
    rw [Layout.corpus, (hagree₂.trans hagree₃).entry (by decide), ← Layout.corpus, hnone]
    simp
  refine (save_yields hroot₃ _).adapt.imp (iff_true_intro hfree) ?_
  rintro - - tree' ⟨hcorpus, hagree₄⟩
  have hafter := hagree₃.trans hagree₄
  refine ⟨corpus, hsource, ⟨hnormalized.congr hroot₁ (hagree₂.trans hafter) (by decide), ?_,
    fun vocabulary => ?_⟩, hcorpus, (hagree₁₂.trans hafter).mono (by decide)⟩
  · exact (hafter.entry (by decide)).trans hindexed
  · refine (hholds vocabulary).congr fun place hplace => ?_
    cases vocabulary <;> exact hagree₄.below (by decide) hplace

/-! ## The same index for the same corpus -/

/-- At and below what a build writes, but for the corpus in binary form and the metadata, the corpus
determines what there is. -/
theorem Built.get?_eq (h : Built layout settings createdAt corpus tree)
    (h' : Built layout settings createdAt' corpus tree')
    (hcorpus : tree.get? layout.corpus ≠ some .directory)
    (hcorpus' : tree'.get? layout.corpus ≠ some .directory)
    {sub : String} (hsub : sub ∈ builtNames) (hplace : sub :: layout.root <:+ place)
    (hne : place ≠ layout.corpus) (hmetadata : place ≠ layout.metadata) :
    tree'.get? place = tree.get? place := by
  rcases List.mem_append.1 hsub with hsub | hsub
  · exact h.toNormalized.get?_eq h'.toNormalized hcorpus hcorpus' hsub hplace hne hmetadata
  · simp only [weightDirs, List.mem_cons, List.not_mem_nil, or_false] at hsub
    rcases hsub with rfl | rfl | rfl
    · by_cases hindex : place = layout.invertedIndex
      · rw [hindex, h.invertedIndex, h'.invertedIndex]
      · exact get?_eq_of_suffix hplace hindex (ne_directory_of_file h.invertedIndex)
          (ne_directory_of_file h'.invertedIndex)
    · exact (h.weights .tokens).agree (h'.weights .tokens) hplace
    · exact (h.weights .lemmas).agree (h'.weights .lemmas) hplace

/-! ## A corpus that can be read back -/

set_option maxRecDepth 10000 in
/-- The corpus of `onePage` in binary form is a small file. -/
theorem size_lt_of_onePage {built : FileTree} {content : ByteArray}
    (hbuild : (build ⟨[], []⟩ { dictionary := some "dict.txt" } "today").apply onePage =
      (.ok (), built))
    (hcontent : built.get? ["corpus.bin"] = some (.file content)) : content.size < 2 ^ 64 := by
  have hsmall : ((((build ⟨[], []⟩ { dictionary := some "dict.txt" } "today").apply onePage).2.read
      ["corpus.bin"]).toOption.all fun content => decide (content.size < 2 ^ 64)) = true := by
    decide +kernel
  rw [hbuild, read_eq_ok_iff.2 hcontent] at hsmall
  exact of_decide_eq_true hsmall

end Concordance.Build
