import Concordance.Proofs.Build.Built

/-!
# Building again

What a build leaves depends on the pages, the address listing and the files that the settings name,
and on nothing else that was in the directory : whatever earlier builds left there is replaced, and
what does not belong to an index is not touched (`rebuild_forgets`). A normalization alone does the
same for what it writes, and removes the corpus in binary form.
-/

namespace Concordance.Build

open FileTree FileTree.Edit

variable {layout : Layout} {settings : Settings} {createdAt createdAt' : String}
  {tree tree' : FileTree} {corpus : Corpus}

/-! ## Comparing directories -/

/-- At and below some entries the same stands; the metadata are not compared. -/
def SameBelow (layout : Layout) (names : List String) (tree tree' : FileTree) : Prop :=
  ∀ sub ∈ names, ∀ place, sub :: layout.root <:+ place → place ≠ layout.metadata →
    tree'.get? place = tree.get? place

/-- The same metadata stand in two directories, but for the date. -/
def SameMetadata (layout : Layout) (createdAt createdAt' : String) (tree tree' : FileTree) : Prop :=
  ∃ metadata : Metadata,
    tree.get? layout.metadata = some (.file { metadata with createdAt }.render.toUTF8) ∧
    tree'.get? layout.metadata =
      some (.file { metadata with createdAt := createdAt' }.render.toUTF8)

/-- Each of some directories holds one file for each document of a corpus, and nothing else. -/
def OneFileEach (corpus : Corpus) (dirs : List Place) (tree : FileTree) : Prop :=
  ∀ dir ∈ dirs, ∃ files, tree.Holds dir files ∧ files.keys = corpus.ids

theorem Normalized.oneFileEach (h : Normalized layout settings createdAt corpus tree) :
    OneFileEach corpus [layout.textsDir, layout.tokensDir, layout.lemmasDir] tree := by
  intro dir hdir
  simp only [List.mem_cons, List.not_mem_nil, or_false] at hdir
  rcases hdir with rfl | rfl | rfl
  · exact ⟨_, h.listed.texts, Corpus.keys_files⟩
  · exact ⟨_, h.listed.tokens, Corpus.keys_files⟩
  · exact ⟨_, h.listed.lemmas, Corpus.keys_files⟩

theorem Built.oneFileEach (h : Built layout settings createdAt corpus tree) :
    OneFileEach corpus ([layout.textsDir, layout.tokensDir, layout.lemmasDir] ++
      [layout.weightsDir .tokens, layout.weightsDir .lemmas]) tree := by
  intro dir hdir
  rcases List.mem_append.1 hdir with hdir | hdir
  · exact h.toNormalized.oneFileEach dir hdir
  · simp only [List.mem_cons, List.not_mem_nil, or_false] at hdir
    rcases hdir with rfl | rfl
    · exact ⟨_, h.weights .tokens, Std.ExtTreeMap.keys_map⟩
    · exact ⟨_, h.weights .lemmas, Std.ExtTreeMap.keys_map⟩

/-- What two normalizations for one corpus leave is the same. -/
theorem Normalized.sameBelow (h : Normalized layout settings createdAt corpus tree)
    (h' : Normalized layout settings createdAt' corpus tree')
    (hnone : tree.get? layout.corpus = none) (hnone' : tree'.get? layout.corpus = none) :
    SameBelow layout normalizedNames tree tree' := by
  intro sub hsub place hplace hmetadata
  by_cases hcorpus : place = layout.corpus
  · rw [hcorpus, hnone, hnone']
  · exact h.get?_eq h' (by simp [hnone]) (by simp [hnone']) hsub hplace hcorpus hmetadata

/-- What two builds for one corpus leave is the same. -/
theorem Built.sameBelow {content : ByteArray} (h : Built layout settings createdAt corpus tree)
    (h' : Built layout settings createdAt' corpus tree')
    (hfile : tree.get? layout.corpus = some (.file content))
    (hfile' : tree'.get? layout.corpus = some (.file content)) :
    SameBelow layout builtNames tree tree' := by
  intro sub hsub place hplace hmetadata
  by_cases hcorpus : place = layout.corpus
  · rw [hcorpus, hfile, hfile']
  · exact h.get?_eq h' (ne_directory_of_file hfile) (ne_directory_of_file hfile') hsub hplace hcorpus
      hmetadata

/-! ## Two runs -/

/-- From directories with the same pages, addresses and files of the settings, builds leave the same
index, with one file for each document, and touch nothing else; a normalization alone leaves the
same listings, and no corpus in binary form. -/
theorem rebuild_forgets (createdAt createdAt' : String)
    (hroot : tree.get? layout.root = some .directory)
    (hroot' : tree'.get? layout.root = some .directory)
    (hsame : SameInputs layout settings tree tree') :
    (∀ built built', (build layout settings createdAt).apply tree = (.ok (), built) →
      (build layout settings createdAt').apply tree' = (.ok (), built') →
      SameBelow layout builtNames built built' ∧
      SameMetadata layout createdAt createdAt' built built' ∧
      (∃ corpus : Corpus, built.get? layout.corpus = some (.file ⟨corpus.encode.toArray⟩) ∧
        OneFileEach corpus ([layout.textsDir, layout.tokensDir, layout.lemmasDir] ++
          [layout.weightsDir .tokens, layout.weightsDir .lemmas]) built) ∧
      AgreeOutside layout.root builtNames tree built ∧
      AgreeOutside layout.root builtNames tree' built') ∧
    ∀ corpus corpus' normalized normalized',
      (normalizePages layout settings createdAt).apply tree = (.ok corpus, normalized) →
      (normalizePages layout settings createdAt').apply tree' = (.ok corpus', normalized') →
      corpus' = corpus ∧ SameBelow layout normalizedNames normalized normalized' ∧
      SameMetadata layout createdAt createdAt' normalized normalized' ∧
      (normalized.get? layout.corpus = none ∧ normalized'.get? layout.corpus = none) ∧
      OneFileEach corpus [layout.textsDir, layout.tokensDir, layout.lemmasDir] normalized ∧
      AgreeOutside layout.root normalizedNames tree normalized ∧
      AgreeOutside layout.root normalizedNames tree' normalized' := by
  have hsource := source_congr hsame hroot hroot'
  constructor
  · intro built built' hbuild hbuild'
    obtain ⟨-, corpus, hcorpus, hbuilt, hfile, hagree⟩ :=
      (build_yields layout settings createdAt hroot).of_run _ _ hbuild
    obtain ⟨-, corpus', hcorpus', hbuilt', hfile', hagree'⟩ :=
      (build_yields layout settings createdAt' hroot').of_run _ _ hbuild'
    obtain rfl : corpus' = corpus :=
      Except.ok.inj (hcorpus'.symm.trans (hsource.trans hcorpus))
    exact ⟨hbuilt.sameBelow hbuilt' hfile hfile',
      ⟨describe corpus' settings createdAt, hbuilt.metadata, hbuilt'.metadata⟩,
      ⟨corpus', hfile, hbuilt.oneFileEach⟩, hagree, hagree'⟩
  · intro corpus corpus' normalized normalized' hrun hrun'
    obtain ⟨-, hcorpus, hnormalized, hnone, hagree⟩ :=
      (normalizePages_yields layout settings createdAt hroot).of_run _ _ hrun
    obtain ⟨-, hcorpus', hnormalized', hnone', hagree'⟩ :=
      (normalizePages_yields layout settings createdAt' hroot').of_run _ _ hrun'
    obtain rfl : corpus' = corpus :=
      Except.ok.inj (hcorpus'.symm.trans (hsource.trans hcorpus))
    exact ⟨rfl, hnormalized.sameBelow hnormalized' hnone hnone',
      ⟨describe corpus' settings createdAt, hnormalized.metadata, hnormalized'.metadata⟩,
      ⟨hnone, hnone'⟩, hnormalized.oneFileEach, hagree, hagree'⟩

set_option maxRecDepth 10000 in
/-- What other builds left is forgotten by a build and by a normalization. -/
theorem rebuild_forgets_leftOvers :
    FileTree.get? onePage [] = some .directory ∧ FileTree.get? leftOvers [] = some .directory ∧
    SameInputs ⟨[], []⟩ { dictionary := some "dict.txt" } onePage leftOvers ∧
    (∃ built built',
      (build ⟨[], []⟩ { dictionary := some "dict.txt" } "today").apply onePage = (.ok (), built) ∧
      (build ⟨[], []⟩ { dictionary := some "dict.txt" } "tomorrow").apply leftOvers =
        (.ok (), built') ∧
      SameBelow ⟨[], []⟩ builtNames built built' ∧
      SameMetadata ⟨[], []⟩ "today" "tomorrow" built built') ∧
    ∃ corpus normalized normalized',
      (normalizePages ⟨[], []⟩ { dictionary := some "dict.txt" } "today").apply onePage =
        (.ok corpus, normalized) ∧
      (normalizePages ⟨[], []⟩ { dictionary := some "dict.txt" } "tomorrow").apply leftOvers =
        (.ok corpus, normalized') ∧
      SameBelow ⟨[], []⟩ normalizedNames normalized normalized' ∧
      SameMetadata ⟨[], []⟩ "today" "tomorrow" normalized normalized' := by
  obtain ⟨⟨⟩, built, hbuild⟩ := isOk_apply_iff.1 (by decide +kernel : ((build ⟨[], []⟩
    { dictionary := some "dict.txt" } "today").apply onePage).1.isOk = true)
  obtain ⟨⟨⟩, built', hbuild'⟩ := isOk_apply_iff.1 (by decide +kernel : ((build ⟨[], []⟩
    { dictionary := some "dict.txt" } "tomorrow").apply leftOvers).1.isOk = true)
  obtain ⟨corpus, normalized, hrun⟩ := isOk_apply_iff.1 (by decide +kernel : ((normalizePages ⟨[], []⟩
    { dictionary := some "dict.txt" } "today").apply onePage).1.isOk = true)
  obtain ⟨corpus', normalized', hrun'⟩ := isOk_apply_iff.1 (by decide +kernel : ((normalizePages
    ⟨[], []⟩ { dictionary := some "dict.txt" } "tomorrow").apply leftOvers).1.isOk = true)
  obtain ⟨hbuilds, hruns⟩ :=
    rebuild_forgets "today" "tomorrow" get?_nil get?_nil sameInputs_leftOvers
  obtain ⟨hbelow, hmetadata, -⟩ := hbuilds _ _ hbuild hbuild'
  obtain ⟨rfl, hbelow', hmetadata', -⟩ := hruns _ _ _ _ hrun hrun'
  exact ⟨get?_nil, get?_nil, sameInputs_leftOvers,
    ⟨built, built', hbuild, hbuild', hbelow, hmetadata⟩,
    corpus', normalized, normalized', hrun, hrun', hbelow', hmetadata'⟩

end Concordance.Build
