import Concordance.Proofs.Build.Built
import Concordance.Proofs.Index.Files

/-!
# The normalizer of a reopened index

Metadata are read back from their file as they were written. The metadata of a build name the files
that its normalizer was made from. As long as these read the same, every index that is opened with
these metadata has the normalizer that made its documents (`reopened_normalizer`).
-/

namespace Concordance.Build

open FileTree FileTree.Edit

variable {layout : Layout} {settings : Settings} {createdAt : String}
  {tree built now : FileTree} {corpus : Corpus} {normalizer : Normalizer}

/-- Whatever else changes after a build : the metadata are still those of the build, and the files that
its settings name still read as they did before it. -/
structure Kept (layout : Layout) (settings : Settings) (tree built now : FileTree) : Prop where
  /-- The metadata. -/
  metadata : now.get? layout.metadata = built.get? layout.metadata
  /-- The files that the settings name. -/
  settings : ∀ path ∈ settings.paths,
    now.readPath layout.start path = tree.readPath layout.start path

/-- The normalizer is made from the files that the metadata name. -/
theorem Kept.normalizer_eq {opened : OpenIndex} (h : Kept layout settings tree built now)
    (hbuilt : Built layout settings createdAt corpus built)
    (hnormalizer : settings.normalizer tree layout.start = .ok normalizer)
    (hload : Index.load layout now = .ok opened) : opened.normalizer = normalizer := by
  have hmetadata := h.metadata.trans hbuilt.metadata
  obtain ⟨_, found, -, hfound, rfl⟩ := (Index.load_eq_ok_iff hmetadata).1 hload
  have hsame : settings.normalizer now layout.start = .ok normalizer :=
    (Settings.normalizer_congr h.settings).trans hnormalizer
  exact Except.ok.inj (hfound.symm.trans hsame)

/-- With the corpus in binary form an index is opened. -/
theorem Kept.exists_load (h : Kept layout settings tree built now)
    (hbuilt : Built layout settings createdAt corpus built)
    (hnormalizer : settings.normalizer tree layout.start = .ok normalizer)
    (hfile : now.get? layout.corpus = some (.file ⟨corpus.encode.toArray⟩))
    (hsize : corpus.encode.length < 2 ^ 64) : ∃ opened, Index.load layout now = .ok opened := by
  have hmetadata := h.metadata.trans hbuilt.metadata
  have hhas : now.has layout.corpus = true := by simp [has, hfile]
  have hsame : settings.normalizer now layout.start = .ok normalizer :=
    (Settings.normalizer_congr h.settings).trans hnormalizer
  have hread := Index.loadCorpusFile_eq hfile hsize
  exact ⟨_, (Index.load_eq_ok_iff hmetadata).2
    ⟨corpus, normalizer, by simpa [hhas] using hread, hsame, rfl⟩⟩

/-- Metadata are saved wherever a file can be saved, and are read back as they are. So of a directory
that was built, every index that is opened later has the normalizer that made its documents from their
pages, if the metadata and the files that the settings name are kept; with the corpus in binary form
an index is opened. -/
theorem reopened_normalizer (layout : Layout) :
    (∀ (metadata : Metadata) (tree : FileTree),
      ((∃ saved, (Index.saveMetadata layout metadata).apply tree = (.ok (), saved)) ↔
        tree.Writable layout.metadata) ∧
      ∀ saved, (Index.saveMetadata layout metadata).apply tree = (.ok (), saved) →
        Index.loadMetadata layout saved = .ok metadata) ∧
    ∀ (settings : Settings) (createdAt : String) (tree built : FileTree),
      tree.get? layout.root = some .directory →
      (build layout settings createdAt).apply tree = (.ok (), built) →
      ∃ (normalizer : Normalizer) (corpus : Corpus),
        settings.normalizer tree layout.start = .ok normalizer ∧
        (∀ doc ∈ corpus.docs, readPage layout normalizer tree doc.id = .ok doc) ∧
        built.get? layout.corpus = some (.file ⟨corpus.encode.toArray⟩) ∧
        ∀ now, Kept layout settings tree built now →
          (∀ opened, Index.load layout now = .ok opened → opened.normalizer = normalizer) ∧
          (now.get? layout.corpus = built.get? layout.corpus → corpus.encode.length < 2 ^ 64 →
            ∃ opened, Index.load layout now = .ok opened) := by
  constructor
  · intro metadata tree
    have hyields := Index.saveMetadata_yields layout metadata tree
    refine ⟨hyields.exists_run_iff, fun saved hrun => ?_⟩
    exact Index.loadMetadata_eq (hyields.of_run () saved hrun).2.file
  · intro settings createdAt tree built hroot hbuild
    obtain ⟨-, corpus, hsource, hbuilt, hfile, -⟩ :=
      (build_yields layout settings createdAt hroot).of_run _ _ hbuild
    obtain ⟨normalizer, hnormalizer, hpages⟩ := exists_normalizer_of_source hsource
    refine ⟨normalizer, corpus, hnormalizer, hpages, hfile, fun now hkept => ⟨?_, ?_⟩⟩
    · exact fun opened hload => hkept.normalizer_eq hbuilt hnormalizer hload
    · exact fun hsame hsize => hkept.exists_load hbuilt hnormalizer (hsame.trans hfile) hsize

set_option maxRecDepth 10000 in
/-- Metadata with a quote in the date are read back, and a page and its dictionary are built and opened
again with the normalizer of the dictionary. -/
theorem reopened_normalizer_onePage :
    (∃ saved, (Index.saveMetadata ⟨[], []⟩ ⟨1, "\"", 1, { dictionary := some "dict.txt" }⟩).apply
        empty = (.ok (), saved) ∧
      Index.loadMetadata ⟨[], []⟩ saved = .ok ⟨1, "\"", 1, { dictionary := some "dict.txt" }⟩) ∧
    FileTree.get? onePage [] = some .directory ∧
    ∃ built opened normalizer,
      (build ⟨[], []⟩ { dictionary := some "dict.txt" } "today").apply onePage = (.ok (), built) ∧
      Kept ⟨[], []⟩ { dictionary := some "dict.txt" } onePage built built ∧
      Settings.normalizer { dictionary := some "dict.txt" } onePage [] = .ok normalizer ∧
      Index.load ⟨[], []⟩ built = .ok opened ∧ opened.normalizer = normalizer := by
  obtain ⟨hmetadata, hbuilds⟩ := reopened_normalizer ⟨[], []⟩
  obtain ⟨⟨⟩, saved, hsaved⟩ := isOk_apply_iff.1 (by decide +kernel : ((Index.saveMetadata ⟨[], []⟩
    ⟨1, "\"", 1, { dictionary := some "dict.txt" }⟩).apply empty).1.isOk = true)
  have hread := (hmetadata _ _).2 saved hsaved
  have hdictionary : (((build ⟨[], []⟩ { dictionary := some "dict.txt" } "today").apply
      onePage).2.readPath [] "dict.txt").toOption = some "коты кот\n" := by
    decide +kernel
  obtain ⟨⟨⟩, built, hbuild⟩ := isOk_apply_iff.1 (by decide +kernel : ((build ⟨[], []⟩
    { dictionary := some "dict.txt" } "today").apply onePage).1.isOk = true)
  rw [hbuild] at hdictionary
  obtain ⟨normalizer, corpus, hnormalizer, -, hfile, hopens⟩ := hbuilds _ _ _ _ get?_nil hbuild
  have hkept : Kept ⟨[], []⟩ { dictionary := some "dict.txt" } onePage built built := by
    refine ⟨rfl, fun path hpath => ?_⟩
    obtain rfl : path = "dict.txt" := by simpa [Settings.paths] using hpath
    rw [toOption_eq_some_iff.1 hdictionary, toOption_eq_some_iff.1 (by decide +kernel :
      (onePage.readPath [] "dict.txt").toOption = some "коты кот\n")]
  obtain ⟨hsame, hload⟩ := hopens built hkept
  obtain ⟨opened, hopened⟩ := hload rfl (size_lt_of_onePage hbuild hfile)
  exact ⟨⟨saved, hsaved, hread⟩, get?_nil, built, opened, normalizer, hbuild, hkept, hnormalizer,
    hopened, hsame opened hopened⟩

end Concordance.Build
