import Concordance.Proofs.Index.Saving

/-!
# The corpus and the metadata in their files

The corpus in binary form and the metadata are saved exactly where a file can be saved
(`saveCorpusFile_yields`, `saveMetadata_yields`). A corpus is read back from its whole file, and from
a file that ends too early no corpus is read (`corpusFile_complete`).
-/

namespace Concordance.Index

open FileTree FileTree.Edit

variable {layout : Layout} {tree : FileTree} {corpus : Corpus}

theorem saveCorpusFile_yields (layout : Layout) (corpus : Corpus) (tree : FileTree) :
    Yields (saveCorpusFile layout corpus) tree (tree.Writable layout.corpus)
      fun _ saved => Saved layout.corpus ⟨corpus.encode.toArray⟩ tree saved :=
  change_save_yields Failure.file layout.corpus ⟨corpus.encode.toArray⟩

theorem saveMetadata_yields (layout : Layout) (metadata : Metadata) (tree : FileTree) :
    Yields (saveMetadata layout metadata) tree (tree.Writable layout.metadata)
      fun _ saved => Saved layout.metadata metadata.render.toUTF8 tree saved :=
  change_save_yields Failure.file layout.metadata metadata.render.toUTF8

/-- A corpus of fewer than `2 ^ 64` bytes is saved wherever a file can be saved, and is read back from
what is saved. If a file holds less than all of its bytes, no corpus is read from it. -/
theorem corpusFile_complete (layout : Layout) (hsize : corpus.encode.length < 2 ^ 64) :
    (∀ tree, (∃ saved, (saveCorpusFile layout corpus).apply tree = (.ok (), saved)) ↔
      tree.Writable layout.corpus) ∧
    (∀ tree saved, (saveCorpusFile layout corpus).apply tree = (.ok (), saved) →
      saved.get? layout.corpus = some (.file ⟨corpus.encode.toArray⟩) ∧
      loadCorpusFile layout saved = .ok corpus) ∧
    ∀ cut < corpus.encode.length, ∀ other : FileTree,
      other.get? layout.corpus = some (.file ⟨(corpus.encode.take cut).toArray⟩) →
      loadCorpusFile layout other = .error .corpus := by
  refine ⟨fun tree => (saveCorpusFile_yields layout corpus tree).exists_run_iff,
    fun tree saved hrun => ?_, fun cut hcut other hfile => ?_⟩
  · have hsaved := ((saveCorpusFile_yields layout corpus tree).of_run () saved hrun).2
    exact ⟨hsaved.file, loadCorpusFile_eq hsaved.file hsize⟩
  · rw [loadCorpusFile_of_bytes hfile, Corpus.decode?_take_eq_none hsize hcut]
    rfl

/-- Both documents of `mixed` are read back from their file, and from no part of it. -/
theorem corpusFile_complete_mixed :
    mixed.encode.length < 2 ^ 64 ∧
    (∃ saved, (saveCorpusFile ⟨[], []⟩ mixed).apply empty = (.ok (), saved) ∧
      loadCorpusFile ⟨[], []⟩ saved = .ok mixed) ∧
    12 < mixed.encode.length ∧ ∃ torn : FileTree,
      torn.get? ["corpus.bin"] = some (.file ⟨(mixed.encode.take 12).toArray⟩) ∧
      loadCorpusFile ⟨[], []⟩ torn = .error .corpus := by
  have hsize : mixed.encode.length < 2 ^ 64 := by decide +kernel
  have hcut : 12 < mixed.encode.length := by decide +kernel
  obtain ⟨-, hread, htorn⟩ := corpusFile_complete ⟨[], []⟩ hsize
  obtain ⟨⟨⟩, saved, hrun⟩ := isOk_apply_iff.1 (by decide +kernel :
    ((saveCorpusFile ⟨[], []⟩ mixed).apply empty).1.isOk = true)
  have hfree : empty.get? ["corpus.bin"] ≠ some .directory := by decide +kernel
  obtain ⟨torn, -, hfile, -⟩ := exists_save_entry get?_nil hfree ⟨(mixed.encode.take 12).toArray⟩
  exact ⟨hsize, ⟨saved, hrun, (hread empty saved hrun).2⟩, hcut, torn, hfile,
    htorn 12 hcut torn hfile⟩

end Concordance.Index
