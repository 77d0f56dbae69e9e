import Concordance.Index.Store
import Concordance.Proofs.Encoding.Corpus
import Concordance.Proofs.Index.Corpora
import Concordance.Proofs.Index.DocumentFiles
import Concordance.Proofs.Index.Metadata

/-!
# Reading an index back

A corpus is stored if the listings of its documents can be read, and no others are found
(`Index.Stored`). If its documents can be listed, it is then always read again, and it is read
unchanged exactly if no lemma has a colon (`Stored.exists_loadCorpus`). A corpus is listed if the three
directories of listings hold the files of its documents and nothing else (`Index.Listed`); it is then
stored if it has a document, and otherwise there is no directory to read (`loadCorpus_of_eq_empty`).

An index is opened from the corpus in binary form where there is one (`load_eq_ok_iff`), and from its
listings it is opened as well if these give the same corpus (`load_listed_iff`).
-/

namespace Concordance.Index

variable {layout : Layout} {tree tree' : FileTree} {corpus : Corpus} {id : DocId} {doc : Document}

/-! ## Listings of documents -/

/-- The listings of the documents of a corpus, and no others. -/
structure Listed (layout : Layout) (corpus : Corpus) (tree : FileTree) : Prop where
  /-- The visible texts. -/
  texts : tree.Holds layout.textsDir (corpus.files Document.text)
  /-- The token listings. -/
  tokens : tree.Holds layout.tokensDir (corpus.files fun doc => TokenListing.render doc.tokens)
  /-- The lemma listings. -/
  lemmas : tree.Holds layout.lemmasDir (corpus.files fun doc => LemmaIndex.render doc.lemmaGroups)

/-- Changes elsewhere in the directory leave a corpus listed. -/
theorem Listed.congr {subs : List String} (h : Listed layout corpus tree)
    (hagree : tree.AgreeOutside layout.root subs tree')
    (hsubs : ∀ sub ∈ ["texts", "tokens", "lemmas"], sub ∉ subs) :
    Listed layout corpus tree' where
  texts := h.texts.congr fun _ => hagree.below (hsubs _ (by decide))
  tokens := h.tokens.congr fun _ => hagree.below (hsubs _ (by decide))
  lemmas := h.lemmas.congr fun _ => hagree.below (hsubs _ (by decide))

/-- Where one corpus is listed, the directories of listings are the same. -/
theorem Listed.agree {sub : String} {place : Place} (h : Listed layout corpus tree)
    (h' : Listed layout corpus tree') (hsub : sub ∈ ["texts", "tokens", "lemmas"])
    (hplace : sub :: layout.root <:+ place) : tree'.get? place = tree.get? place := by
  simp only [List.mem_cons, List.not_mem_nil, or_false] at hsub
  rcases hsub with rfl | rfl | rfl
  · exact h.texts.agree h'.texts hplace
  · exact h.tokens.agree h'.tokens hplace
  · exact h.lemmas.agree h'.lemmas hplace

/-- The addresses are not among the listings. -/
theorem Listed.withUrls (h : Listed layout corpus tree) (urls : Std.ExtTreeMap DocId String) :
    Listed layout (corpus.withUrls urls) tree :=
  ⟨h.texts, h.tokens, h.lemmas⟩

/-- The documents that are listed are those of the corpus. -/
theorem Listed.listedIds_eq (h : Listed layout corpus tree) (hne : corpus.documents ≠ ∅) :
    listedIds layout tree = .ok corpus.ids := by
  have hfiles : ¬(corpus.files fun doc => LemmaIndex.render doc.lemmaGroups).isEmpty :=
    mt Corpus.isEmpty_files_iff.1 hne
  have hnames := FileTree.names_eq_of_directory (h.lemmas.directory.trans (if_neg hfiles))
  have hperm := h.lemmas.ids_perm hfiles hnames
  rw [Corpus.keys_files] at hperm
  rw [listedIds, hnames]
  exact congrArg Except.ok (DocId.mergeSort_eq_of_perm hperm corpus.pairwise_ids)

/-- Of a corpus without documents there is no directory to read. -/
theorem loadCorpus_of_eq_empty (hlisted : Listed layout corpus tree) (hempty : corpus.documents = ∅)
    (hroot : tree.get? layout.root = some .directory) :
    loadCorpus layout tree = .error (.file .notFound) := by
  have hnone := hlisted.lemmas.directory.trans (if_pos (Corpus.isEmpty_files_iff.2 hempty))
  rw [loadCorpus, listedIds, Layout.lemmasDir, FileTree.names_of_get?_eq_none hnone hroot]
  rfl

/-- The listings of the documents of a corpus can be read, and no others are found. -/
structure Stored (layout : Layout) (corpus : Corpus) (tree : FileTree) : Prop where
  /-- The visible texts. -/
  text : ∀ (id : DocId) (doc : Document), corpus.get? id = some doc →
    tree.readText (layout.text id) = .ok doc.text
  /-- The token listings. -/
  tokens : ∀ (id : DocId) (doc : Document), corpus.get? id = some doc →
    tree.readText (layout.tokens id) = .ok (TokenListing.render doc.tokens)
  /-- The lemma listings. -/
  lemmas : ∀ (id : DocId) (doc : Document), corpus.get? id = some doc →
    tree.readText (layout.lemmas id) = .ok (LemmaIndex.render doc.lemmaGroups)
  /-- The numbers that are found. -/
  ids : ∃ ids, listedIds layout tree = .ok ids ∧ ∀ id, id ∈ ids ↔ id ∈ corpus.ids

/-- A listed corpus with a document is stored. -/
theorem Listed.stored (h : Listed layout corpus tree) (hne : corpus.documents ≠ ∅) :
    Stored layout corpus tree where
  text _ _ hget := h.texts.readText (Corpus.getElem?_files hget)
  tokens _ _ hget := h.tokens.readText (Corpus.getElem?_files hget)
  lemmas _ _ hget := h.lemmas.readText (Corpus.getElem?_files hget)
  ids := ⟨corpus.ids, h.listedIds_eq hne, fun _ => Iff.rfl⟩

/-! ## Single documents -/

theorem readText_eq_ok {place : Place} {text : String} (h : tree.readText place = .ok text) :
    readText tree place = .ok text := by
  rw [readText, h]
  rfl

theorem readTextIfAny_eq_ok {place : Place} {text : String} (h : tree.readText place = .ok text) :
    readTextIfAny tree place = .ok text := by
  rw [readTextIfAny, h]

/-- A document that can be listed is read again, unchanged exactly if no lemma has a colon. -/
theorem exists_loadDocument (hstored : Stored layout corpus tree) (hrecorded : corpus.Recorded)
    (hget : corpus.get? id = some doc) :
    ∃ read, loadDocument layout tree id = .ok read ∧ read.id = id ∧
      (read = doc ↔ doc.lemmaGroups.ColonFree) := by
  have hdoc : doc.Recorded := hrecorded.documents doc (Corpus.mem_docs_iff.2 ⟨id, hget⟩)
  obtain ⟨groups, hgroups⟩ := LemmaIndex.exists_parse_render hdoc.groups
  have hlemmas := readText_eq_ok (hstored.lemmas id doc hget)
  have htokens := readTextIfAny_eq_ok (hstored.tokens id doc hget)
  have htext := readTextIfAny_eq_ok (hstored.text id doc hget)
  have hparse : TokenListing.parse (TokenListing.render doc.tokens) = doc.tokens :=
    TokenListing.parse_render hdoc.line hdoc.trimmed
  refine ⟨⟨id, doc.text, doc.tokens, groups⟩, ?_, rfl, ?_⟩
  · simp only [loadDocument, hlemmas, htokens, htext, hgroups, hparse, bind, Except.bind,
      mapError_ok, pure, Except.pure]
  · rw [← LemmaIndex.parse_render_eq_iff hdoc.groups, hgroups, Except.ok.injEq]
    constructor
    · exact fun heq => congrArg Document.lemmaGroups heq
    · rintro rfl
      obtain rfl := hrecorded.filed id doc hget
      rfl

/-! ## The whole corpus -/

variable {ids : List DocId} {read : List Document}

/-- The documents that are read are those that can be read under the numbers of the corpus. -/
theorem mem_read_iff (hstored : Stored layout corpus tree) (hrecorded : corpus.Recorded)
    (hids : ∀ id, id ∈ ids ↔ id ∈ corpus.ids)
    (hread : ids.mapM (loadDocument layout tree) = .ok read) :
    doc ∈ read ↔ doc.id ∈ corpus.ids ∧ loadDocument layout tree doc.id = .ok doc := by
  simp only [mem_of_mapM_eq_ok hread, hids]
  refine ⟨?_, fun h => ⟨doc.id, h⟩⟩
  rintro ⟨id, hid, hload⟩
  obtain ⟨stored, hget⟩ := Corpus.mem_ids_iff.1 hid
  obtain ⟨found, hfound, rfl, -⟩ := exists_loadDocument hstored hrecorded hget
  obtain rfl := Except.ok.inj (hload.symm.trans hfound)
  exact ⟨hid, hload⟩

theorem get?_ofDocuments_read_iff (hstored : Stored layout corpus tree)
    (hrecorded : corpus.Recorded) (hids : ∀ id, id ∈ ids ↔ id ∈ corpus.ids)
    (hread : ids.mapM (loadDocument layout tree) = .ok read) :
    (Corpus.ofDocuments read).get? id = some doc ↔
      (id ∈ corpus.ids ∧ loadDocument layout tree id = .ok doc) ∧ doc.id = id := by
  have hmem : ∀ d, d ∈ read ↔ d.id ∈ corpus.ids ∧ loadDocument layout tree d.id = .ok d :=
    fun _ => mem_read_iff hstored hrecorded hids hread
  rw [Corpus.get?_ofDocuments_eq_some_iff, hmem]
  · constructor
    · rintro ⟨h, rfl⟩
      exact ⟨h, rfl⟩
    · rintro ⟨h, rfl⟩
      exact ⟨h, rfl⟩
  · intro d hd d' hd' heq
    have hload := ((hmem d).1 hd).2
    rw [heq, ((hmem d').1 hd').2] at hload
    exact (Except.ok.inj hload).symm

/-- What is read of the documents are the documents themselves exactly if no lemma has a colon. -/
theorem ofDocuments_eq_iff (hstored : Stored layout corpus tree) (hrecorded : corpus.Recorded)
    (hids : ∀ id, id ∈ ids ↔ id ∈ corpus.ids)
    (hread : ids.mapM (loadDocument layout tree) = .ok read) :
    (Corpus.ofDocuments read).documents = corpus.documents ↔ corpus.ColonFree := by
  have hload : ∀ (id : DocId) (doc : Document), corpus.get? id = some doc →
      ∃ d, (Corpus.ofDocuments read).get? id = some d ∧ (d = doc ↔ doc.lemmaGroups.ColonFree) := by
    intro id doc hget
    obtain ⟨d, hd, hid, hiff⟩ := exists_loadDocument hstored hrecorded hget
    exact ⟨d, (get?_ofDocuments_read_iff hstored hrecorded hids hread).2
      ⟨⟨Corpus.mem_ids_iff.2 ⟨doc, hget⟩, hd⟩, hid⟩, hiff⟩
  constructor
  · intro heq doc hdoc
    obtain ⟨id, hget⟩ := Corpus.mem_docs_iff.1 hdoc
    obtain ⟨d, hd, hiff⟩ := hload id doc hget
    have hsame : some d = some doc := by
      rw [← hd, ← hget, Corpus.get?, Corpus.get?, heq]
    exact hiff.1 (Option.some.inj hsame)
  · intro hfree
    refine Std.ExtTreeMap.ext_getElem? fun id => ?_
    cases hget : corpus.get? id with
    | some doc =>
      obtain ⟨d, hd, hiff⟩ := hload id doc hget
      rw [hiff.2 (hfree doc (Corpus.mem_docs_iff.2 ⟨id, hget⟩))] at hd
      exact hd.trans hget.symm
    | none =>
      refine Eq.trans (Option.eq_none_iff_forall_ne_some.2 fun d hd => ?_) hget.symm
      obtain ⟨⟨hid, -⟩, -⟩ := (get?_ofDocuments_read_iff hstored hrecorded hids hread).1 hd
      obtain ⟨doc, hdoc⟩ := Corpus.mem_ids_iff.1 hid
      rw [hget] at hdoc
      cases hdoc

/-- The addresses that `loadCorpus` gives to the documents it reads. -/
def UrlsRead (layout : Layout) (tree : FileTree) (urls : Std.ExtTreeMap DocId String) : Prop :=
  loadUrls layout tree = .ok urls ∨ loadUrls layout tree = .error (.file .notFound) ∧ urls = ∅

/-- A corpus is read only if its addresses can be read or are missing. -/
theorem exists_urlsRead_of_loadCorpus (h : loadCorpus layout tree = .ok corpus) :
    ∃ urls, UrlsRead layout tree urls := by
  obtain ⟨ids, -, h⟩ := bind_eq_ok_iff.1 h
  obtain ⟨docs, -, h⟩ := bind_eq_ok_iff.1 h
  split at h
  · next urls hurls => exact ⟨urls, .inl hurls⟩
  · next hmissing => exact ⟨∅, .inr ⟨hmissing, rfl⟩⟩
  · cases h

/-- A stored corpus is read again, unchanged exactly if no lemma has a colon. -/
theorem Stored.exists_loadCorpus (hstored : Stored layout corpus tree) (hrecorded : corpus.Recorded)
    (hurls : UrlsRead layout tree corpus.urls) :
    ∃ read, loadCorpus layout tree = .ok read ∧ (read = corpus ↔ corpus.ColonFree) := by
  obtain ⟨ids, hlisted, hids⟩ := hstored.ids
  obtain ⟨read, hread⟩ : ∃ read, ids.mapM (loadDocument layout tree) = .ok read := by
    refine exists_mapM_eq_ok fun id hid => ?_
    obtain ⟨doc, hget⟩ := Corpus.mem_ids_iff.1 ((hids id).1 hid)
    obtain ⟨d, hd, -⟩ := exists_loadDocument hstored hrecorded hget
    exact ⟨d, hd⟩
  have hiff := ofDocuments_eq_iff hstored hrecorded hids hread
  refine ⟨⟨(Corpus.ofDocuments read).documents, corpus.urls⟩, ?_, ?_⟩
  · rw [loadCorpus, hlisted]
    show ((ids.mapM (loadDocument layout tree)).bind fun _ => _) = _
    rw [hread]
    rcases hurls with hurls | ⟨hurls, hempty⟩
    · simp only [Except.bind, hurls]
      rfl
    · simp only [Except.bind, hurls, hempty]
      rfl
  · rw [← hiff]
    constructor
    · intro heq
      rw [← heq]
    · intro heq
      rw [heq]

/-- A listed corpus with a document is read again, unchanged exactly if no lemma has a colon. -/
theorem exists_loadCorpus (hlisted : Listed layout corpus tree) (hrecorded : corpus.Recorded)
    (hne : corpus.documents ≠ ∅) (hurls : UrlsRead layout tree corpus.urls) :
    ∃ read, loadCorpus layout tree = .ok read ∧ (read = corpus ↔ corpus.ColonFree) :=
  (hlisted.stored hne).exists_loadCorpus hrecorded hurls

/-! ## Opening -/

/-- Metadata are read back from their file. -/
theorem loadMetadata_eq {metadata : Metadata}
    (hmetadata : tree.get? layout.metadata = some (.file metadata.render.toUTF8)) :
    loadMetadata layout tree = .ok metadata := by
  rw [loadMetadata, readText_eq_ok (FileTree.readText_eq_ok_iff.2 hmetadata)]
  simp only [bind, Except.bind, Metadata.parse?_render]
  rfl

theorem loadSettings_eq {metadata : Metadata}
    (hmetadata : tree.get? layout.metadata = some (.file metadata.render.toUTF8)) :
    loadSettings layout tree = .ok metadata.settings := by
  rw [loadSettings, loadMetadata_eq hmetadata]

/-- What the bytes of its file say of a corpus. -/
theorem loadCorpusFile_of_bytes {bytes : List UInt8}
    (hfile : tree.get? layout.corpus = some (.file ⟨bytes.toArray⟩)) :
    loadCorpusFile layout tree = (Corpus.decode? bytes).elim (.error .corpus) .ok := by
  have hbytes : (⟨bytes.toArray⟩ : ByteArray).toList = bytes := by
    rw [Text.toList_eq]
  rw [loadCorpusFile, FileTree.read_eq_ok_iff.2 hfile]
  simp only [mapError_ok, bind, Except.bind, hbytes]
  cases Corpus.decode? bytes with
  | none => rfl
  | some corpus => rfl

/-- The corpus in binary form is read back. -/
theorem loadCorpusFile_eq (hfile : tree.get? layout.corpus = some (.file ⟨corpus.encode.toArray⟩))
    (hsize : corpus.encode.length < 2 ^ 64) : loadCorpusFile layout tree = .ok corpus := by
  rw [loadCorpusFile_of_bytes hfile, Corpus.decode?_encode hsize]
  rfl

/-- An index with metadata is opened if its corpus can be read, in binary form if there is one, and
the settings in the metadata describe a normalizer. -/
theorem load_eq_ok_iff {metadata : Metadata} {opened : OpenIndex}
    (hmetadata : tree.get? layout.metadata = some (.file metadata.render.toUTF8)) :
    load layout tree = .ok opened ↔ ∃ corpus normalizer,
      (if tree.has layout.corpus then loadCorpusFile layout tree else loadCorpus layout tree) =
        .ok corpus ∧
      metadata.settings.normalizer tree layout.start = .ok normalizer ∧
      opened = ⟨.ofCorpus corpus, normalizer⟩ := by
  rw [load, loadSettings_eq hmetadata]
  cases tree.has layout.corpus
  all_goals simp only [bind_eq_ok_iff, mapError_eq_ok_iff, pure_eq_ok_iff, Except.ok.injEq,
    exists_eq_left', exists_and_left, eq_comm (a := opened), Bool.false_eq_true, if_true, if_false]

/-- Without the corpus in binary form an index is opened only from its listings. -/
theorem exists_loadCorpus_of_load {opened : OpenIndex} (hhas : tree.has layout.corpus = false)
    (hload : load layout tree = .ok opened) : ∃ corpus, loadCorpus layout tree = .ok corpus := by
  rw [load, hhas] at hload
  obtain ⟨settings, -, hload⟩ := bind_eq_ok_iff.1 hload
  obtain ⟨corpus, hcorpus, -⟩ := bind_eq_ok_iff.1 hload
  exact ⟨corpus, hcorpus⟩

/-- What is opened with the corpus in binary form is opened from listings as well exactly if these
give the same corpus, the normalizer being the same. -/
theorem load_listed_iff {metadata : Metadata} {opened : OpenIndex} {read : Corpus}
    (hmetadata : tree.get? layout.metadata = some (.file metadata.render.toUTF8))
    (hmetadata' : tree'.get? layout.metadata = some (.file metadata.render.toUTF8))
    (hhas : tree.has layout.corpus = true) (hhas' : tree'.has layout.corpus = false)
    (hbinary : loadCorpusFile layout tree = .ok corpus) (hread : loadCorpus layout tree' = .ok read)
    (hnormalizer : metadata.settings.normalizer tree' layout.start =
      metadata.settings.normalizer tree layout.start)
    (hopened : load layout tree = .ok opened) : load layout tree' = .ok opened ↔ read = corpus := by
  rw [load_eq_ok_iff hmetadata, hhas, if_pos rfl, hbinary] at hopened
  obtain ⟨_, normalizer, hcorpus, hsettings, rfl⟩ := hopened
  obtain rfl := Except.ok.inj hcorpus
  rw [load_eq_ok_iff hmetadata', hhas', if_neg Bool.false_ne_true, hread, hnormalizer, hsettings]
  constructor
  · rintro ⟨read', normalizer', hread', -, heq⟩
    obtain rfl := Except.ok.inj hread'
    exact (congrArg (fun opened : OpenIndex => opened.snapshot.corpus) heq).symm
  · rintro rfl
    exact ⟨read, normalizer, rfl, rfl, rfl⟩

end Concordance.Index
