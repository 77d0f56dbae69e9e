import Concordance.Index.Build
import Concordance.Proofs.Index.Loading
import Concordance.Proofs.Normalization

/-!
# The corpus of a directory

The pages of a directory, the files that the settings name and the address listing make a corpus
(`source`), and nothing else of the directory counts (`source_congr`). There is a document exactly if
there is a page (`documents_ne_empty_iff`), and all documents can be listed (`recorded_of_source`).
-/

namespace Concordance.Build

variable {layout : Layout} {settings : Settings} {tree tree' : FileTree} {corpus : Corpus}
  {docs : List Document}

/-- The addresses in the listing beside the pages, if there is one. -/
def urlsBeside (layout : Layout) (tree : FileTree) :
    Except Index.Failure (Std.ExtTreeMap DocId String) :=
  if tree.has layout.urlIndex then Index.loadUrls layout tree else .ok ∅

/-- The corpus that the pages of a directory make, with the addresses beside them. -/
def source (layout : Layout) (settings : Settings) (tree : FileTree) : Except Failure Corpus := do
  let docs ← readPages layout settings tree
  let urls ← (urlsBeside layout tree).mapError .index
  return (Corpus.ofDocuments docs).withUrls urls

theorem source_eq_ok_iff : source layout settings tree = .ok corpus ↔
    ∃ docs urls, readPages layout settings tree = .ok docs ∧ urlsBeside layout tree = .ok urls ∧
      (Corpus.ofDocuments docs).withUrls urls = corpus := by
  simp only [source, bind_eq_ok_iff, mapError_eq_ok_iff, pure_eq_ok_iff, exists_and_left]

theorem exists_source_iff : (∃ corpus, source layout settings tree = .ok corpus) ↔
    (∃ docs, readPages layout settings tree = .ok docs) ∧
      ∃ urls, urlsBeside layout tree = .ok urls := by
  constructor
  · rintro ⟨corpus, hsource⟩
    obtain ⟨docs, urls, hdocs, hurls, -⟩ := source_eq_ok_iff.1 hsource
    exact ⟨⟨docs, hdocs⟩, urls, hurls⟩
  · rintro ⟨⟨docs, hdocs⟩, urls, hurls⟩
    exact ⟨_, source_eq_ok_iff.2 ⟨docs, urls, hdocs, hurls, rfl⟩⟩

/-! ## Documents of pages -/

theorem readPage_eq_ok_iff {normalizer : Normalizer} {id : DocId} {doc : Document} :
    readPage layout normalizer tree id = .ok doc ↔ ∃ html,
      tree.readText (layout.page id) = .ok html ∧
        normalizer.normalize id (Html.visibleText html) = doc := by
  simp only [readPage, bind_eq_ok_iff, mapError_eq_ok_iff, pure_eq_ok_iff]

/-- The documents are those that the normalizer of the settings makes of their pages. -/
theorem exists_normalizer_of_source (h : source layout settings tree = .ok corpus) :
    ∃ normalizer, settings.normalizer tree layout.start = .ok normalizer ∧
      ∀ doc ∈ corpus.docs, readPage layout normalizer tree doc.id = .ok doc := by
  obtain ⟨docs, urls, hdocs, -, rfl⟩ := source_eq_ok_iff.1 h
  obtain ⟨normalizer, hnormalizer, hpages⟩ := bind_eq_ok_iff.1 hdocs
  refine ⟨normalizer, mapError_eq_ok_iff.1 hnormalizer, fun doc hdoc => ?_⟩
  have hmem := Corpus.mem_of_mem_docs_ofDocuments hdoc
  obtain ⟨id, -, hpage⟩ := (mem_of_mapM_eq_ok hpages doc).1 hmem
  obtain ⟨html, -, rfl⟩ := readPage_eq_ok_iff.1 hpage
  exact hpage

/-- All documents can be listed. -/
theorem recorded_of_source (h : source layout settings tree = .ok corpus) : corpus.Recorded where
  filed id doc hget := by
    obtain ⟨docs, urls, -, -, rfl⟩ := source_eq_ok_iff.1 h
    exact Corpus.id_eq_of_get?_ofDocuments hget
  documents doc hdoc := by
    obtain ⟨normalizer, hnormalizer, hpages⟩ := exists_normalizer_of_source h
    obtain ⟨html, -, hnormalize⟩ := readPage_eq_ok_iff.1 (hpages doc hdoc)
    obtain ⟨hmin, havailable, -⟩ := Settings.normalizer_eq_ok hnormalizer
    exact hnormalize ▸ Normalizer.recorded_normalize hmin havailable doc.id _

/-- With lemmas without colons, no document has one. -/
theorem colonFree_of_source (h : source layout settings tree = .ok corpus)
    (hfree : ∀ lemmatizer, settings.lemmatizer tree layout.start = .ok lemmatizer →
      lemmatizer.ColonFree) : corpus.ColonFree := by
  intro doc hdoc
  obtain ⟨normalizer, hnormalizer, hpages⟩ := exists_normalizer_of_source h
  obtain ⟨html, -, hnormalize⟩ := readPage_eq_ok_iff.1 (hpages doc hdoc)
  obtain ⟨hmin, -, hlemmatizer⟩ := Settings.normalizer_eq_ok hnormalizer
  exact hnormalize ▸ Normalizer.colonFree_normalize hmin (hfree _ hlemmatizer) doc.id _

/-- There is a document exactly if there is a page. -/
theorem documents_ne_empty_iff (h : source layout settings tree = .ok corpus) :
    corpus.documents ≠ ∅ ↔ pageIds layout tree ≠ [] := by
  obtain ⟨docs, urls, hdocs, -, rfl⟩ := source_eq_ok_iff.1 h
  obtain ⟨normalizer, -, hpages⟩ := bind_eq_ok_iff.1 hdocs
  refine not_congr (Corpus.documents_ofDocuments_eq_empty_iff.trans ?_)
  cases hids : pageIds layout tree with
  | nil =>
    rw [hids, List.mapM_nil, pure_eq_ok_iff] at hpages
    exact iff_of_true hpages.symm rfl
  | cons id ids =>
    rw [hids] at hpages
    obtain ⟨doc, rest, -, -, rfl⟩ := mapM_cons_eq_ok_iff.1 hpages
    exact iff_of_false (List.cons_ne_nil _ _) (List.cons_ne_nil _ _)

/-! ## What the corpus depends on -/

/-- Two directories with the same pages and addresses, and with the same files for the settings. -/
structure SameInputs (layout : Layout) (settings : Settings) (tree tree' : FileTree) : Prop where
  /-- The pages. -/
  pages : ∀ place, layout.pagesDir <:+ place → tree'.get? place = tree.get? place
  /-- The address listing. -/
  urls : tree'.get? layout.urlIndex = tree.get? layout.urlIndex
  /-- The files that the settings name. -/
  settings : ∀ path ∈ settings.paths,
    tree'.readPath layout.start path = tree.readPath layout.start path

/-- A directory with one page and a dictionary. -/
def onePage : FileTree :=
  .ofTexts [(["1.html", "pages"], "<p>коты</p>"), (["dict.txt"], "коты кот\n")]

/-- The same page and dictionary, among what other builds left. -/
def leftOvers : FileTree :=
  .ofTexts [(["7.txt", "lemmas"], "дом: дома\n"), (["corpus.bin"], ""), (["meta.json"], "{}"),
    (["1.html", "pages"], "<p>коты</p>"), (["dict.txt"], "коты кот\n")]

/-- A dictionary that maps `коты` to `кот` gives no lemma with a colon. -/
theorem colonFree_of_readPath (h : (tree.readPath [] "dict.txt").toOption = some "коты кот\n") :
    ∀ lemmatizer, Settings.lemmatizer { dictionary := some "dict.txt" } tree [] = .ok lemmatizer →
      lemmatizer.ColonFree := by
  intro lemmatizer hlemmatizer
  have hlines : Text.lines "коты кот\n" = ["коты кот"] := by decide +kernel
  have hwords : Text.words "коты кот" = ["коты", "кот"] := by decide +kernel
  rw [Settings.lemmatizer, bind_eq_ok_iff] at hlemmatizer
  obtain ⟨text, hread, hpure⟩ := hlemmatizer
  obtain rfl := pure_eq_ok_iff.1 hpure
  obtain rfl : "коты кот\n" = text := Except.ok.inj ((toOption_eq_some_iff.1 h).symm.trans hread)
  refine Lemmatizer.colonFree_ofDictionary fun line hline form lem rest hentry => ?_
  rw [hlines, List.mem_singleton] at hline
  obtain ⟨-, rfl, -⟩ : "коты" = form ∧ "кот" = lem ∧ [] = rest := by
    simpa [hline, hwords] using hentry
  decide

/-- Left-overs are no inputs. -/
theorem sameInputs_leftOvers :
    SameInputs ⟨[], []⟩ { dictionary := some "dict.txt" } onePage leftOvers where
  pages place hplace := FileTree.get?_eq_of_filter_eq (by decide +kernel) hplace
  urls := by decide +kernel
  settings path hpath := by
    obtain rfl : path = "dict.txt" := by simpa [Settings.paths] using hpath
    rw [toOption_eq_some_iff.1 (by decide +kernel : (leftOvers.readPath [] "dict.txt").toOption =
        some "коты кот\n"),
      toOption_eq_some_iff.1 (by decide +kernel : (onePage.readPath [] "dict.txt").toOption =
        some "коты кот\n")]

theorem pageIds_congr (h : ∀ place, layout.pagesDir <:+ place → tree'.get? place = tree.get? place) :
    pageIds layout tree' = pageIds layout tree := by
  have hdir := h layout.pagesDir (List.suffix_refl _)
  have hentry := fun name => h (name :: layout.pagesDir) (List.suffix_cons _ _)
  by_cases hpages : tree.get? layout.pagesDir = some .directory
  · have hnames := FileTree.names_eq_of_directory hpages
    have hnames' := FileTree.names_eq_of_directory (hdir.trans hpages)
    have hperm := FileTree.names_perm hpages hnames (hdir.trans hpages) hnames' hentry
    have hfile : (fun name => tree'.hasFile (name :: layout.pagesDir)) =
        fun name => tree.hasFile (name :: layout.pagesDir) :=
      funext fun name => FileTree.hasFile_congr (hentry name)
    simp only [pageIds, hnames, hnames', hfile, Except.toOption, Option.getD_some]
    refine DocId.mergeSort_eq_of_perm ?_ (DocId.pairwise_mergeSort _)
    exact ((hperm.filter _).filterMap _).trans (List.mergeSort_perm _ _).symm
  · have hpages' : tree'.get? layout.pagesDir ≠ some .directory := hdir ▸ hpages
    simp only [pageIds, FileTree.names_toOption_of_ne_directory hpages,
      FileTree.names_toOption_of_ne_directory hpages', Option.getD_none, List.filter_nil,
      List.filterMap_nil]

theorem directory_of_mem_pageIds {id : DocId} (h : id ∈ pageIds layout tree) :
    tree.get? layout.pagesDir = some .directory := by
  refine Classical.byContradiction fun hpages => ?_
  simp [pageIds, FileTree.names_toOption_of_ne_directory hpages] at h

/-- The documents depend on the numbers that are found, the pages under these, and the settings. -/
theorem readPages_congr_of_pageIds (hids : pageIds layout tree' = pageIds layout tree)
    (hdir : tree'.get? layout.pagesDir = tree.get? layout.pagesDir)
    (hpage : ∀ id, tree'.get? (layout.page id) = tree.get? (layout.page id))
    (hsettings : ∀ path ∈ settings.paths,
      tree'.readPath layout.start path = tree.readPath layout.start path) :
    readPages layout settings tree' = readPages layout settings tree := by
  rw [readPages, readPages, Settings.normalizer_congr hsettings, hids]
  refine congrArg _ (funext fun normalizer => mapM_congr fun id hid => ?_)
  have hpages := directory_of_mem_pageIds hid
  have hread : tree'.readText (layout.page id) = tree.readText (layout.page id) :=
    FileTree.readText_congr hpages (hdir.trans hpages) (hpage id)
  rw [readPage, readPage, hread]

theorem readPages_congr (h : SameInputs layout settings tree tree') :
    readPages layout settings tree' = readPages layout settings tree :=
  readPages_congr_of_pageIds (pageIds_congr h.pages) (h.pages _ (List.suffix_refl _))
    (fun _ => h.pages _ (List.suffix_cons _ _)) h.settings

/-- Inside a directory, the addresses depend on their listing alone. -/
theorem loadUrls_congr (hroot : tree.get? layout.root = some .directory)
    (hroot' : tree'.get? layout.root = some .directory)
    (h : tree'.get? layout.urlIndex = tree.get? layout.urlIndex) :
    Index.loadUrls layout tree' = Index.loadUrls layout tree := by
  have hread : tree'.readText layout.urlIndex = tree.readText layout.urlIndex :=
    FileTree.readText_congr hroot hroot' h
  rw [Index.loadUrls, Index.loadUrls, Index.readText, Index.readText, hread]

theorem urlsBeside_congr (hroot : tree.get? layout.root = some .directory)
    (hroot' : tree'.get? layout.root = some .directory)
    (h : tree'.get? layout.urlIndex = tree.get? layout.urlIndex) :
    urlsBeside layout tree' = urlsBeside layout tree := by
  rw [urlsBeside, urlsBeside, FileTree.has_congr h, loadUrls_congr hroot hroot' h]

/-- The corpus depends on these alone. -/
theorem source_congr (h : SameInputs layout settings tree tree')
    (hroot : tree.get? layout.root = some .directory)
    (hroot' : tree'.get? layout.root = some .directory) :
    source layout settings tree' = source layout settings tree := by
  rw [source, source, readPages_congr h, urlsBeside_congr hroot hroot' h.urls]

end Concordance.Build
