import Concordance.Proofs.Build.Failing
import Concordance.Proofs.Index.FileNumbers

/-!
# Pages and listings by number

Pages and lemma listings are found by the numbers in their file names. What is found is exactly what
is there, in ascending order and each once, if these numbers are written as plain numerals, and only
then (`exactly_pageIds_iff`, `exactly_listedIds_iff`); a name such as `007.html` stands for the
document of `7.html`. With plain numerals, no other file among the pages or the lemma listings
counts (`normalizePages_congr`, `loadCorpus_congr`).
-/

namespace Concordance.Build

open FileTree FileTree.Edit

variable {layout : Layout} {settings : Settings} {createdAt : String} {tree tree' : FileTree}
  {corpus : Corpus} {id : DocId} {ids : List DocId} {place : Place} {name sub : String}

/-- The numbers of the pages are written as plain numerals. -/
def PlainPages (layout : Layout) (tree : FileTree) : Prop :=
  DocId.PlainlyNumbered "html" fun name => tree.hasFile (name :: layout.pagesDir) = true

/-- The numbers of the lemma listings are written as plain numerals. -/
def PlainLemmas (layout : Layout) (tree : FileTree) : Prop :=
  DocId.PlainlyNumbered "txt" fun name => tree.has (name :: layout.lemmasDir) = true

/-! ## The numbers that are found -/

theorem hasFile_iff :
    tree.hasFile place = true ↔ ∃ content, tree.get? place = some (.file content) := by
  rw [hasFile]
  split
  · next content h => simp [h]
  · next h => simpa using h

/-- The names of the files among the pages, and the numbers that are taken from them. -/
theorem exists_pageNames (layout : Layout) (tree : FileTree) : ∃ names : List String,
    names.Nodup ∧ (∀ name, name ∈ names ↔ tree.hasFile (name :: layout.pagesDir) = true) ∧
      pageIds layout tree = (names.filterMap (DocId.ofFileName? "html")).mergeSort := by
  by_cases hdir : tree.get? layout.pagesDir = some .directory
  · have hnames := names_eq_of_directory hdir
    refine ⟨_, (nodup_names hnames).filter fun name => tree.hasFile (name :: layout.pagesDir),
      fun name => ?_, by rw [pageIds, hnames]; rfl⟩
    rw [List.mem_filter, mem_names_iff hdir hnames, and_iff_right_iff_imp, hasFile_iff]
    rintro ⟨content, hfile⟩
    rw [hfile]
    rfl
  · -- without the directory there are no pages, and none are found
    refine ⟨[], List.nodup_nil, fun name => iff_of_false List.not_mem_nil fun hfile => ?_, ?_⟩
    · obtain ⟨content, hget⟩ := hasFile_iff.1 hfile
      exact hdir (get?_around_of_get? hget)
    · rw [pageIds, names_toOption_of_ne_directory hdir]
      rfl

/-- The pages that are found are exactly those that are there if their numerals are plain, and only
then. -/
theorem exactly_pageIds_iff :
    DocId.Exactly (pageIds layout tree) (fun id => tree.hasFile (layout.page id) = true) ↔
      PlainPages layout tree := by
  obtain ⟨names, hnodup, hmem, hids⟩ := exists_pageNames layout tree
  have hiff := DocId.exactly_mergeSort_iff "html" hnodup
  simp only [hmem] at hiff
  rw [hids]
  exact hiff

/-- Each page that is there is found. -/
theorem mem_pageIds_of_hasFile (h : tree.hasFile (layout.page id) = true) :
    id ∈ pageIds layout tree := by
  obtain ⟨names, -, hmem, hids⟩ := exists_pageNames layout tree
  rw [hids]
  exact DocId.mem_mergeSort_iff.2 ⟨_, (hmem _).2 h, DocId.ofFileName?_fileName⟩

theorem exists_listedIds_iff :
    (∃ ids, Index.listedIds layout tree = .ok ids) ↔
      tree.get? layout.lemmasDir = some .directory := by
  rw [Index.listedIds]
  constructor
  · rintro ⟨ids, hids⟩
    obtain ⟨names, hnames, -⟩ := bind_eq_ok_iff.1 hids
    refine Classical.byContradiction fun hdir => ?_
    have hnone := names_toOption_of_ne_directory hdir
    rw [mapError_eq_ok_iff.1 hnames] at hnone
    cases hnone
  · intro hdir
    rw [names_eq_of_directory hdir]
    exact ⟨_, rfl⟩

/-- The names among the lemma listings, and the numbers that are taken from them. -/
theorem exists_listedNames (h : Index.listedIds layout tree = .ok ids) : ∃ names : List String,
    names.Nodup ∧ (∀ name, name ∈ names ↔ tree.has (name :: layout.lemmasDir) = true) ∧
      ids = (names.filterMap (DocId.ofFileName? "txt")).mergeSort := by
  have hdir := exists_listedIds_iff.1 ⟨ids, h⟩
  obtain ⟨names, hnames, hids⟩ := bind_eq_ok_iff.1 h
  have hnames := mapError_eq_ok_iff.1 hnames
  exact ⟨names, nodup_names hnames, fun _ => mem_names_iff hdir hnames,
    (pure_eq_ok_iff.1 hids).symm⟩

/-- The lemma listings that are found are exactly those that are there if their numerals are plain,
and only then. -/
theorem exactly_listedIds_iff (h : Index.listedIds layout tree = .ok ids) :
    DocId.Exactly ids (fun id => tree.has (layout.lemmas id) = true) ↔ PlainLemmas layout tree := by
  obtain ⟨names, hnodup, hmem, rfl⟩ := exists_listedNames h
  have hiff := DocId.exactly_mergeSort_iff "txt" hnodup
  simp only [hmem] at hiff
  exact hiff

/-- Each lemma listing that is there is found. -/
theorem mem_listedIds_of_has (h : Index.listedIds layout tree = .ok ids)
    (hhas : tree.has (layout.lemmas id) = true) : id ∈ ids := by
  obtain ⟨names, -, hmem, rfl⟩ := exists_listedNames h
  exact DocId.mem_mergeSort_iff.2 ⟨_, (hmem _).2 hhas, DocId.ofFileName?_fileName⟩

/-! ## Directories with the same numbered files -/

/-- Two directories that differ at most in other files among the pages and the lemma listings than
those of documents. -/
structure SameNumbered (layout : Layout) (tree tree' : FileTree) : Prop where
  /-- The pages of documents. -/
  pages : ∀ id, tree'.get? (layout.page id) = tree.get? (layout.page id)
  /-- The lemma listings of documents. -/
  lemmas : ∀ id, tree'.get? (layout.lemmas id) = tree.get? (layout.lemmas id)
  /-- All that is not below these two directories. -/
  other : ∀ place, (∀ name, ¬name :: layout.pagesDir <:+ place) →
    (∀ name, ¬name :: layout.lemmasDir <:+ place) → tree'.get? place = tree.get? place

namespace SameNumbered

/-- The directory and its entries are the same, and so is all that leads to them. -/
theorem entry (h : SameNumbered layout tree tree') (hplace : place <:+ sub :: layout.root) :
    tree'.get? place = tree.get? place := by
  have hlength := hplace.length_le
  refine h.other place (fun name hbelow => ?_) (fun name hbelow => ?_)
  all_goals
    have hlower := hbelow.length_le
    simp only [Layout.pagesDir, Layout.lemmasDir, List.length_cons] at hlength hlower
    omega

theorem root (h : SameNumbered layout tree tree') :
    tree'.get? layout.root = tree.get? layout.root :=
  h.entry (List.suffix_cons "pages" _)

/-- A file in another of the directories is the same. -/
theorem file (h : SameNumbered layout tree tree') (hpages : sub ≠ "pages")
    (hlemmas : sub ≠ "lemmas") :
    tree'.get? (name :: sub :: layout.root) = tree.get? (name :: sub :: layout.root) := by
  have hsub : sub :: layout.root <:+ name :: sub :: layout.root := List.suffix_cons _ _
  exact h.other _
    (fun _ hbelow => hpages (eq_of_suffix hsub ((List.suffix_cons _ _).trans hbelow)))
    (fun _ hbelow => hlemmas (eq_of_suffix hsub ((List.suffix_cons _ _).trans hbelow)))

/-- Where a file is the same, its text is. -/
theorem readText (h : SameNumbered layout tree tree')
    (hfile : tree'.get? (name :: sub :: layout.root) = tree.get? (name :: sub :: layout.root)) :
    tree'.readText (name :: sub :: layout.root) = tree.readText (name :: sub :: layout.root) :=
  readText_congr_of_suffix fun _ hother =>
    (List.suffix_cons_iff.1 hother).elim (fun heq => heq ▸ hfile) h.entry

/-- Where the directory is missing, there is nothing that could differ. -/
theorem eq (h : SameNumbered layout tree tree') (hroot : tree.get? layout.root ≠ some .directory) :
    tree' = tree := by
  have hroot' : tree'.get? layout.root ≠ some .directory := h.root ▸ hroot
  have hbelow : ∀ {name sub : String} {place : Place}, name :: sub :: layout.root <:+ place →
      tree'.get? place = tree.get? place := fun {name sub place} hplace => by
    have habove : layout.root <:+ place :=
      ((List.suffix_cons sub _).trans (List.suffix_cons name _)).trans hplace
    refine get?_eq_of_suffix habove ?_ hroot hroot'
    rintro rfl
    have hlength := hplace.length_le
    simp only [List.length_cons] at hlength
    omega
  refine ext_get? fun place => ?_
  by_cases hpages : ∃ name, name :: layout.pagesDir <:+ place
  · exact hbelow hpages.choose_spec
  · by_cases hlemmas : ∃ name, name :: layout.lemmasDir <:+ place
    · exact hbelow hlemmas.choose_spec
    · exact h.other place (not_exists.1 hpages) (not_exists.1 hlemmas)

/-! ### Pages -/

theorem pageIds (h : SameNumbered layout tree tree') (hplain : PlainPages layout tree)
    (hplain' : PlainPages layout tree') :
    Build.pageIds layout tree' = Build.pageIds layout tree := by
  have hfound := exactly_pageIds_iff.2 hplain
  have hfound' := exactly_pageIds_iff.2 hplain'
  refine hfound.eq ⟨hfound'.ascending, fun id => (hfound'.mem_iff id).trans ?_⟩
  rw [hasFile_congr (h.pages id)]

theorem source (h : SameNumbered layout tree tree') (hplain : PlainPages layout tree)
    (hplain' : PlainPages layout tree') (hroot : tree.get? layout.root = some .directory)
    (hsettings : ∀ path ∈ settings.paths,
      tree'.readPath layout.start path = tree.readPath layout.start path) :
    Build.source layout settings tree' = Build.source layout settings tree := by
  rw [Build.source, Build.source, urlsBeside_congr hroot (h.root.trans hroot)
    (h.entry (List.suffix_refl _)), readPages_congr_of_pageIds (h.pageIds hplain hplain')
    (h.entry (List.suffix_refl _)) h.pages hsettings]

theorem unobstructed_iff (h : SameNumbered layout tree tree') :
    Unobstructed layout tree' ↔ Unobstructed layout tree := by
  have hentry : ∀ sub, tree'.get? (sub :: layout.root) = tree.get? (sub :: layout.root) :=
    fun _ => h.entry (List.suffix_refl _)
  have hfiles : NoFiles layout.root documentDirs tree' ↔ NoFiles layout.root documentDirs tree :=
    forall₂_congr fun sub _ => by rw [hentry]
  constructor
  · exact fun hfree => ⟨hentry _ ▸ hfree.corpus, hfiles.1 hfree.listings, hentry _ ▸ hfree.metadata⟩
  · exact fun hfree =>
      ⟨(hentry _).symm ▸ hfree.corpus, hfiles.2 hfree.listings, (hentry _).symm ▸ hfree.metadata⟩

end SameNumbered

/-- A normalization succeeds with the corpus that the pages make if nothing stands in the way. -/
theorem exists_normalizePages_iff (hroot : tree.get? layout.root = some .directory) :
    (∃ left, (normalizePages layout settings createdAt).apply tree = (.ok corpus, left)) ↔
      source layout settings tree = .ok corpus ∧ Unobstructed layout tree := by
  have hrun := normalizePages_yields layout settings createdAt hroot
  constructor
  · rintro ⟨left, hok⟩
    obtain ⟨⟨-, hfree⟩, hsource, -⟩ := hrun.of_run _ _ hok
    exact ⟨hsource, hfree⟩
  · rintro ⟨hsource, hfree⟩
    obtain ⟨found, left, hok, hfound, -⟩ := hrun.exists_post ⟨⟨corpus, hsource⟩, hfree⟩
    obtain rfl := Except.ok.inj (hfound.symm.trans hsource)
    exact ⟨left, hok⟩

/-- With plain numerals, other files among the pages do not count. -/
theorem normalizePages_congr (h : SameNumbered layout tree tree') (hplain : PlainPages layout tree)
    (hplain' : PlainPages layout tree') (hsettings : ∀ path ∈ settings.paths,
      tree'.readPath layout.start path = tree.readPath layout.start path) :
    (∃ left, (normalizePages layout settings createdAt).apply tree' = (.ok corpus, left)) ↔
      ∃ left, (normalizePages layout settings createdAt).apply tree = (.ok corpus, left) := by
  by_cases hroot : tree.get? layout.root = some .directory
  · rw [exists_normalizePages_iff hroot, exists_normalizePages_iff (h.root.trans hroot),
      h.source hplain hplain' hroot hsettings, h.unobstructed_iff]
  · rw [h.eq hroot]

/-! ### Lemma listings -/

namespace SameNumbered

theorem listedIds (h : SameNumbered layout tree tree') (hplain : PlainLemmas layout tree)
    (hplain' : PlainLemmas layout tree') :
    Index.listedIds layout tree' = Index.listedIds layout tree := by
  have hentry : ∀ place, place <:+ layout.lemmasDir → tree'.get? place = tree.get? place :=
    fun _ => h.entry
  by_cases hdir : tree.get? layout.lemmasDir = some .directory
  · obtain ⟨ids, hids⟩ := exists_listedIds_iff.2 hdir
    obtain ⟨ids', hids'⟩ := exists_listedIds_iff.2 ((hentry _ (List.suffix_refl _)).trans hdir)
    have hfound := (exactly_listedIds_iff hids).2 hplain
    have hfound' := (exactly_listedIds_iff hids').2 hplain'
    have heq : ids' = ids := by
      refine hfound.eq ⟨hfound'.ascending, fun id => (hfound'.mem_iff id).trans ?_⟩
      rw [has_congr (h.lemmas id)]
    rw [hids, hids', heq]
  · -- what keeps the names from being read is the same
    have hlookup := lookup_congr hentry
    have hnames : tree'.names layout.lemmasDir = tree.names layout.lemmasDir := by
      rw [names, names, hlookup]
      cases hfound : tree.lookup layout.lemmasDir with
      | error fault => rfl
      | ok found =>
        cases found with
        | directory =>
          rw [lookup] at hfound
          split at hfound
          · next entry hget => exact absurd (hget.trans (congrArg some (Except.ok.inj hfound))) hdir
          · cases hfound
        | file content => rfl
    rw [Index.listedIds, Index.listedIds, hnames]

theorem loadDocument (h : SameNumbered layout tree tree') (id : DocId) :
    Index.loadDocument layout tree' id = Index.loadDocument layout tree id := by
  have hlemmas : tree'.readText (layout.lemmas id) = tree.readText (layout.lemmas id) :=
    h.readText (h.lemmas id)
  have htokens : tree'.readText (layout.tokens id) = tree.readText (layout.tokens id) :=
    h.readText (h.file (by decide) (by decide))
  have htext : tree'.readText (layout.text id) = tree.readText (layout.text id) :=
    h.readText (h.file (by decide) (by decide))
  simp only [Index.loadDocument, Index.readText, Index.readTextIfAny, hlemmas, htokens, htext]

theorem loadUrls (h : SameNumbered layout tree tree') :
    Index.loadUrls layout tree' = Index.loadUrls layout tree := by
  have hread : tree'.readText layout.urlIndex = tree.readText layout.urlIndex :=
    readText_congr_of_suffix fun _ => h.entry
  rw [Index.loadUrls, Index.loadUrls, Index.readText, Index.readText, hread]

end SameNumbered

/-- With plain numerals, other files among the lemma listings do not count. -/
theorem loadCorpus_congr (h : SameNumbered layout tree tree') (hplain : PlainLemmas layout tree)
    (hplain' : PlainLemmas layout tree') :
    Index.loadCorpus layout tree' = Index.loadCorpus layout tree := by
  have hdocs : Index.loadDocument layout tree' = Index.loadDocument layout tree :=
    funext h.loadDocument
  rw [Index.loadCorpus, Index.loadCorpus, h.listedIds hplain hplain', hdocs, h.loadUrls]

/-! ## The documents of a corpus -/

/-- The pages of the numbers that are found are read. -/
theorem mem_ids_of_readPages {docs : List Document}
    (h : readPages layout settings tree = .ok docs) :
    (∀ id ∈ pageIds layout tree, tree.hasFile (layout.page id) = true) ∧
      ∀ id, id ∈ (Corpus.ofDocuments docs).ids ↔ tree.hasFile (layout.page id) = true := by
  obtain ⟨normalizer, -, hdocs⟩ := bind_eq_ok_iff.1 h
  have hfile : ∀ id ∈ pageIds layout tree, tree.hasFile (layout.page id) = true := fun id hid => by
    obtain ⟨doc, hdoc⟩ := exists_of_mapM_eq_ok hdocs id hid
    obtain ⟨html, hhtml, -⟩ := readPage_eq_ok_iff.1 hdoc
    exact hasFile_iff.2 ⟨_, readText_eq_ok_iff.1 hhtml⟩
  refine ⟨hfile, fun id => ?_⟩
  rw [Corpus.mem_ids_ofDocuments_iff]
  constructor
  · rintro ⟨doc, hdoc, rfl⟩
    obtain ⟨id, hid, hpage⟩ := (mem_of_mapM_eq_ok hdocs doc).1 hdoc
    obtain ⟨html, -, rfl⟩ := readPage_eq_ok_iff.1 hpage
    exact hfile id hid
  · intro hpage
    obtain ⟨doc, hdoc⟩ := exists_of_mapM_eq_ok hdocs id (mem_pageIds_of_hasFile hpage)
    obtain ⟨html, -, hnormalize⟩ := readPage_eq_ok_iff.1 hdoc
    exact ⟨doc, (mem_of_mapM_eq_ok hdocs doc).2 ⟨id, mem_pageIds_of_hasFile hpage, hdoc⟩,
      hnormalize ▸ rfl⟩

/-- A normalization reads the pages first. -/
theorem exists_readPages_of_normalizePages {left : FileTree}
    (h : (normalizePages layout settings createdAt).apply tree = (.ok corpus, left)) :
    ∃ docs urls, readPages layout settings tree = .ok docs ∧
      (Corpus.ofDocuments docs).withUrls urls = corpus := by
  rw [normalizePages_eq] at h
  obtain ⟨docs, mid, hlook, h⟩ := apply_bind_eq_ok_iff.1 h
  obtain ⟨-, mid', -, h⟩ := apply_bind_eq_ok_iff.1 h
  obtain ⟨urls, last, -, h⟩ := apply_bind_eq_ok_iff.1 h
  obtain ⟨-, _, -, h⟩ := apply_bind_eq_ok_iff.1 h
  exact ⟨docs, urls, (apply_look_eq_ok_iff.1 hlook).1, (apply_pure_eq_ok_iff.1 h).1⟩

theorem loadDocument_eq_ok {doc : Document} (h : Index.loadDocument layout tree id = .ok doc) :
    doc.id = id ∧ tree.has (layout.lemmas id) = true := by
  simp only [Index.loadDocument, bind_eq_ok_iff, pure_eq_ok_iff] at h
  obtain ⟨listing, hread, groups, -, tokens, -, text, -, rfl⟩ := h
  have hfile := readText_eq_ok_iff.1 (mapError_eq_ok_iff.1 hread)
  exact ⟨rfl, by rw [has, hfile]; rfl⟩

/-- The lemma listings of the numbers that are found are read. -/
theorem mem_ids_of_loadCorpus (h : Index.loadCorpus layout tree = .ok corpus) :
    (∃ ids, Index.listedIds layout tree = .ok ids ∧
      ∀ id ∈ ids, tree.has (layout.lemmas id) = true) ∧
      ∀ id, id ∈ corpus.ids ↔ tree.has (layout.lemmas id) = true := by
  obtain ⟨ids, hids, h⟩ := bind_eq_ok_iff.1 h
  obtain ⟨docs, hdocs, h⟩ := bind_eq_ok_iff.1 h
  have hcorpus : corpus.ids = (Corpus.ofDocuments docs).ids := by
    split at h
    · exact pure_eq_ok_iff.1 h ▸ rfl
    · exact pure_eq_ok_iff.1 h ▸ rfl
    · cases h
  have hhas : ∀ id ∈ ids, tree.has (layout.lemmas id) = true := fun id hid => by
    obtain ⟨doc, hdoc⟩ := exists_of_mapM_eq_ok hdocs id hid
    exact (loadDocument_eq_ok hdoc).2
  refine ⟨⟨ids, hids, hhas⟩, fun id => ?_⟩
  rw [hcorpus, Corpus.mem_ids_ofDocuments_iff]
  constructor
  · rintro ⟨doc, hdoc, rfl⟩
    obtain ⟨id, hid, hload⟩ := (mem_of_mapM_eq_ok hdocs doc).1 hdoc
    exact (loadDocument_eq_ok hload).1 ▸ hhas id hid
  · intro hlemmas
    have hid := mem_listedIds_of_has hids hlemmas
    obtain ⟨doc, hdoc⟩ := exists_of_mapM_eq_ok hdocs id hid
    exact ⟨doc, (mem_of_mapM_eq_ok hdocs doc).2 ⟨id, hid, hdoc⟩, (loadDocument_eq_ok hdoc).1⟩

/-- The pages and the lemma listings that are found are exactly those that are there, in ascending
order and each once, if the numbers in their file names are plain numerals, and only then; then no
other file beside them counts. With any numerals, a corpus has exactly the documents whose files are
there, and there is one only if each number that is found is that of a file. -/
theorem found_exactly_iff (layout : Layout) (tree : FileTree) :
    (DocId.Exactly (pageIds layout tree) (fun id => tree.hasFile (layout.page id) = true) ↔
      PlainPages layout tree) ∧
    ((∃ ids, Index.listedIds layout tree = .ok ids) ↔
      tree.get? layout.lemmasDir = some .directory) ∧
    (∀ ids, Index.listedIds layout tree = .ok ids →
      (DocId.Exactly ids (fun id => tree.has (layout.lemmas id) = true) ↔
        PlainLemmas layout tree)) ∧
    (∀ tree', SameNumbered layout tree tree' →
      (PlainPages layout tree → PlainPages layout tree' → ∀ settings createdAt corpus,
        (∀ path ∈ settings.paths,
          tree'.readPath layout.start path = tree.readPath layout.start path) →
        ((∃ left, (normalizePages layout settings createdAt).apply tree' = (.ok corpus, left)) ↔
          ∃ left, (normalizePages layout settings createdAt).apply tree = (.ok corpus, left))) ∧
      (PlainLemmas layout tree → PlainLemmas layout tree' →
        Index.loadCorpus layout tree' = Index.loadCorpus layout tree)) ∧
    (∀ settings createdAt corpus left,
      (normalizePages layout settings createdAt).apply tree = (.ok corpus, left) →
        (∀ id ∈ pageIds layout tree, tree.hasFile (layout.page id) = true) ∧
          ∀ id, id ∈ corpus.ids ↔ tree.hasFile (layout.page id) = true) ∧
    ∀ corpus, Index.loadCorpus layout tree = .ok corpus →
      (∃ ids, Index.listedIds layout tree = .ok ids ∧
        ∀ id ∈ ids, tree.has (layout.lemmas id) = true) ∧
        ∀ id, id ∈ corpus.ids ↔ tree.has (layout.lemmas id) = true := by
  refine ⟨exactly_pageIds_iff, exists_listedIds_iff, fun _ => exactly_listedIds_iff,
    fun tree' hsame => ⟨fun hplain hplain' settings createdAt corpus => ?_,
      loadCorpus_congr hsame⟩, fun settings createdAt corpus left hrun => ?_,
    fun corpus => mem_ids_of_loadCorpus⟩
  · exact normalizePages_congr hsame hplain hplain'
  · obtain ⟨docs, urls, hdocs, rfl⟩ := exists_readPages_of_normalizePages hrun
    exact mem_ids_of_readPages hdocs

/-- The names of a directory are plainly numbered if each that stands for a document is that of its
file. -/
theorem plainlyNumbered_of_names {dir : Place} {extension : String} (names : List String)
    (hnames : (tree.names dir).toOption = some names)
    (hplain : (names.all fun name => (DocId.ofFileName? extension name).all
      fun id => name == id.fileName extension) = true) :
    DocId.PlainlyNumbered extension fun name => tree.has (name :: dir) = true := by
  have hdir : tree.get? dir = some .directory := Classical.byContradiction fun hdir => by
    rw [names_toOption_of_ne_directory hdir] at hnames
    cases hnames
  refine DocId.plainlyNumbered_iff.2 fun name hname id hid => ?_
  have hmem := (mem_names_iff hdir (toOption_eq_some_iff.1 hnames)).2 hname
  simpa [hid] using List.all_eq_true.1 hplain name hmem

/-- Pages are plainly numbered if all that is among them is. -/
theorem plainPages_of_has
    (h : DocId.PlainlyNumbered "html" fun name => tree.has (name :: layout.pagesDir) = true) :
    PlainPages layout tree := fun number id hspells hfile =>
  h number id hspells (by
    obtain ⟨content, hget⟩ := hasFile_iff.1 hfile
    rw [has, hget]
    rfl)

/-- A page and a lemma listing. -/
def pageAndListing : FileTree :=
  ofTexts [(["7.html", "pages"], "<p>коты</p>"), (["3.txt", "lemmas"], "кот: коты\n")]

/-- The same among files that belong to no document. -/
def amongNotes : FileTree :=
  ofTexts [(["7.html", "pages"], "<p>коты</p>"), (["notes.html", "pages"], "<p>дом</p>"),
    (["3.txt", "lemmas"], "кот: коты\n"), (["readme.txt", "lemmas"], "дома\n")]

theorem sameNumbered_amongNotes : SameNumbered ⟨[], []⟩ pageAndListing amongNotes := by
  have hfilter : amongNotes.entries.filter (fun key _ =>
        key != ["notes.html", "pages"] && key != ["readme.txt", "lemmas"]) =
      pageAndListing.entries.filter (fun key _ =>
        key != ["notes.html", "pages"] && key != ["readme.txt", "lemmas"]) := by
    decide +kernel
  have hagree : ∀ place : Place, place ≠ ["notes.html", "pages"] →
      place ≠ ["readme.txt", "lemmas"] → amongNotes.get? place = pageAndListing.get? place :=
    fun place hnotes hreadme => get?_eq_of_filter hfilter (by simp [hnotes, hreadme])
  refine ⟨fun id => hagree _ (fun heq => ?_) (by simp [Layout.page, Layout.pagesDir]),
    fun id => hagree _ (by simp [Layout.lemmas, Layout.lemmasDir]) (fun heq => ?_),
    fun place hpages hlemmas => hagree place ?_ ?_⟩
  · have hid : DocId.ofFileName? "html" (id.fileName "html") = some id := DocId.ofFileName?_fileName
    rw [(List.cons.inj heq).1] at hid
    cases hid.symm.trans (by decide +kernel : DocId.ofFileName? "html" "notes.html" = none)
  · have hid : DocId.ofFileName? "txt" (id.fileName "txt") = some id := DocId.ofFileName?_fileName
    rw [(List.cons.inj heq).1] at hid
    cases hid.symm.trans (by decide +kernel : DocId.ofFileName? "txt" "readme.txt" = none)
  · rintro rfl
    exact hpages "notes.html" (List.suffix_refl _)
  · rintro rfl
    exact hlemmas "readme.txt" (List.suffix_refl _)

/-- The other files do not count. -/
theorem found_exactly_amongNotes :
    DocId.Exactly (pageIds ⟨[], []⟩ amongNotes)
        (fun id => amongNotes.hasFile (Layout.page ⟨[], []⟩ id) = true) ∧
      (∀ createdAt corpus,
        (∃ left, (normalizePages ⟨[], []⟩ {} createdAt).apply amongNotes = (.ok corpus, left)) ↔
          ∃ left, (normalizePages ⟨[], []⟩ {} createdAt).apply pageAndListing =
            (.ok corpus, left)) ∧
      Index.loadCorpus ⟨[], []⟩ amongNotes = Index.loadCorpus ⟨[], []⟩ pageAndListing := by
  have hpages : PlainPages ⟨[], []⟩ pageAndListing :=
    plainPages_of_has (plainlyNumbered_of_names ["7.html"] (by decide +kernel) (by decide +kernel))
  have hpages' : PlainPages ⟨[], []⟩ amongNotes :=
    plainPages_of_has (plainlyNumbered_of_names ["7.html", "notes.html"] (by decide +kernel)
      (by decide +kernel))
  have hlemmas : PlainLemmas ⟨[], []⟩ pageAndListing :=
    plainlyNumbered_of_names ["3.txt"] (by decide +kernel) (by decide +kernel)
  have hlemmas' : PlainLemmas ⟨[], []⟩ amongNotes :=
    plainlyNumbered_of_names ["3.txt", "readme.txt"] (by decide +kernel) (by decide +kernel)
  obtain ⟨hcorpus, hlisted⟩ :=
    (found_exactly_iff ⟨[], []⟩ pageAndListing).2.2.2.1 _ sameNumbered_amongNotes
  exact ⟨(found_exactly_iff ⟨[], []⟩ amongNotes).1.2 hpages',
    fun createdAt corpus => hcorpus hpages hpages' {} createdAt corpus
      fun _ hpath => absurd hpath List.not_mem_nil, hlisted hlemmas hlemmas'⟩

/-- A page and a lemma listing whose numerals have leading zeros. -/
def leadingZeros : FileTree :=
  ofTexts [(["007.html", "pages"], "<p>коты</p>"), (["007.txt", "lemmas"], "кот: коты\n")]

/-- One page under two numerals. -/
def twoNumerals : FileTree :=
  ofTexts [(["007.html", "pages"], "<p>коты</p>"), (["7.html", "pages"], "<p>дом</p>")]

/-- A numeral with leading zeros stands for a document whose file is not there, so that no corpus is
made or read, and beside the plain numeral the document is found twice. -/
theorem found_leadingZeros :
    pageIds ⟨[], []⟩ leadingZeros = [7] ∧
      leadingZeros.has (Layout.page ⟨[], []⟩ 7) = false ∧
      (∀ settings createdAt corpus left,
        (normalizePages ⟨[], []⟩ settings createdAt).apply leadingZeros ≠ (.ok corpus, left)) ∧
      (∀ corpus, Index.loadCorpus ⟨[], []⟩ leadingZeros ≠ .ok corpus) ∧
      pageIds ⟨[], []⟩ twoNumerals = [7, 7] := by
  have hids : pageIds ⟨[], []⟩ leadingZeros = [7] := by decide +kernel
  have hlisted : (Index.listedIds ⟨[], []⟩ leadingZeros).toOption = some [7] := by decide +kernel
  refine ⟨hids, by decide +kernel, fun settings createdAt corpus left hrun => ?_,
    fun corpus hload => ?_, ?_⟩
  · obtain ⟨docs, urls, hdocs, -⟩ := exists_readPages_of_normalizePages hrun
    have hfile := (mem_ids_of_readPages hdocs).1 7 (hids ▸ List.mem_cons_self)
    exact absurd hfile (by decide +kernel)
  · obtain ⟨⟨ids, hids, hhas⟩, -⟩ := mem_ids_of_loadCorpus hload
    obtain rfl := Except.ok.inj (hids.symm.trans (toOption_eq_some_iff.1 hlisted))
    exact absurd (hhas 7 List.mem_cons_self) (by decide +kernel)
  · have hnames : (((twoNumerals.names ["pages"]).toOption.getD []).filter fun name =>
        twoNumerals.hasFile [name, "pages"]).filterMap (DocId.ofFileName? "html") = [7, 7] := by
      decide +kernel
    exact DocId.mergeSort_eq_of_perm (.of_eq hnames) (by decide)

end Concordance.Build
