import Concordance.Proofs.Build.Normalized

/-!
# Normalizations that fail

A normalization reads the files of its settings and all pages before it changes anything. If one of
these cannot be read, the directory stays as it is (`normalizePages_of_readPages_error`). The address
listing is read only after the listings of the documents are rewritten (`rewritten_of_index_error`); if
it cannot be read, then the directory is as it was only if it already held these listings and no corpus
in binary form, and no index can be opened in what is left (`failed_unchanged_iff`).
-/

namespace Concordance.Build

open FileTree FileTree.Edit

variable {layout : Layout} {settings : Settings} {createdAt : String} {tree tree' : FileTree}
  {docs : List Document} {failure : Failure} {fault : Index.Failure}

/-! ## Inputs that cannot be read -/

/-- An input of a normalization that cannot be read, and the failure that says so. -/
inductive InputFailure (layout : Layout) (settings : Settings) (tree : FileTree) : Failure → Prop
  /-- A file that the settings name. -/
  | settings {fault : Fault} (h : settings.normalizer tree layout.start = .error fault) :
    InputFailure layout settings tree (.settings fault)
  /-- A page. -/
  | page {id : DocId} {fault : Fault} (hid : id ∈ pageIds layout tree)
    (h : tree.readText (layout.page id) = .error fault) :
    InputFailure layout settings tree (.reading (layout.page id) fault)
  /-- The address listing. -/
  | urls {fault : Index.Failure} (hhas : tree.has layout.urlIndex = true)
    (h : Index.loadUrls layout tree = .error fault) :
    InputFailure layout settings tree (.index fault)

/-- Where the pages can be read, it is the address listing that cannot. -/
theorem InputFailure.urls_of_readPages (h : InputFailure layout settings tree failure)
    (hdocs : readPages layout settings tree = .ok docs) :
    ∃ fault, failure = .index fault ∧ tree.has layout.urlIndex = true ∧
      Index.loadUrls layout tree = .error fault := by
  obtain ⟨normalizer, hnormalizer, hpages⟩ := bind_eq_ok_iff.1 hdocs
  cases h with
  | settings hfails =>
    have hok := mapError_eq_ok_iff.1 hnormalizer
    exact nomatch hok.symm.trans hfails
  | page hid hfails =>
    obtain ⟨doc, hpage⟩ := exists_of_mapM_eq_ok hpages _ hid
    obtain ⟨html, hhtml, -⟩ := readPage_eq_ok_iff.1 hpage
    exact nomatch hhtml.symm.trans hfails
  | urls hhas hfails => exact ⟨_, rfl, hhas, hfails⟩

/-- A listing that is there is not missing. -/
theorem ne_notFound_of_has (hhas : tree.has layout.urlIndex = true)
    (h : Index.loadUrls layout tree = .error fault) : fault ≠ .file .notFound := by
  rintro rfl
  cases hread : tree.readText layout.urlIndex with
  | error fault =>
    have hfault : fault = .notFound := by
      simpa [Index.loadUrls, Index.readText, hread, bind, Except.bind] using h
    exact readText_ne_notFound hhas (hfault ▸ hread)
  | ok text =>
    rw [Index.loadUrls, Index.readText_eq_ok hread] at h
    cases hparse : UrlIndex.parse text with
    | error fault => simp [hparse, bind, Except.bind] at h
    | ok urls => simp [hparse, bind, Except.bind] at h

/-! ## What a failure leaves -/

/-- What cannot be read before anything is changed leaves the directory as it is. -/
theorem normalizePages_of_readPages_error (h : readPages layout settings tree = .error failure) :
    (normalizePages layout settings createdAt).apply tree = (.error failure, tree) :=
  apply_bind_eq_error_iff.2 (.inl (apply_look_eq_error_iff.2 ⟨h, rfl⟩))

theorem exists_of_removed_eq_error {context : Fault → Failure} {result : Except Fault FileTree}
    (h : removed tree context result = .error failure) : ∃ fault, failure = context fault := by
  unfold removed at h
  split at h
  · cases h
  · cases h
  · next fault _ => exact ⟨fault, (Except.error.inj h).symm⟩

/-- That the listings cannot be rewritten is no failure of the index. -/
theorem ne_index_of_rewriteListings (hroot : tree.get? layout.root = some .directory)
    (h : (rewriteListings layout docs).apply tree = (.error failure, tree')) :
    failure ≠ .index fault := by
  rintro rfl
  rcases apply_bind_eq_error_iff.1 h with hremove | ⟨_, mid, hremove, h⟩
  · obtain ⟨_, hfault⟩ := exists_of_removed_eq_error (apply_change_eq_error_iff.1 hremove).1
    cases hfault
  obtain ⟨-, -, hagree⟩ := (removeFile_yields hroot).of_run _ _ hremove
  have hmid := hagree.directory hroot
  rcases apply_bind_eq_error_iff.1 h with hclear | ⟨_, mid', hclear, h⟩
  · obtain ⟨dir, -, _, hround⟩ := exists_round_of_forM_eq_error hclear
    obtain ⟨_, hfault⟩ := exists_of_removed_eq_error (apply_change_eq_error_iff.1 hround).1
    cases hfault
  · obtain ⟨-, hnone, hagree'⟩ :=
      (forM_clear_yields (by decide : documentDirs.Nodup) hmid).of_run _ _ hclear
    exact (saveDocuments_yields docs hnone (hagree'.directory hmid)).apply_ne_error trivial h

/-- If the addresses cannot be read, the listings of the documents are already rewritten. -/
theorem rewritten_of_index_error (hroot : tree.get? layout.root = some .directory)
    (hdocs : readPages layout settings tree = .ok docs)
    (hurls : urlsBeside layout tree = .error fault)
    (hrun : (normalizePages layout settings createdAt).apply tree = (.error (.index fault), tree')) :
    Index.Listed layout (Corpus.ofDocuments docs) tree' ∧ tree'.get? layout.corpus = none ∧
      AgreeOutside layout.root ("corpus.bin" :: documentDirs) tree tree' := by
  rw [normalizePages_eq] at hrun
  rcases apply_bind_eq_error_iff.1 hrun with hlook | ⟨found, mid, hlook, hrun⟩
  · exact nomatch (apply_look_eq_error_iff.1 hlook).1.symm.trans hdocs
  obtain ⟨hfound, rfl⟩ := apply_look_eq_ok_iff.1 hlook
  obtain rfl := Except.ok.inj (hfound.symm.trans hdocs)
  rcases apply_bind_eq_error_iff.1 hrun with hrewrite | ⟨_, mid, hrewrite, hrun⟩
  · exact absurd rfl (ne_index_of_rewriteListings hroot hrewrite)
  obtain ⟨-, hlisted, hnone, hagree⟩ := (rewriteListings_yields found hroot).of_run _ _ hrewrite
  rcases apply_bind_eq_error_iff.1 hrun with hread | ⟨urls, _, hread, -⟩
  · obtain ⟨-, rfl⟩ := apply_look_eq_error_iff.1 hread
    exact ⟨hlisted, hnone, hagree⟩
  · have hbeside : urlsBeside layout mid = urlsBeside layout tree :=
      urlsBeside_congr hroot (hagree.directory hroot) (hagree.entry (by decide))
    obtain ⟨hread, -⟩ := apply_look_eq_ok_iff.1 hread
    have hok := mapError_eq_ok_iff.1 hread
    exact nomatch (hbeside.symm.trans hok).symm.trans hurls

/-- A directory that already held the rewritten listings, and no corpus in binary form, is as it was. -/
theorem eq_iff_of_rewritten (hlisted : Index.Listed layout (Corpus.ofDocuments docs) tree')
    (hnone : tree'.get? layout.corpus = none)
    (hagree : AgreeOutside layout.root ("corpus.bin" :: documentDirs) tree tree') :
    tree' = tree ↔ tree.get? layout.corpus = none ∧
      Index.Listed layout (Corpus.ofDocuments docs) tree := by
  constructor
  · rintro rfl
    exact ⟨hnone, hlisted⟩
  · rintro ⟨hnone', hlisted'⟩
    refine ext_get? fun place => ?_
    by_cases hplace : ∃ sub ∈ "corpus.bin" :: documentDirs, sub :: layout.root <:+ place
    · obtain ⟨sub, hsub, hsuffix⟩ := hplace
      rcases List.mem_cons.1 hsub with rfl | hsub
      · have hbelow : layout.corpus <:+ place := hsuffix
        by_cases hcorpus : place = layout.corpus
        · rw [hcorpus, hnone, hnone']
        · exact get?_eq_of_suffix hbelow hcorpus (by simp [hnone']) (by simp [hnone])
      · exact hlisted'.agree hlisted hsub hsuffix
    · simp only [not_exists, not_and] at hplace
      exact hagree place hplace

/-- Without the corpus in binary form no index is opened beside addresses that cannot be read. -/
theorem load_ne_ok_of_loadUrls {opened : OpenIndex} (hnone : tree.get? layout.corpus = none)
    (hurls : Index.loadUrls layout tree = .error fault) (hfault : fault ≠ .file .notFound) :
    Index.load layout tree ≠ .ok opened := by
  intro hload
  have hhas : tree.has layout.corpus = false := by simp [has, hnone]
  obtain ⟨corpus, hcorpus⟩ := Index.exists_loadCorpus_of_load hhas hload
  obtain ⟨urls, hread | ⟨hread, -⟩⟩ := Index.exists_urlsRead_of_loadCorpus hcorpus
  · cases hurls.symm.trans hread
  · exact hfault (Except.error.inj (hurls.symm.trans hread))

/-! ## Whole runs -/

/-- A build fails with its normalization. -/
theorem normalizePages_of_build (hinput : InputFailure layout settings tree failure)
    (hrun : (build layout settings createdAt).apply tree = (.error failure, tree')) :
    (normalizePages layout settings createdAt).apply tree = (.error failure, tree') := by
  rcases apply_bind_eq_error_iff.1 hrun with hfails | ⟨corpus, mid, hok, -⟩
  · exact hfails
  cases hdocs : readPages layout settings tree with
  | error failure' => exact nomatch (normalizePages_of_readPages_error hdocs).symm.trans hok
  | ok docs =>
    obtain ⟨fault, -, hhas, hurls⟩ := hinput.urls_of_readPages hdocs
    obtain ⟨entry, hentry⟩ := Option.isSome_iff_exists.1 hhas
    have hroot : tree.get? layout.root = some .directory := get?_around_of_get? hentry
    obtain ⟨⟨⟨corpus', hsource⟩, -⟩, -⟩ :=
      (normalizePages_yields layout settings createdAt hroot).of_run _ _ hok
    obtain ⟨_, urls, -, hbeside, -⟩ := source_eq_ok_iff.1 hsource
    rw [urlsBeside, if_pos hhas, hurls] at hbeside
    cases hbeside

/-- A normalization or a build that fails since an input cannot be read leaves the directory as it was
exactly if the settings or a page cannot be read, or the listings that it writes before it reads the
addresses were already there, without a corpus in binary form. What could be opened before is opened
afterwards exactly if the settings or a page cannot be read. -/
theorem failed_unchanged_iff (hinput : InputFailure layout settings tree failure)
    (hrun : (normalizePages layout settings createdAt).apply tree = (.error failure, tree') ∨
      (build layout settings createdAt).apply tree = (.error failure, tree')) :
    (tree' = tree ↔ ∀ docs, readPages layout settings tree = .ok docs →
      tree.get? layout.corpus = none ∧ Index.Listed layout (Corpus.ofDocuments docs) tree) ∧
    ∀ opened, Index.load layout tree = .ok opened →
      (Index.load layout tree' = .ok opened ↔
        ∀ docs, readPages layout settings tree ≠ .ok docs) := by
  have hfails := hrun.elim id (normalizePages_of_build hinput)
  cases hdocs : readPages layout settings tree with
  | error failure' =>
    have hsame := (normalizePages_of_readPages_error hdocs).symm.trans hfails
    obtain ⟨-, rfl⟩ := Prod.mk.inj hsame
    simp
  | ok docs =>
    obtain ⟨fault, rfl, hhas, hurls⟩ := hinput.urls_of_readPages hdocs
    obtain ⟨entry, hentry⟩ := Option.isSome_iff_exists.1 hhas
    have hroot : tree.get? layout.root = some .directory := get?_around_of_get? hentry
    have hbeside : urlsBeside layout tree = .error fault := by rw [urlsBeside, if_pos hhas, hurls]
    obtain ⟨hlisted, hnone, hagree⟩ := rewritten_of_index_error hroot hdocs hbeside hfails
    have hurls' : Index.loadUrls layout tree' = .error fault :=
      (loadUrls_congr hroot (hagree.directory hroot) (hagree.entry (by decide))).trans hurls
    have hclosed : ∀ opened, Index.load layout tree' ≠ .ok opened := fun _ =>
      load_ne_ok_of_loadUrls hnone hurls' (ne_notFound_of_has hhas hurls)
    simp [eq_iff_of_rewritten hlisted hnone hagree, hclosed]

/-- A page beside an index without documents and beside addresses that cannot be read. -/
def badUrls : FileTree :=
  ofTexts [(["1.html", "pages"], "<p>коты</p>"), (["index.txt"], "один https://a.example\n"),
    (["corpus.bin"], String.ofList (List.replicate 16 '\x00'))]

/-- Its corpus in binary form is opened, whatever its addresses are. -/
theorem exists_load_badUrls : ∃ opened, Index.load ⟨[], []⟩ badUrls = .ok opened :=
  isOk_iff.1 (by decide +kernel)

/-- Without the dictionary that is named, the directory stays as it is and is opened as before. -/
theorem unchanged_missingDictionary :
    ∃ opened failure left, Index.load ⟨[], []⟩ badUrls = .ok opened ∧
      InputFailure ⟨[], []⟩ { dictionary := some "missing.txt" } badUrls failure ∧
      (build ⟨[], []⟩ { dictionary := some "missing.txt" } "today").apply badUrls =
        (.error failure, left) ∧
      left = badUrls ∧ Index.load ⟨[], []⟩ left = .ok opened := by
  obtain ⟨opened, hopened⟩ := exists_load_badUrls
  have hfault : failure? (Settings.normalizer { dictionary := some "missing.txt" } badUrls []) =
      some .notFound := by
    decide +kernel
  have hnormalizer := failure?_eq_some_iff.1 hfault
  have hinput : InputFailure ⟨[], []⟩ { dictionary := some "missing.txt" } badUrls
      (.settings .notFound) := .settings hnormalizer
  have hpages : readPages ⟨[], []⟩ { dictionary := some "missing.txt" } badUrls =
      .error (.settings .notFound) := by
    rw [readPages, hnormalizer]
    rfl
  have hnormalize : (normalizePages ⟨[], []⟩ { dictionary := some "missing.txt" } "today").apply
      badUrls = (.error (.settings .notFound), badUrls) := normalizePages_of_readPages_error hpages
  have hrun : (build ⟨[], []⟩ { dictionary := some "missing.txt" } "today").apply badUrls =
      (.error (.settings .notFound), badUrls) := apply_bind_eq_error_iff.2 (.inl hnormalize)
  obtain ⟨hsame, hload⟩ := failed_unchanged_iff hinput (.inr hrun)
  exact ⟨opened, _, badUrls, hopened, hinput, hrun, hsame.2 (by simp [hpages]),
    (hload opened hopened).2 (by simp [hpages])⟩

/-- With addresses that cannot be read, the corpus in binary form is lost, and nothing is opened. -/
theorem changed_badUrls :
    ∃ opened failure left, Index.load ⟨[], []⟩ badUrls = .ok opened ∧
      InputFailure ⟨[], []⟩ {} badUrls failure ∧
      (normalizePages ⟨[], []⟩ {} "today").apply badUrls = (.error failure, left) ∧
      left ≠ badUrls ∧ ∀ opened, Index.load ⟨[], []⟩ left ≠ .ok opened := by
  obtain ⟨opened, hopened⟩ := exists_load_badUrls
  have hurls : failure? (Index.loadUrls ⟨[], []⟩ badUrls) =
      some (.listing ["index.txt"] ⟨1, .invalidId "один"⟩) := by
    decide +kernel
  have hfailure : failure? ((normalizePages ⟨[], []⟩ {} "today").apply badUrls).1 =
      some (.index (.listing ["index.txt"] ⟨1, .invalidId "один"⟩)) := by
    decide +kernel
  obtain ⟨left, hrun⟩ : ∃ left, (normalizePages ⟨[], []⟩ {} "today").apply badUrls =
      (.error (.index (.listing ["index.txt"] ⟨1, .invalidId "один"⟩)), left) :=
    ⟨_, Prod.ext (failure?_eq_some_iff.1 hfailure) rfl⟩
  have hhas : badUrls.has ["index.txt"] = true := by decide +kernel
  have hcorpus : badUrls.has ["corpus.bin"] = true := by decide +kernel
  have hloads := failure?_eq_some_iff.1 hurls
  obtain ⟨docs, hdocs⟩ := isOk_iff.1 (by decide +kernel :
    (readPages ⟨[], []⟩ {} badUrls).isOk = true)
  obtain ⟨-, hnone, hagree⟩ :=
    rewritten_of_index_error get?_nil hdocs ((if_pos hhas).trans hloads) hrun
  have hloads' : Index.loadUrls ⟨[], []⟩ left = _ :=
    (loadUrls_congr get?_nil get?_nil (hagree.entry (by decide))).trans hloads
  -- the corpus in binary form was there before, and is not afterwards
  refine ⟨opened, _, left, hopened, .urls hhas hloads, hrun, ?_, fun _ =>
    load_ne_ok_of_loadUrls hnone hloads' (by simp)⟩
  rintro rfl
  have hnone' : badUrls.get? ["corpus.bin"] = none := hnone
  simp [has, hnone'] at hcorpus

end Concordance.Build
