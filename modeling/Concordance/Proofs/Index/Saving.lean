import Concordance.Proofs.FileTree.Saving
import Concordance.Proofs.Index.Loading
import Concordance.Proofs.Listing.UrlIndex

/-!
# Saving the listings of a corpus

The listings of a corpus have places of which none leads to another (`Index.pairwise_listings`), so
they are saved exactly if each place is writable. What is saved is then read as the corpus itself if
its lemmas, tokens and addresses fit into their listings (`Corpus.Listable`) and the directory lists
no other documents (`Index.loadCorpus_saveListings`).
-/

namespace Concordance

open FileTree FileTree.Edit Text

/-- A corpus whose listings lose nothing : the lemma groups are recorded and have no colon in a lemma,
and each token and each address is trimmed and stands on one line. -/
structure Corpus.Listable (corpus : Corpus) : Prop where
  /-- The lemma groups. -/
  groups : ∀ doc ∈ corpus.docs, doc.lemmaGroups.Recorded
  /-- A line of lemmas is cut at its first colon. -/
  colonFree : corpus.ColonFree
  /-- The tokens. -/
  tokens : ∀ doc ∈ corpus.docs, ∀ t ∈ doc.tokens, IsEntry t.toList
  /-- The addresses. -/
  urls : ∀ entry ∈ corpus.urls.toList, IsEntry entry.2.toList

/-- A corpus made of documents is recorded if it is listable. -/
theorem Corpus.Listable.recorded {docs : List Document} {urls : Std.ExtTreeMap DocId String}
    (h : ((ofDocuments docs).withUrls urls).Listable) :
    ((ofDocuments docs).withUrls urls).Recorded where
  filed _ _ hget := id_eq_of_get?_ofDocuments hget
  documents doc hdoc := {
    line := fun t ht => (h.tokens doc hdoc t ht).isLine
    trimmed := fun t ht => (h.tokens doc hdoc t ht).trimmed
    groups := h.groups doc hdoc }

namespace Index

variable {layout : Layout} {corpus : Corpus} {tree saved : FileTree} {doc doc' : Document}
  {listing : Place × String}

/-! ## What is saved -/

/-- Write the listings of a corpus : those of its documents, and then its addresses. -/
def saveListings (layout : Layout) (corpus : Corpus) : Edit Failure Unit := do
  corpus.docs.forM (saveDocument layout)
  saveUrls layout corpus.urls

/-- The listings of a document with their places. -/
def documentListings (layout : Layout) (doc : Document) : List (Place × String) :=
  [(layout.text doc.id, doc.text),
    (layout.tokens doc.id, TokenListing.render doc.tokens),
    (layout.lemmas doc.id, LemmaIndex.render doc.lemmaGroups)]

/-- The listings of a corpus with their places. -/
def listings (layout : Layout) (corpus : Corpus) : List (Place × String) :=
  corpus.docs.flatMap (documentListings layout) ++ [(layout.urlIndex, UrlIndex.render corpus.urls)]

theorem saveDocument_eq (layout : Layout) (doc : Document) :
    saveDocument layout doc = (documentListings layout doc).forM (Edit.save .file) := by
  simp [saveDocument, documentListings, saveText, Edit.save]

/-- The listings are saved one after the other. -/
theorem saveListings_eq (layout : Layout) (corpus : Corpus) :
    saveListings layout corpus = (listings layout corpus).forM (Edit.save .file) := by
  have hdocs : ∀ docs : List Document, forM docs (saveDocument layout) =
      forM (docs.flatMap (documentListings layout)) (Edit.save .file) := by
    intro docs
    induction docs with
    | nil => rfl
    | cons doc docs ih => simp [saveDocument_eq, ih]
  simp [saveListings, listings, hdocs, saveUrls, saveText, Edit.save]

/-! ## Where it is saved -/

/-- A listing of a document lies in one of three directories, under the number of the document. -/
theorem exists_dir_of_mem (h : listing ∈ documentListings layout doc) :
    ∃ sub ∈ ["texts", "tokens", "lemmas"], listing.1 = doc.id.fileName "txt" :: sub :: layout.root := by
  simp only [documentListings, List.mem_cons, List.not_mem_nil, or_false] at h
  rcases h with rfl | rfl | rfl
  · exact ⟨"texts", by simp, rfl⟩
  · exact ⟨"tokens", by simp, rfl⟩
  · exact ⟨"lemmas", by simp, rfl⟩

/-- Files in different directories are apart. -/
theorem apart_of_dir_ne {name name' sub sub' : String} {root : Place} (h : sub ≠ sub') :
    Apart (name :: sub :: root) (name' :: sub' :: root) :=
  apart_of_length_eq rfl fun heq => h (by simp_all)

theorem pairwise_documentListings (layout : Layout) (doc : Document) :
    (documentListings layout doc).Pairwise (Apart ·.1 ·.1) := by
  have htokens : Apart (layout.text doc.id) (layout.tokens doc.id) := apart_of_dir_ne (by decide)
  have hlemmas : Apart (layout.text doc.id) (layout.lemmas doc.id) := apart_of_dir_ne (by decide)
  have hboth : Apart (layout.tokens doc.id) (layout.lemmas doc.id) := apart_of_dir_ne (by decide)
  simp [documentListings, htokens, hlemmas, hboth]

/-- The listings of different documents are apart. -/
theorem apart_of_id_ne (hne : doc.id ≠ doc'.id) :
    ∀ listing ∈ documentListings layout doc, ∀ listing' ∈ documentListings layout doc',
      Apart listing.1 listing'.1 := by
  intro listing hmem listing' hmem'
  obtain ⟨sub, -, hplace⟩ := exists_dir_of_mem hmem
  obtain ⟨sub', -, hplace'⟩ := exists_dir_of_mem hmem'
  rw [hplace, hplace']
  refine apart_of_length_eq rfl fun heq => hne ?_
  exact DocId.fileName_inj.1 (List.cons.inj heq).1

/-- The address listing is apart from the listings of documents. -/
theorem apart_urlIndex (h : listing ∈ documentListings layout doc) :
    Apart listing.1 layout.urlIndex := by
  obtain ⟨sub, hsub, hplace⟩ := exists_dir_of_mem h
  rw [hplace]
  constructor
  · intro hsuffix
    have hlength := hsuffix.length_le
    simp only [Layout.urlIndex, List.length_cons] at hlength
    omega
  · intro hsuffix
    obtain rfl : "index.txt" = sub := eq_of_suffix hsuffix (List.suffix_cons _ _)
    exact absurd hsub (by decide)

/-- No place of a listing leads to that of another one. -/
theorem pairwise_listings (hrecorded : corpus.Recorded) :
    (listings layout corpus).Pairwise (Apart ·.1 ·.1) := by
  refine List.pairwise_append.2 ⟨List.pairwise_flatMap.2 ⟨?_, ?_⟩, by simp, ?_⟩
  · exact fun doc _ => pairwise_documentListings layout doc
  · exact (Corpus.pairwise_docs hrecorded.filed).imp apart_of_id_ne
  · intro listing hmem other hother
    obtain ⟨doc, -, hlisting⟩ := List.mem_flatMap.1 hmem
    rw [List.mem_singleton.1 hother]
    exact apart_urlIndex hlisting

/-- The listings are saved exactly if a file can be saved at each of their places. -/
theorem saveListings_yields (layout : Layout) (tree : FileTree) (hrecorded : corpus.Recorded) :
    Yields (saveListings layout corpus) tree
      (∀ listing ∈ listings layout corpus, tree.Writable listing.1)
      fun _ saved => SavedAll (listings layout corpus) tree saved := by
  rw [saveListings_eq]
  exact forM_save_yields Failure.file (pairwise_listings hrecorded)

/-! ## What is found afterwards -/

theorem text_mem : (layout.text doc.id, doc.text) ∈ documentListings layout doc := by
  simp [documentListings]

theorem tokens_mem :
    (layout.tokens doc.id, TokenListing.render doc.tokens) ∈ documentListings layout doc := by
  simp [documentListings]

theorem lemmas_mem :
    (layout.lemmas doc.id, LemmaIndex.render doc.lemmaGroups) ∈ documentListings layout doc := by
  simp [documentListings]

theorem mem_listings (hget : corpus.get? doc.id = some doc)
    (h : listing ∈ documentListings layout doc) : listing ∈ listings layout corpus :=
  List.mem_append_left _ (List.mem_flatMap.2 ⟨doc, Corpus.mem_docs_iff.2 ⟨doc.id, hget⟩, h⟩)

/-- Only the lemma listings of the corpus lie in their directory at or above a listing. -/
theorem exists_doc_of_suffix {name : String} (h : listing ∈ listings layout corpus)
    (hsuffix : name :: layout.lemmasDir <:+ listing.1) :
    ∃ doc ∈ corpus.docs, name = doc.id.fileName "txt" := by
  have hdir : "lemmas" :: layout.root <:+ listing.1 := (List.suffix_cons _ _).trans hsuffix
  rcases List.mem_append.1 h with hmem | hmem
  · obtain ⟨doc, hdoc, hlisting⟩ := List.mem_flatMap.1 hmem
    obtain ⟨sub, -, hplace⟩ := exists_dir_of_mem hlisting
    rw [hplace] at hdir hsuffix
    obtain rfl : "lemmas" = sub := eq_of_suffix hdir (List.suffix_cons _ _)
    exact ⟨doc, hdoc, eq_of_suffix hsuffix (List.suffix_refl _)⟩
  · rw [List.mem_singleton.1 hmem] at hdir
    exact absurd (eq_of_suffix hdir (List.suffix_refl _)) (by decide)

/-- The numbers that are found are those of the corpus, if no others were there. -/
theorem exists_listedIds (hsaved : SavedAll (listings layout corpus) tree saved)
    (hrecorded : corpus.Recorded) (hne : corpus.documents ≠ ∅)
    (hothers : ∀ name id, tree.has (name :: layout.lemmasDir) = true →
      DocId.ofFileName? "txt" name = some id → id ∈ corpus.ids) :
    ∃ ids, listedIds layout saved = .ok ids ∧ ∀ id, id ∈ ids ↔ id ∈ corpus.ids := by
  have hfile : ∀ id ∈ corpus.ids, ∃ text, (layout.lemmas id, text) ∈ listings layout corpus := by
    intro id hid
    obtain ⟨doc, hget⟩ := Corpus.mem_ids_iff.1 hid
    obtain rfl := hrecorded.filed id doc hget
    exact ⟨_, mem_listings hget lemmas_mem⟩
  have hdir : saved.get? layout.lemmasDir = some .directory := by
    have hids : corpus.ids ≠ [] := by
      rw [Corpus.ids, ne_eq, Std.ExtTreeMap.keys_eq_nil_iff]
      exact hne
    obtain ⟨id, hid⟩ := List.exists_mem_of_ne_nil _ hids
    obtain ⟨text, hmem⟩ := hfile id hid
    exact hsaved.directory _ hmem layout.lemmasDir (List.suffix_cons _ _) (List.cons_ne_self _ _).symm
  have hnames := names_eq_of_directory hdir
  refine ⟨_, by rw [listedIds, hnames]; rfl, fun id => ?_⟩
  rw [List.mem_mergeSort, List.mem_filterMap]
  simp only [mem_names_iff hdir hnames]
  constructor
  · rintro ⟨name, hthere, hname⟩
    -- a name was there before the corpus was saved, unless it leads to one of its listings
    by_cases hlisting : ∃ listing ∈ listings layout corpus, name :: layout.lemmasDir <:+ listing.1
    · obtain ⟨listing, hmem, hsuffix⟩ := hlisting
      obtain ⟨doc, hdoc, rfl⟩ := exists_doc_of_suffix hmem hsuffix
      obtain ⟨id', hget⟩ := Corpus.mem_docs_iff.1 hdoc
      obtain rfl := hrecorded.filed id' doc hget
      rw [DocId.ofFileName?_fileName, Option.some.injEq] at hname
      exact hname ▸ Corpus.mem_ids_iff.2 ⟨doc, hget⟩
    · simp only [not_exists, not_and] at hlisting
      rw [hsaved.other _ hlisting] at hthere
      exact hothers name id hthere hname
  · intro hid
    obtain ⟨text, hmem⟩ := hfile id hid
    refine ⟨id.fileName "txt", ?_, DocId.ofFileName?_fileName⟩
    exact Option.isSome_iff_exists.2 ⟨_, hsaved.file _ hmem⟩

/-- Where the listings of a corpus are saved, and no others were, the corpus is stored. -/
theorem stored_of_savedAll (hsaved : SavedAll (listings layout corpus) tree saved)
    (hrecorded : corpus.Recorded) (hne : corpus.documents ≠ ∅)
    (hothers : ∀ name id, tree.has (name :: layout.lemmasDir) = true →
      DocId.ofFileName? "txt" name = some id → id ∈ corpus.ids) :
    Stored layout corpus saved where
  text id doc hget := by
    obtain rfl := hrecorded.filed id doc hget
    exact hsaved.readText (mem_listings hget text_mem)
  tokens id doc hget := by
    obtain rfl := hrecorded.filed id doc hget
    exact hsaved.readText (mem_listings hget tokens_mem)
  lemmas id doc hget := by
    obtain rfl := hrecorded.filed id doc hget
    exact hsaved.readText (mem_listings hget lemmas_mem)
  ids := exists_listedIds hsaved hrecorded hne hothers

/-- Where the addresses are saved they are read back. -/
theorem urlsRead_of_savedAll (hsaved : SavedAll (listings layout corpus) tree saved)
    (hurls : ∀ entry ∈ corpus.urls.toList, IsEntry entry.2.toList) :
    UrlsRead layout saved corpus.urls := by
  have hmem : (layout.urlIndex, UrlIndex.render corpus.urls) ∈ listings layout corpus := by
    simp [listings]
  have hread := readText_eq_ok (hsaved.readText hmem)
  refine .inl ?_
  rw [loadUrls, hread]
  simp only [bind, Except.bind, UrlIndex.parse_render hurls]
  rfl

/-- The listings of a listable corpus with a document are saved exactly if a file can be saved at each
of their places; if no other documents were listed, they are then read as the same corpus. -/
theorem loadCorpus_saveListings {docs : List Document} {urls : Std.ExtTreeMap DocId String}
    (hcorpus : corpus = (Corpus.ofDocuments docs).withUrls urls) (hne : corpus.documents ≠ ∅)
    (hlistable : corpus.Listable)
    (hothers : ∀ name id, tree.has (name :: layout.lemmasDir) = true →
      DocId.ofFileName? "txt" name = some id → id ∈ corpus.ids) :
    ((∃ saved, (saveListings layout corpus).apply tree = (.ok (), saved)) ↔
      ∀ listing ∈ listings layout corpus, tree.Writable listing.1) ∧
    ∀ saved, (saveListings layout corpus).apply tree = (.ok (), saved) →
      loadCorpus layout saved = .ok corpus := by
  have hrecorded : corpus.Recorded := hcorpus ▸ (hcorpus ▸ hlistable).recorded
  have hyields := saveListings_yields layout tree hrecorded
  refine ⟨hyields.exists_run_iff, fun saved hrun => ?_⟩
  obtain ⟨-, hsaved⟩ := hyields.of_run () saved hrun
  have hstored := stored_of_savedAll hsaved hrecorded hne hothers
  obtain ⟨read, hload, hiff⟩ :=
    hstored.exists_loadCorpus hrecorded (urlsRead_of_savedAll hsaved hlistable.urls)
  rw [hload, hiff.2 hlistable.colonFree]

/-! ### Two documents -/

/-- A lemma with one token. -/
def oneGroup : LemmaGroups :=
  (∅ : LemmaGroups).insert "кот" ((∅ : Std.ExtTreeSet String).insert "кот")

/-- A document with line breaks in its text and a repeated token, and one of which nothing is left. -/
def mixedDocs : List Document :=
  [⟨1, "a:\r\n", ["кот", "кот"], oneGroup⟩, ⟨20, "", [], ∅⟩]

/-- Both documents, with an address that holds a space. -/
def mixed : Corpus :=
  (Corpus.ofDocuments mixedDocs).withUrls (.ofList [((1 : DocId), "https://a.example/b c")])

theorem eq_of_mem_oneGroup {lem : String} (h : lem ∈ oneGroup) : "кот" = lem := by
  simpa [oneGroup] using h

theorem recorded_oneGroup : oneGroup.Recorded := by
  have hword : IsWord "кот".toList := by decide +kernel
  have htokens : ∀ (lem : String) tokens, oneGroup[lem]? = some tokens →
      tokens = (∅ : Std.ExtTreeSet String).insert "кот" := by
    intro lem tokens hget
    rw [oneGroup, Std.ExtTreeMap.getElem?_insert] at hget
    split at hget
    · exact (Option.some.inj hget).symm
    · simp at hget
  refine ⟨fun lem hlem => ?_, fun lem hlem => ?_, fun lem tokens hget => ?_,
    fun lem tokens hget t ht => ?_⟩
  · rw [← eq_of_mem_oneGroup hlem, hword.trimChars_eq]
  · rw [← eq_of_mem_oneGroup hlem]
    decide +kernel
  · rw [htokens lem tokens hget]
    decide +kernel
  · obtain rfl : "кот" = t := by simpa [htokens lem tokens hget] using ht
    exact hword

theorem listable_mixed : mixed.Listable := by
  have hdocs : mixed.docs = mixedDocs := by decide +kernel
  have hurls : mixed.urls.toList = [((1 : DocId), "https://a.example/b c")] := by decide +kernel
  have hempty : LemmaGroups.Recorded ∅ := ⟨by simp, by simp, by simp, by simp⟩
  have htoken : IsEntry "кот".toList := by decide +kernel
  have haddress : IsEntry "https://a.example/b c".toList := by decide +kernel
  refine ⟨?_, ?_, ?_, ?_⟩
  · simp [hdocs, mixedDocs, recorded_oneGroup, hempty]
  · simp only [Corpus.ColonFree, hdocs, mixedDocs, List.forall_mem_cons, LemmaGroups.ColonFree]
    refine ⟨fun lem hlem => ?_, by simp, by simp⟩
    rw [← eq_of_mem_oneGroup hlem]
    decide +kernel
  · simpa [hdocs, mixedDocs] using htoken
  · simpa [hurls] using haddress

/-- Into an empty directory the listings of both documents are saved, and the corpus is read back. -/
theorem loadCorpus_saveListings_mixed :
    mixed.documents ≠ ∅ ∧ mixed.Listable ∧
    (∀ name id, empty.has (name :: Layout.lemmasDir ⟨[], []⟩) = true →
      DocId.ofFileName? "txt" name = some id → id ∈ mixed.ids) ∧
    ∃ saved, (saveListings ⟨[], []⟩ mixed).apply empty = (.ok (), saved) ∧
      loadCorpus ⟨[], []⟩ saved = .ok mixed := by
  have hne : mixed.documents ≠ ∅ := by decide +kernel
  have hothers : ∀ name id, empty.has (name :: Layout.lemmasDir ⟨[], []⟩) = true →
      DocId.ofFileName? "txt" name = some id → id ∈ mixed.ids := by
    intro name id hthere
    simp [has, empty, get?] at hthere
  obtain ⟨⟨⟩, saved, hrun⟩ := isOk_apply_iff.1 (by decide +kernel :
    ((saveListings ⟨[], []⟩ mixed).apply empty).1.isOk = true)
  have hread := (loadCorpus_saveListings rfl hne listable_mixed hothers).2 saved hrun
  exact ⟨hne, listable_mixed, hothers, saved, hrun, hread⟩

end Index

end Concordance
