import Concordance.Proofs.Build.Listings
import Concordance.Proofs.Build.Source

/-!
# What a normalization leaves behind

A normalization succeeds exactly if the pages and the addresses make a corpus and nothing of the
wrong kind stands in the way (`Unobstructed`). Then the directory holds the listings of that corpus,
no corpus in binary form, and new metadata, and all else is as it was (`normalizePages_yields`).
-/

namespace Concordance.Build

open FileTree FileTree.Edit

variable {layout : Layout} {settings : Settings} {createdAt : String} {tree tree' : FileTree}
  {corpus : Corpus}

/-- The metadata that are written of a corpus. -/
def describe (corpus : Corpus) (settings : Settings) (createdAt : String) : Metadata where
  numDocs := UInt32.ofNat corpus.size
  createdAt := createdAt
  version := Metadata.currentVersion
  settings := settings

/-- A directory that holds the listings of a corpus, its metadata and its addresses. -/
structure Normalized (layout : Layout) (settings : Settings) (createdAt : String) (corpus : Corpus)
    (tree : FileTree) : Prop where
  /-- The listings of the documents. -/
  listed : Index.Listed layout corpus tree
  /-- The metadata. -/
  metadata : tree.get? layout.metadata =
    some (.file (describe corpus settings createdAt).render.toUTF8)
  /-- The addresses. -/
  urls : Index.UrlsRead layout tree corpus.urls

/-- Nothing of the wrong kind stands where a normalization removes or writes something. -/
structure Unobstructed (layout : Layout) (tree : FileTree) : Prop where
  /-- The corpus in binary form is no directory. -/
  corpus : tree.get? layout.corpus ≠ some .directory
  /-- The directories of the listings are no files. -/
  listings : NoFiles layout.root documentDirs tree
  /-- The metadata are no directory. -/
  metadata : tree.get? layout.metadata ≠ some .directory

/-- What a normalization removes or writes. -/
def normalizedNames : List String := "corpus.bin" :: documentDirs ++ ["meta.json"]

/-- The addresses that are taken beside the pages are the ones that are read later. -/
theorem urlsRead_of_urlsBeside {urls : Std.ExtTreeMap DocId String}
    (hroot : tree.get? layout.root = some .directory) (h : urlsBeside layout tree = .ok urls) :
    Index.UrlsRead layout tree urls := by
  rw [urlsBeside] at h
  split at h
  · exact .inl h
  · next hmissing =>
    cases h
    have hnone : tree.get? layout.urlIndex = none := by simpa [has] using hmissing
    refine .inr ⟨?_, rfl⟩
    rw [Index.loadUrls, Index.readText, Layout.urlIndex, readText_of_get?_eq_none hnone hroot]
    rfl

/-- With metadata beside them, the listings of some documents make a normalized directory. -/
theorem normalized_of_listed {docs : List Document} {urls : Std.ExtTreeMap DocId String}
    (hroot : tree.get? layout.root = some .directory)
    (hlisted : Index.Listed layout (Corpus.ofDocuments docs) tree)
    (hurls : urlsBeside layout tree = .ok urls)
    (hmetadata : tree'.get? layout.metadata = some (.file
      (describe ((Corpus.ofDocuments docs).withUrls urls) settings createdAt).render.toUTF8))
    (hagree : AgreeOutside layout.root ["meta.json"] tree tree') :
    Normalized layout settings createdAt ((Corpus.ofDocuments docs).withUrls urls) tree' where
  listed := (hlisted.congr hagree (by decide)).withUrls urls
  metadata := hmetadata
  urls := by
    have hroot' := hagree.directory hroot
    have hbeside := urlsBeside_congr hroot hroot' (hagree.entry (by decide))
    exact urlsRead_of_urlsBeside hroot' (hbeside.trans hurls)

/-- A normalization reads its inputs, rewrites the listings, and then reads the addresses. -/
theorem normalizePages_eq (layout : Layout) (settings : Settings) (createdAt : String) :
    normalizePages layout settings createdAt = (do
      let docs ← Edit.look (readPages layout settings)
      rewriteListings layout docs
      let urls ← lookIndex (urlsBeside layout)
      let corpus := (Corpus.ofDocuments docs).withUrls urls
      editIndex (Index.saveMetadata layout (describe corpus settings createdAt))
      return corpus) := by
  simp only [normalizePages, rewriteListings, bind_assoc]
  rfl

/-- What a normalization needs, and what it leaves behind. -/
theorem normalizePages_yields (layout : Layout) (settings : Settings) (createdAt : String)
    (hroot : tree.get? layout.root = some .directory) :
    Yields (normalizePages layout settings createdAt) tree
      ((∃ corpus, source layout settings tree = .ok corpus) ∧ Unobstructed layout tree)
      fun corpus tree' => source layout settings tree = .ok corpus ∧
        Normalized layout settings createdAt corpus tree' ∧ tree'.get? layout.corpus = none ∧
        AgreeOutside layout.root normalizedNames tree tree' := by
  have hrun : Yields (normalizePages layout settings createdAt) tree
      ((∃ docs, readPages layout settings tree = .ok docs) ∧
        (tree.get? layout.corpus ≠ some .directory ∧ NoFiles layout.root documentDirs tree) ∧
        (∃ urls, urlsBeside layout tree = .ok urls) ∧
        tree.get? layout.metadata ≠ some .directory ∧ True)
      fun corpus tree' => source layout settings tree = .ok corpus ∧
        Normalized layout settings createdAt corpus tree' ∧ tree'.get? layout.corpus = none ∧
        AgreeOutside layout.root normalizedNames tree tree' := by
    rw [normalizePages_eq]
    refine (Yields.look _).bind fun docs _ hlook => ?_
    obtain ⟨hdocs, rfl⟩ := hlook
    refine (rewriteListings_yields docs hroot).bind fun _ mid h => ?_
    obtain ⟨hlisted, hnone, hagree⟩ := h
    have hmid := hagree.directory hroot
    -- the addresses are read when the listings are there, but they are not among these
    have hbeside : urlsBeside layout mid = urlsBeside layout tree :=
      urlsBeside_congr hroot hmid (hagree.entry (by decide))
    refine ((lookIndex_yields (urlsBeside layout)).congr_guard (by rw [hbeside])).bind
      fun urls _ hlook => ?_
    obtain ⟨hurls, rfl⟩ := hlook
    have hmetadata : mid.get? layout.metadata ≠ some .directory ↔
        tree.get? layout.metadata ≠ some .directory := by
      rw [Layout.metadata, hagree.entry (by decide)]
    refine ((save_yields hmid _).adapt.congr_guard hmetadata).bind
      fun _ last h => (Yields.pure _).imp Iff.rfl ?_
    rintro - corpus tree' ⟨rfl, rfl⟩
    obtain ⟨hfile, hagree'⟩ := h
    exact ⟨source_eq_ok_iff.2 ⟨docs, urls, hdocs, hbeside.symm.trans hurls, rfl⟩,
      normalized_of_listed hmid hlisted hurls hfile hagree', (hagree'.entry (by decide)).trans hnone,
      (hagree.trans hagree').mono (by decide)⟩
  refine hrun.congr_guard ?_
  rw [exists_source_iff]
  constructor
  · rintro ⟨hdocs, ⟨hcorpus, hlistings⟩, hurls, hmetadata, -⟩
    exact ⟨⟨hdocs, hurls⟩, hcorpus, hlistings, hmetadata⟩
  · rintro ⟨⟨hdocs, hurls⟩, hfree⟩
    exact ⟨hdocs, ⟨hfree.corpus, hfree.listings⟩, hurls, hfree.metadata, trivial⟩

/-! ## The same listings for the same corpus -/

/-- At and below what a normalization writes, but for the metadata, the corpus determines what there
is. -/
theorem Normalized.get?_eq {createdAt' : String} {sub : String} {place : Place}
    (h : Normalized layout settings createdAt corpus tree)
    (h' : Normalized layout settings createdAt' corpus tree')
    (hcorpus : tree.get? layout.corpus ≠ some .directory)
    (hcorpus' : tree'.get? layout.corpus ≠ some .directory) (hsub : sub ∈ normalizedNames)
    (hplace : sub :: layout.root <:+ place) (hne : place ≠ layout.corpus)
    (hmetadata : place ≠ layout.metadata) : tree'.get? place = tree.get? place := by
  simp only [normalizedNames, List.mem_append, List.mem_cons, List.not_mem_nil, or_false] at hsub
  rcases hsub with (rfl | hsub) | rfl
  · exact get?_eq_of_suffix hplace hne hcorpus hcorpus'
  · exact h.listed.agree h'.listed hsub hplace
  · exact get?_eq_of_suffix hplace hmetadata (ne_directory_of_file h.metadata)
      (ne_directory_of_file h'.metadata)

end Concordance.Build
