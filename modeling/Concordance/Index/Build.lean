import Concordance.Html.Page
import Concordance.Index.Store

/-!
# Building an index

`Build.normalizePages` makes the listings of each document from the fetched pages,
`Build.writeInvertedIndex` and `Build.writeWeights` make the listings of the whole corpus from
those, and `Build.build` does all of this in one go and also writes the corpus in binary form.
What an earlier build left is removed before anything is written, and the pages are read before
anything is removed.
-/

namespace Concordance.Build

open FileTree (Edit)

/-- Why an index cannot be built. -/
inductive Failure
  /-- A file named by the settings cannot be read. -/
  | settings (fault : FileTree.Fault)
  /-- A page cannot be read. -/
  | reading (place : Place) (fault : FileTree.Fault)
  /-- A file of an earlier build cannot be removed. -/
  | removing (place : Place) (fault : FileTree.Fault)
  /-- A directory of an earlier build cannot be removed. -/
  | clearing (place : Place) (fault : FileTree.Fault)
  /-- The index itself cannot be read or written. -/
  | index (failure : Index.Failure)
  deriving Repr, DecidableEq

/-- What was being done, followed by what went wrong. -/
def Failure.chain : Failure → String
  | settings fault => "loading normalizer configuration: " ++ (Index.Failure.file fault).chain
  | reading place fault => "reading " ++ place.path ++ ": " ++ fault.message
  | removing place fault => "removing " ++ place.path ++ ": " ++ fault.message
  | clearing place fault => "clearing " ++ place.path ++ ": " ++ fault.message
  | index failure => failure.chain

/-! ## Steps -/

/-- Look at the index. -/
def lookIndex {α : Type} (f : FileTree → Except Index.Failure α) : Edit Failure α :=
  .look fun tree => (f tree).mapError .index

/-- Change the index. -/
def editIndex {α : Type} (edit : Edit Index.Failure α) : Edit Failure α :=
  edit.adapt .index

/-- The tree after something is removed; it need not exist. -/
def removed (tree : FileTree) (context : FileTree.Fault → Failure) :
    Except FileTree.Fault FileTree → Except Failure FileTree
  | .ok tree => .ok tree
  | .error .notFound => .ok tree
  | .error fault => .error (context fault)

/-- Remove a file if it exists. -/
def removeFile (place : Place) : Edit Failure Unit :=
  .change fun tree => removed tree (.removing place) (tree.removeFile place)

/-- Remove a directory if it exists. -/
def clear (place : Place) : Edit Failure Unit :=
  .change fun tree => removed tree (.clearing place) (tree.removeTree place)

/-! ## From pages to documents -/

/-- The numbers of the pages, ascending. -/
def pageIds (layout : Layout) (tree : FileTree) : List DocId :=
  let names := (tree.names layout.pagesDir).toOption.getD []
  (names.filter fun name => tree.hasFile (name :: layout.pagesDir)).filterMap
    (DocId.ofFileName? "html") |>.mergeSort

/-- The document of a page. -/
def readPage (layout : Layout) (normalizer : Normalizer) (tree : FileTree) (id : DocId) :
    Except Failure Document := do
  let html ← (tree.readText (layout.page id)).mapError (.reading (layout.page id))
  return normalizer.normalize id (Html.visibleText html)

/-- The documents of all pages. -/
def readPages (layout : Layout) (settings : Settings) (tree : FileTree) :
    Except Failure (List Document) := do
  let normalizer ← (settings.normalizer tree layout.start).mapError .settings
  (pageIds layout tree).mapM (readPage layout normalizer tree)

/-- Normalize all pages : write the listings of each document and the metadata. The corpus in
binary form is removed, since it no longer agrees with the listings. -/
def normalizePages (layout : Layout) (settings : Settings) (createdAt : String) :
    Edit Failure Corpus := do
  let docs ← Edit.look (readPages layout settings)
  removeFile layout.corpus
  [layout.textsDir, layout.tokensDir, layout.lemmasDir].forM clear
  docs.forM fun doc => editIndex (Index.saveDocument layout doc)
  let urls ← lookIndex fun tree =>
    if tree.has layout.urlIndex then Index.loadUrls layout tree else .ok ∅
  let corpus := (Corpus.ofDocuments docs).withUrls urls
  editIndex <| Index.saveMetadata layout
    { numDocs := UInt32.ofNat corpus.size, createdAt, version := Metadata.currentVersion, settings }
  return corpus

/-! ## Listings of the whole corpus -/

/-- Write the inverted index of the documents that are listed. -/
def writeInvertedIndex (layout : Layout) : Edit Failure Unit := do
  let corpus ← lookIndex (Index.loadCorpus layout)
  editIndex (Index.saveInvertedIndex layout (.ofCorpus corpus))

/-- Write the weight listings of a corpus. -/
def writeWeightsOf (layout : Layout) (corpus : Corpus) : Edit Failure Unit := do
  [layout.weightsDir .tokens, layout.weightsDir .lemmas].forM clear
  editIndex (Index.saveWeights layout corpus (.ofCorpus corpus))

/-- Write the weight listings of the documents that are listed. -/
def writeWeights (layout : Layout) : Edit Failure Unit := do
  writeWeightsOf layout (← lookIndex (Index.loadCorpus layout))

/-- Build the whole index. -/
def build (layout : Layout) (settings : Settings) (createdAt : String) : Edit Failure Unit := do
  let corpus ← normalizePages layout settings createdAt
  editIndex (Index.saveInvertedIndex layout (.ofCorpus corpus))
  writeWeightsOf layout corpus
  editIndex (Index.saveCorpusFile layout corpus)

end Concordance.Build
