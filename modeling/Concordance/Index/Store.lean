import Concordance.Encoding.Corpus
import Concordance.FileTree.Edit
import Concordance.Index.Layout
import Concordance.Index.Metadata
import Concordance.Listing.LemmaIndex
import Concordance.Listing.UrlIndex
import Concordance.Listing.Weights
import Concordance.Snapshot

/-!
# Keeping an index in files

Documents, addresses, corpora and metadata are written into the directory of an index and read
back from it. `Index.load` gives what queries are answered from : the snapshot of the corpus,
which is taken from its binary form if there is one and from the listings otherwise, and the
normalizer that the metadata name.
-/

namespace Concordance

/-- Why an index cannot be read or written. -/
inductive Index.Failure
  /-- An operation on files fails. -/
  | file (fault : FileTree.Fault)
  /-- A line of a listing cannot be read. -/
  | listing (place : Place) (fault : Listing.Fault)
  /-- The binary form of the corpus cannot be read. -/
  | corpus
  /-- The metadata cannot be read. -/
  | metadata
  deriving Repr, DecidableEq

/-- The failure in words. -/
def Index.Failure.message : Index.Failure → String
  | file fault => "I/O error: " ++ fault.message
  | listing place fault => "invalid listing " ++ place.path ++ ":" ++ Decimal.render fault.line ++
      ": " ++ fault.reason.message
  | corpus => "snapshot encoding error"
  | metadata => "JSON error"

/-- The failure followed by what caused it. -/
def Index.Failure.chain (failure : Index.Failure) : String :=
  match failure with
  | file fault => failure.message ++ ": " ++ fault.message
  | _ => failure.message

/-- What queries are answered from. -/
structure OpenIndex where
  /-- The corpus with its indexes. -/
  snapshot : Snapshot UInt32 Float
  /-- The normalizer of the corpus. -/
  normalizer : Normalizer

namespace Index

open FileTree (Edit)

/-! ## Steps -/

/-- A text that is read, or the failure that keeps from it. -/
def readText (tree : FileTree) (place : Place) : Except Failure String :=
  (tree.readText place).mapError .file

/-- A text that is read; one that is missing is empty. -/
def readTextIfAny (tree : FileTree) (place : Place) : Except Failure String :=
  match tree.readText place with
  | .ok text => .ok text
  | .error .notFound => .ok ""
  | .error fault => .error (.file fault)

/-- Write a text, and first make the directories that lead to it. -/
def saveText (place : Place) (text : String) : Edit Failure Unit :=
  .change fun tree => (tree.saveText place text).mapError .file

/-! ## Addresses -/

/-- Write the address listing. -/
def saveUrls (layout : Layout) (urls : Std.ExtTreeMap DocId String) : Edit Failure Unit :=
  saveText layout.urlIndex (UrlIndex.render urls)

/-- Read the address listing. -/
def loadUrls (layout : Layout) (tree : FileTree) :
    Except Failure (Std.ExtTreeMap DocId String) := do
  (UrlIndex.parse (← readText tree layout.urlIndex)).mapError (.listing layout.urlIndex)

/-! ## Documents -/

/-- Write the listings of a document. -/
def saveDocument (layout : Layout) (doc : Document) : Edit Failure Unit := do
  saveText (layout.text doc.id) doc.text
  saveText (layout.tokens doc.id) (TokenListing.render doc.tokens)
  saveText (layout.lemmas doc.id) (LemmaIndex.render doc.lemmaGroups)

/-- Read the listings of a document. Only its lemma listing must exist. -/
def loadDocument (layout : Layout) (tree : FileTree) (id : DocId) : Except Failure Document := do
  let place := layout.lemmas id
  let groups ← (LemmaIndex.parse (← readText tree place)).mapError (.listing place)
  let tokens ← readTextIfAny tree (layout.tokens id)
  let text ← readTextIfAny tree (layout.text id)
  return ⟨id, text, TokenListing.parse tokens, groups⟩

/-! ## Corpora -/

/-- The numbers of the documents that have a lemma listing, ascending. -/
def listedIds (layout : Layout) (tree : FileTree) : Except Failure (List DocId) := do
  let names ← (tree.names layout.lemmasDir).mapError .file
  return (names.filterMap (DocId.ofFileName? "txt")).mergeSort

/-- Read the corpus from its listings. -/
def loadCorpus (layout : Layout) (tree : FileTree) : Except Failure Corpus := do
  let docs ← (← listedIds layout tree).mapM (loadDocument layout tree)
  match loadUrls layout tree with
  | .ok urls => return (Corpus.ofDocuments docs).withUrls urls
  | .error (.file .notFound) => return Corpus.ofDocuments docs
  | .error failure => throw failure

/-- Write the corpus in binary form. -/
def saveCorpusFile (layout : Layout) (corpus : Corpus) : Edit Failure Unit :=
  .change fun tree => (tree.save layout.corpus ⟨corpus.encode.toArray⟩).mapError .file

/-- Read the corpus from its binary form. -/
def loadCorpusFile (layout : Layout) (tree : FileTree) : Except Failure Corpus := do
  match Corpus.decode? (← (tree.read layout.corpus).mapError .file).toList with
  | some corpus => return corpus
  | none => throw .corpus

/-! ## Listings for people -/

/-- Write the inverted index. -/
def saveInvertedIndex (layout : Layout) (postings : Postings) : Edit Failure Unit :=
  saveText layout.invertedIndex postings.render

/-- Write the weight listings of all documents, for both vocabularies. -/
def saveWeights (layout : Layout) (corpus : Corpus) (statistics : Statistics UInt32) :
    Edit Failure Unit :=
  [Vocabulary.tokens, Vocabulary.lemmas].forM fun vocabulary =>
    corpus.ids.forM fun id =>
      saveText (layout.weights vocabulary id) ((statistics.space vocabulary).renderWeights id)

/-! ## Metadata -/

/-- Write the metadata. -/
def saveMetadata (layout : Layout) (metadata : Metadata) : Edit Failure Unit :=
  saveText layout.metadata metadata.render

/-- Read the metadata. -/
def loadMetadata (layout : Layout) (tree : FileTree) : Except Failure Metadata := do
  match Metadata.parse? (← readText tree layout.metadata) with
  | some metadata => return metadata
  | none => throw .metadata

/-! ## Opening -/

/-- The settings in the metadata; without metadata they are the default ones. -/
def loadSettings (layout : Layout) (tree : FileTree) : Except Failure Settings :=
  match loadMetadata layout tree with
  | .ok metadata => .ok metadata.settings
  | .error (.file .notFound) => .ok {}
  | .error failure => .error failure

/-- The index in a directory. -/
def load (layout : Layout) (tree : FileTree) : Except Failure OpenIndex := do
  let settings ← loadSettings layout tree
  let corpus ← if tree.has layout.corpus then loadCorpusFile layout tree
    else loadCorpus layout tree
  let normalizer ← (settings.normalizer tree layout.start).mapError .file
  return ⟨.ofCorpus corpus, normalizer⟩

end Index

end Concordance
