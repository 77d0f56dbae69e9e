import Concordance.Document
import Concordance.FileTree.Path
import Concordance.Number.Decimal
import Concordance.Statistics

/-!
# The layout of an index

An index is kept in one directory. The pages it is made from, and the listings of each
document, lie in directories of their own under the number of the document; the listings of
the whole corpus, the corpus in binary form and the metadata lie beside them.
-/

namespace Concordance

/-- Where an index is kept. -/
structure Layout where
  /-- The directory of the index. -/
  root : Place
  /-- Where the relative paths in its settings lead from. -/
  start : Place := []
  deriving Repr, DecidableEq

/-- The name of the file of a document, for files with one extension. -/
def DocId.fileName (id : DocId) (extension : String) : String :=
  String.ofList (Decimal.digits id.toNat ++ '.' :: extension.toList)

/-- The document that a file name stands for : a numeral in front of the extension. -/
def DocId.ofFileName? (extension name : String) : Option DocId :=
  let ending := '.' :: extension.toList
  let name := name.toList
  if ending.isSuffixOf name then Decimal.readUInt32? (name.take (name.length - ending.length))
  else none

namespace Layout

/-- The directory of the fetched pages. -/
def pagesDir (layout : Layout) : Place := "pages" :: layout.root

/-- The page of a document. -/
def page (layout : Layout) (id : DocId) : Place := id.fileName "html" :: layout.pagesDir

/-- The directory of the visible texts. -/
def textsDir (layout : Layout) : Place := "texts" :: layout.root

/-- The visible text of a document. -/
def text (layout : Layout) (id : DocId) : Place := id.fileName "txt" :: layout.textsDir

/-- The directory of the token listings. -/
def tokensDir (layout : Layout) : Place := "tokens" :: layout.root

/-- The token listing of a document. -/
def tokens (layout : Layout) (id : DocId) : Place := id.fileName "txt" :: layout.tokensDir

/-- The directory of the lemma listings. -/
def lemmasDir (layout : Layout) : Place := "lemmas" :: layout.root

/-- The lemma listing of a document. -/
def lemmas (layout : Layout) (id : DocId) : Place := id.fileName "txt" :: layout.lemmasDir

/-- The directory of the weight listings of a vocabulary. -/
def weightsDir (layout : Layout) : Vocabulary → Place
  | .tokens => "tfidf_tokens" :: layout.root
  | .lemmas => "tfidf_lemmas" :: layout.root

/-- The weight listing of a document. -/
def weights (layout : Layout) (vocabulary : Vocabulary) (id : DocId) : Place :=
  id.fileName "txt" :: layout.weightsDir vocabulary

/-- The archive of the fetched pages. -/
def pagesArchive (layout : Layout) : Place := "pages.tar.gz" :: layout.root

/-- The address listing. -/
def urlIndex (layout : Layout) : Place := "index.txt" :: layout.root

/-- The listing of the inverted index. -/
def invertedIndex (layout : Layout) : Place := "inverted_index.txt" :: layout.root

/-- The corpus in binary form. -/
def corpus (layout : Layout) : Place := "corpus.bin" :: layout.root

/-- The metadata. -/
def metadata (layout : Layout) : Place := "meta.json" :: layout.root

end Layout

end Concordance
