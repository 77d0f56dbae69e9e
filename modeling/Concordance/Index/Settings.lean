import Concordance.FileTree.Path
import Concordance.Listing.Tokens
import Concordance.Normalizer

/-!
# Settings of an index

The settings name the files a normalizer is made from. They are kept with an index, so that
queries are normalized in the same way as its pages. A file that is not named is replaced by
what is built in : the standard stop words, no typos, and the stemmer.
-/

namespace Concordance

/-- The files a normalizer is made from. -/
structure Settings where
  /-- The list of stop words. -/
  stopWords : Option String := none
  /-- The list of typos. -/
  typos : Option String := none
  /-- The dictionary of word forms. -/
  dictionary : Option String := none
  deriving Repr, DecidableEq

/-- The words of a list, in lower case. -/
def readWordList (tree : FileTree) (start : Place) (path : String) :
    Except FileTree.Fault (List String) := do
  return (TokenListing.parse (← tree.readPath start path)).map Text.lower

namespace Settings

/-- The filter that the settings describe. Relative paths lead from `start`. -/
def filter (settings : Settings) (tree : FileTree) (start : Place) :
    Except FileTree.Fault TokenFilter := do
  let filter ← match settings.stopWords with
    | some path => do pure (TokenFilter.standard.withStopWords (← readWordList tree start path))
    | none => pure TokenFilter.standard
  match settings.typos with
  | some path => do return filter.withTypos (← readWordList tree start path)
  | none => return filter

/-- The lemmatizer that the settings describe. -/
def lemmatizer (settings : Settings) (tree : FileTree) (start : Place) :
    Except FileTree.Fault Lemmatizer := do
  match settings.dictionary with
  | some path => return .ofDictionary (← tree.readPath start path)
  | none => return .stemmer

/-- The normalizer that the settings describe. -/
def normalizer (settings : Settings) (tree : FileTree) (start : Place) :
    Except FileTree.Fault Normalizer := do
  return ⟨← settings.filter tree start, ← settings.lemmatizer tree start⟩

end Settings

end Concordance
