import Concordance.Listing.Basic

/-!
# Lists with one word per line

The token listing of a document, and the lists of stop words and typos a normalizer is given.
-/

namespace Concordance

open Text

namespace TokenListing

/-- The tokens of a listing : its lines without blanks around them, blank lines left out. -/
def parse (text : String) : List String :=
  ((lineChars text.toList).map trimChars).filter (!·.isEmpty) |>.map String.ofList

/-- The listing of tokens, one on a line, without a line break at the end. -/
def render (tokens : List String) : String :=
  String.ofList (Listing.joinWith ['\n'] (tokens.map String.toList))

end TokenListing

end Concordance
