import Concordance.Html.Forest
import Concordance.Listing.Basic
import Concordance.Text.Blank

/-!
# Visible text

The visible text of a page is made of its texts in document order, each without blanks around
it and with single spaces between them. Texts inside scripts, styles, templates and fallback
contents do not count, however deep they lie.
-/

namespace Concordance.Html

open Text

/-- The elements whose contents are not shown. -/
def isHidden (name : String) : Bool :=
  name == "script" || name == "style" || name == "noscript" || name == "template"

namespace Forest

/-- The texts outside of hidden elements, without blanks around them, empty ones left out. -/
def visibleParts (forest : Forest) (around : List String) : List (List Char) :=
  ((forest.texts around).filter fun t => !t.1.any isHidden).map (fun t => trimChars t.2) |>.filter
    (!·.isEmpty)

/-- The visible text of a forest. -/
def visibleChars (forest : Forest) : List Char :=
  Listing.joinWith [' '] (forest.visibleParts [])

/-- The visible parts found from the top, without entering hidden elements. -/
def shown : Forest → List (List Char)
  | nil => []
  | text s next => if (trimChars s).isEmpty then next.shown else trimChars s :: next.shown
  | element name inner next => if isHidden name then next.shown else inner.shown ++ next.shown

end Forest

end Concordance.Html
