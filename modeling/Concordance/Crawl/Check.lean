import Concordance.Number.Decimal
import Concordance.Text.Blank
import Concordance.Text.Case

/-!
# Checks of fetched pages

A fetched page is kept if it is not said to be anything but HTML, and if it is not too large.
-/

namespace Concordance.Crawl

open Text

/-- Why a page is not kept. -/
inductive Refusal
  /-- It is said to be something else than HTML. -/
  | notHtml (contentType : String)
  /-- It has too many bytes. -/
  | tooLarge (size : Nat)
  deriving Repr, DecidableEq

/-- The refusal in words. -/
def Refusal.message : Refusal → String
  | notHtml contentType => "not an HTML page: " ++ contentType
  | tooLarge size => "page too large: " ++ Decimal.render size ++ " bytes"

/-- The type of a page, in small letters. -/
def htmlType : List Char := "text/html".toList

/-- Whether a content type says that a page is HTML; blanks in front and case do not matter. -/
def isHtml (contentType : String) : Bool :=
  htmlType.isPrefixOf ((contentType.toList.dropWhile isBlank).map Char.toLower)

/-- Check what a page is said to be; a page without a content type passes. -/
def checkContentType : Option String → Except Refusal Unit
  | none => .ok ()
  | some contentType => if isHtml contentType then .ok () else .error (.notHtml contentType)

/-- The greatest number of bytes of a page. -/
def maxPageBytes : Nat := 2 * 1024 * 1024

/-- Check the number of bytes of a page. -/
def checkSize (size : Nat) : Except Refusal Unit :=
  if maxPageBytes < size then .error (.tooLarge size) else .ok ()

end Concordance.Crawl
