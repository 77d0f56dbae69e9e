import Concordance.Document
import Concordance.Url.Reading

/-!
# Lists of pages to fetch

A list names one page on a line. Blank lines and lines that begin with a number sign do not count;
of the others each has a number, counted from one, whether or not an address can be read from it.
So the number of a page does not depend on the lines in front of it being readable.
-/

namespace Concordance.Seeds

open Text

/-- The lines that count, without blanks around them. -/
def contentLines (text : List Char) : List (List Char) :=
  ((lineChars text).map trimChars).filter fun line => !line.isEmpty && line.head? ≠ some '#'

/-- The number behind a number; there is none behind the last one. -/
def next? (id : DocId) : Option DocId :=
  if id.toNat + 1 < UInt32.size then some (id + 1) else none

/-- Lines with their numbers, counted from `id`. The count moves on with each line, so no line gets
the last number, and a list with too many lines is not numbered at all. -/
def number {β : Type} : DocId → List β → Option (List (DocId × β))
  | _, [] => some []
  | id, line :: rest => do
    let next ← next? id
    let numbered ← number next rest
    return (id, line) :: numbered

/-- The page on a numbered line, if an address can be read from it. -/
def page? {α : Type} (read : List Char → Option α) (line : DocId × List Char) :
    Option (DocId × α) :=
  (read line.2).map fun address => (line.1, address)

/-- The pages of a list by number; `read` reads the address on a line. -/
def parse? {α : Type} (read : List Char → Option α) (text : List Char) :
    Option (List (DocId × α)) :=
  (number 1 (contentLines text)).map fun numbered => numbered.filterMap (page? read)

/-- The address of a page in the web. A line that is no address by itself is read with the
encrypted scheme in front. -/
def readUrl? (line : List Char) : Option Url :=
  match Url.read? line <|> Url.read? (Url.Scheme.https.name ++ ':' :: '/' :: '/' :: line) with
  | some (.page url) => some url
  | _ => none

/-- The pages of a list with their addresses. -/
def ofText? (text : String) : Option (List (DocId × Url)) :=
  parse? readUrl? text.toList

end Concordance.Seeds
