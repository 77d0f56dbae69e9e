import Concordance.Document
import Concordance.Listing.Basic
import Concordance.Number.Decimal

/-!
# The address listing

Each line gives the number of a document and, behind the first space, its address. The
number may have a plus sign and leading zeros, blanks around number and address are dropped,
and of several lines for one number the last counts.
-/

namespace Concordance.UrlIndex

open Listing Text

/-- The number and the address on a line. -/
def readLine (line : List Char) : Except Reason (DocId × String) :=
  match splitFirst? ' ' (trimChars line) with
  | none => .error .expectedUrl
  | some (id, url) =>
    match Decimal.readUInt32? id with
    | none => .error (.invalidId (String.ofList id))
    | some id => .ok (id, String.ofList (trimChars url))

/-- The addresses of a listing. -/
def parse (text : String) : Except Fault (Std.ExtTreeMap DocId String) :=
  readLines readLine (fun urls entry => urls.insert entry.1 entry.2) 1 ∅ (lineChars text.toList)

/-- The line of one address. -/
def renderLine (entry : DocId × String) : List Char :=
  Decimal.digits entry.1.toNat ++ ' ' :: entry.2.toList ++ ['\n']

/-- The listing of addresses, numbers ascending. -/
def render (urls : Std.ExtTreeMap DocId String) : String :=
  String.ofList (urls.toList.flatMap renderLine)

end Concordance.UrlIndex
