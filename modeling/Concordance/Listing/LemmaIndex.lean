import Concordance.Document
import Concordance.Listing.Basic

/-!
# The lemma listing of a document

Each line gives a lemma and, behind the first colon, the tokens recorded under it, between
blanks. Several lines of one lemma are taken together.
-/

namespace Concordance.LemmaIndex

open Listing Text

/-- The lemma and the tokens on a line. -/
def readLine (line : List Char) : Except Reason (String × List String) :=
  match splitFirst? ':' line with
  | none => .error .expectedLemma
  | some (lem, tokens) =>
    match wordChars tokens with
    | [] => .error .noTokens
    | tokens => .ok (String.ofList (trimChars lem), tokens.map String.ofList)

/-- Take the tokens of one line into the groups. -/
def addLine (groups : LemmaGroups) (entry : String × List String) : LemmaGroups :=
  groups.insert entry.1 (entry.2.foldl (fun set token => set.insert token)
    (groups[entry.1]?.getD ∅))

/-- The lemma groups of a listing. -/
def parse (text : String) : Except Fault LemmaGroups :=
  readLines readLine addLine 1 ∅ (lineChars text.toList)

/-- The line of one lemma. -/
def renderLine (group : String × Std.ExtTreeSet String) : List Char :=
  group.1.toList ++ ':' :: ' ' :: joinWith [' '] (group.2.toList.map String.toList)

/-- The listing of lemma groups, lemmas ascending, without a line break at the end. -/
def render (groups : LemmaGroups) : String :=
  String.ofList (joinWith ['\n'] (groups.toList.map renderLine))

end Concordance.LemmaIndex
