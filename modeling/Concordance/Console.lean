import Concordance.Number.Fixed
import Concordance.Snapshot

/-!
# The console

A session reads queries line by line and writes the answers, until a line says `exit` or the
input ends. A query is answered by boolean search or by rank; each line is ranked with walks of its
own.
-/

namespace Concordance.Console

open Text

/-- How queries are answered. -/
inductive Mode
  /-- As boolean formulas. -/
  | boolean
  /-- By similarity. -/
  | ranked
  deriving Repr, DecidableEq

/-- The invitation to enter a query. -/
def prompt : String := "Enter a query (or 'exit' to quit):"

/-- The answer to a query that finds no document. -/
def nothingFound (query : String) : List String :=
  ["Nothing found for '" ++ query ++ "'"]

/-- Lines with their numbers in front, counted from one. -/
def numbered (lines : List String) : List String :=
  lines.zipIdx 1 |>.map fun p => Decimal.render p.2 ++ ". " ++ p.1

/-- A document with its address, if it has one. -/
def documentLine (corpus : Corpus) (id : DocId) : String :=
  Decimal.render id.toNat ++
    match corpus.url? id with
    | some url => " " ++ url
    | none => ""

/-- The lines that answer a boolean query. -/
def booleanAnswer (snapshot : Snapshot UInt32 Float) (query : String) : List String :=
  match snapshot.search query with
  | .error e => ["Failed to process query: malformed query: " ++ e.message]
  | .ok docs =>
    if docs.isEmpty then nothingFound query
    else ("Found " ++ Decimal.render docs.size ++ " documents:") ::
      numbered (docs.toList.map (documentLine snapshot.corpus))

/-- The address of a hit, or its number if it has none, and its score. -/
def hitLine (corpus : Corpus) (hit : Hit Float) : String :=
  (corpus.url? hit.doc).getD (Decimal.render hit.doc.toNat) ++ " (" ++ fixed 4 hit.score ++ ")"

/-- The lines that answer a ranked query. -/
def rankedAnswer (snapshot : Snapshot UInt32 Float) (normalizer : Normalizer) (walks : Walks)
    (query : String) : List String :=
  match snapshot.rank walks normalizer query with
  | [] => nothingFound query
  | hits => numbered (hits.map (hitLine snapshot.corpus))

/-- The lines that answer a query. -/
def answer (snapshot : Snapshot UInt32 Float) (normalizer : Normalizer) (mode : Mode)
    (walks : Walks) (query : String) : List String :=
  match mode with
  | .boolean => booleanAnswer snapshot query
  | .ranked => rankedAnswer snapshot normalizer walks query

/-- The lines written for a line of input, unless it ends the session. -/
def reply? (snapshot : Snapshot UInt32 Float) (normalizer : Normalizer) (mode : Mode)
    (walks : Walks) (line : String) : Option (List String) :=
  let query := trim line
  if lowerAscii query == "exit" then none
  else if query.isEmpty then some ["Error: empty query"]
  else some (answer snapshot normalizer mode walks query ++ ["", prompt])

/-- The last line of a session. -/
def farewell : String := "Bye"

/-- The lines written for the remaining lines of input, with the walks of each of them. -/
def replies (snapshot : Snapshot UInt32 Float) (normalizer : Normalizer) (mode : Mode) :
    (Nat → Walks) → List String → List String
  | _, [] => [farewell]
  | walks, line :: rest =>
    match reply? snapshot normalizer mode (walks 0) line with
    | none => [farewell]
    | some written => written ++ replies snapshot normalizer mode (fun n => walks (n + 1)) rest

/-- All that a session writes. -/
def session (snapshot : Snapshot UInt32 Float) (normalizer : Normalizer) (mode : Mode)
    (walks : Nat → Walks) (input : String) : String :=
  String.join ((prompt :: replies snapshot normalizer mode walks (lines input)).map (· ++ "\n"))

end Concordance.Console
