import Concordance.Document
import Concordance.Http.Form
import Concordance.Http.Request
import Concordance.Number.Decimal

/-!
# Routes

The path of a request chooses what is asked for. Searches take their parameters from the query
string, and a document is named by the last part of its path.
-/

namespace Concordance.Service

open Text Http

/-- What the path of a request asks for. -/
inductive Route
  /-- Whether the service is up. -/
  | health
  /-- Documents ranked by similarity. -/
  | rank
  /-- Documents that satisfy a formula. -/
  | search
  /-- A document, named as it stands in the path. -/
  | document (name : List Char)
  /-- To read the index again. -/
  | reload
  deriving Repr, DecidableEq

/-- The route of a path. -/
def Route.ofPath? (path : List Char) : Option Route :=
  match (fieldChars '/' path).map String.ofList with
  | ["", "health"] => some health
  | ["", "search"] => some rank
  | ["", "boolean"] => some search
  | ["", "reload"] => some reload
  | ["", "doc", name] => if name.isEmpty then none else some (document name.toList)
  | _ => none

/-- Whether a route takes a method. -/
def Route.takes (route : Route) (method : Method) : Bool :=
  if route = reload then method == .post else method == .get || method == .head

/-- What a search asks for. -/
structure SearchParams where
  /-- The query. -/
  query : String := ""
  /-- How many documents to show. -/
  k : Nat := 10
  deriving Repr, DecidableEq

/-- The number that a value spells. -/
def readCount? (value : String) : Option Nat :=
  Decimal.readBelow? 0x10000000000000000 value.toList

/-- The value of a parameter, if it is given; it must not be given twice. -/
def param? (pairs : List (String × String)) (name : String) : Option (Option String) :=
  match pairs.filter fun pair => pair.1 == name with
  | [] => some none
  | [pair] => some (some pair.2)
  | _ => none

/-- The parameters of a search, unless they cannot be read. Unknown ones are passed over. -/
def SearchParams.ofPairs? (pairs : List (String × String)) : Option SearchParams := do
  let query ← param? pairs "query"
  let k ← match ← param? pairs "k" with
    | some value => readCount? value
    | none => some 10
  return ⟨query.getD "", k⟩

/-- The document that a part of a path names, if it names one. -/
def readDocId? (name : List Char) : Option DocId := do
  Decimal.readUInt32? (← Utf8.decode? (Percent.decode (Utf8.encode name)))

end Concordance.Service
