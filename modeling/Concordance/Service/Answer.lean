import Concordance.Index.Store
import Concordance.Snippet

/-!
# Answers

What the service answers from an open index : documents ranked by similarity, the documents
that satisfy a formula, and single documents. A question that cannot be answered is refused for
one of the reasons of `Refusal`. The scores of a ranking are sums that are rounded, so it depends on
the walks with which the question is answered; nothing else does.
-/

namespace Concordance.Service

open Text

/-! ## What is answered -/

/-- A ranked document. -/
structure RankedDocument where
  /-- The number of the document. -/
  id : DocId
  /-- Its address, if it has one. -/
  url : Option String
  /-- The similarity, rounded to four decimal places. -/
  score : Float
  /-- The place where a word of the query stands. -/
  snippet : Option String

/-- A document that satisfies a formula. -/
structure FoundDocument where
  /-- The number of the document. -/
  id : DocId
  /-- Its address, if it has one. -/
  url : Option String
  deriving Repr, DecidableEq

/-- What a question is answered with. -/
inductive Answer
  /-- The service is up. -/
  | healthy
  /-- The best documents, out of `total` that are similar to the query. -/
  | ranked (query : String) (total : Nat) (results : List RankedDocument)
  /-- The documents that satisfy the query. -/
  | found (query : String) (results : List FoundDocument)
  /-- A document : its address, its text and the number of its lemmas. -/
  | document (id : DocId) (url : Option String) (text : String) (lemmas : Nat)
  /-- The index was read again and has so many documents. -/
  | reloaded (numDocs : Nat)

/-- The number of documents that answer a search, whether they are all listed or not. -/
def Answer.totalHits? : Answer → Option Nat
  | ranked _ total _ => some total
  | found _ results => some results.length
  | _ => none

/-- Why a question is not answered. -/
inductive Refusal
  /-- The parameters cannot be read. -/
  | unreadable
  /-- The query is blank. -/
  | emptyQuery
  /-- The query is not a formula. -/
  | malformed (reason : Query.Malformed)
  /-- There is no such document. -/
  | noDocument
  /-- No credential is configured. -/
  | noCredential
  /-- The credential is wrong. -/
  | wrongCredential
  /-- The index cannot be read. -/
  | failed (failure : Index.Failure)
  /-- The path leads nowhere. -/
  | unknownPath
  /-- The path does not take this method. -/
  | wrongMethod
  deriving Repr, DecidableEq

/-- The status code of a refusal. -/
def Refusal.status : Refusal → Nat
  | unreadable | emptyQuery | malformed _ => 400
  | noCredential | wrongCredential => 401
  | noDocument | unknownPath => 404
  | wrongMethod => 405
  | failed _ => 500

/-- The refusal in words. Of parameters that cannot be read it is left open what is wrong. -/
def Refusal.message? : Refusal → Option String
  | unreadable => none
  | emptyQuery => some "query must not be empty"
  | malformed reason => some ("malformed query: " ++ reason.message)
  | noDocument => some "not found"
  | noCredential => some "ADMIN_TOKEN not set"
  | wrongCredential => some "invalid admin token"
  | failed failure => some failure.chain
  | unknownPath | wrongMethod => some ""

/-! ## Answering -/

/-- A query without blanks around it, which must not be empty. -/
def requireQuery (query : String) : Except Refusal String :=
  if (trim query).isEmpty then .error .emptyQuery else .ok (trim query)

/-- The number of documents shown when `k` are asked for. -/
def shown (k : Nat) : Nat :=
  max 1 (min k 100)

/-- A score rounded to four decimal places. -/
def roundScore (score : Float) : Float :=
  (score * 10000).round / 10000

/-- A hit as it is shown, with the words of the query highlighted. -/
def showHit (corpus : Corpus) (words : List String) (hit : Hit Float) : RankedDocument where
  id := hit.doc
  url := corpus.url? hit.doc
  score := roundScore hit.score
  snippet := (corpus.get? hit.doc).bind fun doc => Snippet.ofText? doc.text words

/-- The best `k` documents for a query. -/
def rank (index : OpenIndex) (walks : Walks) (query : String) (k : Nat) :
    Except Refusal Answer := do
  let query ← requireQuery query
  let hits := index.snapshot.rank walks index.normalizer query
  let words := index.normalizer.tokenize query
  return .ranked query hits.length
    ((hits.take (shown k)).map (showHit index.snapshot.corpus words))

/-- The documents that satisfy a query. -/
def search (index : OpenIndex) (query : String) : Except Refusal Answer := do
  let query ← requireQuery query
  let docs ← (index.snapshot.search query).mapError .malformed
  return .found query (docs.toList.map fun id => ⟨id, index.snapshot.corpus.url? id⟩)

/-- A document. -/
def document (index : OpenIndex) (id : DocId) : Except Refusal Answer :=
  match index.snapshot.corpus.get? id with
  | some doc =>
    .ok (.document id (index.snapshot.corpus.url? id) doc.text doc.lemmaGroups.size)
  | none => .error .noDocument

end Concordance.Service
