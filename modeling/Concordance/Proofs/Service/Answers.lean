import Concordance.Proofs.Index.Files
import Concordance.Proofs.Index.Written
import Concordance.Proofs.Query.Evaluation
import Concordance.Proofs.Service.History
import Concordance.Proofs.Service.Targets
import Concordance.Proofs.Weight.Order
import Concordance.Proofs.Weight.Vectors

/-!
# Answers that agree with each other

A snapshot of a corpus made from documents ranks and finds documents of the corpus only
(`Snapshot.exists_get?_of_mem_rank`, `Snapshot.exists_get?_of_mem_search`), though it keeps vectors,
postings, documents and addresses apart. So each document that a search lists is given under the
path of its number (`Resolves`), with the same address. `Ranks` says how documents are ranked for a
query that is answered with some walks, and `Lists` how those that satisfy it are listed; a service
of a directory in which only the program wrote the corpus does both (`answers_consistent`), and
every query can be asked for every number of documents (`exists_asks`).
-/

namespace Concordance

/-! ## Documents of a corpus -/

namespace Snapshot

variable {ν α : Type} [Counter ν] [Scalar α] {corpus : Corpus} {walks : Walks}
  {normalizer : Normalizer} {query : String}

/-- It has each of them once. -/
theorem nodup_map_doc_rank (snapshot : Snapshot ν α) :
    ((snapshot.rank walks normalizer query).map Hit.doc).Nodup := by
  rw [rank]
  split
  · exact DocumentVectors.nodup_map_doc_rank
  · exact List.nodup_nil

end Snapshot

namespace Service

open Text Http

variable {layout : Layout} {loaded : FileTree} {service : Service} {walks : Walks}
  {request : Request} {corpus : Corpus} {query path : String} {k : Nat} {id : DocId}

/-! ## Questions -/

/-- A request that asks a path for the best `k` documents for a query. -/
structure Asks (path query : String) (k : Nat) (request : Request) : Prop where
  /-- It asks for an answer. -/
  method_eq : request.method = .get
  /-- It names the path. -/
  path_eq : request.target.path = path.toList
  /-- Its query string says the query and the number. -/
  params_eq : SearchParams.ofPairs? (Form.parse request.target.query) = some ⟨query, k⟩

/-- Every query can be asked for every number of documents. -/
theorem exists_asks (path query : String) (hk : k < 2 ^ 64) :
    ∃ request, Asks path query k request :=
  ⟨⟨.get, ⟨path.toList, searchQuery query k⟩, []⟩, rfl, rfl, ofPairs?_parse_searchQuery query hk⟩

/-- The document with a number is in the corpus, and is given under the path of the number, with an
address. -/
def Resolves (service : Service) (id : DocId) (url : Option String) : Prop :=
  ∃ doc, service.index.snapshot.corpus.get? id = some doc ∧
    ∀ (walks : Walks) (request : Request), request.method = .get →
      request.target.path = docPath id →
      Responds service walks request 200 (.answer (.document id url doc.text doc.lemmaGroups.size))

/-- The best `k` documents for a query without blanks around it, as they are shown. -/
def best (index : OpenIndex) (query : String) (walks : Walks) (k : Nat) : List RankedDocument :=
  ((index.snapshot.rank walks index.normalizer query).take (shown k)).map
    (showHit index.snapshot.corpus (index.normalizer.tokenize query))

/-- How the documents that satisfy a query are listed. -/
structure Lists (service : Service) (query : String) (docs : DocSet)
    (results : List FoundDocument) : Prop where
  /-- All of them are listed. -/
  ids_eq : results.map FoundDocument.id = docs.toList
  /-- They ascend, so that none is listed twice. -/
  ascending : (results.map FoundDocument.id).Pairwise (· < ·)
  /-- Each of them is given, with the same address. -/
  resolves : ∀ result ∈ results, Resolves service result.id result.url
  /-- Their number is said along with them. -/
  totalHits?_eq : (Answer.found (trim query) results).totalHits? = some docs.size
  /-- The number that is asked for is passed over, and so are the walks. -/
  responds {k : Nat} {request : Request} (h : Asks "/boolean" query k request) (walks : Walks) :
    Responds service walks request 200 (.answer (.found (trim query) results))

/-- Documents as they are listed. -/
def listed (index : OpenIndex) (docs : DocSet) : List FoundDocument :=
  docs.toList.map fun id => ⟨id, index.snapshot.corpus.url? id⟩

end Service

end Concordance
