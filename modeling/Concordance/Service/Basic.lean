import Concordance.Service.Answer
import Concordance.Service.Route

/-!
# The service

A service answers requests from the index it holds. It reads the directory of the index only
when it starts and when a request with the right credential asks for it; `reopen` reads the
directory and `swap` puts what was read in place of what was served. All other requests leave
the service as it is.
-/

namespace Concordance

open Http

/-- From which origins answers may be read by scripts. -/
inductive Service.Origins
  /-- From all. -/
  | any
  /-- From these. -/
  | only (origins : List String)
  deriving Repr, DecidableEq

/-- An index that is served. -/
structure Service where
  /-- Where the index is kept. -/
  layout : Layout
  /-- The credential for reading the index again, if one is configured. -/
  credential : Option String
  /-- From which origins answers may be read. -/
  origins : Service.Origins
  /-- The index that is served. -/
  index : OpenIndex

namespace Service

/-! ## Origins -/

/-- The origins of a setting : a list with commas. Without a setting, or if no part of it can be
the value of a header, all origins are allowed. -/
def Origins.ofSetting (setting : Option String) : Origins :=
  match setting with
  | none => any
  | some list =>
    let parts := (Text.fieldChars ',' list.toList).map fun s => String.ofList (Text.trimChars s)
    match parts.filter isHeaderValue with
    | [] => any
    | origins => only origins

/-- The origin that an answer names as allowed. -/
def Origins.allowed (origins : Origins) (origin : Option String) : Option String :=
  match origins with
  | any => some "*"
  | only origins => origin.filter origins.contains

/-! ## The index -/

/-- Read the index of a directory. -/
def reopen (layout : Layout) (tree : FileTree) : Except Index.Failure OpenIndex :=
  Index.load layout tree

/-- Serve another index. -/
def swap (service : Service) (index : OpenIndex) : Service :=
  { service with index }

/-- The service of the index in a directory. -/
def start (layout : Layout) (credential : Option String) (origins : Origins) (tree : FileTree) :
    Except Index.Failure Service := do
  return ⟨layout, credential, origins, ← reopen layout tree⟩

/-- The credential that a request carries; without one it is empty. -/
def provided (request : Request) : String :=
  ((request.header? "X-ADMIN-TOKEN").filter isPlain).getD ""

/-- Whether a request may have the index read again. -/
def authorize (service : Service) (request : Request) : Except Refusal Unit :=
  match service.credential with
  | none => .error .noCredential
  | some credential =>
    if provided request = credential then .ok () else .error .wrongCredential

/-- Read the index again. -/
def reload (service : Service) (tree : FileTree) (request : Request) :
    Except Refusal (Service × Answer) := do
  service.authorize request
  let index ← (reopen service.layout tree).mapError .failed
  return (service.swap index, .reloaded index.snapshot.corpus.size)

/-! ## Requests -/

/-- The answer to a request that leaves the service as it is. -/
def ask (index : OpenIndex) (walks : Walks) (route : Route) (query : List Char) :
    Except Refusal Answer :=
  let params := SearchParams.ofPairs? (Form.parse query)
  match route with
  | .health => .ok .healthy
  | .rank =>
    match params with
    | some params => rank index walks params.query params.k
    | none => .error .unreadable
  | .search =>
    match params with
    | some params => search index params.query
    | none => .error .unreadable
  | .document name =>
    match readDocId? name with
    | some id => document index id
    | none => .error .unreadable
  | .reload => .error .wrongMethod

/-- The service after a request, and its answer. -/
def answer (service : Service) (walks : Walks) (tree : FileTree) (request : Request) :
    Service × Except Refusal Answer :=
  match Route.ofPath? request.target.path with
  | none => (service, .error .unknownPath)
  | some route =>
    if !route.takes request.method then (service, .error .wrongMethod)
    else if route = .reload then
      match service.reload tree request with
      | .ok (service, answer) => (service, .ok answer)
      | .error refusal => (service, .error refusal)
    else (service, ask service.index walks route request.target.query)

/-- What a response carries. -/
inductive Body
  /-- Nothing. -/
  | empty
  /-- An answer. -/
  | answer (answer : Answer)
  /-- The reason of a refusal. -/
  | refusal (reason : Refusal)

/-- What is sent back. -/
structure Response where
  /-- The status code. -/
  status : Nat
  /-- The body. -/
  body : Body
  /-- The origin that is named as allowed. -/
  allowedOrigin : Option String

/-- The service after a request, and the response. A request for what is allowed is always
granted, whatever its path. -/
def handle (service : Service) (walks : Walks) (tree : FileTree) (request : Request) :
    Service × Response :=
  let origin := service.origins.allowed (request.header? "Origin")
  if request.method = .options then (service, ⟨200, .empty, origin⟩)
  else
    let (service, result) := service.answer walks tree request
    let status := match result with
      | .ok _ => 200
      | .error refusal => refusal.status
    let body := if request.method = .head then Body.empty else match result with
      | .ok answer => .answer answer
      | .error refusal => .refusal refusal
    (service, ⟨status, body, origin⟩)

end Service

end Concordance
