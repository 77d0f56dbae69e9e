import Concordance.Service.Basic

/-!
# A service and its directory

The credential of a service is given to it or read from its environment. A service stands beside
the directory of its index. It handles requests one at a time, each with walks of its own; between
them the directory may change in any way, since others work in it too. `Deployment.run` is what
becomes of both, and `Deployment.exchanges` is what was asked and answered on the way.
-/

namespace Concordance.Service

open Http

/-! ## Starting -/

/-- The variables of a process, as far as they are set and can be read as text. -/
abbrev Environment := String → Option String

/-- Where the credential of a service is from. -/
inductive CredentialSource
  /-- It is given, or it is given that there is none. -/
  | given (credential : Option String)
  /-- It is the value of a variable. -/
  | environment
  deriving Repr, DecidableEq

/-- The credential. -/
def CredentialSource.credential (environment : Environment) : CredentialSource → Option String
  | given credential => credential
  | .environment => environment "ADMIN_TOKEN"

/-- The service of the index in a directory, started in an environment. -/
def startIn (environment : Environment) (source : CredentialSource) (layout : Layout)
    (tree : FileTree) : Except Index.Failure Service :=
  start layout (source.credential environment)
    (.ofSetting (environment "CORS_ALLOW_ORIGIN")) tree

/-! ## What happens -/

/-- Whether a request asks for the index to be read again. -/
def asksReload (request : Request) : Bool :=
  request.method == .post && Route.ofPath? request.target.path == some .reload

/-- What can happen to a service and its directory. -/
inductive Event
  /-- A request, and the walks with which it is answered. -/
  | request (walks : Walks) (request : Request)
  /-- A change of the directory, whoever makes it. -/
  | change (tree : FileTree)

/-- A request and its response, with the directory as it was. -/
structure Exchange where
  /-- The directory. -/
  tree : FileTree
  /-- What was asked. -/
  request : Request
  /-- What was answered. -/
  response : Response

/-- Whether the index was read again. -/
def Exchange.reloads (exchange : Exchange) : Bool :=
  asksReload exchange.request && exchange.response.status == 200

/-- The directory as it was at the last exchange that read the index again, or before all of them.
-/
def lastLoaded (first : FileTree) (exchanges : List Exchange) : FileTree :=
  ((exchanges.filter Exchange.reloads).getLast?.map Exchange.tree).getD first

/-- A service beside the directory of its index. -/
structure Deployment where
  /-- The service. -/
  service : Service
  /-- The directory. -/
  tree : FileTree

namespace Deployment

/-- What an event leaves. -/
def step (now : Deployment) : Event → Deployment
  | .request walks request =>
    { now with service := (now.service.handle walks now.tree request).1 }
  | .change tree => { now with tree }

/-- What is asked and answered in an event. -/
def exchange? (now : Deployment) : Event → Option Exchange
  | .request walks request =>
    some ⟨now.tree, request, (now.service.handle walks now.tree request).2⟩
  | .change _ => none

/-- What some events leave. -/
def run (now : Deployment) (events : List Event) : Deployment :=
  events.foldl step now

/-- What is asked and answered in some events. -/
def exchanges (now : Deployment) : List Event → List Exchange
  | [] => []
  | event :: events => (now.exchange? event).toList ++ (now.step event).exchanges events

end Deployment

end Concordance.Service
