import Concordance.Proofs.Service.History

/-!
# Reloads without the credential

A header that is missing is read as an empty credential. So a service that has no credential, or one
that is not empty, refuses every request for a reload that comes without the header, and keeps its
index whatever else is asked (`refused_run`). Of a service whose credential is empty this does not
hold (`reload_refused_iff`).
-/

namespace Concordance.Service

open Http

variable {environment : Environment} {source : CredentialSource} {layout : Layout}
  {tree : FileTree} {service after : Service} {request : Request} {status : Nat}
  {now : Deployment} {events : List Event}

/-! ## Requests without the header -/

theorem provided_eq_empty (h : request.header? "X-ADMIN-TOKEN" = none) : provided request = "" := by
  simp [provided, h]

theorem credential_of_startIn (h : startIn environment source layout tree = .ok service) :
    service.credential = source.credential environment := by
  obtain ⟨index, -, hservice⟩ := bind_eq_ok_iff.1 h
  obtain rfl := pure_eq_ok_iff.1 hservice
  rfl

theorem Reloaded.refused_of_ne (h : Reloaded service tree request after status)
    (hne : service.credential ≠ some (provided request)) : after = service ∧ status = 401 := by
  cases h with
  | refused => exact ⟨rfl, rfl⟩
  | failed hcredential => exact absurd hcredential hne
  | read hcredential => exact absurd hcredential hne

theorem Reloaded.status_ne_of_eq (h : Reloaded service tree request after status)
    (heq : service.credential = some (provided request)) : status ≠ 401 := by
  cases h with
  | refused hcredential => exact absurd heq hcredential
  | failed => decide
  | read => decide

/-! ## Services without a credential or with one that is not empty -/

/-- An event leaves the service as it is, and a request for a reload is refused, if it does not
carry the credential. -/
theorem refused_step {event : Event}
    (h : ∀ walks request, event = .request walks request →
      now.service.credential ≠ some (provided request)) :
    (now.step event).service = now.service ∧
    ∀ exchange ∈ (now.exchange? event).toList, asksReload exchange.request = true →
      exchange.response.status = 401 := by
  cases event with
  | change tree => simp [Deployment.step, Deployment.exchange?]
  | request walks request =>
    have hne := h walks request rfl
    cases hreload : asksReload request with
    | false =>
      have hkept : (now.service.handle walks now.tree request).1 = now.service :=
        handle_fst_of_not_asksReload hreload
      simp [Deployment.step, Deployment.exchange?, hkept, hreload]
    | true =>
      have hreloaded : Reloaded now.service now.tree request
          (now.service.handle walks now.tree request).1 _ := reloaded_handle hreload
      obtain ⟨hsame, hstatus⟩ := hreloaded.refused_of_ne hne
      simp [Deployment.step, Deployment.exchange?, hsame, hstatus]

/-- All events together leave the service as it is, if none of them carries the credential. -/
theorem refused_run (h : ∀ walks request, .request walks request ∈ events →
      now.service.credential ≠ some (provided request)) :
    (now.run events).service = now.service ∧
    ∀ exchange ∈ now.exchanges events, asksReload exchange.request = true →
      exchange.response.status = 401 := by
  induction events generalizing now with
  | nil => simp [Deployment.run, Deployment.exchanges]
  | cons event events ih =>
    obtain ⟨hstep, hfirst⟩ := refused_step fun walks request hevent =>
      h walks request (hevent ▸ List.mem_cons_self)
    have hlater : ∀ walks request, .request walks request ∈ events →
        (now.step event).service.credential ≠ some (provided request) := by
      intro walks request hrequest
      rw [hstep]
      exact h walks request (List.mem_cons_of_mem event hrequest)
    obtain ⟨hrun, hrest⟩ := ih hlater
    refine ⟨hrun.trans hstep, fun exchange hexchange => ?_⟩
    rcases List.mem_append.1 hexchange with hexchange | hexchange
    · exact hfirst exchange hexchange
    · exact hrest exchange hexchange

/-! ## All services -/

/-- Wherever the credential of a service is from : that all reloads without the header are refused,
and that the index is kept as long as no request carries it, holds exactly if the credential is not
empty. -/
theorem reload_refused_iff (hstart : startIn environment source layout tree = .ok service) :
    (∀ events : List Event,
      (∀ walks request, .request walks request ∈ events →
        request.header? "X-ADMIN-TOKEN" = none) →
      let first : Deployment := ⟨service, tree⟩
      (first.run events).service.index = service.index ∧
      ∀ exchange ∈ first.exchanges events, asksReload exchange.request = true →
        exchange.response.status = 401) ↔
    source.credential environment ≠ some "" := by
  rw [← credential_of_startIn hstart]
  constructor
  · intro hrefused hempty
    -- the one request without the header provides the empty credential, which is the right one
    have hreload := asksReload_reloadRequest []
    have hbare : (reloadRequest []).header? "X-ADMIN-TOKEN" = none := rfl
    obtain ⟨-, hstatuses⟩ := hrefused [.request .inOrder (reloadRequest [])] (by simp [hbare])
    have hcredential : service.credential = some (provided (reloadRequest [])) := by
      rw [hempty, provided_eq_empty hbare]
    have hreloaded : Reloaded service tree _ (service.handle .inOrder tree _).1 _ :=
      reloaded_handle hreload
    exact hreloaded.status_ne_of_eq hcredential
      (hstatuses ⟨tree, _, _⟩ (List.mem_singleton.2 rfl) hreload)
  · intro hne events hbare first
    have hcredentials : ∀ walks request, .request walks request ∈ events →
        first.service.credential ≠ some (provided request) := by
      intro walks request hrequest
      rw [provided_eq_empty (hbare walks request hrequest)]
      exact hne
    obtain ⟨hservice, hstatuses⟩ := refused_run hcredentials
    exact ⟨congrArg Service.index hservice, hstatuses⟩

/-- The directory changes, and a reload is asked for without the header. -/
def bareReload : List Event :=
  [.change houses, .request .inOrder (reloadRequest [])]

theorem header?_of_mem_bareReload : ∀ walks request, .request walks request ∈ bareReload →
    request.header? "X-ADMIN-TOKEN" = none := by
  intro walks request hrequest
  obtain ⟨-, rfl⟩ : walks = .inOrder ∧ request = reloadRequest [] := by
    simpa [bareReload] using hrequest
  rfl

/-- The credential stands in its variable. -/
def secretVariable : Environment :=
  fun name => if name = "ADMIN_TOKEN" then some "secret" else none

/-- With this credential the reload is refused, and the first document is served as before. -/
theorem reload_refused_secret :
    ∃ service, startIn secretVariable .environment ⟨[], []⟩ cats = .ok service ∧
      ((Deployment.mk service cats).exchanges bareReload).map (·.response.status) = [401] ∧
      ((Deployment.mk service cats).run bareReload).service.index.snapshot.corpus.ids = [1] := by
  have hopens : ((startIn secretVariable .environment ⟨[], []⟩ cats).map fun service =>
      service.index.snapshot.corpus.ids).toOption = some [1] := by
    decide +kernel
  obtain ⟨service, hstart, hids⟩ := map_eq_ok_iff.1 (toOption_eq_some_iff.1 hopens)
  have hsecret : CredentialSource.environment.credential secretVariable ≠ some "" := by decide
  obtain ⟨hindex, hstatuses⟩ := (reload_refused_iff hstart).2 hsecret bareReload
    header?_of_mem_bareReload
  obtain ⟨response, hexchanges⟩ : ∃ response, (Deployment.mk service cats).exchanges bareReload =
      [⟨houses, reloadRequest [], response⟩] := ⟨_, rfl⟩
  rw [hexchanges] at hstatuses
  have hstatus := hstatuses _ List.mem_cons_self (asksReload_reloadRequest [])
  refine ⟨service, hstart, ?_, ?_⟩
  · rw [hexchanges]
    exact congrArg (fun status => [status]) hstatus
  · rw [hindex]
    exact hids

/-- With an empty credential the reload is granted, and the second document is served. -/
theorem reload_granted_empty :
    ∃ service, startIn (fun _ => none) (.given (some "")) ⟨[], []⟩ cats = .ok service ∧
      (∀ walks request, .request walks request ∈ bareReload →
        request.header? "X-ADMIN-TOKEN" = none) ∧
      service.index.snapshot.corpus.ids = [1] ∧
      ((Deployment.mk service cats).exchanges bareReload).map (·.response.status) = [200] ∧
      ((Deployment.mk service cats).run bareReload).service.index.snapshot.corpus.ids = [2] := by
  have hruns : ((startIn (fun _ => none) (.given (some "")) ⟨[], []⟩ cats).map fun service =>
      let first : Deployment := ⟨service, cats⟩
      (service.index.snapshot.corpus.ids, (first.exchanges bareReload).map (·.response.status),
        (first.run bareReload).service.index.snapshot.corpus.ids)).toOption =
          some ([1], [200], [2]) := by
    decide +kernel
  obtain ⟨service, hstart, hresult⟩ := map_eq_ok_iff.1 (toOption_eq_some_iff.1 hruns)
  obtain ⟨hbefore, hresult⟩ := Prod.mk.inj hresult
  obtain ⟨hstatuses, hafter⟩ := Prod.mk.inj hresult
  exact ⟨service, hstart, header?_of_mem_bareReload, hbefore, hstatuses, hafter⟩

end Concordance.Service
