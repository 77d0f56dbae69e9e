import Concordance.Proofs.Service.History
import Concordance.Service.Overlap

/-!
# Reloads that overlap

A service that handles one request after the other has each reload read and served at once
(`handle_eq_read_swap`). With several on their way the last one to have its index served wins,
whenever it read it. So what is served is the index of the directory once a reload that read after
the last build has had it served, and as long as no reload that read before the build follows
(`current_of_fresh_swap`); one that follows brings the old index back (`overtaken`).
-/

namespace Concordance.Service

open Http

namespace Traffic

variable {now after : Traffic} {bound : Nat} {move : Move} {moves : List Move}

/-! ## Steps -/

/-- What a step can do. -/
inductive Stepped (now : Traffic) : Move → Traffic → Prop
  /-- The directory is another one. -/
  | rebuilt (tree : FileTree) : Stepped now (.rebuild tree) { now with tree }
  /-- The index cannot be read. -/
  | failed {failure : Index.Failure} (hread : reopen now.service.layout now.tree = .error failure) :
    Stepped now .read { now with reads := now.reads + 1 }
  /-- The index is read. -/
  | read {index : OpenIndex} (hread : reopen now.service.layout now.tree = .ok index) :
    Stepped now .read
      { now with reads := now.reads + 1, inFlight := now.inFlight.insert now.reads index }
  /-- There is no such reload on its way. -/
  | ignored {reload : Nat} (hflight : now.inFlight[reload]? = none) :
    Stepped now (.swap reload) now
  /-- The index that the reload has read is served. -/
  | swapped {reload : Nat} {index : OpenIndex} (hflight : now.inFlight[reload]? = some index) :
    Stepped now (.swap reload)
      { now with service := now.service.swap index, inFlight := now.inFlight.erase reload }

theorem stepped_step (now : Traffic) (move : Move) : Stepped now move (now.step move) := by
  cases move with
  | rebuild tree => exact .rebuilt tree
  | read =>
    cases hread : reopen now.service.layout now.tree with
    | error failure =>
      have hstep : now.step .read = { now with reads := now.reads + 1 } := by simp [step, hread]
      exact hstep ▸ .failed hread
    | ok index =>
      have hstep : now.step .read =
          { now with reads := now.reads + 1, inFlight := now.inFlight.insert now.reads index } := by
        simp [step, hread]
      exact hstep ▸ .read hread
  | swap reload =>
    cases hflight : now.inFlight[reload]? with
    | none =>
      have hstep : now.step (.swap reload) = now := by simp [step, hflight]
      exact hstep.symm ▸ .ignored hflight
    | some index =>
      have hstep : now.step (.swap reload) =
          { now with service := now.service.swap index, inFlight := now.inFlight.erase reload } := by
        simp [step, hflight]
      exact hstep ▸ .swapped hflight

theorem run_append (now : Traffic) (earlier later : List Move) :
    now.run (earlier ++ later) = (now.run earlier).run later :=
  List.foldl_append

/-! ## The reloads on their way -/

/-- What is on its way was read before. -/
def Numbered (now : Traffic) : Prop :=
  ∀ number index, now.inFlight[number]? = some index → number < now.reads

/-- The reloads from `bound` on have read the directory as it is. -/
structure Fresh (bound : Nat) (now : Traffic) : Prop where
  /-- The next reload is one of them. -/
  bound_le : bound ≤ now.reads
  /-- What they have read is the index of the directory. -/
  reopen_eq : ∀ number index, bound ≤ number → now.inFlight[number]? = some index →
    reopen now.service.layout now.tree = .ok index

theorem getElem?_of_insert {flight : Std.ExtTreeMap Nat OpenIndex} {number reload : Nat}
    {index found : OpenIndex} (h : (flight.insert reload index)[number]? = some found) :
    number = reload ∧ found = index ∨ flight[number]? = some found := by
  rw [Std.ExtTreeMap.getElem?_insert] at h
  split at h
  · next heq =>
    exact .inl ⟨(Std.LawfulEqCmp.eq_of_compare heq).symm, (Option.some.inj h).symm⟩
  · exact .inr h

theorem getElem?_of_erase {flight : Std.ExtTreeMap Nat OpenIndex} {number reload : Nat}
    {found : OpenIndex} (h : (flight.erase reload)[number]? = some found) :
    flight[number]? = some found := by
  rw [Std.ExtTreeMap.getElem?_erase] at h
  split at h
  · cases h
  · exact h

theorem Stepped.numbered (h : Stepped now move after) (hnow : Numbered now) : Numbered after := by
  intro number found hfound
  cases h with
  | rebuilt tree => exact hnow number found hfound
  | failed => exact Nat.lt_succ_of_lt (hnow number found hfound)
  | read =>
    rcases getElem?_of_insert hfound with ⟨rfl, -⟩ | hfound
    · exact Nat.lt_succ_self now.reads
    · exact Nat.lt_succ_of_lt (hnow number found hfound)
  | ignored => exact hnow number found hfound
  | swapped => exact hnow number found (getElem?_of_erase hfound)

theorem Numbered.run (h : Numbered now) (moves : List Move) : Numbered (now.run moves) :=
  List.foldlRecOn moves step h fun now hnow move _ => (stepped_step now move).numbered hnow

/-- No reload that reads from now on is on its way yet. -/
theorem Numbered.fresh (h : Numbered now) : Fresh now.reads now := by
  refine ⟨Nat.le_refl now.reads, fun number index hnumber hindex => ?_⟩
  have hlt := h number index hindex
  omega

/-- As long as the directory is not built again, the reloads that read it have read it as it is. -/
theorem Stepped.fresh (h : Stepped now move after) (hkept : ∀ tree, move ≠ .rebuild tree)
    (hnow : Fresh bound now) : Fresh bound after := by
  cases h with
  | rebuilt tree => exact absurd rfl (hkept tree)
  | failed => exact ⟨Nat.le_succ_of_le hnow.bound_le, hnow.reopen_eq⟩
  | read hread =>
    refine ⟨Nat.le_succ_of_le hnow.bound_le, fun number found hnumber hfound => ?_⟩
    rcases getElem?_of_insert hfound with ⟨-, rfl⟩ | hfound
    · exact hread
    · exact hnow.reopen_eq number found hnumber hfound
  | ignored => exact hnow
  | swapped =>
    refine ⟨hnow.bound_le, fun number found hnumber hfound => ?_⟩
    exact hnow.reopen_eq number found hnumber (getElem?_of_erase hfound)

theorem Fresh.run (h : Fresh bound now) (hkept : ∀ tree, .rebuild tree ∉ moves) :
    Fresh bound (now.run moves) := by
  refine List.foldlRecOn moves step h fun now hnow move hmem => ?_
  have hmove : ∀ tree, move ≠ .rebuild tree := fun tree heq => hkept tree (heq ▸ hmem)
  exact (stepped_step now move).fresh hmove hnow

theorem numbered_idle (service : Service) (tree : FileTree) : Numbered (idle service tree) := by
  intro number index hindex
  simp [idle] at hindex

/-- Of one request after the other a reload is read and served in two steps that follow each other.
-/
theorem handle_eq_read_swap {walks : Walks} {request : Request} (hnow : Numbered now)
    (hreload : asksReload request = true)
    (hcredential : now.service.credential = some (provided request)) :
    (now.service.handle walks now.tree request).1 =
      ((now.step .read).step (.swap now.reads)).service := by
  have hreloaded : Reloaded now.service now.tree request
      (now.service.handle walks now.tree request).1 _ := reloaded_handle hreload
  generalize (now.service.handle walks now.tree request).1 = after,
    (now.service.handle walks now.tree request).2.status = status at hreloaded ⊢
  cases hreloaded with
  | refused hne => exact absurd hcredential hne
  | failed _ hread =>
    have hnone : now.inFlight[now.reads]? = none := by
      cases hflight : now.inFlight[now.reads]? with
      | none => rfl
      | some index => exact absurd (hnow _ _ hflight) (Nat.lt_irrefl now.reads)
    simp [step, hread, hnone]
  | read _ hread => simp [step, hread]

/-! ## What is served -/

/-- A reload that has read the directory as it is has its index served. -/
theorem Stepped.current_of_fresh {reload : Nat} (h : Stepped now (.swap reload) after)
    (hbound : bound ≤ reload) (hflight : reload ∈ now.inFlight) (hnow : Fresh bound now) :
    Current after := by
  cases h with
  | ignored hnone =>
    rw [Std.ExtTreeMap.mem_iff_isSome_getElem?, hnone] at hflight
    cases hflight
  | swapped hsome => exact hnow.reopen_eq _ _ hbound hsome

theorem Stepped.current (h : Stepped now move after) (hkept : ∀ tree, move ≠ .rebuild tree)
    (hlater : ∀ reload, move = .swap reload → bound ≤ reload) (hnow : Fresh bound now)
    (hcurrent : Current now) : Current after := by
  cases h with
  | rebuilt tree => exact absurd rfl (hkept tree)
  | failed => exact hcurrent
  | read => exact hcurrent
  | ignored => exact hcurrent
  | swapped hflight => exact hnow.reopen_eq _ _ (hlater _ rfl) hflight

/-- The index of the directory, once it is served, is served as long as the directory is not built
again and no reload that read before follows. -/
theorem Current.run (hcurrent : Current now) (hnow : Fresh bound now)
    (hkept : ∀ tree, .rebuild tree ∉ moves)
    (hlater : ∀ reload, .swap reload ∈ moves → bound ≤ reload) : Current (now.run moves) := by
  -- the steps keep `Current` only together with what the reloads on their way have read
  have hboth : Fresh bound (now.run moves) ∧ Current (now.run moves) := by
    refine List.foldlRecOn (motive := fun now => Fresh bound now ∧ Current now) moves step
      ⟨hnow, hcurrent⟩ fun now hnow move hmem => ?_
    have hmove : ∀ tree, move ≠ .rebuild tree := fun tree heq => hkept tree (heq ▸ hmem)
    have hswap : ∀ reload, move = .swap reload → bound ≤ reload := fun reload heq =>
      hlater reload (heq ▸ hmem)
    have hstepped := stepped_step now move
    exact ⟨hstepped.fresh hmove hnow.1, hstepped.current hmove hswap hnow.1 hnow.2⟩
  exact hboth.2

/-- Let the directory not be built again after the steps `before`, and let a reload that reads after
them have its index served. Then the index of the directory is served, and stays so as long as only
reloads that read after these steps follow, whatever other reloads are on their way. -/
theorem current_of_fresh_swap (service : Service) (tree : FileTree)
    (before between after : List Move) (reload : Nat)
    (hkept : ∀ built, .rebuild built ∉ between ++ after)
    (hread : ((idle service tree).run before).reads ≤ reload)
    (hflight : reload ∈ ((idle service tree).run (before ++ between)).inFlight)
    (hlater : ∀ other, .swap other ∈ after → ((idle service tree).run before).reads ≤ other) :
    Current ((idle service tree).run (before ++ between ++ .swap reload :: after)) := by
  rw [run_append] at hflight
  rw [run_append, run_append]
  have hfresh := ((numbered_idle service tree).run before).fresh
  have hbetween := hfresh.run fun built hmem => hkept built (List.mem_append_left after hmem)
  have hswapped := stepped_step (((idle service tree).run before).run between) (.swap reload)
  have hcurrent := hswapped.current_of_fresh hread hflight hbetween
  have hnext := hswapped.fresh (fun _ heq => nomatch heq) hbetween
  exact hcurrent.run hnext (fun built hmem => hkept built (List.mem_append_right between hmem)) hlater

/-- A reload reads the first document, and the directory is built again with the second. -/
def early : List Move :=
  [.read, .rebuild houses]

/-- Two reloads read the second document and have it served. It is served while the early reload is
still on its way. -/
theorem current_houses :
    ∃ service, start ⟨[], []⟩ (some "secret") .any cats = .ok service ∧
      let now := (idle service cats).run (early ++ [.read, .read] ++ .swap 2 :: [.swap 1])
      0 ∈ now.inFlight ∧ Current now := by
  have hruns : ((start ⟨[], []⟩ (some "secret") .any cats).map fun service =>
      let first := idle service cats
      decide ((first.run early).reads ≤ 1 ∧ 2 ∈ (first.run (early ++ [.read, .read])).inFlight ∧
        0 ∈ (first.run (early ++ [.read, .read] ++ .swap 2 :: [.swap 1])).inFlight)).toOption =
          some true := by
    decide +kernel
  obtain ⟨service, hstart, hresult⟩ := map_eq_ok_iff.1 (toOption_eq_some_iff.1 hruns)
  obtain ⟨hreads, hflight, hleft⟩ := of_decide_eq_true hresult
  have hcurrent := current_of_fresh_swap service cats early [.read, .read] [.swap 1] 2 (by simp)
    (Nat.le_succ_of_le hreads) hflight (by simpa using hreads)
  exact ⟨service, hstart, hleft, hcurrent⟩

/-- Another document is served than the directory has. -/
theorem not_current_of_ids (h : ((reopen now.service.layout now.tree).map fun index =>
      index.snapshot.corpus.ids).toOption ≠ some now.service.index.snapshot.corpus.ids) :
    ¬Current now := by
  intro hcurrent
  rw [Current] at hcurrent
  rw [hcurrent] at h
  exact h rfl

/-- Once a reload has had the second document served, the early one brings the first one back. -/
theorem overtaken :
    ∃ service, start ⟨[], []⟩ (some "secret") .any cats = .ok service ∧
      let first := idle service cats
      (first.run early).reads ≤ 1 ∧ 1 ∈ (first.run (early ++ [.read])).inFlight ∧
      (first.run (early ++ [.read] ++ .swap 1 :: [])).service.index.snapshot.corpus.ids = [2] ∧
      let last := first.run (early ++ [.read] ++ .swap 1 :: [.swap 0])
      last.service.index.snapshot.corpus.ids = [1] ∧ ¬Current last := by
  have hruns : ((start ⟨[], []⟩ (some "secret") .any cats).map fun service =>
      let first := idle service cats
      let last := first.run (early ++ [.read] ++ .swap 1 :: [.swap 0])
      decide ((first.run early).reads ≤ 1 ∧ 1 ∈ (first.run (early ++ [.read])).inFlight ∧
        (first.run (early ++ [.read] ++ .swap 1 :: [])).service.index.snapshot.corpus.ids = [2] ∧
        last.service.index.snapshot.corpus.ids = [1] ∧
        ((reopen last.service.layout last.tree).map fun index =>
          index.snapshot.corpus.ids).toOption ≠ some last.service.index.snapshot.corpus.ids)
      ).toOption = some true := by
    decide +kernel
  obtain ⟨service, hstart, hresult⟩ := map_eq_ok_iff.1 (toOption_eq_some_iff.1 hruns)
  obtain ⟨hreads, hflight, hserved, hback, hids⟩ := of_decide_eq_true hresult
  exact ⟨service, hstart, hreads, hflight, hserved, hback, not_current_of_ids hids⟩

end Traffic

end Concordance.Service
