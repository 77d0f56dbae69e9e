import Concordance.FileTree.Edit
import Concordance.Proofs.Except

/-!
# Runs of edits

A run of an edit that succeeds is taken apart step by step : a sequence of two edits succeeds if
the second one succeeds on what the first one leaves (`apply_bind_eq_ok_iff`), and the single
steps are those of the tree. A failure comes from one of the steps, and what it leaves is what that
step found (`apply_bind_eq_error_iff`, `apply_change_eq_error_iff`).

What an edit comes to is stated as the exact condition under which it succeeds, together with what
then holds of its value and of the tree it leaves (`Yields`). Such statements are put together like
the edits themselves (`Yields.bind`), and a loop takes its invariant through all its rounds
(`Yields.forM`).
-/

namespace Concordance.FileTree.Edit

variable {ε δ α β : Type} {tree tree' : FileTree}

theorem apply_bind (edit : Edit ε α) (next : α → Edit ε β) :
    (edit >>= next).apply tree =
      match edit.apply tree with
      | (.ok a, mid) => (next a).apply mid
      | (.error e, mid) => (.error e, mid) := by
  unfold apply ExceptT.run StateT.run
  simp only [bind, ExceptT.bind, ExceptT.mk, StateT.bind, ExceptT.bindCont]
  cases edit tree with
  | mk result mid => cases result <;> rfl

/-- Two edits in a row succeed if each succeeds on what is there when it begins. -/
theorem apply_bind_eq_ok_iff {edit : Edit ε α} {next : α → Edit ε β} {b : β} :
    (edit >>= next).apply tree = (.ok b, tree') ↔
      ∃ a mid, edit.apply tree = (.ok a, mid) ∧ (next a).apply mid = (.ok b, tree') := by
  rw [apply_bind]
  cases edit.apply tree with
  | mk result mid =>
    cases result with
    | error e => simp
    | ok a =>
      constructor
      · exact fun h => ⟨a, mid, rfl, h⟩
      · rintro ⟨a', mid', h, hnext⟩
        cases h
        exact hnext

theorem apply_pure_eq_ok_iff {a b : α} :
    (pure a : Edit ε α).apply tree = (.ok b, tree') ↔ a = b ∧ tree = tree' := by
  show ((Except.ok a, tree) : Except ε α × FileTree) = _ ↔ _
  simp

theorem apply_look_eq_ok_iff {f : FileTree → Except ε α} {a : α} :
    (look f).apply tree = (.ok a, tree') ↔ f tree = .ok a ∧ tree = tree' :=
  Prod.mk.injEq _ _ _ _ ▸ Iff.rfl

/-- A change leaves what it gives, and if it fails what was there. -/
theorem apply_change (f : FileTree → Except ε FileTree) :
    (change f).apply tree = ((f tree).map fun _ => (), (f tree).toOption.getD tree) := by
  show change f tree = _
  rw [change]
  cases f tree <;> rfl

theorem apply_change_eq_ok_iff {f : FileTree → Except ε FileTree} :
    (change f).apply tree = (.ok (), tree') ↔ f tree = .ok tree' := by
  rw [apply_change]
  cases f tree <;> simp [Except.map, Except.toOption]

/-- Renaming the failures of an edit does not change its successes. -/
theorem apply_adapt_eq_ok_iff {edit : Edit ε α} {f : ε → δ} {a : α} :
    apply (edit.adapt f) tree = (.ok a, tree') ↔ edit.apply tree = (.ok a, tree') := by
  have hadapt : apply (edit.adapt f) tree =
      ((edit.apply tree).1.mapError f, (edit.apply tree).2) := rfl
  rw [hadapt]
  cases edit.apply tree with
  | mk result mid => cases result <;> simp

/-! ## Failures -/

variable {e : ε}

/-- Two edits in a row fail if the first one fails, or the second one on what the first one leaves. -/
theorem apply_bind_eq_error_iff {edit : Edit ε α} {next : α → Edit ε β} :
    (edit >>= next).apply tree = (.error e, tree') ↔ edit.apply tree = (.error e, tree') ∨
      ∃ a mid, edit.apply tree = (.ok a, mid) ∧ (next a).apply mid = (.error e, tree') := by
  rw [apply_bind]
  cases edit.apply tree with
  | mk result mid =>
    cases result with
    | error e' => simp
    | ok a => simp [and_assoc]

/-- A look that fails changes nothing. -/
theorem apply_look_eq_error_iff {f : FileTree → Except ε α} :
    (look f).apply tree = (.error e, tree') ↔ f tree = .error e ∧ tree = tree' :=
  Prod.mk.injEq _ _ _ _ ▸ Iff.rfl

/-- A change that fails changes nothing. -/
theorem apply_change_eq_error_iff {f : FileTree → Except ε FileTree} :
    (change f).apply tree = (.error e, tree') ↔ f tree = .error e ∧ tree = tree' := by
  rw [apply_change]
  cases f tree <;> simp [Except.map, Except.toOption]

/-- A loop fails in one of its rounds. -/
theorem exists_round_of_forM_eq_error {body : α → Edit ε Unit} {xs : List α}
    (h : (xs.forM body).apply tree = (.error e, tree')) :
    ∃ x ∈ xs, ∃ mid, (body x).apply mid = (.error e, tree') := by
  induction xs generalizing tree with
  | nil => cases h
  | cons x xs ih =>
    rcases apply_bind_eq_error_iff.1 h with hround | ⟨_, mid, -, hrest⟩
    · exact ⟨x, List.mem_cons_self, tree, hround⟩
    · obtain ⟨y, hy, hround⟩ := ih hrest
      exact ⟨y, List.mem_cons_of_mem x hy, hround⟩

/-! ## Successes as truth values -/

theorem isOk_apply_iff {edit : Edit ε α} :
    (edit.apply tree).1.isOk = true ↔ ∃ a tree', edit.apply tree = (.ok a, tree') := by
  rw [isOk_iff]
  constructor
  · exact fun ⟨a, ha⟩ => ⟨a, (edit.apply tree).2, Prod.ext ha rfl⟩
  · exact fun ⟨a, tree', h⟩ => ⟨a, congrArg Prod.fst h⟩

/-! ## What an edit yields -/

/-- From `tree`, the edit succeeds exactly if `guard` holds, and then `post` holds of its value and
of the tree it leaves. -/
structure Yields (edit : Edit ε α) (tree : FileTree) (guard : Prop) (post : α → FileTree → Prop) :
    Prop where
  /-- It succeeds only under the guard. -/
  of_run : ∀ a tree', edit.apply tree = (.ok a, tree') → guard ∧ post a tree'
  /-- Under the guard it succeeds. -/
  exists_run : guard → ∃ a tree', edit.apply tree = (.ok a, tree')

namespace Yields

variable {edit : Edit ε α} {next : α → Edit ε β} {guard guard' : Prop}
  {post post' : α → FileTree → Prop} {final : β → FileTree → Prop}

theorem exists_post (h : Yields edit tree guard post) (hguard : guard) :
    ∃ a tree', edit.apply tree = (.ok a, tree') ∧ post a tree' := by
  obtain ⟨a, tree', hrun⟩ := h.exists_run hguard
  exact ⟨a, tree', hrun, (h.of_run a tree' hrun).2⟩

/-- Under the guard it does not fail. -/
theorem apply_ne_error (h : Yields edit tree guard post) (hguard : guard) {e : ε} :
    edit.apply tree ≠ (.error e, tree') := by
  obtain ⟨a, mid, hrun⟩ := h.exists_run hguard
  simp [hrun]

theorem exists_run_iff {edit : Edit ε Unit} {post : Unit → FileTree → Prop}
    (h : Yields edit tree guard post) : (∃ tree', edit.apply tree = (.ok (), tree')) ↔ guard :=
  ⟨fun ⟨tree', hrun⟩ => (h.of_run () tree' hrun).1,
    fun hguard => have ⟨_, tree', hrun⟩ := h.exists_run hguard; ⟨tree', hrun⟩⟩

/-- The same in other words. -/
theorem imp (h : Yields edit tree guard post) (hguard : guard ↔ guard')
    (hpost : guard → ∀ a tree', post a tree' → post' a tree') : Yields edit tree guard' post' where
  of_run a tree' hrun :=
    have hrun := h.of_run a tree' hrun
    ⟨hguard.1 hrun.1, hpost hrun.1 a tree' hrun.2⟩
  exists_run hguard' := h.exists_run (hguard.2 hguard')

theorem congr_guard (h : Yields edit tree guard post) (hguard : guard ↔ guard') :
    Yields edit tree guard' post :=
  h.imp hguard fun _ _ _ hpost => hpost

/-- Of two edits in a row the second one begins with what the first one leaves. -/
theorem bind (h : Yields edit tree guard post)
    (hnext : ∀ a mid, post a mid → Yields (next a) mid guard' final) :
    Yields (edit >>= next) tree (guard ∧ guard') final where
  of_run b tree' hrun := by
    obtain ⟨a, mid, hedit, hnextrun⟩ := apply_bind_eq_ok_iff.1 hrun
    obtain ⟨hguard, hpost⟩ := h.of_run a mid hedit
    obtain ⟨hguard', hfinal⟩ := (hnext a mid hpost).of_run b tree' hnextrun
    exact ⟨⟨hguard, hguard'⟩, hfinal⟩
  exists_run := by
    rintro ⟨hguard, hguard'⟩
    obtain ⟨a, mid, hedit, hpost⟩ := h.exists_post hguard
    obtain ⟨b, tree', hnextrun⟩ := (hnext a mid hpost).exists_run hguard'
    exact ⟨b, tree', apply_bind_eq_ok_iff.2 ⟨a, mid, hedit, hnextrun⟩⟩

/-- An edit that comes to nothing but a value. -/
theorem pure (a : α) :
    Yields (Pure.pure a : Edit ε α) tree True fun b tree' => a = b ∧ tree = tree' where
  of_run b tree' hrun := by
    obtain ⟨rfl, rfl⟩ := apply_pure_eq_ok_iff.1 hrun
    exact ⟨trivial, rfl, rfl⟩
  exists_run _ := ⟨a, tree, rfl⟩

theorem look (f : FileTree → Except ε α) :
    Yields (look f) tree (∃ a, f tree = .ok a) fun a tree' => f tree = .ok a ∧ tree = tree' where
  of_run a tree' hrun := by
    obtain ⟨ha, rfl⟩ := apply_look_eq_ok_iff.1 hrun
    exact ⟨⟨a, ha⟩, ha, rfl⟩
  exists_run := fun ⟨a, ha⟩ => ⟨a, tree, apply_look_eq_ok_iff.2 ⟨ha, rfl⟩⟩

theorem change_of_ok {f : FileTree → Except ε FileTree} {post : FileTree → Prop}
    (h : f tree = .ok tree') (hpost : post tree') : Yields (change f) tree True fun _ => post where
  of_run _ mid hrun := by
    rw [apply_change_eq_ok_iff, h, Except.ok.injEq] at hrun
    exact ⟨trivial, hrun ▸ hpost⟩
  exists_run _ := ⟨(), tree', apply_change_eq_ok_iff.2 h⟩

theorem change_of_error {f : FileTree → Except ε FileTree} {e : ε} {post : FileTree → Prop}
    (h : f tree = .error e) : Yields (change f) tree False fun _ => post where
  of_run _ mid hrun := by
    rw [apply_change_eq_ok_iff, h] at hrun
    cases hrun
  exists_run := False.elim

/-- Renaming the failures of an edit does not change what it yields. -/
theorem adapt {f : ε → δ} (h : Yields edit tree guard post) :
    Yields (edit.adapt f : Edit δ α) tree guard post where
  of_run a tree' hrun := h.of_run a tree' (apply_adapt_eq_ok_iff.1 hrun)
  exists_run hguard :=
    have ⟨a, tree', hrun⟩ := h.exists_run hguard
    ⟨a, tree', apply_adapt_eq_ok_iff.2 hrun⟩

/-! ### Loops -/

variable {σ : Type} {body : α → Edit ε Unit} {xs : List α}

/-- A loop without rounds. -/
theorem forM_nil (body : α → Edit ε Unit) :
    Yields (([] : List α).forM body) tree True fun _ tree' => tree = tree' :=
  (pure ()).imp Iff.rfl fun _ _ _ h => h.2

/-- The first round of a loop, and the rest of it. -/
theorem forM_cons {x : α} {mid' : FileTree → Prop} {last : FileTree → Prop}
    (hbody : Yields (body x) tree guard fun _ => mid')
    (hrest : ∀ mid, mid' mid → Yields (xs.forM body) mid guard' fun _ => last) :
    Yields ((x :: xs).forM body) tree (guard ∧ guard') fun _ => last :=
  hbody.bind fun _ mid hmid => hrest mid hmid

/-- A loop takes its invariant from one state to the next with each round, if no round can fail. -/
theorem forM (Keeps : σ → FileTree → Prop) {step : σ → α → σ} {s : σ}
    (hbody : ∀ x ∈ xs, ∀ s tree, Keeps s tree → Yields (body x) tree True fun _ => Keeps (step s x))
    (hkeeps : Keeps s tree) : Yields (xs.forM body) tree True fun _ => Keeps (xs.foldl step s) := by
  induction xs generalizing s tree with
  | nil => exact (forM_nil body).imp Iff.rfl fun _ _ _ h => h ▸ hkeeps
  | cons x xs ih =>
    refine (forM_cons (hbody x List.mem_cons_self s tree hkeeps) fun mid hmid => ?_).congr_guard
      and_self_iff
    exact ih (fun y hy => hbody y (List.mem_cons_of_mem x hy)) hmid

end Yields

end Concordance.FileTree.Edit
