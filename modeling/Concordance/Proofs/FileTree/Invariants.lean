import Concordance.Proofs.FileTree.Changes
import Concordance.Proofs.FileTree.Runs

/-!
# What edits keep

An edit keeps a property of the tree if the property holds of what the edit leaves, whether it
succeeds or fails (`Keeps`). A sequence keeps what its steps keep, and a later step may rely on what
is known of the values of the earlier ones (`Keeps.bind`). Of what stands at one place, a file that is
saved elsewhere can only make a directory (`get?_of_save_elsewhere`), and what is removed can only
leave nothing (`get?_of_removeFile`, `get?_of_removeTree`).
-/

namespace Concordance.FileTree

variable {tree tree' : FileTree} {place other : Place} {content : ByteArray}

/-! ## One place under a change -/

theorem get?_of_save_elsewhere (h : tree.save place content = .ok tree') (hne : other ≠ place) :
    tree'.get? other = some .directory ∨ tree'.get? other = tree.get? other := by
  obtain ⟨saved, hsave, hview⟩ := (writable_of_save h).exists_save content
  obtain rfl := Except.ok.inj (h.symm.trans hsave)
  rw [hview, if_neg hne]
  split
  · exact .inl rfl
  · exact .inr rfl

theorem get?_of_save (h : tree.save place content = .ok tree') :
    tree'.get? place = some (.file content) := by
  obtain ⟨saved, hsave, hview⟩ := (writable_of_save h).exists_save content
  obtain rfl := Except.ok.inj (h.symm.trans hsave)
  rw [hview, if_pos rfl]

theorem get?_of_removeFile (h : tree.removeFile place = .ok tree') :
    tree'.get? other = none ∨ tree'.get? other = tree.get? other := by
  cases hget : tree.get? place with
  | none =>
    rw [removeFile] at h
    split at h
    · next hfile => simp [hget] at hfile
    · cases h
    · cases h
  | some entry =>
    cases entry with
    | directory =>
      rw [removeFile_of_directory hget] at h
      cases h
    | file content =>
      obtain ⟨removed, hremove, hview⟩ := exists_removeFile hget
      obtain rfl := Except.ok.inj (h.symm.trans hremove)
      rw [hview]
      split
      · exact .inl rfl
      · exact .inr rfl

theorem get?_of_removeTree (h : tree.removeTree place = .ok tree') :
    tree'.get? other = none ∨ tree'.get? other = tree.get? other := by
  obtain ⟨entry, -, h⟩ := bind_eq_ok_iff.1 h
  cases entry with
  | file content => cases h
  | directory =>
    obtain rfl := pure_eq_ok_iff.1 h
    cases place with
    | nil =>
      cases other with
      | nil => exact .inr rfl
      | cons name around =>
        refine .inl ?_
        show (tree.entries.filter _)[name :: around]? = none
        simp
    | cons name around =>
      rw [get?_dropTree]
      split
      · exact .inl rfl
      · exact .inr rfl

namespace Edit

variable {ε δ α β : Type} {P : FileTree → Prop} {edit : Edit ε α} {next : α → Edit ε β}
  {post : α → Prop} {final : β → Prop}

/-! ## Properties that are kept -/

/-- From a tree with the property `P`, the edit leaves one with it, and if it succeeds, `post` holds of
its value. -/
def Keeps (P : FileTree → Prop) (edit : Edit ε α) (post : α → Prop) : Prop :=
  ∀ tree, P tree → P (edit.apply tree).2 ∧ ∀ a, (edit.apply tree).1 = .ok a → post a

namespace Keeps

theorem bind (h : Keeps P edit post) (hnext : ∀ a, post a → Keeps P (next a) final) :
    Keeps P (edit >>= next) final := by
  intro tree htree
  obtain ⟨hmid, hpost⟩ := h tree htree
  rw [apply_bind]
  cases hrun : edit.apply tree with
  | mk result mid =>
    rw [hrun] at hmid hpost
    cases result with
    | error e => exact ⟨hmid, fun b hb => by cases hb⟩
    | ok a => exact hnext a (hpost a rfl) mid hmid

theorem pure {a : α} (ha : post a) : Keeps P (Pure.pure a : Edit ε α) post := fun _ htree =>
  ⟨htree, fun _ hb => Except.ok.inj hb ▸ ha⟩

theorem look (f : FileTree → Except ε α) : Keeps P (look f) fun _ => True := fun _ htree =>
  ⟨htree, fun _ _ => trivial⟩

theorem change {f : FileTree → Except ε FileTree}
    (hf : ∀ tree tree', P tree → f tree = .ok tree' → P tree') :
    Keeps P (change f) fun _ => True := fun tree htree => by
  rw [apply_change]
  refine ⟨?_, fun _ _ => trivial⟩
  cases h : f tree with
  | error e => exact htree
  | ok tree' => exact hf tree tree' htree h

theorem adapt (h : Keeps P edit post) (f : ε → δ) : Keeps P (edit.adapt f : Edit δ α) post :=
  fun tree htree => ⟨(h tree htree).1, fun a ha => (h tree htree).2 a (mapError_eq_ok_iff.1 ha)⟩

theorem forM {body : α → Edit ε Unit} {xs : List α}
    (hbody : ∀ x ∈ xs, Keeps P (body x) fun _ => True) : Keeps P (xs.forM body) fun _ => True := by
  induction xs with
  | nil => exact pure trivial
  | cons x xs ih =>
    obtain ⟨hx, hxs⟩ := List.forall_mem_cons.1 hbody
    exact hx.bind fun _ _ => ih hxs

end Keeps

end Edit

end Concordance.FileTree
