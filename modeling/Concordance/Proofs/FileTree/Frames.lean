import Concordance.Proofs.FileTree.Changes

/-!
# What a change leaves alone

Changes inside a directory concern some entries of it, each with all that is below it. Everywhere
else the tree stays as it was (`AgreeOutside`); such changes can be put one behind another
(`AgreeOutside.trans`). Entries of different names have nothing in common (`eq_of_suffix`), so what
is known of one of them outlives changes to others (`AgreeOutside.below`), also that it is no file
(`AgreeOutside.noFiles_iff`).
-/

namespace Concordance.FileTree

variable {tree mid tree' : FileTree} {root place : Place} {sub other : String}
  {subs subs' : List String} {content : ByteArray}

/-! ## Entries of one directory -/

/-- A place is below at most one entry of a directory. -/
theorem eq_of_suffix (h : sub :: root <:+ place) (h' : other :: root <:+ place) : sub = other := by
  have heq : sub :: root = other :: root :=
    (List.suffix_of_suffix_length_le h h' (by simp)).eq_of_length (by simp)
  exact (List.cons.inj heq).1

/-! ## Agreement -/

/-- Two trees agree but for some entries of a directory and what is below these. -/
def AgreeOutside (root : Place) (subs : List String) (tree tree' : FileTree) : Prop :=
  ∀ place, (∀ sub ∈ subs, ¬sub :: root <:+ place) → tree'.get? place = tree.get? place

namespace AgreeOutside

theorem refl (root : Place) (subs : List String) (tree : FileTree) :
    AgreeOutside root subs tree tree :=
  fun _ _ => rfl

theorem mono (h : AgreeOutside root subs tree tree') (hsubs : subs ⊆ subs') :
    AgreeOutside root subs' tree tree' :=
  fun place hplace => h place fun sub hsub => hplace sub (hsubs hsub)

theorem trans (h : AgreeOutside root subs tree mid) (h' : AgreeOutside root subs' mid tree') :
    AgreeOutside root (subs ++ subs') tree tree' := fun place hplace =>
  (h' place fun sub hsub => hplace sub (List.mem_append_right subs hsub)).trans
    (h place fun sub hsub => hplace sub (List.mem_append_left subs' hsub))

/-- At and below another entry nothing changes. -/
theorem below (h : AgreeOutside root subs tree tree') (hother : other ∉ subs)
    (hplace : other :: root <:+ place) : tree'.get? place = tree.get? place :=
  h place fun _ hsub hsuffix => hother (eq_of_suffix hsuffix hplace ▸ hsub)

/-- Another entry stays as it is. -/
theorem entry (h : AgreeOutside root subs tree tree') (hother : other ∉ subs) :
    tree'.get? (other :: root) = tree.get? (other :: root) :=
  h.below hother (List.suffix_refl _)

/-- The directory itself is not among its entries. -/
theorem around (h : AgreeOutside root subs tree tree') : tree'.get? root = tree.get? root :=
  h root fun _ _ => not_cons_suffix_self

/-- A directory stays one. -/
theorem directory (h : AgreeOutside root subs tree tree') (hroot : tree.get? root = some .directory) :
    tree'.get? root = some .directory :=
  h.around.trans hroot

end AgreeOutside

/-- None of some entries of a directory is a file. -/
def NoFiles (root : Place) (subs : List String) (tree : FileTree) : Prop :=
  ∀ sub ∈ subs, ∀ content, tree.get? (sub :: root) ≠ some (.file content)

theorem noFiles_nil : NoFiles root [] tree :=
  fun _ hsub => absurd hsub List.not_mem_nil

theorem noFiles_cons : NoFiles root (sub :: subs) tree ↔
    (∀ content, tree.get? (sub :: root) ≠ some (.file content)) ∧ NoFiles root subs tree :=
  List.forall_mem_cons

/-- Changes at other entries make no files of them. -/
theorem AgreeOutside.noFiles_iff (h : AgreeOutside root subs tree tree')
    (hdisjoint : ∀ sub ∈ subs', sub ∉ subs) :
    NoFiles root subs' tree' ↔ NoFiles root subs' tree :=
  forall₂_congr fun sub hsub => by rw [h.entry (hdisjoint sub hsub)]

/-- A change at one entry and below it. -/
theorem agreeOutside_singleton
    (h : ∀ place, ¬sub :: root <:+ place → tree'.get? place = tree.get? place) :
    AgreeOutside root [sub] tree tree' :=
  fun place hplace => h place (hplace sub List.mem_cons_self)

/-! ## Changes at one entry -/

/-- A file is removed from a directory. -/
theorem exists_removeFile_entry (hfile : tree.get? (sub :: root) = some (.file content)) :
    ∃ tree', tree.removeFile (sub :: root) = .ok tree' ∧ tree'.get? (sub :: root) = none ∧
      AgreeOutside root [sub] tree tree' := by
  obtain ⟨tree', hremove, hview⟩ := exists_removeFile hfile
  refine ⟨tree', hremove, by rw [hview, if_pos rfl], agreeOutside_singleton fun place hplace => ?_⟩
  rw [hview, if_neg]
  rintro rfl
  exact hplace (List.suffix_refl _)

/-- A directory is removed from a directory. -/
theorem exists_removeTree_entry (hdir : tree.get? (sub :: root) = some .directory) :
    ∃ tree', tree.removeTree (sub :: root) = .ok tree' ∧
      (∀ place, sub :: root <:+ place → tree'.get? place = none) ∧
        AgreeOutside root [sub] tree tree' := by
  obtain ⟨tree', hremove, hview⟩ := exists_removeTree hdir
  refine ⟨tree', hremove, fun place hplace => by rw [hview, if_pos hplace],
    agreeOutside_singleton fun place hplace => by rw [hview, if_neg hplace]⟩

/-- A file is saved in a directory. -/
theorem exists_save_entry (hroot : tree.get? root = some .directory)
    (hfree : tree.get? (sub :: root) ≠ some .directory) (content : ByteArray) :
    ∃ tree', tree.save (sub :: root) content = .ok tree' ∧
      tree'.get? (sub :: root) = some (.file content) ∧ AgreeOutside root [sub] tree tree' := by
  obtain ⟨tree', hsave, hview⟩ := exists_save_child hroot hfree content
  refine ⟨tree', hsave, by rw [hview, if_pos rfl], agreeOutside_singleton fun place hplace => ?_⟩
  rw [hview, if_neg]
  rintro rfl
  exact hplace (List.suffix_refl _)

end Concordance.FileTree
