import Concordance.Proofs.FileTree.Changes
import Concordance.Proofs.FileTree.Reading
import Concordance.Proofs.FileTree.Runs

/-!
# Saving several texts

A file is saved exactly at a writable place; then it stands there, directories lead to it, and all
else is as it was (`change_save_yields`). Texts are saved one after the other. If none of their places
leads to another, this succeeds exactly if each place is writable beforehand, and afterwards each text
is there (`forM_save_yields`).
-/

namespace Concordance.FileTree

open Edit

variable {ε : Type} {tree mid tree' : FileTree} {place other : Place} {content : ByteArray}
  {text : Place × String} {texts : List (Place × String)}

/-! ## One file -/

/-- A file stands at its place, directories lead to it, and all else is as it was. -/
def Saved (place : Place) (content : ByteArray) (tree tree' : FileTree) : Prop :=
  ∀ other, tree'.get? other =
    if other = place then some (.file content)
    else if other <:+ place then some .directory else tree.get? other

theorem Saved.file (h : Saved place content tree tree') :
    tree'.get? place = some (.file content) := by
  rw [h place, if_pos rfl]

/-- A file is saved exactly at a writable place. -/
theorem change_save_yields (fail : Fault → ε) (place : Place) (content : ByteArray) :
    Yields (.change fun tree => (tree.save place content).mapError fail : Edit ε Unit) tree
      (tree.Writable place) fun _ tree' => Saved place content tree tree' where
  of_run _ tree' hrun := by
    have hsave := mapError_eq_ok_iff.1 (apply_change_eq_ok_iff.1 hrun)
    have hwritable := writable_of_save hsave
    obtain ⟨saved, hsaved, hview⟩ := hwritable.exists_save content
    obtain rfl := Except.ok.inj (hsave.symm.trans hsaved)
    exact ⟨hwritable, hview⟩
  exists_run hwritable := by
    obtain ⟨saved, hsaved, -⟩ := hwritable.exists_save content
    exact ⟨(), saved, apply_change_eq_ok_iff.2 (mapError_eq_ok_iff.2 hsaved)⟩

/-! ## Places apart from each other -/

/-- Neither of two places leads to the other. -/
structure Apart (place other : Place) : Prop where
  /-- The first one does not lead to the second one. -/
  left : ¬place <:+ other
  /-- The second one does not lead to the first one. -/
  right : ¬other <:+ place

theorem Apart.ne (h : Apart place other) : place ≠ other := by
  rintro rfl
  exact h.left (List.suffix_refl _)

theorem apart_of_length_eq (hlength : place.length = other.length) (hne : place ≠ other) :
    Apart place other :=
  ⟨fun h => hne (h.eq_of_length hlength), fun h => hne (h.eq_of_length hlength.symm).symm⟩

/-- What is saved at one place does not change whether another place, apart from it, is writable. -/
theorem Saved.writable_iff (h : Saved other content tree mid) (hother : tree.Writable other)
    (hapart : Apart other place) : mid.Writable place ↔ tree.Writable place := by
  have hself : mid.get? place = tree.get? place := by
    rw [h place, if_neg hapart.ne.symm, if_neg hapart.right]
  have hfile : ∀ dir, dir <:+ place → ∀ bytes,
      mid.get? dir = some (.file bytes) ↔ tree.get? dir = some (.file bytes) := by
    intro dir hdir bytes
    have hne : dir ≠ other := fun heq => hapart.left (heq ▸ hdir)
    rw [h dir, if_neg hne]
    by_cases hsuffix : dir <:+ other
    · simp [hsuffix, hother.clear dir hsuffix hne bytes]
    · simp [hsuffix]
  constructor
  · intro hplace
    refine ⟨hself ▸ hplace.free, fun dir hdir hne bytes => ?_⟩
    exact mt (hfile dir hdir bytes).2 (hplace.clear dir hdir hne bytes)
  · intro hplace
    refine ⟨hself.symm ▸ hplace.free, fun dir hdir hne bytes => ?_⟩
    exact mt (hfile dir hdir bytes).1 (hplace.clear dir hdir hne bytes)

/-! ## Several texts -/

/-- Each text stands at its place, directories lead to them, and all else is as it was. -/
structure SavedAll (texts : List (Place × String)) (tree tree' : FileTree) : Prop where
  /-- Each text stands at its place. -/
  file : ∀ text ∈ texts, tree'.get? text.1 = some (.file text.2.toUTF8)
  /-- Directories lead to each text. -/
  directory : ∀ text ∈ texts, ∀ dir, dir <:+ text.1 → dir ≠ text.1 →
    tree'.get? dir = some .directory
  /-- What leads to no text is as it was. -/
  other : ∀ place, (∀ text ∈ texts, ¬place <:+ text.1) → tree'.get? place = tree.get? place

theorem SavedAll.readText (h : SavedAll texts tree tree') (htext : text ∈ texts) :
    tree'.readText text.1 = .ok text.2 :=
  readText_eq_ok_iff.2 (h.file text htext)

/-- One text is saved before others that are apart from it. -/
theorem SavedAll.cons (hapart : ∀ other ∈ texts, Apart text.1 other.1)
    (hsaved : Saved text.1 text.2.toUTF8 tree mid) (h : SavedAll texts mid tree') :
    SavedAll (text :: texts) tree tree' where
  file := by
    rintro saved (_ | ⟨_, hmem⟩)
    · rw [h.other text.1 fun other hother => (hapart other hother).left, hsaved.file]
    · exact h.file saved hmem
  directory := by
    rintro saved (_ | ⟨_, hmem⟩) dir hdir hne
    · by_cases hlater : ∃ other ∈ texts, dir <:+ other.1
      · obtain ⟨other, hother, hsuffix⟩ := hlater
        refine h.directory other hother dir hsuffix fun heq => ?_
        exact (hapart other hother).right (heq ▸ hdir)
      · simp only [not_exists, not_and] at hlater
        rw [h.other dir hlater, hsaved dir, if_neg hne, if_pos hdir]
    · exact h.directory saved hmem dir hdir hne
  other place hplace := by
    have hhead : ¬place <:+ text.1 := hplace text List.mem_cons_self
    have hne : place ≠ text.1 := fun heq => hhead (heq ▸ List.suffix_refl place)
    have htail : ∀ other ∈ texts, ¬place <:+ other.1 := fun other hother =>
      hplace other (List.mem_cons_of_mem text hother)
    rw [h.other place htail, hsaved place, if_neg hne, if_neg hhead]

/-- Save a text at its place; `fail` names the failure. -/
def Edit.save (fail : Fault → ε) (text : Place × String) : Edit ε Unit :=
  .change fun tree => (tree.saveText text.1 text.2).mapError fail

/-- Texts apart from each other are saved exactly if each place is writable. -/
theorem forM_save_yields (fail : Fault → ε) (hapart : texts.Pairwise (Apart ·.1 ·.1)) :
    Yields (texts.forM (Edit.save fail)) tree (∀ text ∈ texts, tree.Writable text.1)
      fun _ tree' => SavedAll texts tree tree' := by
  induction texts generalizing tree with
  | nil =>
    refine (Yields.forM_nil _).imp (by simp) ?_
    rintro - - tree' rfl
    exact ⟨by simp, by simp, fun _ _ => rfl⟩
  | cons text texts ih =>
    obtain ⟨hhead, htail⟩ := List.pairwise_cons.1 hapart
    have hsave : Yields (Edit.save fail text) tree (tree.Writable text.1)
        fun _ mid => tree.Writable text.1 ∧ Saved text.1 text.2.toUTF8 tree mid :=
      (change_save_yields fail text.1 text.2.toUTF8).imp Iff.rfl fun hwritable _ _ => And.intro hwritable
    have hall : (tree.Writable text.1 ∧ ∀ other ∈ texts, tree.Writable other.1) ↔
        ∀ saved ∈ text :: texts, tree.Writable saved.1 := by simp
    refine (hsave.forM_cons fun mid hmid => ?_).congr_guard hall
    obtain ⟨hwritable, hsaved⟩ := hmid
    -- the other places are apart from the first one, so they are as writable as before
    have hguard : (∀ other ∈ texts, mid.Writable other.1) ↔ ∀ other ∈ texts, tree.Writable other.1 :=
      forall₂_congr fun other hother => hsaved.writable_iff hwritable (hhead other hother)
    exact (ih htail).imp hguard fun _ _ tree' hall => hall.cons hhead hsaved

end Concordance.FileTree
