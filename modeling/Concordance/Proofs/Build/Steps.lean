import Concordance.Index.Build
import Concordance.Proofs.Except
import Concordance.Proofs.FileTree.Frames
import Concordance.Proofs.FileTree.Runs

/-!
# What the steps of a build yield

Each step concerns one entry of the directory of an index. A file of an earlier build is removed
unless a directory stands in its place (`removeFile_yields`), a directory is cleared unless a file
stands in its place (`clear_yields`), and a file is written unless a directory stands in its place
(`save_yields`). Nothing else of the directory changes.
-/

namespace Concordance.Build

open FileTree FileTree.Edit

variable {tree tree' : FileTree} {root : Place} {sub : String}

/-- A look at the index succeeds as the reader does, and changes nothing. -/
theorem lookIndex_yields {α : Type} (f : FileTree → Except Index.Failure α) :
    Yields (lookIndex f) tree (∃ a, f tree = .ok a) fun a tree' => f tree = .ok a ∧ tree = tree' := by
  refine (Yields.look _).imp ?_ ?_
  all_goals simp only [mapError_eq_ok_iff, imp_self, implies_true]

/-! ## Removing what is there -/

/-- A file is removed unless a directory stands in its place. -/
theorem removeFile_yields (hroot : tree.get? root = some .directory) :
    Yields (Build.removeFile (sub :: root)) tree (tree.get? (sub :: root) ≠ some .directory)
      fun _ tree' => tree'.get? (sub :: root) = none ∧ AgreeOutside root [sub] tree tree' := by
  cases hget : tree.get? (sub :: root) with
  | none =>
    refine (Yields.change_of_ok ?_ ⟨hget, .refl root [sub] tree⟩).congr_guard (by simp)
    rw [removeFile_of_get?_eq_none hget hroot]
    rfl
  | some entry =>
    cases entry with
    | directory =>
      have herror : removed tree (.removing (sub :: root)) (tree.removeFile (sub :: root)) =
          .error (.removing (sub :: root) .isDirectory) := by
        rw [removeFile_of_directory hget]
        rfl
      exact (Yields.change_of_error herror).congr_guard (by simp)
    | file content =>
      obtain ⟨tree', hremove, hnone, hagree⟩ := exists_removeFile_entry hget
      refine (Yields.change_of_ok ?_ ⟨hnone, hagree⟩).congr_guard (by simp)
      rw [hremove]
      rfl

/-- A directory is cleared unless a file stands in its place. -/
theorem clear_yields (hroot : tree.get? root = some .directory) :
    Yields (clear (sub :: root)) tree (∀ content, tree.get? (sub :: root) ≠ some (.file content))
      fun _ tree' => (∀ place, sub :: root <:+ place → tree'.get? place = none) ∧
        AgreeOutside root [sub] tree tree' := by
  cases hget : tree.get? (sub :: root) with
  | none =>
    have hbelow : ∀ place, sub :: root <:+ place → tree.get? place = none := by
      intro place hplace
      by_cases heq : sub :: root = place
      · rw [← heq, hget]
      · exact get?_eq_none_of_suffix hplace heq (by simp [hget])
    refine (Yields.change_of_ok ?_ ⟨hbelow, .refl root [sub] tree⟩).congr_guard (by simp)
    rw [removeTree_of_get?_eq_none hget hroot]
    rfl
  | some entry =>
    cases entry with
    | directory =>
      obtain ⟨tree', hremove, hnone, hagree⟩ := exists_removeTree_entry hget
      refine (Yields.change_of_ok ?_ ⟨hnone, hagree⟩).congr_guard (by simp)
      rw [hremove]
      rfl
    | file content =>
      have herror : removed tree (.clearing (sub :: root)) (tree.removeTree (sub :: root)) =
          .error (.clearing (sub :: root) .notDirectory) := by
        rw [removeTree_of_file hget]
        rfl
      exact (Yields.change_of_error herror).congr_guard (by simp)

/-- Directories are cleared one after the other. -/
theorem forM_clear_yields {subs : List String} (hnodup : subs.Nodup)
    (hroot : tree.get? root = some .directory) :
    Yields ((subs.map (· :: root)).forM clear) tree (NoFiles root subs tree)
      fun _ tree' => (∀ sub ∈ subs, ∀ place, sub :: root <:+ place → tree'.get? place = none) ∧
        AgreeOutside root subs tree tree' := by
  induction subs generalizing tree with
  | nil =>
    refine (Yields.forM_nil _).imp (iff_of_true trivial noFiles_nil) ?_
    rintro - - tree' rfl
    exact ⟨by simp, .refl root [] _⟩
  | cons sub subs ih =>
    obtain ⟨hsub, hsubs⟩ := List.nodup_cons.1 hnodup
    have hrest : ∀ mid, ((∀ place, sub :: root <:+ place → mid.get? place = none) ∧
          AgreeOutside root [sub] tree mid) → Yields ((subs.map (· :: root)).forM clear) mid
        (NoFiles root subs tree) fun _ tree' => (∀ other ∈ sub :: subs, ∀ place,
          other :: root <:+ place → tree'.get? place = none) ∧
            AgreeOutside root (sub :: subs) tree tree' := by
      rintro mid ⟨hcleared, hagree⟩
      have hothers : ∀ other ∈ subs, other ∉ [sub] := fun other hother =>
        mt List.mem_singleton.1 fun heq => hsub (heq ▸ hother)
      refine (ih hsubs (hagree.directory hroot)).imp (hagree.noFiles_iff hothers) ?_
      rintro - - tree' ⟨hnone, hagree'⟩
      refine ⟨List.forall_mem_cons.2 ⟨fun place hplace => ?_, hnone⟩, hagree.trans hagree'⟩
      rw [hagree'.below hsub hplace, hcleared place hplace]
    exact ((clear_yields hroot).forM_cons hrest).congr_guard noFiles_cons.symm

/-! ## Writing files -/

/-- A file is written unless a directory stands in its place. -/
theorem save_yields (hroot : tree.get? root = some .directory) (content : ByteArray) :
    Yields (.change fun tree => (tree.save (sub :: root) content).mapError .file :
        Edit Index.Failure Unit)
      tree (tree.get? (sub :: root) ≠ some .directory)
      fun _ tree' => tree'.get? (sub :: root) = some (.file content) ∧
        AgreeOutside root [sub] tree tree' := by
  by_cases hdir : tree.get? (sub :: root) = some .directory
  · have herror : (tree.save (sub :: root) content).mapError Index.Failure.file =
        .error (.file .isDirectory) := by
      rw [save_of_directory hroot hdir]
      rfl
    exact (Yields.change_of_error herror).congr_guard (by simp [hdir])
  · obtain ⟨tree', hsave, hfile, hagree⟩ := exists_save_entry hroot hdir content
    refine (Yields.change_of_ok ?_ ⟨hfile, hagree⟩).congr_guard (by simp [hdir])
    rw [hsave]
    rfl

end Concordance.Build
