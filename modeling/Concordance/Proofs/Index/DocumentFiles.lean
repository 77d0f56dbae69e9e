import Concordance.Index.Layout
import Concordance.Proofs.FileTree.Frames
import Concordance.Proofs.FileTree.Reading

/-!
# Directories with one file for each document

The listings of single documents lie in directories, under the number of their document
(`FileTree.Holds`). Such a directory is determined by the texts in it (`Holds.agree`). It comes into
being with its first file, and each file that is saved enters one text (`Holds.exists_save`); the
numbers in its file names are those of the texts (`Holds.ids_perm`).
-/

namespace Concordance

/-! ## File names -/

namespace DocId

variable {id other : DocId} {extension : String}

/-- A document is found again by the name of its file. -/
theorem ofFileName?_fileName : ofFileName? extension (id.fileName extension) = some id := by
  rw [ofFileName?, fileName]
  simp only [String.toList_ofList]
  rw [if_pos (List.isSuffixOf_iff_suffix.2 (List.suffix_append _ _)), List.length_append,
    Nat.add_sub_cancel, List.take_left, Decimal.readUInt32?_digits]

theorem fileName_inj : id.fileName extension = other.fileName extension ↔ id = other := by
  refine ⟨fun h => ?_, congrArg (fileName · extension)⟩
  have hid := congrArg (ofFileName? extension) h
  rwa [ofFileName?_fileName, ofFileName?_fileName, Option.some.injEq] at hid

/-! ## Numbers in order -/

theorem pairwise_mergeSort (ids : List DocId) : ids.mergeSort.Pairwise (· ≤ ·) := by
  have htrans : ∀ a b c : DocId,
      decide (a ≤ b) = true → decide (b ≤ c) = true → decide (a ≤ c) = true := by
    simp only [decide_eq_true_eq]
    exact fun _ _ _ => UInt32.le_trans
  have htotal : ∀ a b : DocId, (decide (a ≤ b) || decide (b ≤ a)) = true := by
    simp only [Bool.or_eq_true, decide_eq_true_eq]
    exact UInt32.le_total
  exact (List.pairwise_mergeSort htrans htotal ids).imp of_decide_eq_true

/-- Numbers have one ascending order. -/
theorem mergeSort_eq_of_perm {ids sorted : List DocId} (h : ids.Perm sorted)
    (hsorted : sorted.Pairwise (· ≤ ·)) : ids.mergeSort = sorted :=
  ((List.mergeSort_perm ids _).trans h).eq_of_pairwise
    (fun _ _ _ _ hab hba => UInt32.le_antisymm hab hba) (pairwise_mergeSort ids) hsorted

end DocId

namespace FileTree

variable {tree tree' : FileTree} {root dir place : Place} {sub : String} {id : DocId}
  {files : Std.ExtTreeMap DocId String} {text : String}

/-! ## What a directory holds -/

/-- A directory that holds one file for each of some texts and nothing else. It is missing if there
are no texts. -/
structure Holds (tree : FileTree) (dir : Place) (files : Std.ExtTreeMap DocId String) : Prop where
  /-- The directory itself. -/
  directory : tree.get? dir = if files.isEmpty then none else some .directory
  /-- Each text stands in the file of its document. -/
  file : ∀ (id : DocId) (text : String), files[id]? = some text →
    tree.get? (id.fileName "txt" :: dir) = some (.file text.toUTF8)
  /-- There is nothing else. -/
  only : ∀ place, dir <:+ place → place ≠ dir →
    (∀ id : DocId, id ∈ files → place ≠ id.fileName "txt" :: dir) → tree.get? place = none

namespace Holds

/-- A directory that was removed holds no texts. -/
theorem empty (h : ∀ place, dir <:+ place → tree.get? place = none) : tree.Holds dir ∅ where
  directory := h dir (List.suffix_refl dir)
  file _ _ hget := absurd hget (by simp)
  only place hplace _ _ := h place hplace

/-- What a directory holds depends on the places at and below it. -/
theorem congr (h : tree.Holds dir files)
    (hagree : ∀ place, dir <:+ place → tree'.get? place = tree.get? place) :
    tree'.Holds dir files where
  directory := (hagree dir (List.suffix_refl dir)).trans h.directory
  file id text hget := (hagree _ (List.suffix_cons _ dir)).trans (h.file id text hget)
  only place hplace hne hother := (hagree place hplace).trans (h.only place hplace hne hother)

/-- Directories that hold the same texts are the same. -/
theorem agree (h : tree.Holds dir files) (h' : tree'.Holds dir files) (hplace : dir <:+ place) :
    tree'.get? place = tree.get? place := by
  by_cases hdir : place = dir
  · rw [hdir, h.directory, h'.directory]
  · by_cases hfile : ∃ id : DocId, id ∈ files ∧ place = id.fileName "txt" :: dir
    · obtain ⟨id, hid, rfl⟩ := hfile
      obtain ⟨text, htext⟩ := Option.isSome_iff_exists.1 (Std.ExtTreeMap.mem_iff_isSome_getElem?.1 hid)
      rw [h.file id text htext, h'.file id text htext]
    · simp only [not_exists, not_and] at hfile
      rw [h.only place hplace hdir hfile, h'.only place hplace hdir hfile]

/-- What stands under the name of a document. -/
theorem get?_fileName (h : tree.Holds dir files) :
    tree.get? (id.fileName "txt" :: dir) = files[id]?.map fun text => .file text.toUTF8 := by
  cases hget : files[id]? with
  | some text => exact h.file id text hget
  | none =>
    refine h.only _ (List.suffix_cons _ dir) (List.cons_ne_self _ _) fun other hother heq => ?_
    obtain rfl := DocId.fileName_inj.1 (List.cons.inj heq).1
    rw [Std.ExtTreeMap.mem_iff_isSome_getElem?, hget] at hother
    cases hother

theorem readText (h : tree.Holds dir files) (hget : files[id]? = some text) :
    tree.readText (id.fileName "txt" :: dir) = .ok text :=
  readText_eq_ok_iff.2 (h.file id text hget)

/-! ## Saving a file -/

/-- The text of a document is saved whether or not one is there, and with the first one the
directory is made. -/
theorem exists_save (h : tree.Holds (sub :: root) files) (hroot : tree.get? root = some .directory)
    (id : DocId) (text : String) :
    ∃ tree', tree.saveText (id.fileName "txt" :: sub :: root) text = .ok tree' ∧
      tree'.Holds (sub :: root) (files.insert id text) ∧ AgreeOutside root [sub] tree tree' := by
  have hfile : ∀ bytes, tree.get? (sub :: root) ≠ some (.file bytes) := fun bytes => by
    rw [h.directory]
    split <;> simp
  have hfree : tree.get? (id.fileName "txt" :: sub :: root) ≠ some .directory := by
    rw [h.get?_fileName]
    cases files[id]? <;> simp
  obtain ⟨tree', hsave, hview⟩ := exists_save_grandchild hroot hfile hfree text.toUTF8
  refine ⟨tree', hsave, ⟨?_, ?_, ?_⟩, agreeOutside_singleton fun place hplace => ?_⟩
  · rw [hview, if_neg (List.cons_ne_self _ _).symm, if_pos rfl]
    simp
  · intro other text' hget
    rw [Std.ExtTreeMap.getElem?_insert] at hget
    split at hget
    · next heq =>
      cases hget
      rw [hview, if_pos (by rw [Std.LawfulEqCmp.eq_of_compare heq])]
    · next hne =>
      rw [hview, if_neg, if_neg (List.cons_ne_self _ _)]
      · exact h.file other text' hget
      · intro heq
        rw [DocId.fileName_inj.1 (List.cons.inj heq).1] at hne
        exact hne Std.ReflCmp.compare_self
  · intro place hplace hne hother
    rw [hview, if_neg (hother id (by simp)), if_neg hne]
    exact h.only place hplace hne fun other hmem => hother other (by simp [hmem])
  · have hdir : place ≠ sub :: root := fun heq => hplace (heq ▸ List.suffix_refl _)
    have hname : place ≠ id.fileName "txt" :: sub :: root := fun heq =>
      hplace (heq ▸ List.suffix_cons _ _)
    rw [hview, if_neg hname, if_neg hdir]

/-! ## Reading the names -/

/-- The names in the directory are those of the documents. -/
theorem ids_perm {names : List String} (h : tree.Holds dir files) (hfiles : ¬files.isEmpty)
    (hnames : tree.names dir = .ok names) :
    (names.filterMap (DocId.ofFileName? "txt")).Perm files.keys := by
  have hdir : tree.get? dir = some .directory := h.directory.trans (if_neg hfiles)
  have hperm : names.Perm (files.keys.map fun id => DocId.fileName id "txt") := by
    refine (List.perm_ext_iff_of_nodup (nodup_names hnames) ?_).2 fun name => ?_
    · exact List.Pairwise.map _ (fun a b hne heq => hne (DocId.fileName_inj.1 heq))
        Std.ExtTreeMap.nodup_keys
    · rw [mem_names_iff hdir hnames, List.mem_map]
      constructor
      · intro hsome
        refine Classical.byContradiction fun hother => ?_
        rw [h.only (name :: dir) (List.suffix_cons _ _) (List.cons_ne_self _ _)] at hsome
        · cases hsome
        · intro id hid heq
          exact hother ⟨id, Std.ExtTreeMap.mem_keys.2 hid, (List.cons.inj heq).1.symm⟩
      · rintro ⟨id, hid, rfl⟩
        rw [h.get?_fileName, Option.isSome_map, ← Std.ExtTreeMap.mem_iff_isSome_getElem?]
        exact Std.ExtTreeMap.mem_keys.1 hid
  refine (hperm.filterMap _).trans (List.Perm.of_eq ?_)
  rw [List.filterMap_map]
  exact (congrArg (List.filterMap · files.keys)
    (funext fun _ => DocId.ofFileName?_fileName)).trans List.filterMap_some

end Holds

end FileTree

end Concordance
