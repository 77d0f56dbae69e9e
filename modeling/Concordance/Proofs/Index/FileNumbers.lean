import Concordance.Proofs.Index.DocumentFiles
import Concordance.Proofs.Number.Numeral
import Mathlib.Data.List.Nodup

/-!
# Numbers in file names

A file name stands for a document if a numeral of its number stands in front of the extension
(`DocId.ofFileName?_eq_some_iff`); the name of the file of a document is the one with the plain
numeral. So the numbers that the names in a directory stand for are exactly those of the files of
documents, in ascending order and each once, if all these numerals are plain, and only then
(`DocId.exactly_mergeSort_iff`).
-/

namespace Concordance

namespace DocId

variable {extension name : String} {id : DocId} {ids ids' : List DocId} {present : DocId → Prop}

/-- The file name with a numeral in front of the extension. -/
def numbered (number : List Char) (extension : String) : String :=
  String.ofList (number ++ '.' :: extension.toList)

theorem fileName_eq (id : DocId) (extension : String) :
    id.fileName extension = numbered (Decimal.digits id.toNat) extension := rfl

theorem numbered_inj {number other : List Char} :
    numbered number extension = numbered other extension ↔ number = other := by
  rw [numbered, numbered, String.ofList_inj, List.append_cancel_right_eq]

/-- A name stands for a document if a numeral of its number stands in front of the extension. -/
theorem ofFileName?_eq_some_iff : ofFileName? extension name = some id ↔
    ∃ number, name = numbered number extension ∧ Decimal.Spells number id.toNat := by
  constructor
  · intro h
    rw [ofFileName?] at h
    split at h
    · next hsuffix =>
      obtain ⟨number, hname⟩ := List.isSuffixOf_iff_suffix.1 hsuffix
      refine ⟨number, ?_, Decimal.readUInt32?_eq_some_iff.1 ?_⟩
      · rw [numbered, hname, String.ofList_toList]
      · rw [← h, ← hname, List.length_append, Nat.add_sub_cancel, List.take_left]
    · cases h
  · rintro ⟨number, rfl, hspells⟩
    rw [ofFileName?, numbered]
    simp only [String.toList_ofList]
    rw [if_pos (List.isSuffixOf_iff_suffix.2 (List.suffix_append _ _)), List.length_append,
      Nat.add_sub_cancel, List.take_left, Decimal.readUInt32?_eq_some_iff.2 hspells]

/-- The numeral in the name of a document's own file is plain. -/
theorem numbered_eq_fileName_iff {number : List Char} (h : Decimal.Spells number id.toNat) :
    numbered number extension = id.fileName extension ↔ Decimal.Plain number := by
  rw [fileName_eq, numbered_inj, h.eq_digits_iff]

/-! ## Numbers that are found exactly -/

/-- Numbers in ascending order, each once, and exactly those that are present. -/
structure Exactly (ids : List DocId) (present : DocId → Prop) : Prop where
  /-- They ascend, and no number stands twice. -/
  ascending : ids.Pairwise (· < ·)
  /-- They are those that are present. -/
  mem_iff : ∀ id, id ∈ ids ↔ present id

theorem Exactly.nodup (h : Exactly ids present) : ids.Nodup :=
  h.ascending.imp fun hlt heq => UInt32.ne_of_lt hlt heq

/-- What is present determines the numbers. -/
theorem Exactly.eq (h : Exactly ids present) (h' : Exactly ids' present) : ids' = ids := by
  have hperm : ids'.Perm ids := (List.perm_ext_iff_of_nodup h'.nodup h.nodup).2 fun id =>
    (h'.mem_iff id).trans (h.mem_iff id).symm
  exact hperm.eq_of_pairwise
    (fun _ _ _ _ hlt hgt => absurd (UInt32.lt_trans hlt hgt) (UInt32.lt_irrefl _))
    h'.ascending h.ascending

/-- Numbers are in ascending order, each once, if none of them is found twice. -/
theorem pairwise_lt_mergeSort_iff : ids.mergeSort.Pairwise (· < ·) ↔ ids.Nodup := by
  have hperm := List.mergeSort_perm ids fun a b => decide (a ≤ b)
  constructor
  · intro h
    exact hperm.nodup_iff.1 (h.imp fun hlt heq => UInt32.ne_of_lt hlt heq)
  · intro h
    have hboth := (pairwise_mergeSort ids).and (hperm.nodup_iff.2 h)
    exact hboth.imp fun ⟨hle, hne⟩ => UInt32.lt_of_le_of_ne hle hne

/-- Every name with a numeral in front of the extension has the plain numeral of its number. -/
def PlainlyNumbered (extension : String) (names : String → Prop) : Prop :=
  ∀ (number : List Char) (id : DocId), Decimal.Spells number id.toNat →
    names (numbered number extension) → Decimal.Plain number

/-- Names are plainly numbered if each that stands for a document is the name of its file. -/
theorem plainlyNumbered_iff {names : String → Prop} : PlainlyNumbered extension names ↔
    ∀ name, names name → ∀ id, ofFileName? extension name = some id →
      name = id.fileName extension := by
  constructor
  · intro h name hname id hid
    obtain ⟨number, rfl, hspells⟩ := ofFileName?_eq_some_iff.1 hid
    exact (numbered_eq_fileName_iff hspells).2 (h number id hspells hname)
  · intro h number id hspells hname
    have hid : ofFileName? extension (numbered number extension) = some id :=
      ofFileName?_eq_some_iff.2 ⟨number, rfl, hspells⟩
    exact (numbered_eq_fileName_iff hspells).1 (h _ hname id hid)

/-- A number is found twice only if two names stand for it. -/
theorem nodup_filterMap_ofFileName?_iff {names : List String} (hnodup : names.Nodup) :
    (names.filterMap (ofFileName? extension)).Nodup ↔ ∀ name ∈ names, ∀ other ∈ names, ∀ id,
      ofFileName? extension name = some id → ofFileName? extension other = some id →
        name = other := by
  rw [List.Nodup, List.pairwise_filterMap]
  constructor
  · intro h name hname other hother id hid hid'
    refine Classical.byContradiction fun hne => ?_
    have hsymm : Std.Symm fun a b : String => ∀ c, ofFileName? extension a = some c →
        ∀ c', ofFileName? extension b = some c' → c ≠ c' :=
      ⟨fun a b hab c hc c' hc' => (hab c' hc' c hc).symm⟩
    exact h.forall hname hother hne id hid id hid' rfl
  · intro h
    refine hnodup.imp_of_mem fun {name other} hname hother hne id hid id' hid' heq => ?_
    exact hne (h name hname other hother id hid (heq ▸ hid'))

/-- The numbers that names stand for. -/
theorem mem_mergeSort_iff {names : List String} :
    id ∈ (names.filterMap (ofFileName? extension)).mergeSort ↔
      ∃ name ∈ names, ofFileName? extension name = some id := by
  rw [List.mem_mergeSort, List.mem_filterMap]

/-- The numbers that names stand for are exactly those of the files of documents if all their
numerals are plain, and only then. -/
theorem exactly_mergeSort_iff (extension : String) {names : List String} (hnodup : names.Nodup) :
    Exactly (names.filterMap (ofFileName? extension)).mergeSort
        (fun id => id.fileName extension ∈ names) ↔
      PlainlyNumbered extension (· ∈ names) := by
  have hone : (names.filterMap (ofFileName? extension)).Nodup ↔ _ :=
    nodup_filterMap_ofFileName?_iff hnodup
  rw [plainlyNumbered_iff]
  constructor
  · intro h name hname id hid
    have hown : id.fileName extension ∈ names :=
      (h.mem_iff id).1 (mem_mergeSort_iff.2 ⟨name, hname, hid⟩)
    -- the document's own file and this one give its number, so they are one file
    exact hone.1 (pairwise_lt_mergeSort_iff.1 h.ascending) name hname _ hown id hid
      ofFileName?_fileName
  · intro h
    refine ⟨pairwise_lt_mergeSort_iff.2 (hone.2 ?_), fun id => ?_⟩
    · exact fun name hname other hother id hid hid' =>
        (h name hname id hid).trans (h other hother id hid').symm
    · rw [mem_mergeSort_iff]
      constructor
      · rintro ⟨name, hname, hid⟩
        exact h name hname id hid ▸ hname
      · exact fun hfile => ⟨_, hfile, ofFileName?_fileName⟩

end DocId

end Concordance
