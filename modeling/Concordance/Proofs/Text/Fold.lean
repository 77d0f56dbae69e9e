import Concordance.Proofs.Normalization
import Concordance.Proofs.Text.Case
import Concordance.Text.Fold
import Mathlib.Data.Nat.Find

/-!
# Two notions of case

A term is found in a text where it agrees with it up to the first characters of the lower-case forms
(`findIgnoringCase_eq_some_iff`), and it is marked there where it agrees up to case folding. For the
small letters of the Russian alphabet and the hyphen, what agrees in the first way agrees in the
second way (`foldChar_eq_of_firstLower`). Under folding a Cyrillic letter agrees with Cyrillic letters
only (`isCyrillic_foldChar_iff`).
-/

namespace Concordance.Text

variable {needle s : List Char} {n : Nat} {c t : Char}

/-! ## The first occurrence -/

/-- The text from `offset` on begins with the characters of `needle`, up to case. -/
def AgreesAt (needle s : List Char) (offset : Nat) : Prop :=
  needle.map firstLower <+: (s.drop offset).map firstLower

instance (needle s : List Char) (offset : Nat) : Decidable (AgreesAt needle s offset) :=
  inferInstanceAs (Decidable (needle.map firstLower <+: (s.drop offset).map firstLower))

/-- The offset of a text is the least one at which it stands. -/
theorem offset?_eq_some_iff :
    offset? needle s = some n ↔ needle <+: s.drop n ∧ ∀ k < n, ¬needle <+: s.drop k := by
  induction s generalizing n with
  | nil =>
    simp only [offset?, List.drop_nil, List.prefix_nil, List.isEmpty_iff]
    split
    · next hempty =>
      rw [Option.some.injEq, hempty]
      cases n with
      | zero => simp
      | succ n => exact iff_of_false (by simp) fun ⟨_, hleast⟩ => hleast 0 (Nat.succ_pos n) rfl
    · next hne => simp [hne]
  | cons c s ih =>
    rw [offset?]
    split
    · next hfront =>
      have hfront := List.isPrefixOf_iff_prefix.1 hfront
      cases n with
      | zero => simp [hfront]
      | succ n =>
        refine iff_of_false (by simp) fun ⟨_, hleast⟩ => hleast 0 (Nat.succ_pos n) hfront
    · next hfront =>
      have hfront := mt List.isPrefixOf_iff_prefix.2 hfront
      rw [Option.map_eq_some_iff]
      cases n with
      | zero => exact iff_of_false (by simp) fun ⟨hzero, _⟩ => hfront hzero
      | succ n =>
        simp only [Nat.add_right_cancel_iff, exists_eq_right, ih, List.drop_succ_cons,
          and_congr_right_iff]
        refine fun _ => ⟨fun hleast k hk => ?_, fun hleast k hk => hleast (k + 1) (by omega)⟩
        cases k with
        | zero => exact hfront
        | succ k => exact hleast k (by omega)

/-- A text is found at the least offset at which it agrees. -/
theorem findIgnoringCase_eq_some_iff : findIgnoringCase needle s = some n ↔
    needle ≠ [] ∧ AgreesAt needle s n ∧ ∀ k < n, ¬AgreesAt needle s k := by
  simp only [findIgnoringCase, AgreesAt, List.map_drop, ← offset?_eq_some_iff, List.isEmpty_iff]
  split
  · next hempty => simp [hempty]
  · next hne => simp [hne]

/-- What agrees somewhere is found. -/
theorem exists_findIgnoringCase (hne : needle ≠ []) (h : AgreesAt needle s n) :
    ∃ least, findIgnoringCase needle s = some least := by
  classical
  have hexists : ∃ k, AgreesAt needle s k := ⟨n, h⟩
  exact ⟨Nat.find hexists, findIgnoringCase_eq_some_iff.2 ⟨hne, Nat.find_spec hexists,
    fun _ => Nat.find_min hexists⟩⟩

/-- An occurrence lies within the text. -/
theorem AgreesAt.length_le (h : AgreesAt needle s n) (hne : needle ≠ []) :
    n + needle.length ≤ s.length := by
  have hlength := List.IsPrefix.length_le h
  rw [List.length_map, List.length_map, List.length_drop] at hlength
  have hpos := List.length_pos_iff.2 hne
  omega

/-- The characters of an occurrence. -/
theorem AgreesAt.map_take (h : AgreesAt needle s n) :
    ((s.drop n).take needle.length).map firstLower = needle.map firstLower := by
  rw [List.map_take, List.prefix_iff_eq_take.1 h, List.length_map]

/-! ## Letters of tokens -/

/-- Of the runs of capital letters, those of the Cyrillic block alone are mapped onto letters of
tokens. -/
theorem bounds_of_image : ∀ run ∈ lowerRuns, (0x400 ≤ run.first ∧ run.last ≤ 0x45F) ∨
    0x451 < run.image run.first ∨ 0x2D < run.image run.first ∧ run.image run.last < 0x430 := by
  decide +kernel

/-- What is mapped to a letter of tokens by lower-casing stands in the Cyrillic block, but for the
hyphen. -/
theorem toNat_of_isCleanChar_lowerLetter (h : isCleanChar (lowerLetter c) = true) :
    c.toNat = 0x2D ∨ 0x400 ≤ c.toNat ∧ c.toNat ≤ 0x45F := by
  simp only [isCleanChar, Bool.or_eq_true, Bool.and_eq_true, decide_eq_true_eq, beq_iff_eq] at h
  rcases lowerLetter_cases c with hself | ⟨hlow, hhigh, hascii⟩ | ⟨run, hrun, hcovers, himage⟩
  · rw [hself] at h
    omega
  · omega
  · have hbounds := bounds_of_image run hrun
    have hle := CaseRun.image_le_image hcovers
    simp only [CaseRun.covers, Bool.and_eq_true, decide_eq_true_eq] at hcovers
    omega

/-- It is folded to that letter, too. -/
theorem foldChar_eq_lowerLetter (h : isCleanChar (lowerLetter c) = true) :
    foldChar c = lowerLetter c := by
  have hpoint := toNat_of_isCleanChar_lowerLetter h
  have hnone : foldExceptions.find? (fun e => e.1 == c.toNat) = none := by
    have hapart : foldExceptions.all (fun e =>
        e.1 != 0x2D && !(0x400 ≤ e.1 && e.1 ≤ 0x45F)) = true := by decide
    refine List.find?_eq_none.2 fun e he => ?_
    have hnot := List.all_eq_true.1 hapart e he
    simp only [Bool.and_eq_true, bne_iff_ne, Bool.not_eq_true', Bool.and_eq_false_iff,
      decide_eq_false_iff_not] at hnot
    rw [beq_iff_eq]
    omega
  simp only [foldChar, Bool.and_eq_true, decide_eq_true_eq, hnone]
  rw [if_neg (by omega : ¬(0x13A0 ≤ c.toNat ∧ c.toNat ≤ 0x13F5)),
    if_neg (by omega : ¬(0x13F8 ≤ c.toNat ∧ c.toNat ≤ 0x13FD)),
    if_neg (by omega : ¬(0xAB70 ≤ c.toNat ∧ c.toNat ≤ 0xABBF)), ite_self]

theorem foldChar_of_isCleanChar (h : isCleanChar t = true) : foldChar t = t := by
  have hlower := lowerLetter_of_isCleanChar h
  rw [foldChar_eq_lowerLetter (hlower.symm ▸ h), hlower]

theorem firstLower_of_isCleanChar (h : isCleanChar t = true) : firstLower t = t := by
  have hdotted := (not_special_of_isTokenChar (isTokenChar_of_isCleanChar h)).2
  rw [firstLower, lowerChar, if_neg hdotted, lowerLetter_of_isCleanChar h]
  rfl

/-- A character that agrees with a letter of tokens in its lower-case form folds to that letter. -/
theorem foldChar_eq_of_firstLower (ht : isCleanChar t = true) (h : firstLower c = firstLower t) :
    foldChar c = foldChar t := by
  rw [firstLower_of_isCleanChar ht] at h
  have hlower : lowerLetter c = t := by
    rw [firstLower, lowerChar] at h
    split at h
    · have hdotted : t = 'i' := h.symm
      exact absurd (hdotted ▸ ht) (by decide)
    · exact h
  rw [foldChar_of_isCleanChar ht, foldChar_eq_lowerLetter (hlower.symm ▸ ht), hlower]

/-! ## Cyrillic letters -/

/-- The blocks of Cyrillic letters. -/
def cyrillicBlocks : List (Nat × Nat) :=
  [(0x400, 0x52F), (0x1C80, 0x1C8F), (0x2DE0, 0x2DFF), (0xA640, 0xA69F), (0x1E030, 0x1E08F)]

/-- A character of one of these blocks. -/
def IsCyrillic (c : Char) : Prop :=
  ∃ block ∈ cyrillicBlocks, block.1 ≤ c.toNat ∧ c.toNat ≤ block.2

instance (c : Char) : Decidable (IsCyrillic c) :=
  inferInstanceAs (Decidable (∃ block ∈ cyrillicBlocks, block.1 ≤ c.toNat ∧ c.toNat ≤ block.2))

theorem isCyrillic_iff : IsCyrillic c ↔ 0x400 ≤ c.toNat ∧ c.toNat ≤ 0x52F ∨
    0x1C80 ≤ c.toNat ∧ c.toNat ≤ 0x1C8F ∨ 0x2DE0 ≤ c.toNat ∧ c.toNat ≤ 0x2DFF ∨
    0xA640 ≤ c.toNat ∧ c.toNat ≤ 0xA69F ∨ 0x1E030 ≤ c.toNat ∧ c.toNat ≤ 0x1E08F := by
  simp [IsCyrillic, cyrillicBlocks]

/-- A run of capital letters and what it is mapped onto stand in blocks of Cyrillic letters, or
both apart from them. -/
theorem blocks_of_run : ∀ run ∈ lowerRuns,
    ((∃ block ∈ cyrillicBlocks, block.1 ≤ run.first ∧ run.last ≤ block.2) ∧
      ∃ block ∈ cyrillicBlocks, block.1 ≤ run.image run.first ∧ run.image run.last ≤ block.2) ∨
    ∀ block ∈ cyrillicBlocks, (run.last < block.1 ∨ block.2 < run.first) ∧
      (run.image run.last < block.1 ∨ block.2 < run.image run.first) := by
  decide +kernel

theorem isCyrillic_lowerLetter_iff : IsCyrillic (lowerLetter c) ↔ IsCyrillic c := by
  rcases lowerLetter_cases c with hself | ⟨hlow, hhigh, hascii⟩ | ⟨run, hrun, hcovers, himage⟩
  · rw [hself]
  · rw [isCyrillic_iff, isCyrillic_iff]
    omega
  · have hle := CaseRun.image_le_image hcovers
    simp only [CaseRun.covers, Bool.and_eq_true, decide_eq_true_eq] at hcovers
    rcases blocks_of_run run hrun with ⟨⟨block, hblock, hbounds⟩, image, hin, hbounds'⟩ | hapart
    · exact iff_of_true ⟨image, hin, by omega⟩ ⟨block, hblock, by omega⟩
    · refine iff_of_false ?_ ?_
      all_goals
        rintro ⟨block, hblock, hbounds⟩
        have hnot := hapart block hblock
        omega

/-- A character is folded like a capital letter, or it is a letter of Cherokee, or an exception. -/
theorem foldChar_cases (c : Char) : foldChar c = c ∨ foldChar c = lowerLetter c ∨
    ((0x13F8 ≤ c.toNat ∧ c.toNat ≤ 0x13FD ∨ 0xAB70 ≤ c.toNat ∧ c.toNat ≤ 0xABBF) ∧
      0x13A0 ≤ (foldChar c).toNat ∧ (foldChar c).toNat ≤ 0x13F5) ∨
    ∃ e ∈ foldExceptions, c = Char.ofNat e.1 ∧ foldChar c = Char.ofNat e.2 := by
  have hcherokee : ∀ n, n ≤ 0x13F5 → (Char.ofNat n).toNat = n := fun n hn =>
    toNat_ofNat_of_isValidChar (Or.inl (by omega))
  simp only [foldChar, Bool.and_eq_true, decide_eq_true_eq]
  split
  · exact Or.inr (Or.inl rfl)
  split
  · exact Or.inl rfl
  split
  · refine Or.inr (Or.inr (Or.inl ?_))
    rw [hcherokee _ (by omega)]
    omega
  split
  · refine Or.inr (Or.inr (Or.inl ?_))
    rw [hcherokee _ (by omega)]
    omega
  split
  · next e he =>
    refine Or.inr (Or.inr (Or.inr ⟨e, List.mem_of_find?_eq_some he, ?_, rfl⟩))
    have hpoint : e.1 = c.toNat := by simpa using List.find?_some he
    rw [hpoint, Char.ofNat_toNat]
  · exact Or.inr (Or.inl rfl)

/-- Folding takes Cyrillic letters to Cyrillic letters, and no others. -/
theorem isCyrillic_foldChar_iff : IsCyrillic (foldChar c) ↔ IsCyrillic c := by
  rcases foldChar_cases c with hself | hletter | hcherokee | ⟨e, he, rfl, hfold⟩
  · rw [hself]
  · rw [hletter, isCyrillic_lowerLetter_iff]
  · rw [isCyrillic_iff, isCyrillic_iff]
    omega
  · have hall : foldExceptions.all (fun e =>
        decide (IsCyrillic (Char.ofNat e.2) ↔ IsCyrillic (Char.ofNat e.1))) = true := by
      decide +kernel
    rw [hfold]
    exact of_decide_eq_true (List.all_eq_true.1 hall e he)

/-- The letters of tokens are Cyrillic letters and hyphens. -/
theorem isCyrillic_of_isCleanChar {c : Char} (h : isCleanChar c = true) : c = '-' ∨ IsCyrillic c := by
  rw [isCyrillic_iff]
  simp only [isCleanChar, Bool.or_eq_true, Bool.and_eq_true, decide_eq_true_eq, beq_iff_eq] at h
  rcases h with (hletter | hletter) | hhyphen
  · exact Or.inr (by omega)
  · exact Or.inr (by omega)
  · exact Or.inl (Char.toNat_inj.1 hhyphen)

/-- What folds to a character in front of the letters of ASCII is that character. -/
theorem foldChar_eq_self_of_lt (h : (foldChar c).toNat < 0x41) : foldChar c = c := by
  rcases foldChar_cases c with hself | hletter | hcherokee | ⟨e, he, rfl, hfold⟩
  · exact hself
  · rw [hletter] at h ⊢
    exact lowerLetter_eq_self_of_lt h
  · omega
  · have hall : foldExceptions.all (fun e => 0x41 ≤ (Char.ofNat e.2).toNat) = true := by
      decide +kernel
    have hnot := of_decide_eq_true (List.all_eq_true.1 hall e he)
    rw [hfold] at h
    omega

/-! ## Agreement up to folding -/

/-- Two texts that are the same up to case folding. -/
def SameFolded (m term : List Char) : Prop :=
  m.map foldChar = term.map foldChar

theorem SameFolded.length_eq {m term : List Char} (h : SameFolded m term) :
    m.length = term.length := by
  simpa using congrArg List.length h

theorem SameFolded.ne_nil {m term : List Char} (h : SameFolded m term) (hne : term ≠ []) :
    m ≠ [] := by
  rintro rfl
  exact hne (List.length_eq_zero_iff.1 h.length_eq.symm)

/-- A term of letters of tokens is marked where it is found. -/
theorem sameFolded_of_firstLower {m term : List Char}
    (hterm : ∀ c ∈ term, isCleanChar c = true) (h : m.map firstLower = term.map firstLower) :
    SameFolded m term := by
  induction term generalizing m with
  | nil => rw [List.map_eq_nil_iff.1 h]; rfl
  | cons t term ih =>
    obtain ⟨c, rest, rfl, hc, hrest⟩ := List.map_eq_cons_iff.1 h
    rw [SameFolded, List.map_cons, List.map_cons,
      foldChar_eq_of_firstLower (hterm t List.mem_cons_self) hc]
    exact congrArg _ (ih (fun x hx => hterm x (List.mem_cons_of_mem t hx)) hrest)

end Concordance.Text
