import Concordance.Proofs.Text.Lines
import Concordance.Text.Case

/-!
# Lower case

A capital letter is mapped onto a small one by adding a number to its code point, in ASCII or along
a run of the table (`lowerLetter_cases`). What the runs map onto is read off the table : characters
outside ASCII, but for one `k`, that are no separators and belong to no run.

So lower-casing brings no separator into a text, a blank or a colon in the lower-case form was there
before (`mem_of_mem_lowerChars`), and no character below the ASCII letters either, such as a bracket
(`mem_of_mem_lowerChars_of_lt`). A word is a word after lower-casing (`IsWord.lowerChars`), and a
second time changes nothing (`lowerChars_lowerChars`).
-/

namespace Concordance.Text

/-! ## Letters -/

/-- What the letter `n` of a run is mapped onto. -/
def CaseRun.image (run : CaseRun) (n : Nat) : Nat :=
  ((n : Int) + run.shift).toNat

/-- The runs are mapped onto code points outside ASCII, but for the sign of the unit kelvin, which
is mapped onto `k`. -/
theorem image_bounds : ∀ run ∈ lowerRuns,
    (0x80 ≤ run.image run.first ∨ run.image run.first = 0x6B ∧ run.image run.last = 0x6B) ∧
      (run.image run.last < 0xD800 ∨
        0xDFFF < run.image run.first ∧ run.image run.last < 0x110000) := by
  decide +kernel

theorem CaseRun.image_le_image {run : CaseRun} {n : Nat} (h : run.covers n = true) :
    run.image run.first ≤ run.image n ∧ run.image n ≤ run.image run.last := by
  simp only [covers, Bool.and_eq_true, decide_eq_true_eq] at h
  unfold image
  omega

theorem toNat_ofNat_of_isValidChar {n : Nat} (h : n.isValidChar) : (Char.ofNat n).toNat = n :=
  congrArg Char.toNat (dif_pos h)

/-- A letter is its own lower-case form, or a capital of ASCII, or one of a run. -/
theorem lowerLetter_cases (c : Char) : lowerLetter c = c ∨
    (0x41 ≤ c.toNat ∧ c.toNat ≤ 0x5A ∧ (lowerLetter c).toNat = c.toNat + 0x20) ∨
    ∃ run ∈ lowerRuns, run.covers c.toNat = true ∧ (lowerLetter c).toNat = run.image c.toNat := by
  rw [lowerLetter]
  split
  · split
    · next hupper =>
      simp only [Bool.and_eq_true, decide_eq_true_eq] at hupper
      refine Or.inr (Or.inl ⟨hupper.1, hupper.2, ?_⟩)
      exact toNat_ofNat_of_isValidChar (Or.inl (by omega))
    · exact Or.inl rfl
  · split
    · next run hrun =>
      have hcovers := List.find?_some hrun
      have hmem := List.mem_of_find?_eq_some hrun
      refine Or.inr (Or.inr ⟨run, hmem, hcovers, ?_⟩)
      have hbounds := (image_bounds run hmem).2
      have himage := CaseRun.image_le_image hcovers
      have hvalid : (run.image c.toNat).isValidChar := by
        unfold Nat.isValidChar
        omega
      exact toNat_ofNat_of_isValidChar hvalid
    · exact Or.inl rfl

theorem lowerLetter_eq_self {c : Char} (hupper : ¬(0x41 ≤ c.toNat ∧ c.toNat ≤ 0x5A))
    (hruns : ∀ run ∈ lowerRuns, run.covers c.toNat = false) : lowerLetter c = c := by
  have hnone : lowerRuns.find? (·.covers c.toNat) = none :=
    List.find?_eq_none.2 fun run hrun => by simp [hruns run hrun]
  rw [lowerLetter, hnone]
  split
  · exact if_neg (by simpa using hupper)
  · rfl

/-- The first run is mapped before the second one, or behind it, or between its letters. -/
def CaseRun.misses (run other : CaseRun) : Bool :=
  Nat.blt (run.image run.last) other.first || Nat.blt other.last (run.image run.first) ||
    other.step == 2 && (run.step == 2 || run.first == run.last) &&
      (run.image run.first + other.first) % 2 == 1

theorem all_misses : (lowerRuns.all fun run => lowerRuns.all run.misses) = true := by
  decide +kernel

/-- No run is mapped onto a capital letter. -/
theorem covers_image {run other : CaseRun} (hrun : run ∈ lowerRuns) (hother : other ∈ lowerRuns)
    {n : Nat} (h : run.covers n = true) : other.covers (run.image n) = false := by
  have hmisses := List.all_eq_true.1 (List.all_eq_true.1 all_misses run hrun) other hother
  have hbounds := (image_bounds run hrun).1
  have himage := CaseRun.image_le_image h
  simp only [CaseRun.misses, Bool.or_eq_true, Bool.and_eq_true, Nat.blt_eq, beq_iff_eq] at hmisses
  simp only [CaseRun.covers, Bool.and_eq_true, decide_eq_true_eq, beq_iff_eq] at h
  refine Bool.eq_false_iff.2 fun hcovers => ?_
  simp only [CaseRun.covers, Bool.and_eq_true, decide_eq_true_eq, beq_iff_eq] at hcovers
  rcases hmisses with (hbefore | hbehind) | ⟨⟨htwo, hstep⟩, hparity⟩
  · omega
  · omega
  · have hodd : (n - run.first) % 2 = 0 := by
      rcases hstep with hstep | hstep
      · exact hstep ▸ h.2
      · omega
    have hshift : run.image n = run.image run.first + (n - run.first) := by
      unfold CaseRun.image at hbounds ⊢
      omega
    rw [htwo] at hcovers
    omega

/-- A lower-case form is its own one. -/
theorem lowerLetter_lowerLetter (c : Char) : lowerLetter (lowerLetter c) = lowerLetter c := by
  rcases lowerLetter_cases c with hself | ⟨hlow, hhigh, hascii⟩ | ⟨run, hrun, hcovers, himage⟩
  · rw [hself, hself]
  · have hsmall : ¬0x80 ≤ (lowerLetter c).toNat := by omega
    rw [lowerLetter, if_pos (by omega), if_neg (by simp; omega)]
  · refine lowerLetter_eq_self ?_ fun other hother => himage ▸ covers_image hrun hother hcovers
    have hbounds := (image_bounds run hrun).1
    have hle := CaseRun.image_le_image hcovers
    omega

/-- Nothing but the letter itself is mapped onto a letter that is no small one of ASCII and that no
run is mapped onto. -/
theorem lowerLetter_eq_self_of_not_image {c : Char}
    (hsmall : ¬(0x61 ≤ (lowerLetter c).toNat ∧ (lowerLetter c).toNat ≤ 0x7A))
    (hruns : ∀ run ∈ lowerRuns, ¬(run.image run.first ≤ (lowerLetter c).toNat ∧
      (lowerLetter c).toNat ≤ run.image run.last)) : lowerLetter c = c := by
  rcases lowerLetter_cases c with hself | ⟨hlow, hhigh, hascii⟩ | ⟨run, hrun, hcovers, himage⟩
  · exact hself
  · omega
  · exact absurd (himage ▸ CaseRun.image_le_image hcovers) (hruns run hrun)

/-- A letter that is mapped into ASCII keeps its capital there, but for the sign of the unit
kelvin. -/
theorem toUpper_eq_of_lowerLetter {c : Char} (hascii : (lowerLetter c).toNat < 0x80)
    (hk : (lowerLetter c).toNat ≠ 0x6B) : c.toUpper = (lowerLetter c).toUpper := by
  rcases lowerLetter_cases c with hself | ⟨hlow, hhigh, -⟩ | ⟨run, hrun, hcovers, himage⟩
  · rw [hself]
  · have hall : ((List.range 26).all fun n => decide ((Char.ofNat (0x41 + n)).toUpper =
        (lowerLetter (Char.ofNat (0x41 + n))).toUpper)) = true := by decide +kernel
    have hc : Char.ofNat (0x41 + (c.toNat - 0x41)) = c := by
      rw [Nat.add_sub_cancel' hlow, Char.ofNat_toNat]
    have hsame := List.all_eq_true.1 hall _ (List.mem_range.2 (by omega : c.toNat - 0x41 < 26))
    rw [hc] at hsame
    exact of_decide_eq_true hsame
  · have hbounds := (image_bounds run hrun).1
    have hle := CaseRun.image_le_image hcovers
    omega

/-! ## Separators -/

/-- The characters that separate words on a line, or a lemma from its tokens. -/
def isSeparator (c : Char) : Bool :=
  isBlank c || c == ':'

/-- The code points of the separators. -/
def separatorPoints : List Nat := [0x9, 0xA, 0xB, 0xC, 0xD, 0x20, 0x3A, 0x85, 0xA0, 0x1680, 0x2000,
  0x2001, 0x2002, 0x2003, 0x2004, 0x2005, 0x2006, 0x2007, 0x2008, 0x2009, 0x200A, 0x2028, 0x2029,
  0x202F, 0x205F, 0x3000]

theorem toNat_mem_separatorPoints {c : Char} (h : isSeparator c = true) :
    c.toNat ∈ separatorPoints := by
  rw [isSeparator, Bool.or_eq_true] at h
  rcases h with hblank | hcolon
  · simp only [isBlank, Bool.or_eq_true, Bool.and_eq_true, decide_eq_true_eq, beq_iff_eq] at hblank
    simp only [separatorPoints, List.mem_cons, List.not_mem_nil, or_false]
    omega
  · rw [eq_of_beq hcolon]
    decide

/-- No run is mapped onto a separator, nor onto the dotted capital I. -/
theorem not_mem_image_of_mem_lowerRuns : ∀ run ∈ lowerRuns, ∀ p ∈ 0x130 :: separatorPoints,
    ¬(run.image run.first ≤ p ∧ p ≤ run.image run.last) := by
  decide +kernel

/-- A letter whose lower-case form is a separator is that separator. -/
theorem lowerLetter_eq_self_of_isSeparator {c : Char} (h : isSeparator (lowerLetter c) = true) :
    lowerLetter c = c := by
  have hpoint := toNat_mem_separatorPoints h
  refine lowerLetter_eq_self_of_not_image ?_ fun run hrun =>
    not_mem_image_of_mem_lowerRuns run hrun _ (List.mem_cons_of_mem _ hpoint)
  simp only [separatorPoints, List.mem_cons, List.not_mem_nil, or_false] at hpoint
  omega

/-- So is one whose lower-case form is the dotted capital I. -/
theorem lowerLetter_eq_self_of_eq_dotted {c : Char} (h : lowerLetter c = 'İ') :
    lowerLetter c = c := by
  have hpoint : (lowerLetter c).toNat = 0x130 := congrArg Char.toNat h
  refine lowerLetter_eq_self_of_not_image (by omega) fun run hrun => ?_
  rw [hpoint]
  exact not_mem_image_of_mem_lowerRuns run hrun _ List.mem_cons_self

/-- And one whose lower-case form stands before the letters of ASCII. -/
theorem lowerLetter_eq_self_of_lt {c : Char} (h : (lowerLetter c).toNat < 0x41) :
    lowerLetter c = c := by
  refine lowerLetter_eq_self_of_not_image (by omega) fun run hrun => ?_
  have hbounds := (image_bounds run hrun).1
  omega

/-! ## Texts -/

/-- The characters that the special letters are mapped onto. -/
def specialForms : List Char := ['σ', 'ς', 'i', '\u0307']

theorem of_mem_specialForms {c : Char} (h : c ∈ specialForms) :
    (isSeparator c = false ∧ 0x41 ≤ c.toNat) ∧ lowerLetter c = c ∧ c ≠ 'Σ' ∧ c ≠ 'İ' := by
  -- `∀ d ∈ specialForms` could be decided by going through all characters instead of the list
  have hall : specialForms.all (fun d => decide ((isSeparator d = false ∧ 0x41 ≤ d.toNat) ∧
      lowerLetter d = d ∧ d ≠ 'Σ' ∧ d ≠ 'İ')) = true := by
    decide +kernel
  exact of_decide_eq_true (List.all_eq_true.1 hall c h)

/-- What stands in the lower-case form of a text. -/
theorem exists_of_mem_lowerAfter {c : Char} : ∀ {before s : List Char}, c ∈ lowerAfter before s →
    (∃ x ∈ s, x ≠ 'İ' ∧ x ≠ 'Σ' ∧ lowerLetter x = c) ∨ c ∈ specialForms
  | before, x :: s, h => by
    rw [lowerAfter, List.mem_append] at h
    rcases h with h | h
    · split at h
      · rw [List.mem_singleton] at h
        rw [h, lowerSigma]
        split <;> exact Or.inr (by decide)
      · next hsigma =>
        rw [lowerChar] at h
        split at h
        · exact Or.inr (List.mem_cons_of_mem _ (List.mem_cons_of_mem _ h))
        · next hdotted =>
          exact Or.inl ⟨x, List.mem_cons_self, hdotted, hsigma, (List.mem_singleton.1 h).symm⟩
    · rcases exists_of_mem_lowerAfter h with ⟨y, hy, hform⟩ | hspecial
      · exact Or.inl ⟨y, List.mem_cons_of_mem x hy, hform⟩
      · exact Or.inr hspecial

/-- A separator in the lower-case form of a text stands in the text. -/
theorem mem_of_mem_lowerChars {c : Char} {s : List Char} (hc : isSeparator c = true)
    (h : c ∈ lowerChars s) : c ∈ s := by
  rcases exists_of_mem_lowerAfter h with ⟨x, hx, -, -, rfl⟩ | hspecial
  · rwa [lowerLetter_eq_self_of_isSeparator hc]
  · rw [(of_mem_specialForms hspecial).1.1] at hc
    cases hc

/-- So does a character that stands before the letters of ASCII. -/
theorem mem_of_mem_lowerChars_of_lt {c : Char} {s : List Char} (hc : c.toNat < 0x41)
    (h : c ∈ lowerChars s) : c ∈ s := by
  rcases exists_of_mem_lowerAfter h with ⟨x, hx, -, -, rfl⟩ | hspecial
  · rwa [lowerLetter_eq_self_of_lt hc]
  · exact absurd hc (Nat.not_lt.2 (of_mem_specialForms hspecial).1.2)

theorem lowerChars_ne_nil {s : List Char} (h : s ≠ []) : lowerChars s ≠ [] := by
  cases s with
  | nil => exact absurd rfl h
  | cons c s =>
    rw [lowerChars, lowerAfter, lowerChar]
    split
    · simp
    · split <;> simp

/-- A word is a word in lower case. -/
theorem IsWord.lowerChars {s : List Char} (h : IsWord s) : IsWord (lowerChars s) where
  ne_nil := lowerChars_ne_nil h.ne_nil
  not_blank c hc := by
    cases hblank : isBlank c with
    | false => rfl
    | true =>
      have hsep : isSeparator c = true := by rw [isSeparator, hblank, Bool.true_or]
      rw [← hblank]
      exact h.not_blank c (mem_of_mem_lowerChars hsep hc)

/-- Without special letters a text is lower-cased letter by letter. -/
theorem lowerAfter_eq_map : ∀ {before s : List Char}, (∀ c ∈ s, c ≠ 'Σ' ∧ c ≠ 'İ') →
    lowerAfter before s = s.map lowerLetter
  | _, [], _ => rfl
  | before, c :: s, h => by
    obtain ⟨hsigma, hdotted⟩ := h c List.mem_cons_self
    rw [lowerAfter, if_neg hsigma, lowerChar, if_neg hdotted, List.singleton_append, List.map_cons,
      lowerAfter_eq_map fun x hx => h x (List.mem_cons_of_mem c hx)]

/-- The letters of a text in lower case are their own lower-case forms, and not special. -/
theorem lowerLetter_of_mem_lowerChars {c : Char} {s : List Char} (h : c ∈ lowerChars s) :
    lowerLetter c = c ∧ c ≠ 'Σ' ∧ c ≠ 'İ' := by
  rcases exists_of_mem_lowerAfter h with ⟨x, -, hdotted, -, rfl⟩ | hspecial
  · refine ⟨lowerLetter_lowerLetter x, fun hsigma => ?_, fun heq => ?_⟩
    · have hself := hsigma ▸ lowerLetter_lowerLetter x
      exact absurd hself (by decide +kernel)
    · exact hdotted ((lowerLetter_eq_self_of_eq_dotted heq).symm.trans heq)
  · exact (of_mem_specialForms hspecial).2

/-- A text in lower case is its own lower-case form. -/
theorem lowerChars_lowerChars (s : List Char) : lowerChars (lowerChars s) = lowerChars s := by
  have hmap : lowerChars (lowerChars s) = (lowerChars s).map lowerLetter :=
    lowerAfter_eq_map fun c hc => (lowerLetter_of_mem_lowerChars hc).2
  rw [hmap]
  exact (List.map_congr_left fun c hc => (lowerLetter_of_mem_lowerChars hc).1).trans
    (List.map_id (lowerChars s))

end Concordance.Text
