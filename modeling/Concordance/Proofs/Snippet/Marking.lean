import Concordance.Proofs.Text.Fold
import Concordance.Snippet

/-!
# Terms between tags

Marking goes through a text from the left and puts each occurrence of the term that it comes to
between tags (`Marked`, `marked_mark`); nothing else is put in (`Tagged`). So what holds no
character of a tag and stands in a marked text stands in the text itself
(`Tagged.infix_of_tagFree`). Of the terms that change a text, one after another, the last one leaves
its occurrences between tags (`hasPair_or_eq`).
-/

namespace Concordance.Snippet

open Text

variable {term m s s' w : List Char} {terms : List (List Char)}

/-! ## Occurrences -/

theorem beginsWith_iff : ∀ {term s : List Char}, beginsWith term s = true ↔
    ∃ m rest, s = m ++ rest ∧ SameFolded m term
  | [], s => iff_of_true rfl ⟨[], s, rfl, rfl⟩
  | t :: term, [] => by
    refine iff_of_false (by simp [beginsWith]) ?_
    rintro ⟨m, rest, hnil, hsame⟩
    rw [(List.append_eq_nil_iff.1 hnil.symm).1] at hsame
    cases hsame
  | t :: term, c :: s => by
    rw [beginsWith, Bool.and_eq_true, beq_iff_eq, beginsWith_iff]
    constructor
    · rintro ⟨hc, m, rest, rfl, hsame⟩
      exact ⟨c :: m, rest, rfl, List.cons_eq_cons.2 ⟨hc.symm, hsame⟩⟩
    · rintro ⟨m, rest, hs, hsame⟩
      cases m with
      | nil => cases hsame
      | cons c' m =>
        obtain ⟨rfl, rfl⟩ := List.cons.inj hs
        obtain ⟨hc, hsame⟩ := List.cons.inj hsame
        exact ⟨hc.symm, m, rest, rfl, hsame⟩

/-- A term occurs in a text, up to case folding. -/
def Occurs (term s : List Char) : Prop :=
  ∃ m, m <:+: s ∧ SameFolded m term

theorem Occurs.of_cons {c : Char} (h : Occurs term (c :: s))
    (hnot : ¬beginsWith term (c :: s) = true) : Occurs term s := by
  obtain ⟨m, hm, hsame⟩ := h
  rcases List.infix_cons_iff.1 hm with ⟨rest, hrest⟩ | hm
  · exact absurd (beginsWith_iff.2 ⟨m, rest, hrest.symm, hsame⟩) hnot
  · exact ⟨m, hm, hsame⟩

/-- A text with the occurrences of a term between tags, as they are come to from the left. -/
inductive Marked (term : List Char) : List Char → List Char → Prop
  /-- The end of the text. -/
  | nil : Marked term [] []
  /-- A character at which the term does not occur. -/
  | char {c : Char} {s s' : List Char} (hnot : ¬beginsWith term (c :: s) = true)
    (h : Marked term s s') : Marked term (c :: s) (c :: s')
  /-- An occurrence. -/
  | occurrence {m s s' : List Char} (hsame : SameFolded m term) (h : Marked term s s') :
    Marked term (m ++ s) (openTag ++ m ++ closeTag ++ s')

/-- This is what `mark` makes. -/
theorem marked_mark (hne : term ≠ []) (s : List Char) : Marked term s (mark term s) := by
  fun_induction mark term s with
  | case1 => exact .nil
  | case2 c rest hbegins ih =>
    obtain ⟨m, behind, hs, hsame⟩ := beginsWith_iff.1 hbegins.2
    rw [hs, ← hsame.length_eq, List.drop_left] at ih
    rw [hs, ← hsame.length_eq, List.take_left, List.drop_left]
    exact .occurrence hsame ih
  | case3 c rest hbegins ih => exact .char (fun h => hbegins ⟨hne, h⟩) ih

/-- A text without occurrences stays as it is. -/
theorem Marked.eq_of_not_occurs (h : Marked term s s') (hnot : ¬Occurs term s) : s' = s := by
  induction h with
  | nil => rfl
  | char _ _ ih =>
    exact congrArg _ (ih fun ⟨m, hm, hsame⟩ => hnot ⟨m, List.infix_cons hm, hsame⟩)
  | occurrence hsame _ _ => exact absurd ⟨_, (List.prefix_append _ _).isInfix, hsame⟩ hnot

/-- In a text with an occurrence, the first one is put between tags. -/
theorem Marked.exists_first (h : Marked term s s') (hne : term ≠ []) (hoccurs : Occurs term s) :
    ∃ front m rest rest', s = front ++ (m ++ rest) ∧ SameFolded m term ∧
      s' = front ++ (openTag ++ m ++ closeTag ++ rest') ∧ Marked term rest rest' := by
  induction h with
  | nil =>
    obtain ⟨m, hm, hsame⟩ := hoccurs
    exact absurd (List.infix_nil.1 hm) (hsame.ne_nil hne)
  | @char c s s' hnot _ ih =>
    obtain ⟨front, m, rest, rest', rfl, hsame, rfl, hrest⟩ := ih (hoccurs.of_cons hnot)
    exact ⟨c :: front, m, rest, rest', rfl, hsame, rfl, hrest⟩
  | @occurrence m s s' hsame h _ => exact ⟨[], m, s, s', rfl, hsame, rfl, h⟩

/-- It stands in the text, and between tags in what is made of it. -/
theorem Marked.exists_pair (h : Marked term s s') (hne : term ≠ []) (hoccurs : Occurs term s) :
    ∃ m, m <:+: s ∧ SameFolded m term ∧ openTag ++ m ++ closeTag <:+: s' := by
  obtain ⟨front, m, rest, rest', rfl, hsame, rfl, -⟩ := h.exists_first hne hoccurs
  exact ⟨m, ⟨front, rest, List.append_assoc _ _ _⟩, hsame, ⟨front, rest', List.append_assoc _ _ _⟩⟩

/-! ## Tags that are put in -/

/-- A text with tags put in. -/
inductive Tagged : List Char → List Char → Prop
  /-- The end of the text. -/
  | nil : Tagged [] []
  /-- A character of the text. -/
  | char (c : Char) {w s : List Char} (h : Tagged w s) : Tagged (c :: w) (c :: s)
  /-- A tag in front of an occurrence. -/
  | opened {w s : List Char} (h : Tagged w s) : Tagged w (openTag ++ s)
  /-- A tag behind an occurrence. -/
  | closed {w s : List Char} (h : Tagged w s) : Tagged w (closeTag ++ s)

theorem Tagged.append {w' : List Char} (h : Tagged w s) (h' : Tagged w' s') :
    Tagged (w ++ w') (s ++ s') := by
  induction h with
  | nil => exact h'
  | char c _ ih => exact ih.char c
  | opened _ ih =>
    rw [List.append_assoc]
    exact ih.opened
  | closed _ ih =>
    rw [List.append_assoc]
    exact ih.closed

/-- No tags are put in. -/
theorem Tagged.refl : ∀ w : List Char, Tagged w w
  | [] => .nil
  | c :: w => (refl w).char c

/-- Marking puts in tags and nothing else. -/
theorem Marked.tagged (h : Marked term s s') : Tagged s s' := by
  induction h with
  | nil => exact .nil
  | char _ _ ih => exact ih.char _
  | @occurrence m s s' _ _ ih =>
    rw [List.append_assoc, List.append_assoc]
    exact .opened ((Tagged.refl m).append ih.closed)

/-- Characters none of which stands in a tag. -/
def TagFree (m : List Char) : Prop :=
  ∀ c ∈ m, c ∉ closeTag

/-- Characters without the first one of a text do not stand in front of it. -/
theorem eq_nil_of_prefix_cons {c : Char} (hnot : c ∉ m) (h : m <+: c :: s) : m = [] := by
  cases m with
  | nil => rfl
  | cons x m =>
    rw [List.cons_prefix_cons] at h
    exact absurd (h.1 ▸ List.mem_cons_self) hnot

/-- What holds no character of a tag, and stands in a text behind it, stands in that text. -/
theorem infix_of_infix_append {tag : List Char} (hfree : TagFree m) (htag : ∀ c ∈ tag, c ∈ closeTag)
    (h : m <:+: tag ++ s) : m <:+: s := by
  induction tag with
  | nil => exact h
  | cons c tag ih =>
    rcases List.infix_cons_iff.1 h with hfront | hrest
    · rw [eq_nil_of_prefix_cons (fun hc => hfree c hc (htag c List.mem_cons_self)) hfront]
      exact List.nil_infix
    · exact ih (fun x hx => htag x (List.mem_cons_of_mem c hx)) hrest

/-- The characters of the tags. -/
theorem mem_closeTag_of_mem_openTag : ∀ c ∈ openTag, c ∈ closeTag := by
  have hall : openTag.all (fun c => closeTag.contains c) = true := by decide
  exact fun c hc => List.contains_iff_mem.1 (List.all_eq_true.1 hall c hc)

/-- What stands in front of a text with tags, and in which no tag begins, stands in front of the text
itself. -/
theorem Tagged.prefix_of_not_mem (h : Tagged w s) (hnot : '<' ∉ m) (hm : m <+: s) : m <+: w := by
  induction h generalizing m with
  | nil => exact hm
  | char c _ ih =>
    cases m with
    | nil => exact List.nil_prefix
    | cons x m =>
      rw [List.cons_prefix_cons] at hm ⊢
      exact ⟨hm.1, ih (fun hx => hnot (List.mem_cons_of_mem x hx)) hm.2⟩
  | opened _ _ =>
    rw [eq_nil_of_prefix_cons hnot hm]
    exact List.nil_prefix
  | closed _ _ =>
    rw [eq_nil_of_prefix_cons hnot hm]
    exact List.nil_prefix

/-- What stands in a text with tags, and holds none of their characters, stands in the text itself.
-/
theorem Tagged.infix_of_tagFree (h : Tagged w s) (hfree : TagFree m) (hm : m <:+: s) :
    m <:+: w := by
  induction h with
  | nil => exact hm
  | char c h ih =>
    rcases List.infix_cons_iff.1 hm with hfront | hrest
    · exact ((h.char c).prefix_of_not_mem (fun hc => hfree _ hc (by decide)) hfront).isInfix
    · exact List.infix_cons (ih hrest)
  | opened _ ih => exact ih (infix_of_infix_append hfree mem_closeTag_of_mem_openTag hm)
  | closed _ ih => exact ih (infix_of_infix_append hfree (fun _ hc => hc) hm)

/-- The characters of the tags are folded to themselves. -/
theorem foldChar_of_mem_closeTag {c : Char} (h : c ∈ closeTag) : foldChar c = c := by
  have hall : closeTag.all (fun c => foldChar c == c) = true := by decide +kernel
  exact beq_iff_eq.1 (List.all_eq_true.1 hall c h)

/-- An occurrence of a term whose letters are folded to no character of a tag holds none of these. -/
theorem tagFree_of_sameFolded (hfree : TagFree (term.map foldChar)) (h : SameFolded m term) :
    TagFree m := fun c hc hmem => by
  refine hfree c ?_ hmem
  rw [← h, ← foldChar_of_mem_closeTag hmem]
  exact List.mem_map_of_mem hc

theorem forall_isCyrillic_of_all {terms : List String} (h : terms.all (fun term =>
      term.toList.all fun c => decide (c = '-' ∨ IsCyrillic c)) = true) :
    ∀ term ∈ terms, ∀ c ∈ term.toList, c = '-' ∨ IsCyrillic c := fun term hterm c hc =>
  of_decide_eq_true (List.all_eq_true.1 (List.all_eq_true.1 h term hterm) c hc)

/-- The letters of a term of Cyrillic letters and hyphens are folded to no character of a tag. -/
theorem tagFree_map_foldChar (hterm : ∀ c ∈ term, c = '-' ∨ IsCyrillic c) :
    TagFree (term.map foldChar) := by
  have hall : closeTag.all (fun c => !(c == foldChar '-' || decide (IsCyrillic c))) = true := by
    decide +kernel
  intro c hc hmem
  obtain ⟨t, ht, rfl⟩ := List.mem_map.1 hc
  have hnot := List.all_eq_true.1 hall _ hmem
  rw [Bool.not_eq_true', Bool.or_eq_false_iff, beq_eq_false_iff_ne, decide_eq_false_iff_not] at hnot
  rcases hterm t ht with rfl | hletter
  · exact hnot.1 rfl
  · exact hnot.2 (isCyrillic_foldChar_iff.2 hletter)

/-! ## Several terms -/

/-- A term that is not blank, and an occurrence of it that stands in `w` and in `s` between tags. -/
def HasPair (terms : List (List Char)) (w s : List Char) : Prop :=
  ∃ term ∈ terms, ¬Blank term ∧ ∃ m, m <:+: w ∧ SameFolded m term ∧
    openTag ++ m ++ closeTag <:+: s

theorem HasPair.cons (h : HasPair terms w s) : HasPair (term :: terms) w s :=
  have ⟨other, hmem, hpair⟩ := h
  ⟨other, List.mem_cons_of_mem term hmem, hpair⟩

theorem highlightChars_cons_of_blank (h : Blank term) :
    highlightChars s (term :: terms) = highlightChars s terms := by
  rw [highlightChars, List.foldl_cons, trimChars_eq_nil_iff.2 h]
  rfl

theorem highlightChars_cons (h : ¬Blank term) :
    highlightChars s (term :: terms) = highlightChars (mark term s) terms := by
  rw [highlightChars, List.foldl_cons, if_neg (by simpa [trimChars_eq_nil_iff] using h)]
  rfl

theorem ne_nil_of_not_blank (h : ¬Blank term) : term ≠ [] := by
  rintro rfl
  exact h fun _ hc => absurd hc List.not_mem_nil

/-- Terms leave a text as it is if none of them occurs, and otherwise some occurrence between tags. -/
theorem hasPair_or_eq (hterms : ∀ term ∈ terms, TagFree (term.map foldChar)) :
    HasPair terms s (highlightChars s terms) ∨
      highlightChars s terms = s ∧ ∀ term ∈ terms, ¬Blank term → ¬Occurs term s := by
  induction terms generalizing s with
  | nil => exact .inr ⟨rfl, fun _ hmem => absurd hmem List.not_mem_nil⟩
  | cons term terms ih =>
    have hrest := fun t ht => hterms t (List.mem_cons_of_mem term ht)
    by_cases hblank : Blank term
    · rw [highlightChars_cons_of_blank hblank, List.forall_mem_cons]
      exact (ih hrest).imp HasPair.cons (And.imp_right fun hnot => ⟨absurd hblank, hnot⟩)
    have hne := ne_nil_of_not_blank hblank
    have hmarked := marked_mark hne s
    rw [highlightChars_cons hblank, List.forall_mem_cons]
    by_cases hoccurs : Occurs term s
    · left
      rcases ih hrest with hpair | ⟨hsame, -⟩
      · -- the pair of a later term holds nothing of the tags of this one
        obtain ⟨other, hmem, hnot, m, hm, hfolded, htags⟩ := hpair
        have hfree := tagFree_of_sameFolded (hrest other hmem) hfolded
        exact ⟨other, List.mem_cons_of_mem term hmem, hnot, m,
          hmarked.tagged.infix_of_tagFree hfree hm, hfolded, htags⟩
      · -- no later term changes the text, so the pairs of this one are left
        rw [hsame]
        exact ⟨term, List.mem_cons_self, hblank, hmarked.exists_pair hne hoccurs⟩
    · rw [hmarked.eq_of_not_occurs hoccurs]
      exact (ih hrest).imp HasPair.cons (And.imp_right fun hnot => ⟨fun _ => hoccurs, hnot⟩)

/-- If one of the terms occurs, an occurrence of one of them is left between tags. -/
theorem hasPair_of_occurs (hterms : ∀ term ∈ terms, ∀ c ∈ term, isCleanChar c = true)
    (hmem : term ∈ terms) (hblank : ¬Blank term) (hoccurs : Occurs term s) :
    HasPair terms s (highlightChars s terms) :=
  (hasPair_or_eq fun t ht => tagFree_map_foldChar fun c hc => isCyrillic_of_isCleanChar
    (hterms t ht c hc)).resolve_right fun ⟨_, hnot⟩ => hnot term hmem hblank hoccurs

end Concordance.Snippet
