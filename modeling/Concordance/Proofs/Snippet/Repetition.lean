import Concordance.Proofs.Snippet.Nesting
import Mathlib.Data.List.Induction

/-!
# Repeated terms

The terms are marked one after another, each one also inside the pairs of the earlier ones, and a
text with the occurrences of a term between tags is made from one text only (`mark_injective`). So
listing a term once more changes what is marked wherever the term still occurs
(`highlightChars_insert_eq_iff`), and it always does where it has just been marked. Pairs come to lie
one inside the other exactly if a term occurs in what an earlier one has marked (`MarksInside`,
`wrappings_le_one_iff`).
-/

namespace Concordance.Snippet

open Text

variable {term m a s s' t w w' : List Char} {terms pre post all : List (List Char)} {c : Char}
  {n level : Nat}

/-! ## Marking loses nothing -/

/-- Characters of a marked text in front of its next tag stand in the text itself. -/
theorem Marked.of_append (h : Marked term s (m ++ t)) (hnot : '<' ∉ m) :
    ∃ rest, s = m ++ rest ∧ Marked term rest t := by
  induction m generalizing s with
  | nil => exact ⟨s, rfl, h⟩
  | cons x m ih =>
    obtain ⟨hx, hm⟩ := not_or.1 (mt List.mem_cons.2 hnot)
    generalize heq : x :: m ++ t = marked at h
    cases h with
    | nil => cases heq
    | char _ h =>
      obtain ⟨rfl, rfl⟩ := List.cons.inj heq
      obtain ⟨rest, rfl, hrest⟩ := ih h hm
      exact ⟨rest, rfl, hrest⟩
    | occurrence _ _ => exact absurd (List.cons.inj heq).1.symm hx

/-- An occurrence in a marked text has a tag in front of it. -/
theorem Marked.not_append (h : Marked term s (m ++ t)) (hne : term ≠ []) (hsame : SameFolded m term)
    (hnot : '<' ∉ m) : False := by
  obtain ⟨rest, rfl, -⟩ := h.of_append hnot
  obtain ⟨x, m, rfl⟩ := List.exists_cons_of_ne_nil (hsame.ne_nil hne)
  generalize heq : x :: m ++ t = marked at h
  generalize hs : x :: m ++ rest = text at h
  cases h with
  | nil => cases heq
  | char hbegins _ => exact hbegins (beginsWith_iff.2 ⟨_, rest, hs.symm, hsame⟩)
  | occurrence _ _ =>
    exact hnot ((List.cons.inj heq).1 ▸ List.mem_cons_self)

/-- What is put around an occurrence does not stand in the text as well. -/
theorem Marked.not_pair (h : Marked term s s') (hne : term ≠ []) (hfree : TagFree (term.map foldChar))
    (hsame : SameFolded m term) (heq : c :: s' = openTag ++ m ++ closeTag ++ t) : False := by
  simp only [List.append_assoc] at heq
  have hrest : s' = ['e', 'm', '>'] ++ (m ++ (closeTag ++ t)) := (List.cons.inj heq).2
  rw [hrest] at h
  obtain ⟨rest, -, h⟩ := h.of_append (by decide)
  exact h.not_append hne hsame fun hmem => tagFree_of_sameFolded hfree hsame _ hmem (by decide)

theorem Marked.injective (h : Marked term s t) (h' : Marked term s' t) (hne : term ≠ [])
    (hfree : TagFree (term.map foldChar)) : s = s' := by
  induction h generalizing s' with
  | nil =>
    generalize heq : ([] : List Char) = marked at h'
    cases h' with
    | nil => rfl
    | char _ _ => cases heq
    | occurrence _ _ => cases heq
  | @char c s t _ h ih =>
    generalize heq : c :: t = marked at h'
    cases h' with
    | nil => cases heq
    | char _ h' =>
      obtain ⟨rfl, rfl⟩ := List.cons.inj heq
      rw [ih h']
    | occurrence hsame _ => exact (h.not_pair hne hfree hsame heq).elim
  | @occurrence m s t hsame h ih =>
    generalize heq : openTag ++ m ++ closeTag ++ t = marked at h'
    cases h' with
    | nil => cases heq
    | char _ h' => exact (h'.not_pair hne hfree hsame heq.symm).elim
    | occurrence hsame' h' =>
      simp only [List.append_assoc] at heq
      obtain ⟨rfl, hrest⟩ := List.append_inj (List.append_cancel_left heq)
        (hsame.length_eq.trans hsame'.length_eq.symm)
      rw [List.append_cancel_left hrest] at ih
      rw [ih h']

theorem mark_injective (hne : term ≠ []) (hfree : TagFree (term.map foldChar)) :
    Function.Injective (mark term) := fun s s' heq =>
  (marked_mark hne s).injective (heq ▸ marked_mark hne s') hne hfree

theorem highlightChars_injective (hfree : ∀ term ∈ terms, TagFree (term.map foldChar)) :
    Function.Injective fun s => highlightChars s terms := by
  induction terms with
  | nil => exact fun _ _ heq => heq
  | cons term terms ih =>
    obtain ⟨hterm, hrest⟩ := List.forall_mem_cons.1 hfree
    by_cases hblank : Blank term
    · simp only [highlightChars_cons_of_blank hblank]
      exact ih hrest
    · simp only [highlightChars_cons hblank]
      exact (ih hrest).comp (mark_injective (ne_nil_of_not_blank hblank) hterm)

/-! ## A term listed once more -/

theorem highlightChars_append :
    highlightChars s (pre ++ post) = highlightChars (highlightChars s pre) post :=
  List.foldl_append

theorem highlightChars_singleton_eq_self_iff :
    highlightChars s [term] = s ↔ Blank term ∨ ¬Occurs term s := by
  rw [highlightChars_eq_self_iff, List.forall_mem_singleton, Classical.or_iff_not_imp_left]

theorem highlight_eq_highlight_iff {w : String} {terms terms' : List String} :
    highlight w terms = highlight w terms' ↔
      highlightChars w.toList (terms.map String.toList) =
        highlightChars w.toList (terms'.map String.toList) :=
  String.ofList_inj

/-- A term changes nothing in between if it does not occur in what the terms before it have made of
the text, and only then. -/
theorem highlightChars_insert_eq_iff (hfree : ∀ term ∈ post, TagFree (term.map foldChar)) :
    highlightChars s (pre ++ term :: post) = highlightChars s (pre ++ post) ↔
      Blank term ∨ ¬Occurs term (highlightChars s pre) := by
  rw [List.append_cons, highlightChars_append, highlightChars_append, highlightChars_append,
    (highlightChars_injective hfree).eq_iff, highlightChars_singleton_eq_self_iff]

/-- Listing terms once more changes nothing, wherever they are listed, exactly if none of them
occurs. -/
theorem forall_insert_eq_iff {terms : List String} {w : String}
    (hfree : ∀ term ∈ terms.map String.toList, TagFree (term.map foldChar)) :
    (∀ pre post, terms = pre ++ post → ∀ term ∈ terms,
        highlight w (pre ++ term :: post) = highlight w terms) ↔
      ∀ term ∈ terms, ¬Blank term.toList → ¬Occurs term.toList w.toList := by
  constructor
  · intro hrepeat
    rcases hasPair_or_eq (s := w.toList) hfree with hpair | ⟨-, hnone⟩
    · -- an occurrence is left between tags, where the term would be marked again
      obtain ⟨_, hmem, hblank, m, -, hsame, hpair⟩ := hpair
      obtain ⟨term, hterm, rfl⟩ := List.mem_map.1 hmem
      have hagain := hrepeat terms [] (List.append_nil terms).symm term hterm
      rw [highlight_eq_highlight_iff, List.map_append, highlightChars_append] at hagain
      have hnot := highlightChars_singleton_eq_self_iff.1 hagain
      have hoccurs : Occurs term.toList (highlightChars w.toList (terms.map String.toList)) :=
        ⟨m, (List.infix_append openTag m closeTag).trans hpair, hsame⟩
      exact absurd hoccurs (hnot.resolve_left hblank)
    · exact List.forall_mem_map.1 hnone
  · rintro hnone pre post rfl term hmem
    have hself : ∀ others : List String, (∀ other ∈ others, other ∈ pre ++ post) →
        highlightChars w.toList (others.map String.toList) = w.toList := fun others hothers =>
      highlightChars_eq_self_iff.2 (List.forall_mem_map.2 fun other hother =>
        hnone other (hothers other hother))
    rw [highlight_eq_highlight_iff, hself (pre ++ post) fun _ hother => hother, hself]
    intro other hother
    rw [List.mem_append, List.mem_cons] at hother
    rcases hother with hother | rfl | hother
    · exact List.mem_append_left post hother
    · exact hmem
    · exact List.mem_append_right pre hother

/-! ## Around how many times -/

/-- For each character of a text apart from its tags, the number of pairs around it. -/
def wrappings (level : Nat) : List Char → List Nat
  | [] => []
  | '<' :: 'e' :: 'm' :: '>' :: s => wrappings (level + 1) s
  | '<' :: '/' :: 'e' :: 'm' :: '>' :: s => wrappings (level - 1) s
  | _ :: s => level :: wrappings level s

theorem wrappings_cons (hopen : ¬openTag <+: c :: s) (hclose : ¬closeTag <+: c :: s) :
    wrappings level (c :: s) = level :: wrappings level s := by
  rw [wrappings]
  · rintro rest rfl rfl
    exact hopen ⟨rest, rfl⟩
  · rintro rest rfl rfl
    exact hclose ⟨rest, rfl⟩

/-- In a text that holds no tag itself, every character has as many pairs around it as lie one inside
the other, at most. -/
theorem Nested.wrappings_append (h : Nested terms n w s) (ht : Tagged w' t) (level : Nat)
    (hopen : ¬openTag <:+: w ++ w') (hclose : ¬closeTag <:+: w ++ w') :
    ∃ levels, wrappings level (s ++ t) = levels ++ wrappings level t ∧ levels.length = w.length ∧
      ∀ k ∈ levels, k ≤ level + n := by
  induction h generalizing level w' t with
  | nil n => exact ⟨[], rfl, rfl, fun _ hk => absurd hk List.not_mem_nil⟩
  | char c h ih =>
    obtain ⟨levels, heq, hlength, hle⟩ := ih ht level (mt List.infix_cons hopen)
      (mt List.infix_cons hclose)
    have htagged := h.tagged.append ht
    refine ⟨level :: levels, ?_, congrArg _ hlength, List.forall_mem_cons.2 ⟨by omega, hle⟩⟩
    rw [List.cons_append, wrappings_cons (htagged.not_tag_prefix hopen (by decide))
      (htagged.not_tag_prefix hclose (by decide)), heq]
    rfl
  | @pair n term m inner w s _ _ _ _ h ihinner ih =>
    rw [List.append_assoc] at hopen hclose
    have hrest := (List.suffix_append m (w ++ w')).isInfix
    obtain ⟨levels, heq, hlength, hle⟩ := ihinner (h.tagged.append ht).closed (level + 1)
      hopen hclose
    obtain ⟨levels', heq', hlength', hle'⟩ := ih ht level
      (fun htag => hopen (htag.trans hrest)) (fun htag => hclose (htag.trans hrest))
    refine ⟨levels ++ levels', ?_, ?_, fun k hk => ?_⟩
    · have hpair : wrappings level (openTag ++ (inner ++ (closeTag ++ (s ++ t)))) =
          levels ++ wrappings level (s ++ t) := heq
      simp only [List.append_assoc]
      rw [hpair, heq']
    · rw [List.length_append, List.length_append, hlength, hlength']
    · rcases List.mem_append.1 hk with hk | hk
      · have := hle k hk
        omega
      · exact hle' k hk

/-! ## A pair inside a pair -/

/-- A pair of tags that begins behind an opening tag, with no other tag between. -/
def OpensInside (s : List Char) : Prop :=
  ∃ a m, '<' ∉ a ∧ '<' ∉ m ∧ m ≠ [] ∧ openTag ++ (a ++ (openTag ++ (m ++ closeTag))) <:+: s

/-- So it comes to lie if a term occurs behind an opening tag. -/
theorem opensInside_mark (hne : term ≠ []) (hfree : TagFree (term.map foldChar)) (hnot : '<' ∉ m)
    (hoccurs : Occurs term m) (h : openTag ++ (m ++ tag) <:+: s) (htag : tag ≠ [])
    (hchars : ∀ x ∈ tag, x ∈ closeTag) : OpensInside (mark term s) := by
  obtain ⟨a, b, rfl⟩ := h
  obtain ⟨front, m', rest, rest', hm, hsame, heq, -⟩ :=
    (marked_mark hne m).exists_first hne hoccurs
  have hmark : mark term (a ++ (openTag ++ (m ++ tag)) ++ b) =
      mark term a ++ (openTag ++ (front ++ (openTag ++ (m' ++ closeTag))) ++
        (rest' ++ (tag ++ mark term b))) := by
    simp only [List.append_assoc]
    rw [mark_append_tag hne hfree (by decide) mem_closeTag_of_mem_openTag,
      mark_append_tag hne hfree htag hchars, heq]
    simp only [List.append_assoc]
  rw [hmark]
  refine ⟨front, m', fun hmem => hnot ?_, fun hmem => hnot ?_, hsame.ne_nil hne,
    ⟨_, _, List.append_assoc _ _ _⟩⟩
  · rw [hm]
    exact List.mem_append_left _ hmem
  · rw [hm]
    exact List.mem_append_right _ (List.mem_append_left _ hmem)

/-- Once a pair lies so, some pair lies so after each further term. -/
theorem OpensInside.mark (h : OpensInside s) (hne : term ≠ [])
    (hfree : TagFree (term.map foldChar)) : OpensInside (mark term s) := by
  obtain ⟨a, m, ha, hm, hmne, hpair⟩ := h
  by_cases hfirst : Occurs term a
  · have houter : openTag ++ (a ++ openTag) <:+: openTag ++ (a ++ (openTag ++ (m ++ closeTag))) :=
      ⟨[], m ++ closeTag, by simp only [List.append_assoc, List.nil_append]⟩
    exact opensInside_mark hne hfree ha hfirst (houter.trans hpair) (by decide)
      mem_closeTag_of_mem_openTag
  by_cases hsecond : Occurs term m
  · have hinner : openTag ++ (m ++ closeTag) <:+: openTag ++ (a ++ (openTag ++ (m ++ closeTag))) :=
      ((List.suffix_append _ _).trans (List.suffix_append _ _)).isInfix
    exact opensInside_mark hne hfree hm hsecond (hinner.trans hpair) (by decide) fun _ hx => hx
  · -- the pair is left as it is
    obtain ⟨b, b', rfl⟩ := hpair
    refine ⟨a, m, ha, hm, hmne, Snippet.mark term b, Snippet.mark term b', ?_⟩
    simp only [List.append_assoc]
    rw [mark_append_tag hne hfree (by decide) mem_closeTag_of_mem_openTag,
      mark_append_tag hne hfree (by decide) mem_closeTag_of_mem_openTag,
      mark_append_tag hne hfree (by decide) fun _ hx => hx,
      (marked_mark hne a).eq_of_not_occurs hfirst, (marked_mark hne m).eq_of_not_occurs hsecond]

theorem OpensInside.highlightChars (h : OpensInside s)
    (hfree : ∀ term ∈ terms, TagFree (term.map foldChar)) :
    OpensInside (highlightChars s terms) := by
  induction terms generalizing s with
  | nil => exact h
  | cons term terms ih =>
    obtain ⟨hterm, hrest⟩ := List.forall_mem_cons.1 hfree
    by_cases hblank : Blank term
    · rw [highlightChars_cons_of_blank hblank]
      exact ih h hrest
    · rw [highlightChars_cons hblank]
      exact ih (h.mark (ne_nil_of_not_blank hblank) hterm) hrest

/-- What stands in front of a text ends in front of a character that it does not hold. -/
theorem prefix_of_prefix_append_cons (hnot : c ∉ m) (h : m <+: s ++ c :: t) : m <+: s := by
  induction m generalizing s with
  | nil => exact List.nil_prefix
  | cons x m ih =>
    obtain ⟨hx, hm⟩ := not_or.1 (mt List.mem_cons.2 hnot)
    cases s with
    | nil => exact absurd (List.cons_prefix_cons.1 h).1.symm hx
    | cons x' s =>
      rw [List.cons_append, List.cons_prefix_cons] at h
      exact List.cons_prefix_cons.2 ⟨h.1, ih hm h.2⟩

/-- In front of a tag, the number of pairs around the next character does not depend on what comes
behind. -/
theorem exists_wrappings_append (level : Nat) (s : List Char) : ∃ levels level', ∀ t,
    wrappings level (s ++ '<' :: t) = levels ++ wrappings level' ('<' :: t) := by
  fun_induction wrappings level s with
  | case1 level => exact ⟨[], level, fun _ => rfl⟩
  | case2 level s ih => exact ih
  | case3 level s ih => exact ih
  | case4 level c s hopen hclose ih =>
    obtain ⟨levels, level', heq⟩ := ih
    refine ⟨level :: levels, level', fun t => ?_⟩
    rw [List.cons_append, wrappings_cons ?_ ?_, heq]
    · rfl
    · intro hfront
      obtain ⟨hc, hfront⟩ := List.cons_prefix_cons.1 hfront
      obtain ⟨rest, hrest⟩ := prefix_of_prefix_append_cons (by decide) hfront
      exact hopen rest hc.symm hrest.symm
    · intro hfront
      obtain ⟨hc, hfront⟩ := List.cons_prefix_cons.1 hfront
      obtain ⟨rest, hrest⟩ := prefix_of_prefix_append_cons (by decide) hfront
      exact hclose rest hc.symm hrest.symm

/-- In front of the next tag, this number stays the same. -/
theorem wrappings_append (hnot : '<' ∉ a) :
    wrappings level (a ++ t) = List.replicate a.length level ++ wrappings level t := by
  induction a with
  | nil => rfl
  | cons c a ih =>
    obtain ⟨hc, ha⟩ := not_or.1 (mt List.mem_cons.2 hnot)
    rw [List.cons_append, wrappings_cons (fun h => hc (List.cons_prefix_cons.1 h).1)
      (fun h => hc (List.cons_prefix_cons.1 h).1), ih ha]
    rfl

/-- Inside a pair that lies inside another one, characters have both around them. -/
theorem OpensInside.exists_two_le (h : OpensInside s) (level : Nat) :
    ∃ k ∈ wrappings level s, 2 ≤ k := by
  obtain ⟨a, m, ha, hm, hne, front, behind, rfl⟩ := h
  obtain ⟨levels, level', heq⟩ := exists_wrappings_append level front
  have hpair : wrappings level (front ++ (openTag ++ (a ++ (openTag ++ (m ++ (closeTag ++ behind)))))) =
      levels ++ wrappings (level' + 1) (a ++ (openTag ++ (m ++ (closeTag ++ behind)))) := heq _
  have hinner : wrappings (level' + 1) (openTag ++ (m ++ (closeTag ++ behind))) =
      wrappings (level' + 2) (m ++ (closeTag ++ behind)) := rfl
  refine ⟨level' + 2, ?_, by omega⟩
  simp only [List.append_assoc]
  rw [hpair, wrappings_append ha, hinner, wrappings_append hm]
  refine List.mem_append_right _ (List.mem_append_right _ (List.mem_append_left _ ?_))
  exact List.mem_replicate.2 ⟨fun hzero => hne (List.length_eq_zero_iff.1 hzero), rfl⟩

/-! ## Terms in what other terms have marked -/

/-- A term that is not blank occurs in what a term in front of it has marked. -/
def MarksInside (w : List Char) (terms : List (List Char)) : Prop :=
  ∃ pre term post, terms = pre ++ term :: post ∧ ¬Blank term ∧ ∃ earlier ∈ pre, ∃ m,
    SameFolded m earlier ∧ openTag ++ m ++ closeTag <:+: highlightChars w pre ∧ Occurs term m

theorem Nested.eq_of_zero (h : Nested terms 0 w s) : s = w := by
  generalize hzero : 0 = n at h
  induction h with
  | nil n => rfl
  | char c _ ih => rw [ih hzero]
  | pair _ _ _ _ _ _ _ => cases hzero

/-- The pairs of a term that occurs in none of the pairs there are lie apart from them. -/
theorem Nested.mark_apart (h : Nested terms 1 w s) (hsub : ∀ earlier ∈ terms, earlier ∈ all)
    (hmem : term ∈ all) (hblank : ¬Blank term) (hfree : TagFree (term.map foldChar))
    (hapart : ∀ earlier ∈ terms, ∀ m, SameFolded m earlier → openTag ++ m ++ closeTag <:+: s →
      ¬Occurs term m) : Nested all 1 w (Snippet.mark term s) := by
  have hne := ne_nil_of_not_blank hblank
  have hplain : ∀ run, Nested all 1 run (Snippet.mark term run) := fun run =>
    (marked_mark hne run).nested hmem hblank
  suffices hrun : ∀ run, Nested all 1 (run ++ w) (Snippet.mark term (run ++ s)) from hrun []
  generalize hone : 1 = n at h
  induction h with
  | nil n =>
    intro run
    obtain rfl := hone
    rw [List.append_nil]
    exact hplain run
  | char c _ ih =>
    intro run
    have hlonger := ih (fun earlier he m hm hpair => hapart earlier he m hm (List.infix_cons hpair))
      hone (run ++ [c])
    rwa [List.append_assoc, List.append_assoc] at hlonger
  | @pair n earlier m inner w s hmem' hblank' hsame hinner _ _ ih =>
    intro run
    obtain rfl : n = 0 := by omega
    obtain rfl := hinner.eq_of_zero
    have hnot := hapart earlier hmem' inner hsame (List.prefix_append _ _).isInfix
    rw [mark_pair hne hfree, (marked_mark hne inner).eq_of_not_occurs hnot]
    refine (hplain run).append (.pair (hsub earlier hmem') hblank' hsame (.refl inner)
      (ih (fun other ho m hm hpair => ?_) rfl []))
    exact hapart other ho m hm (hpair.trans (List.suffix_append _ _).isInfix)

/-- As long as no term occurs in what an earlier one has marked, all pairs lie apart. -/
theorem nested_one_of_not_marksInside (hfree : ∀ term ∈ terms, TagFree (term.map foldChar))
    (h : ¬MarksInside w terms) : Nested terms 1 w (highlightChars w terms) := by
  induction terms using List.reverseRecOn with
  | nil => exact .refl w
  | append_singleton terms term ih =>
    obtain ⟨hrest, hterm⟩ := List.forall_mem_append.1 hfree
    have hsub : ∀ earlier ∈ terms, earlier ∈ terms ++ [term] := fun _ => List.mem_append_left _
    have hearlier := ih hrest fun ⟨pre, other, post, hsplit, hinside⟩ =>
      h ⟨pre, other, post ++ [term], by rw [hsplit, List.append_assoc, List.cons_append], hinside⟩
    rw [highlightChars_append]
    by_cases hblank : Blank term
    · rw [highlightChars_cons_of_blank hblank]
      exact hearlier.mono hsub (Nat.le_refl 1)
    · rw [highlightChars_cons hblank]
      exact hearlier.mark_apart hsub (List.mem_append_right _ List.mem_cons_self) hblank
        (hterm term List.mem_cons_self) fun earlier hmem m hm hpair hoccurs =>
          h ⟨terms, term, [], rfl, hblank, earlier, hmem, m, hm, hpair, hoccurs⟩

/-- The pairs of a term that occurs in what an earlier one has marked lie inside those. -/
theorem MarksInside.opensInside (h : MarksInside w terms)
    (hfree : ∀ term ∈ terms, TagFree (term.map foldChar)) :
    OpensInside (highlightChars w terms) := by
  obtain ⟨pre, term, post, rfl, hblank, earlier, hmem, m, hsame, hpair, hoccurs⟩ := h
  obtain ⟨hpre, hpost⟩ := List.forall_mem_append.1 hfree
  obtain ⟨hterm, hpost⟩ := List.forall_mem_cons.1 hpost
  have hnot : '<' ∉ m := fun hc => tagFree_of_sameFolded (hpre earlier hmem) hsame _ hc (by decide)
  rw [List.append_assoc] at hpair
  rw [highlightChars_append, highlightChars_cons hblank]
  exact (opensInside_mark (ne_nil_of_not_blank hblank) hterm hnot hoccurs hpair (by decide)
    fun _ hx => hx).highlightChars hpost

/-- In a text without tags, no character is put between tags twice, exactly if no term occurs in
what an earlier one has marked. -/
theorem wrappings_le_one_iff (hfree : ∀ term ∈ terms, TagFree (term.map foldChar))
    (hopen : ¬openTag <:+: w) (hclose : ¬closeTag <:+: w) :
    (∀ k ∈ wrappings 0 (highlightChars w terms), k ≤ 1) ↔ ¬MarksInside w terms := by
  constructor
  · intro hle hinside
    obtain ⟨k, hk, htwo⟩ := (hinside.opensInside hfree).exists_two_le 0
    have := hle k hk
    omega
  · intro hnot
    obtain ⟨levels, heq, -, hle⟩ := (nested_one_of_not_marksInside hfree hnot).wrappings_append
      Tagged.nil 0 (by rwa [List.append_nil]) (by rwa [List.append_nil])
    rw [wrappings, List.append_nil, List.append_nil] at heq
    rw [heq]
    exact fun k hk => hle k hk

/-- In a text without tags, listing a term once more changes nothing exactly if it is blank or no
longer occurs in what the terms before that place have made of the text; so whatever term is listed
again anywhere, nothing changes exactly if none of the terms occurs at all. Each character of the
text gets some number of pairs around it, and at most one exactly if no term occurs in what an
earlier one has marked. -/
theorem repetition_iff {terms : List String}
    (hterms : ∀ term ∈ terms, ∀ c ∈ term.toList, c = '-' ∨ IsCyrillic c) {w : String}
    (hopen : ¬openTag <:+: w.toList) (hclose : ¬closeTag <:+: w.toList) :
    (∀ pre post, terms = pre ++ post → ∀ term ∈ terms,
      (highlight w (pre ++ term :: post) = highlight w terms ↔
        Blank term.toList ∨ ¬Occurs term.toList (highlight w pre).toList)) ∧
      ((∀ pre post, terms = pre ++ post → ∀ term ∈ terms,
          highlight w (pre ++ term :: post) = highlight w terms) ↔
        ∀ term ∈ terms, ¬Blank term.toList → ¬Occurs term.toList w.toList) ∧
      (wrappings 0 (highlight w terms).toList).length = w.length ∧
      ((∀ k ∈ wrappings 0 (highlight w terms).toList, k ≤ 1) ↔
        ¬MarksInside w.toList (terms.map String.toList)) := by
  have hfree : ∀ term ∈ terms.map String.toList, TagFree (term.map foldChar) :=
    List.forall_mem_map.2 fun term hterm => tagFree_map_foldChar (hterms term hterm)
  refine ⟨?_, forall_insert_eq_iff hfree, ?_, ?_⟩
  · rintro pre post rfl term -
    rw [List.map_append] at hfree
    rw [highlight_eq_highlight_iff, highlight, String.toList_ofList, List.map_append, List.map_append]
    exact highlightChars_insert_eq_iff (List.forall_mem_append.1 hfree).2
  · have hnested := (Nested.refl (n := 0) w.toList).highlightChars (fun _ hmem => hmem) hfree
    obtain ⟨levels, heq, hlength, -⟩ := hnested.wrappings_append Tagged.nil 0
      (by rwa [List.append_nil]) (by rwa [List.append_nil])
    rw [wrappings, List.append_nil, List.append_nil] at heq
    rw [highlight, String.toList_ofList, heq, hlength, String.length_toList]
  · rw [highlight, String.toList_ofList]
    exact wrappings_le_one_iff hfree hopen hclose

/-- A word that does not occur changes nothing when it is listed again. -/
theorem repetition_catAndHouse :
    (∀ term ∈ ["кот", "дом"], ∀ c ∈ term.toList, c = '-' ∨ IsCyrillic c) ∧
      ¬openTag <:+: "Кот спит".toList ∧ ¬closeTag <:+: "Кот спит".toList ∧
      highlight "Кот спит" ["кот", "дом", "дом"] = highlight "Кот спит" ["кот", "дом"] ∧
      ¬Occurs "дом".toList (highlight "Кот спит" ["кот"]).toList ∧
      ¬MarksInside "Кот спит".toList (["кот", "дом"].map String.toList) := by
  have hterms : ∀ term ∈ ["кот", "дом"], ∀ c ∈ term.toList, c = '-' ∨ IsCyrillic c :=
    forall_isCyrillic_of_all (by decide +kernel)
  have hopen : ¬openTag <:+: "Кот спит".toList := by decide +kernel
  have hclose : ¬closeTag <:+: "Кот спит".toList := by decide +kernel
  obtain ⟨hplace, -, -, hinside⟩ := repetition_iff hterms hopen hclose
  have hsame : highlight "Кот спит" ["кот", "дом", "дом"] = highlight "Кот спит" ["кот", "дом"] := by
    decide +kernel
  have hnot := (hplace ["кот"] ["дом"] rfl "дом" (by decide)).1 hsame
  exact ⟨hterms, hopen, hclose, hsame, hnot.resolve_left fun hblank =>
    absurd (hblank 'д' (by decide)) (by decide), hinside.1 (by decide +kernel)⟩

/-- A word that is listed twice is marked twice. -/
theorem repetition_cat : highlight "Кот спит" ["кот"] = "<em>Кот</em> спит" ∧
    highlight "Кот спит" ["кот", "кот"] = "<em><em>Кот</em></em> спит" ∧
    highlight "Кот спит" ["кот", "кот"] ≠ highlight "Кот спит" ["кот"] ∧
    ¬∀ k ∈ wrappings 0 (highlight "Кот спит" ["кот", "кот"]).toList, k ≤ 1 := by
  decide +kernel

end Concordance.Snippet
