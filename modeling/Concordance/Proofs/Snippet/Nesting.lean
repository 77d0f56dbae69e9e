import Concordance.Proofs.Snippet.Marking

/-!
# Tags nest

Each term is marked in what the earlier ones have made of a text. No letter of a term is folded to a
character of a tag, so marking goes on apart on both sides of each tag (`mark_append_tag`): a new pair
lies inside an old one or apart from it, and all pairs nest (`Nested`, `Nested.mark`,
`Nested.highlightChars`). Deleting the tags gives the text back (`untag_of_tagged`), and a text in
which some term occurs does change (`highlightChars_eq_self_iff`).
-/

namespace Concordance.Snippet

open Text

variable {term tag m a b s s' w w' : List Char} {terms all : List (List Char)} {c : Char}
  {n n' : Nat}

/-! ## Marking beside a tag -/

/-- An occurrence does not reach over a character that no letter of the term is folded to. -/
theorem beginsWith_append_cons (hc : foldChar c ∉ term.map foldChar) :
    beginsWith term (a ++ c :: b) = beginsWith term a := by
  induction term generalizing a with
  | nil => rw [beginsWith, beginsWith]
  | cons t term ih =>
    obtain ⟨hne, hrest⟩ := not_or.1 (mt List.mem_cons.2 hc)
    cases a with
    | nil => rw [List.nil_append, beginsWith, beginsWith, beq_false_of_ne (Ne.symm hne), Bool.false_and]
    | cons x a => rw [List.cons_append, beginsWith, beginsWith, ih hrest]

theorem Marked.append_cons (h : Marked term a s) (h' : Marked term b s') (hne : term ≠ [])
    (hc : foldChar c ∉ term.map foldChar) : Marked term (a ++ c :: b) (s ++ c :: s') := by
  induction h with
  | nil =>
    refine .char ?_ h'
    obtain ⟨t, term, rfl⟩ := List.exists_cons_of_ne_nil hne
    rw [← List.nil_append (c :: b), beginsWith_append_cons hc]
    exact Bool.false_ne_true
  | char hnot _ ih =>
    refine .char (fun hbegins => hnot ?_) ih
    rwa [← beginsWith_append_cons (b := b) hc]
  | occurrence hsame _ ih =>
    rw [List.append_assoc, List.append_assoc _ _ (c :: s')]
    exact .occurrence hsame ih

/-- Only one text is a text with the occurrences of a term between tags. -/
theorem Marked.eq_mark (h : Marked term s s') (hne : term ≠ []) : s' = mark term s := by
  induction h with
  | nil => rw [mark]
  | char hnot _ ih => rw [mark, if_neg fun h => hnot h.2, ih]
  | @occurrence m s s' hsame _ ih =>
    obtain ⟨c, m, rfl⟩ := List.exists_cons_of_ne_nil (hsame.ne_nil hne)
    have hbegins : beginsWith term (c :: m ++ s) = true := beginsWith_iff.2 ⟨_, _, rfl, hsame⟩
    rw [List.cons_append, mark, if_pos ⟨hne, hbegins⟩, ← List.cons_append, ← hsame.length_eq,
      List.take_left, List.drop_left, ← ih]

/-- Marking goes on apart on both sides of a character that no letter of the term is folded to. -/
theorem mark_append_cons (hne : term ≠ []) (hc : foldChar c ∉ term.map foldChar) :
    mark term (a ++ c :: b) = mark term a ++ c :: mark term b :=
  (((marked_mark hne a).append_cons (marked_mark hne b) hne hc).eq_mark hne).symm

/-- Nothing is marked in characters that no letter of the term is folded to. -/
theorem mark_foreign_append (hne : term ≠ []) (hforeign : ∀ x ∈ tag, foldChar x ∉ term.map foldChar) :
    mark term (tag ++ b) = tag ++ mark term b := by
  induction tag with
  | nil => rfl
  | cons x tag ih =>
    obtain ⟨hx, hrest⟩ := List.forall_mem_cons.1 hforeign
    have hfirst := mark_append_cons (a := []) (b := tag ++ b) hne hx
    rwa [List.nil_append, mark, List.nil_append, ih hrest] at hfirst

/-- Marking goes on apart on both sides of a tag. -/
theorem mark_append_tag (hne : term ≠ []) (hfree : TagFree (term.map foldChar)) (htag : tag ≠ [])
    (hchars : ∀ x ∈ tag, x ∈ closeTag) :
    mark term (a ++ (tag ++ b)) = mark term a ++ (tag ++ mark term b) := by
  have hforeign : ∀ x ∈ tag, foldChar x ∉ term.map foldChar := fun x hx hmem =>
    hfree _ hmem (by rw [foldChar_of_mem_closeTag (hchars x hx)]; exact hchars x hx)
  obtain ⟨x, tag, rfl⟩ := List.exists_cons_of_ne_nil htag
  obtain ⟨hx, hrest⟩ := List.forall_mem_cons.1 hforeign
  rw [List.cons_append, List.cons_append, mark_append_cons hne hx, mark_foreign_append hne hrest]

/-- A pair is left in place, and marking goes on inside it and on both sides. -/
theorem mark_pair (hne : term ≠ []) (hfree : TagFree (term.map foldChar)) :
    mark term (a ++ (openTag ++ m ++ closeTag ++ b)) =
      mark term a ++ (openTag ++ mark term m ++ closeTag ++ mark term b) := by
  simp only [List.append_assoc]
  rw [mark_append_tag hne hfree (by decide) mem_closeTag_of_mem_openTag,
    mark_append_tag hne hfree (by decide) fun _ hx => hx]

/-! ## Pairs inside pairs -/

/-- A text with pairs of tags put in, each around an occurrence of one of the terms; of the pairs, at
most `n` lie one inside the other. -/
inductive Nested (terms : List (List Char)) : Nat → List Char → List Char → Prop
  /-- The end of the text. -/
  | nil (n : Nat) : Nested terms n [] []
  /-- A character of the text. -/
  | char {n : Nat} {w s : List Char} (c : Char) (h : Nested terms n w s) :
    Nested terms n (c :: w) (c :: s)
  /-- An occurrence between tags, and pairs inside it. -/
  | pair {n : Nat} {term m inner w s : List Char} (hmem : term ∈ terms) (hblank : ¬Blank term)
    (hsame : SameFolded m term) (hinner : Nested terms n m inner) (h : Nested terms (n + 1) w s) :
    Nested terms (n + 1) (m ++ w) (openTag ++ inner ++ closeTag ++ s)

theorem Nested.append (h : Nested terms n w s) (h' : Nested terms n w' s') :
    Nested terms n (w ++ w') (s ++ s') := by
  induction h with
  | nil n => exact h'
  | char c _ ih => exact (ih h').char c
  | pair hmem hblank hsame hinner _ _ ih =>
    rw [List.append_assoc, List.append_assoc _ _ s']
    exact .pair hmem hblank hsame hinner (ih h')

/-- No tags are put in. -/
theorem Nested.refl : ∀ w : List Char, Nested terms n w w
  | [] => .nil n
  | c :: w => (refl w).char c

theorem Nested.mono (h : Nested terms n w s) (hsub : ∀ term ∈ terms, term ∈ all) (hle : n ≤ n') :
    Nested all n' w s := by
  induction h generalizing n' with
  | nil n => exact .nil n'
  | char c _ ih => exact (ih hle).char c
  | pair hmem hblank hsame _ _ ihinner ih =>
    obtain ⟨k, rfl⟩ := Nat.exists_eq_add_of_lt (Nat.lt_of_succ_le hle)
    exact .pair (hsub _ hmem) hblank hsame (ihinner (by omega)) (ih (by omega))

/-- The pairs of one term lie apart. -/
theorem Marked.nested (h : Marked term w s) (hmem : term ∈ terms) (hblank : ¬Blank term) :
    Nested terms (n + 1) w s := by
  induction h with
  | nil => exact .nil _
  | char _ _ ih => exact ih.char _
  | occurrence hsame _ ih => exact .pair hmem hblank hsame (.refl _) ih

/-- The pairs of a further term lie inside the ones there are, or apart from them. -/
theorem Nested.mark (h : Nested terms n w s) (hmem : term ∈ terms) (hblank : ¬Blank term)
    (hfree : TagFree (term.map foldChar)) : Nested terms (n + 1) w (mark term s) := by
  have hne := ne_nil_of_not_blank hblank
  -- the characters since the last tag, among which occurrences can still reach further
  suffices hrun : ∀ run, Nested terms (n + 1) (run ++ w) (Snippet.mark term (run ++ s)) from hrun []
  induction h with
  | nil n =>
    intro run
    rw [List.append_nil]
    exact (marked_mark hne run).nested hmem hblank
  | char c _ ih =>
    intro run
    have hlonger := ih (run ++ [c])
    rwa [List.append_assoc, List.append_assoc] at hlonger
  | pair hmem' hblank' hsame _ _ ihinner ih =>
    intro run
    rw [mark_pair hne hfree]
    exact ((marked_mark hne run).nested hmem hblank).append
      (.pair hmem' hblank' hsame (ihinner []) (ih []))

/-- Of several terms, each one adds a level at most. -/
theorem Nested.highlightChars (h : Nested all n w s) (hsub : ∀ term ∈ terms, term ∈ all)
    (hfree : ∀ term ∈ terms, TagFree (term.map foldChar)) :
    Nested all (n + terms.length) w (highlightChars s terms) := by
  induction terms generalizing n s with
  | nil => exact h
  | cons term terms ih =>
    obtain ⟨hmem, hsub⟩ := List.forall_mem_cons.1 hsub
    obtain ⟨hterm, hfree⟩ := List.forall_mem_cons.1 hfree
    rw [List.length_cons, Nat.add_comm terms.length, ← Nat.add_assoc]
    by_cases hblank : Blank term
    · rw [highlightChars_cons_of_blank hblank]
      exact ih (h.mono (fun _ hterm => hterm) (Nat.le_succ n)) hsub hfree
    · rw [highlightChars_cons hblank]
      exact ih (h.mark hmem hblank hterm) hsub hfree

/-! ## Deleting the tags -/

theorem Nested.tagged (h : Nested terms n w s) : Tagged w s := by
  induction h with
  | nil n => exact .nil
  | char c _ ih => exact ih.char c
  | pair _ _ _ _ _ ihinner ih =>
    rw [List.append_assoc, List.append_assoc]
    exact .opened (ihinner.append ih.closed)

/-- A text without its tags, which are deleted from the left. -/
def untag : List Char → List Char
  | [] => []
  | '<' :: 'e' :: 'm' :: '>' :: s => untag s
  | '<' :: '/' :: 'e' :: 'm' :: '>' :: s => untag s
  | c :: s => c :: untag s

theorem untag_cons (hopen : ¬openTag <+: c :: s) (hclose : ¬closeTag <+: c :: s) :
    untag (c :: s) = c :: untag s := by
  rw [untag]
  · rintro rest rfl rfl
    exact hopen ⟨rest, rfl⟩
  · rintro rest rfl rfl
    exact hclose ⟨rest, rfl⟩

/-- A tag that does not stand in a text does not begin at one of its characters either when tags are
put in. -/
theorem Tagged.not_tag_prefix {x : Char} (h : Tagged w s) (hnot : ¬x :: tag <:+: c :: w)
    (htag : '<' ∉ tag) : ¬x :: tag <+: c :: s := fun hfront => by
  obtain ⟨hc, hfront⟩ := List.cons_prefix_cons.1 hfront
  exact hnot (List.cons_prefix_cons.2 ⟨hc, h.prefix_of_not_mem htag hfront⟩).isInfix

/-- If a text holds no tag itself, deleting the tags that are put in gives it back. -/
theorem untag_of_tagged (h : Tagged w s) (hopen : ¬openTag <:+: w) (hclose : ¬closeTag <:+: w) :
    untag s = w := by
  induction h with
  | nil => rfl
  | char c h ih =>
    rw [untag_cons (h.not_tag_prefix hopen (by decide)) (h.not_tag_prefix hclose (by decide)),
      ih (mt List.infix_cons hopen) (mt List.infix_cons hclose)]
  | opened _ ih => exact ih hopen hclose
  | closed _ ih => exact ih hopen hclose

/-! ## Texts that change -/

theorem Tagged.length_le (h : Tagged w s) : w.length ≤ s.length := by
  induction h with
  | nil => exact Nat.le_refl _
  | char c _ ih => exact Nat.succ_le_succ ih
  | opened _ ih =>
    rw [List.length_append]
    omega
  | closed _ ih =>
    rw [List.length_append]
    omega

/-- Around an occurrence tags are put in. -/
theorem Marked.length_lt (h : Marked term s s') (hne : term ≠ []) (hoccurs : Occurs term s) :
    s.length < s'.length := by
  obtain ⟨front, m, rest, rest', rfl, -, rfl, hrest⟩ := h.exists_first hne hoccurs
  have hle := hrest.tagged.length_le
  have htags : openTag.length = 4 ∧ closeTag.length = 5 := by decide
  simp only [List.length_append, htags]
  omega

theorem length_le_highlightChars (s : List Char) (terms : List (List Char)) :
    s.length ≤ (highlightChars s terms).length := by
  induction terms generalizing s with
  | nil => exact Nat.le_refl _
  | cons term terms ih =>
    by_cases hblank : Blank term
    · rw [highlightChars_cons_of_blank hblank]
      exact ih s
    · rw [highlightChars_cons hblank]
      exact Nat.le_trans (marked_mark (ne_nil_of_not_blank hblank) s).tagged.length_le (ih _)

/-- A text stays as it is only if no term occurs in it. -/
theorem highlightChars_eq_self_iff :
    highlightChars s terms = s ↔ ∀ term ∈ terms, ¬Blank term → ¬Occurs term s := by
  induction terms with
  | nil => exact iff_of_true rfl fun _ hmem => absurd hmem List.not_mem_nil
  | cons term terms ih =>
    rw [List.forall_mem_cons]
    by_cases hblank : Blank term
    · rw [highlightChars_cons_of_blank hblank, ih, and_iff_right fun hnot => absurd hblank hnot]
    have hmarked := marked_mark (ne_nil_of_not_blank hblank) s
    rw [highlightChars_cons hblank]
    by_cases hoccurs : Occurs term s
    · refine iff_of_false (fun hsame => ?_) fun h => h.1 hblank hoccurs
      have hlt := hmarked.length_lt (ne_nil_of_not_blank hblank) hoccurs
      have hle := length_le_highlightChars (mark term s) terms
      rw [hsame] at hle
      omega
    · rw [hmarked.eq_of_not_occurs hoccurs, ih, and_iff_right fun _ => hoccurs]

/-- Marking terms of Cyrillic letters and hyphens puts pairs of tags into a text that nest, each
around an occurrence of a term, and changes nothing else: deleting the tags gives the text back, if
it holds none itself. The text stays as it is exactly if no term occurs in it. A Cyrillic letter
agrees with Cyrillic letters only, a hyphen with the hyphen. -/
theorem highlight_inserts_pairs {terms : List String}
    (hterms : ∀ term ∈ terms, ∀ c ∈ term.toList, c = '-' ∨ IsCyrillic c) (s : String) :
    Nested (terms.map String.toList) terms.length s.toList (highlight s terms).toList ∧
      (¬openTag <:+: s.toList → ¬closeTag <:+: s.toList →
        untag (highlight s terms).toList = s.toList) ∧
      (highlight s terms = s ↔ ∀ term ∈ terms, ¬Blank term.toList → ¬Occurs term.toList s.toList) ∧
      ∀ term ∈ terms, ∀ t ∈ term.toList, ∀ c, foldChar c = foldChar t →
        IsCyrillic t ∧ IsCyrillic c ∨ t = '-' ∧ c = '-' := by
  have hfree : ∀ term ∈ terms.map String.toList, TagFree (term.map foldChar) :=
    List.forall_mem_map.2 fun term hterm => tagFree_map_foldChar (hterms term hterm)
  have hnested : Nested (terms.map String.toList) terms.length s.toList (highlight s terms).toList := by
    have hall := (Nested.refl (n := 0) s.toList).highlightChars (fun _ hmem => hmem) hfree
    rw [List.length_map, Nat.zero_add] at hall
    rwa [highlight, String.toList_ofList]
  refine ⟨hnested, untag_of_tagged hnested.tagged, ?_, fun term hterm t ht c hc => ?_⟩
  · rw [← String.toList_inj, highlight, String.toList_ofList, highlightChars_eq_self_iff,
      List.forall_mem_map]
  · rcases hterms term hterm t ht with rfl | hletter
    · have hhyphen : foldChar '-' = '-' := foldChar_of_isCleanChar (by decide)
      rw [hhyphen] at hc
      exact Or.inr ⟨rfl, (foldChar_eq_self_of_lt (hc ▸ by decide)).symm.trans hc⟩
    · exact Or.inl ⟨hletter, isCyrillic_foldChar_iff.1 (hc ▸ isCyrillic_foldChar_iff.2 hletter)⟩

/-- A word and a letter of it are marked in the word. -/
theorem highlight_inserts_pairs_cat :
    (∀ term ∈ ["кот", "о"], ∀ c ∈ term.toList, c = '-' ∨ IsCyrillic c) ∧
      Nested ["кот".toList, "о".toList] 2 "Кот спит".toList
        (highlight "Кот спит" ["кот", "о"]).toList ∧
      untag (highlight "Кот спит" ["кот", "о"]).toList = "Кот спит".toList ∧
      highlight "Кот спит" ["кот", "о"] ≠ "Кот спит" := by
  have hterms : ∀ term ∈ ["кот", "о"], ∀ c ∈ term.toList, c = '-' ∨ IsCyrillic c :=
    forall_isCyrillic_of_all (by decide +kernel)
  have hcat : SameFolded "Кот".toList "кот".toList := by
    rw [SameFolded]
    decide +kernel
  obtain ⟨hnested, huntag, hself, -⟩ := highlight_inserts_pairs hterms "Кот спит"
  refine ⟨hterms, hnested, huntag (by decide +kernel) (by decide +kernel), fun hsame => ?_⟩
  exact hself.1 hsame "кот" (by decide) (fun hblank => absurd (hblank 'к' (by decide)) (by decide))
    ⟨"Кот".toList, ⟨[], " спит".toList, by decide⟩, hcat⟩

end Concordance.Snippet
