import Concordance.Proofs.Snippet.Marking

/-!
# What a snippet shows

A snippet is a window of its text, around the first term that is found there (`FirstFound`,
`focus?_of_firstFound`). The bounds of the window are always bounds of the text, and the occurrence
of the term is inside it unless it is longer than what the window shows from there on
(`exists_window?_of_firstFound`). Terms of letters of tokens are then marked in it
(`snippet_shows_match`).
-/

namespace Concordance.Snippet

open Text

variable {s term w : List Char} {terms skipped : List (List Char)} {offset start stop : Nat}

/-! ## The first term that is found -/

/-- None of some terms occurs in a text; blank ones do not count. -/
def Unfound (s : List Char) (terms : List (List Char)) : Prop :=
  ∀ term ∈ terms, Blank term ∨ ∀ n, ¬AgreesAt term s n

/-- The first of some terms that is not blank and occurs in a text, and the least offset at which it
does. -/
structure FirstFound (s : List Char) (terms : List (List Char)) (term : List Char) (offset : Nat) :
    Prop where
  /-- None of the terms in front of it occurs. -/
  first : ∃ skipped rest, terms = skipped ++ term :: rest ∧ Unfound s skipped
  /-- It is not blank. -/
  not_blank : ¬Blank term
  /-- It occurs at the offset. -/
  agrees : AgreesAt term s offset
  /-- It occurs at no smaller one. -/
  least : ∀ n < offset, ¬AgreesAt term s n

theorem FirstFound.mem (h : FirstFound s terms term offset) : term ∈ terms := by
  obtain ⟨skipped, rest, rfl, -⟩ := h.first
  exact List.mem_append_right _ List.mem_cons_self

theorem FirstFound.find (h : FirstFound s terms term offset) :
    findIgnoringCase term s = some offset :=
  findIgnoringCase_eq_some_iff.2 ⟨ne_nil_of_not_blank h.not_blank, h.agrees, h.least⟩

theorem focus?_cons_of_blank (h : Blank term) : focus? s (term :: terms) = focus? s terms := by
  rw [focus?, List.filter_cons_of_neg (by simpa [trimChars_eq_nil_iff] using h)]
  rfl

theorem focus?_cons (h : ¬Blank term) :
    focus? s (term :: terms) = (findIgnoringCase term s).or (focus? s terms) := by
  rw [focus?, List.filter_cons_of_pos (by simpa [trimChars_eq_nil_iff] using h),
    List.findSome?_cons]
  cases findIgnoringCase term s <;> rfl

theorem findIgnoringCase_eq_none (h : ∀ n, ¬AgreesAt term s n) : findIgnoringCase term s = none :=
  Option.eq_none_iff_forall_ne_some.2 fun n hn => h n (findIgnoringCase_eq_some_iff.1 hn).2.1

/-- Terms that do not occur are passed over. -/
theorem focus?_append_of_unfound (h : Unfound s skipped) :
    focus? s (skipped ++ terms) = focus? s terms := by
  induction skipped with
  | nil => rfl
  | cons first skipped ih =>
    obtain ⟨hfirst, hskipped⟩ := List.forall_mem_cons.1 h
    rw [List.cons_append]
    by_cases hblank : Blank first
    · rw [focus?_cons_of_blank hblank, ih hskipped]
    · rw [focus?_cons hblank, findIgnoringCase_eq_none (hfirst.resolve_left hblank), ih hskipped]
      rfl

theorem focus?_of_unfound (h : Unfound s terms) : focus? s terms = none := by
  have hnone : focus? s (terms ++ []) = focus? s [] := focus?_append_of_unfound h
  rwa [List.append_nil] at hnone

theorem focus?_of_firstFound (h : FirstFound s terms term offset) :
    focus? s terms = some offset := by
  obtain ⟨skipped, rest, rfl, hskipped⟩ := h.first
  rw [focus?_append_of_unfound hskipped, focus?_cons h.not_blank, h.find]
  rfl

/-- If a term occurs, one of the terms is the first that does. -/
theorem exists_firstFound (h : ¬Unfound s terms) :
    ∃ term offset, FirstFound s terms term offset := by
  induction terms with
  | nil => exact absurd (fun _ hmem => absurd hmem List.not_mem_nil) h
  | cons first terms ih =>
    by_cases hfirst : Blank first ∨ ∀ n, ¬AgreesAt first s n
    · have hrest : ¬Unfound s terms := fun hterms => h (List.forall_mem_cons.2 ⟨hfirst, hterms⟩)
      obtain ⟨term, offset, hfound⟩ := ih hrest
      obtain ⟨skipped, rest, rfl, hskipped⟩ := hfound.first
      exact ⟨term, offset, ⟨first :: skipped, rest, rfl, List.forall_mem_cons.2 ⟨hfirst, hskipped⟩⟩,
        hfound.not_blank, hfound.agrees, hfound.least⟩
    · rw [not_or, Classical.not_forall] at hfirst
      obtain ⟨hblank, n, hagrees⟩ := hfirst
      obtain ⟨least, hleast⟩ :=
        exists_findIgnoringCase (ne_nil_of_not_blank hblank) (Classical.not_not.1 hagrees)
      obtain ⟨-, hagrees, hleast⟩ := findIgnoringCase_eq_some_iff.1 hleast
      exact ⟨first, least, ⟨[], terms, rfl, fun _ hmem => absurd hmem List.not_mem_nil⟩, hblank,
        hagrees, hleast⟩

/-! ## The window -/

theorem infix_of_slice (s : List Char) (start stop : Nat) : (s.take stop).drop start <:+: s :=
  (List.drop_suffix _ _).isInfix.trans (List.take_prefix _ _).isInfix

/-- Without a term that occurs, the window shows the beginning of the text. -/
theorem window?_of_unfound (h : Unfound s terms) : window? s terms = some (s.take after) := by
  rw [window?, focus?_of_unfound h]

/-- The bounds of the window are bounds of the text, and include an occurrence that is short enough.
-/
theorem exists_window?_of_firstFound (h : FirstFound s terms term offset) : ∃ start stop,
    window? s terms = some ((s.take stop).drop start) ∧ start ≤ offset ∧ stop ≤ s.length ∧
      stop ≤ start + (before + after) ∧ (term.length ≤ after → offset + term.length ≤ stop) := by
  have hwithin := h.agrees.length_le (ne_nil_of_not_blank h.not_blank)
  rw [window?, focus?_of_firstFound h]
  refine ⟨min (offset - before) (min (offset + after) s.length), min (offset + after) s.length,
    if_pos ⟨Nat.min_le_right _ _, Nat.min_le_right _ _⟩, ?_⟩
  omega

/-- What lies within the bounds of a window stands in the window. -/
theorem infix_of_bounds {length : Nat} (hstart : start ≤ offset) (hstop : offset + length ≤ stop) :
    (s.drop offset).take length <:+: (s.take stop).drop start := by
  have hdrop : ((s.take stop).drop start).drop (offset - start) =
      (s.drop offset).take (stop - offset) := by
    rw [List.drop_drop, Nat.add_sub_cancel' hstart, List.drop_take]
  have htake : (s.drop offset).take length =
      ((s.drop offset).take (stop - offset)).take length := by
    rw [List.take_take, Nat.min_eq_left (by omega)]
  rw [htake, ← hdrop]
  exact (List.take_prefix _ _).isInfix.trans (List.drop_suffix _ _).isInfix

/-- A term of letters of tokens occurs in the window as it is marked. -/
theorem FirstFound.occurs (h : FirstFound s terms term offset)
    (hterm : ∀ c ∈ term, isCleanChar c = true) (hstart : start ≤ offset)
    (hstop : offset + term.length ≤ stop) : Occurs term ((s.take stop).drop start) :=
  ⟨_, infix_of_bounds hstart hstop, sameFolded_of_firstLower hterm h.agrees.map_take⟩

/-- Each text that is not empty has a snippet. Its window is a part of the text of at most three
hundred characters, and the first two hundred if no term occurs. Otherwise the window includes the
first occurrence of the first term that occurs, if this has at most two hundred characters, and
then, if all terms consist of letters of tokens, the snippet shows an occurrence of a term between
tags. -/
theorem snippet_shows_match {text : String} (htext : text ≠ "") (terms : List String) :
    ∃ w, window? text.toList (terms.map String.toList) = some w ∧
      ofText? text terms = some (highlight (String.ofList w) terms) ∧
      w <:+: text.toList ∧ w.length ≤ 300 ∧
      (Unfound text.toList (terms.map String.toList) → w = text.toList.take 200) ∧
      (¬Unfound text.toList (terms.map String.toList) → ∃ term ∈ terms, ∃ offset,
        FirstFound text.toList (terms.map String.toList) term.toList offset ∧
        findIgnoringCase term.toList text.toList = some offset ∧
        (term.length ≤ 200 →
          (∃ start stop, w = (text.toList.take stop).drop start ∧ start ≤ offset ∧
            offset + term.length ≤ stop ∧ stop ≤ text.length) ∧
          ((∀ t ∈ terms, ∀ c ∈ t.toList, isCleanChar c = true) →
            ∃ t ∈ terms, ∃ m, m ≠ [] ∧ m <:+: w ∧ SameFolded m t.toList ∧
              openTag ++ m ++ closeTag <:+: (highlight (String.ofList w) terms).toList))) := by
  have hsnippet : ∀ w, window? text.toList (terms.map String.toList) = some w →
      ofText? text terms = some (highlight (String.ofList w) terms) := fun w hw => by
    rw [ofText?, if_neg (by simpa using htext), hw]
    rfl
  by_cases hunfound : Unfound text.toList (terms.map String.toList)
  · refine ⟨_, window?_of_unfound hunfound, hsnippet _ (window?_of_unfound hunfound),
      (List.take_prefix _ _).isInfix, ?_, fun _ => rfl, fun hfound => absurd hunfound hfound⟩
    rw [List.length_take, after]
    omega
  · obtain ⟨first, offset, hfound⟩ := exists_firstFound hunfound
    obtain ⟨start, stop, hwindow, hstart, hlength, hwidth, hstop⟩ :=
      exists_window?_of_firstFound hfound
    obtain ⟨term, hterm, rfl⟩ := List.mem_map.1 hfound.mem
    refine ⟨_, hwindow, hsnippet _ hwindow, infix_of_slice _ _ _, ?_,
      fun hnone => absurd hnone hunfound, fun _ => ⟨term, hterm, offset, hfound, hfound.find,
        fun hshort => ⟨⟨start, stop, rfl, hstart, hstop hshort, hlength⟩, fun hclean => ?_⟩⟩⟩
    · rw [List.length_drop, List.length_take]
      simp only [before, after] at hwidth
      omega
    · have hchars : ∀ t ∈ terms.map String.toList, ∀ c ∈ t, isCleanChar c = true :=
        List.forall_mem_map.2 hclean
      have hoccurs := hfound.occurs (hclean term hterm) hstart (hstop hshort)
      obtain ⟨_, hmem, hblank, m, hm, hsame, hpair⟩ :=
        hasPair_of_occurs hchars hfound.mem hfound.not_blank hoccurs
      obtain ⟨t, ht, rfl⟩ := List.mem_map.1 hmem
      refine ⟨t, ht, m, ?_, hm, hsame, ?_⟩
      · rintro rfl
        exact ne_nil_of_not_blank hblank (List.length_eq_zero_iff.1 hsame.length_eq.symm)
      · rw [highlight, String.toList_ofList, String.toList_ofList]
        exact hpair

/-- A word at the beginning of a text is found and marked. -/
theorem snippet_shows_cat :
    ("Кот спит" ≠ "" ∧ ∀ c ∈ "кот".toList, isCleanChar c = true) ∧
      ∃ w, ofText? "Кот спит" ["кот"] = some (highlight (String.ofList w) ["кот"]) ∧
        w <:+: "Кот спит".toList ∧ ∃ m, m <:+: w ∧ SameFolded m "кот".toList ∧
          openTag ++ m ++ closeTag <:+: (highlight (String.ofList w) ["кот"]).toList := by
  have htext : "Кот спит" ≠ "" := by decide
  have hclean : ∀ c ∈ "кот".toList, isCleanChar c = true := List.all_eq_true.1 (by decide)
  have hagrees : AgreesAt "кот".toList "Кот спит".toList 0 := by decide +kernel
  have hfound : ¬Unfound "Кот спит".toList (["кот"].map String.toList) := fun hnone =>
    (hnone _ List.mem_cons_self).elim (fun hblank => absurd (hblank 'к' (by decide)) (by decide))
      fun hnot => hnot 0 hagrees
  obtain ⟨w, -, hsnippet, hpart, -, -, hshows⟩ := snippet_shows_match htext ["кот"]
  obtain ⟨term, hterm, offset, -, -, hpair⟩ := hshows hfound
  obtain rfl := List.mem_singleton.1 hterm
  obtain ⟨t, ht, m, -, hm, hsame, htags⟩ :=
    (hpair (by decide)).2 (fun t ht => List.mem_singleton.1 ht ▸ hclean)
  obtain rfl := List.mem_singleton.1 ht
  exact ⟨⟨htext, hclean⟩, w, hsnippet, hpart, m, hm, hsame, htags⟩

end Concordance.Snippet
