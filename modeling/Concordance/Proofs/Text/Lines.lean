import Concordance.Listing.Basic
import Concordance.Proofs.Text.Segments

/-!
# Joined texts are cut where they were joined

A text made by joining parts with a separator is cut back into these parts : lines at line feeds
between them or behind each of them (`lineChars_joinWith`, `lineChars_flatMap`), words at single
spaces (`wordChars_joinWith`), a line at its first separator (`splitFirst?_append`). A line must not
be empty, nor hold a line feed, nor end in a carriage return (`IsLine`); a word must not be empty,
nor hold a blank (`IsWord`).

In the other direction, all words that are cut from a text are of this kind
(`isWord_of_mem_wordChars`), and the lines of a text make it up, with line feeds between them
(`exists_madeOf_lineChars`). No line holds a line feed (`not_mem_of_mem_lineChars`), so what is left
of it without the blanks around it is an entry (`isEntry_trimChars`).
-/

namespace Concordance.Text

open Listing

/-! ## Words and lines -/

/-- Characters without a blank among them, at least one. -/
structure IsWord (s : List Char) : Prop where
  /-- There is a character. -/
  ne_nil : s ≠ []
  /-- No character is a blank. -/
  not_blank : ∀ c ∈ s, isBlank c = false

instance (s : List Char) : Decidable (IsWord s) :=
  decidable_of_iff (s ≠ [] ∧ s.all (fun c => !isBlank c) = true)
    ⟨fun h => ⟨h.1, by simpa using h.2⟩, fun h => ⟨h.ne_nil, by simpa using h.not_blank⟩⟩

/-- Characters that can stand on a line of their own. -/
structure IsLine (s : List Char) : Prop where
  /-- There is a character. -/
  ne_nil : s ≠ []
  /-- No character ends the line. -/
  no_feed : '\n' ∉ s
  /-- The last character does not belong to the line break. -/
  no_return : s.getLast? ≠ some '\r'

theorem IsWord.isLine {s : List Char} (h : IsWord s) : IsLine s where
  ne_nil := h.ne_nil
  no_feed hmem := absurd (h.not_blank _ hmem) (by decide)
  no_return hlast := absurd (h.not_blank _ (List.mem_of_getLast? hlast)) (by decide)

/-! ## Trimming -/

theorem trimBy_eq_self {p : Char → Bool} {s : List Char}
    (hhead : ∀ c, s.head? = some c → p c = false) (hlast : ∀ c, s.getLast? = some c → p c = false) :
    trimBy p s = s := by
  have hdrop : ∀ t : List Char, (∀ c, t.head? = some c → p c = false) → t.dropWhile p = t := by
    intro t ht
    cases t with
    | nil => rfl
    | cons c t => rw [List.dropWhile_cons_of_neg (by simp [ht c rfl])]
  rw [trimBy, hdrop s hhead, hdrop s.reverse (by simpa using hlast), List.reverse_reverse]

theorem trimBy_isPrefix (p : Char → Bool) (s : List Char) : trimBy p s <+: s.dropWhile p := by
  rw [trimBy, ← List.reverse_suffix, List.reverse_reverse]
  exact List.dropWhile_suffix _

theorem mem_of_mem_trimBy {p : Char → Bool} {s : List Char} {c : Char} (h : c ∈ trimBy p s) :
    c ∈ s :=
  (List.dropWhile_suffix p).mem ((trimBy_isPrefix p s).mem h)

/-- Trimmed characters do not begin with one that is trimmed. -/
theorem not_of_head?_trimBy {p : Char → Bool} {s : List Char} {c : Char}
    (h : (trimBy p s).head? = some c) : p c = false := by
  obtain ⟨rest, hrest⟩ := trimBy_isPrefix p s
  have hnot := List.head?_dropWhile_not p s
  rw [← hrest, List.head?_append, h] at hnot
  exact hnot

/-- Trimmed characters do not end in one that is trimmed. -/
theorem not_of_getLast?_trimBy {p : Char → Bool} {s : List Char} {c : Char}
    (h : (trimBy p s).getLast? = some c) : p c = false := by
  rw [trimBy, List.getLast?_reverse] at h
  have hnot := List.head?_dropWhile_not p (s.dropWhile p).reverse
  rw [h] at hnot
  exact hnot

/-- Trimming again changes nothing. -/
theorem trimChars_trimChars (s : List Char) : trimChars (trimChars s) = trimChars s :=
  trimBy_eq_self (fun _ => not_of_head?_trimBy) fun _ => not_of_getLast?_trimBy

theorem IsWord.trimChars_eq {s : List Char} (h : IsWord s) : trimChars s = s :=
  trimBy_eq_self (fun c hc => h.not_blank c (List.mem_of_head? hc))
    fun c hc => h.not_blank c (List.mem_of_getLast? hc)

theorem mem_dropWhile_of_not {p : Char → Bool} {s : List Char} {c : Char} (hp : p c = false)
    (hc : c ∈ s) : c ∈ s.dropWhile p := by
  rw [← List.takeWhile_append_dropWhile (p := p) (l := s), List.mem_append] at hc
  refine hc.resolve_left fun htake => ?_
  simp [List.all_eq_true.1 List.all_takeWhile c htake] at hp

/-- Trimming keeps every character that is not a blank. -/
theorem mem_trimChars_of_not_blank {s : List Char} {c : Char} (hc : c ∈ s)
    (hblank : isBlank c = false) : c ∈ trimChars s := by
  rw [trimChars, trimBy, List.mem_reverse]
  exact mem_dropWhile_of_not hblank (List.mem_reverse.2 (mem_dropWhile_of_not hblank hc))

/-- There are blanks only. -/
def Blank (s : List Char) : Prop :=
  ∀ c ∈ s, isBlank c = true

theorem trimChars_eq_nil_iff {s : List Char} : trimChars s = [] ↔ Blank s := by
  constructor
  · intro h c hc
    refine Bool.of_not_eq_false fun hblank => ?_
    exact List.ne_nil_of_mem (mem_trimChars_of_not_blank hc hblank) h
  · intro h
    refine List.eq_nil_iff_forall_not_mem.2 fun c hc => ?_
    obtain ⟨first, rest, htrim⟩ := List.exists_cons_of_ne_nil (List.ne_nil_of_mem hc)
    have hfirst : first ∈ trimChars s := htrim ▸ List.mem_cons_self
    have hnot := not_of_head?_trimBy (p := isBlank) (s := s) (congrArg List.head? htrim)
    rw [h first (mem_of_mem_trimBy hfirst)] at hnot
    cases hnot

/-- A blank at the end is trimmed. -/
theorem trimChars_concat {s : List Char} {c : Char} (hc : isBlank c = true) :
    trimChars (s ++ [c]) = trimChars s := by
  simp only [trimChars, trimBy, List.dropWhile_append, List.dropWhile_cons_of_pos hc,
    List.dropWhile_nil]
  split
  · next hempty => rw [List.isEmpty_iff.1 hempty]
  · rw [List.reverse_append, List.reverse_singleton, List.singleton_append,
      List.dropWhile_cons_of_pos hc]

theorem trimChars_dropReturn (s : List Char) : trimChars (dropReturn s) = trimChars s := by
  rw [dropReturn]
  split
  · next hlast =>
    obtain ⟨front, rfl⟩ := List.getLast?_eq_some_iff.1 hlast
    rw [List.dropLast_concat, trimChars_concat (by decide)]
  · rfl

/-- What stands first when the blanks around it are dropped stands behind blanks. -/
theorem head?_trimChars_eq_some_iff {s : List Char} {c : Char} (hc : isBlank c = false) :
    (trimChars s).head? = some c ↔ ∃ gap rest, Blank gap ∧ s = gap ++ c :: rest := by
  constructor
  · intro h
    obtain ⟨rest, hrest⟩ := List.head?_eq_some_iff.1 h
    obtain ⟨behind, hbehind⟩ := trimBy_isPrefix isBlank s
    rw [show trimBy isBlank s = _ from hrest, List.cons_append] at hbehind
    refine ⟨s.takeWhile isBlank, rest ++ behind, List.all_eq_true.1 List.all_takeWhile, ?_⟩
    rw [hbehind, List.takeWhile_append_dropWhile]
  · rintro ⟨gap, rest, hgap, rfl⟩
    have hdrop : (gap ++ c :: rest).dropWhile isBlank = c :: rest := by
      rw [List.dropWhile_append_of_pos hgap, List.dropWhile_cons_of_neg (by simp [hc])]
    have hmem : c ∈ trimChars (gap ++ c :: rest) :=
      mem_trimChars_of_not_blank (List.mem_append_right _ List.mem_cons_self) hc
    obtain ⟨first, others, htrim⟩ := List.exists_cons_of_ne_nil (List.ne_nil_of_mem hmem)
    have hfront := trimBy_isPrefix isBlank (gap ++ c :: rest)
    rw [hdrop, show trimBy isBlank (gap ++ c :: rest) = _ from htrim, List.cons_prefix_cons] at hfront
    rw [htrim, hfront.1]
    rfl

/-- Characters that are kept when the blanks around them are dropped, at least one, on one line. -/
structure IsEntry (s : List Char) : Prop where
  /-- There is a character. -/
  ne_nil : s ≠ []
  /-- No blanks stand around them. -/
  trimmed : trimChars s = s
  /-- No character ends the line. -/
  no_feed : '\n' ∉ s

instance (s : List Char) : Decidable (IsEntry s) :=
  decidable_of_iff (s ≠ [] ∧ trimChars s = s ∧ '\n' ∉ s)
    ⟨fun h => ⟨h.1, h.2.1, h.2.2⟩, fun h => ⟨h.ne_nil, h.trimmed, h.no_feed⟩⟩

theorem IsEntry.isLine {s : List Char} (h : IsEntry s) : IsLine s where
  ne_nil := h.ne_nil
  no_feed := h.no_feed
  no_return hlast := by
    rw [← h.trimmed] at hlast
    exact absurd (not_of_getLast?_trimBy hlast) (by decide)

/-- What is left of a line when the blanks around it are dropped is an entry. -/
theorem isEntry_trimChars {s : List Char} (hne : trimChars s ≠ []) (hfeed : '\n' ∉ s) :
    IsEntry (trimChars s) where
  ne_nil := hne
  trimmed := trimChars_trimChars s
  no_feed hmem := hfeed (mem_of_mem_trimBy hmem)

/-! ## Joining -/

theorem joinWith_cons_cons (separator p q : List Char) (parts : List (List Char)) :
    joinWith separator (p :: q :: parts) = p ++ separator ++ joinWith separator (q :: parts) := by
  simp [joinWith, List.intersperse]

@[simp] theorem joinWith_nil (separator : List Char) : joinWith separator [] = [] := rfl

@[simp] theorem joinWith_singleton (separator p : List Char) : joinWith separator [p] = p := by
  simp [joinWith]

theorem mem_joinWith {separator : List Char} {c : Char} : ∀ {parts : List (List Char)},
    c ∈ joinWith separator parts → c ∈ separator ∨ ∃ p ∈ parts, c ∈ p
  | [p], h => Or.inr ⟨p, List.mem_cons_self, by simpa using h⟩
  | p :: q :: parts, h => by
    rw [joinWith_cons_cons, List.mem_append, List.mem_append] at h
    rcases h with (h | h) | h
    · exact Or.inr ⟨p, List.mem_cons_self, h⟩
    · exact Or.inl h
    · exact (mem_joinWith h).imp_right fun ⟨x, hx, hc⟩ => ⟨x, List.mem_cons_of_mem p hx, hc⟩

/-- Joined parts end as one of the parts does. -/
theorem exists_getLast?_joinWith (separator : List Char) : ∀ {parts : List (List Char)},
    parts ≠ [] → (∀ p ∈ parts, p ≠ []) →
      ∃ p ∈ parts, (joinWith separator parts).getLast? = p.getLast?
  | [p], _, _ => ⟨p, List.mem_cons_self, by rw [joinWith_singleton]⟩
  | p :: q :: parts, _, h => by
    have hrest : ∀ x ∈ q :: parts, x ≠ [] := fun x hx => h x (List.mem_cons_of_mem p hx)
    obtain ⟨x, hx, hlast⟩ := exists_getLast?_joinWith separator (List.cons_ne_nil q parts) hrest
    refine ⟨x, List.mem_cons_of_mem p hx, ?_⟩
    rw [joinWith_cons_cons, List.getLast?_append, hlast, List.getLast?_eq_some_getLast (hrest x hx)]
    rfl

/-! ## Words -/

/-- One step of the cut into words. -/
def wordStep : Char → List Char × List (List Char) → List Char × List (List Char) :=
  segmentStep fun c => if isBlank c then .gap else .letter

theorem wordStep_blank {c : Char} (hc : isBlank c = true) (acc : List Char × List (List Char)) :
    wordStep c acc = ([], closeRun acc.1 acc.2) := by
  simp [wordStep, segmentStep, hc]

theorem wordStep_not_blank {c : Char} (hc : isBlank c = false)
    (acc : List Char × List (List Char)) : wordStep c acc = (c :: acc.1, acc.2) := by
  simp [wordStep, segmentStep, hc]

theorem closeRun_ne_nil {run : List Char} {done : List (List Char)} (h : run ≠ [] ∨ done ≠ []) :
    closeRun run done ≠ [] := by
  rw [closeRun]
  split
  · next hrun => exact h.resolve_left (not_not_intro (by simpa using hrun))
  · exact List.cons_ne_nil _ _

theorem wordChars_append_blank {c : Char} (hc : isBlank c = true) (a b : List Char) :
    wordChars (a ++ c :: b) = wordChars a ++ wordChars b :=
  segments_append_gap _ (by simp [hc]) a b

/-- A word is its only word. -/
theorem IsWord.wordChars_eq {s : List Char} (h : IsWord s) : wordChars s = [s] :=
  segments_of_letter h.ne_nil fun c hc => by simp [h.not_blank c hc]

/-- Words joined by single spaces are the words of the whole. -/
theorem wordChars_joinWith : ∀ {ws : List (List Char)}, (∀ w ∈ ws, IsWord w) →
    wordChars (joinWith [' '] ws) = ws
  | [], _ => rfl
  | [w], h => by
    rw [joinWith_singleton]
    exact (h w List.mem_cons_self).wordChars_eq
  | w :: v :: ws, h => by
    rw [joinWith_cons_cons, List.append_assoc, List.singleton_append,
      wordChars_append_blank (by decide), (h w List.mem_cons_self).wordChars_eq,
      wordChars_joinWith fun x hx => h x (List.mem_cons_of_mem w hx)]
    rfl

/-- What is cut from a text are words of characters of the text. -/
theorem isWord_of_mem_wordChars {s w : List Char} (hw : w ∈ wordChars s) :
    IsWord w ∧ ∀ c ∈ w, c ∈ s := by
  obtain ⟨hsegment, hmem⟩ := isSegment_of_mem_segments hw
  rcases hsegment with ⟨c, -, hmark⟩ | ⟨hne, hletter⟩
  · cases hc : isBlank c <;> simp [hc] at hmark
  · exact ⟨⟨hne, fun c hc => by simpa using hletter c hc⟩, hmem⟩

/-- A text with a character that is not a blank has a word. -/
theorem wordChars_ne_nil {s : List Char} {c : Char} (hc : c ∈ s) (hblank : isBlank c = false) :
    wordChars s ≠ [] := by
  refine closeRun_ne_nil ?_
  induction s with
  | nil => cases hc
  | cons x s ih =>
    cases hx : isBlank x with
    | false =>
      refine Or.inl ?_
      show (wordStep x _).1 ≠ []
      rw [wordStep_not_blank hx]
      exact List.cons_ne_nil _ _
    | true =>
      have hmem : c ∈ s := (List.mem_cons.1 hc).resolve_left fun h => by
        rw [h, hx] at hblank
        cases hblank
      refine Or.inr ?_
      show (wordStep x _).2 ≠ []
      rw [wordStep_blank hx]
      exact closeRun_ne_nil (ih hmem)

theorem wordChars_eq_nil_iff {s : List Char} : wordChars s = [] ↔ Blank s := by
  constructor
  · exact fun h c hc => Bool.of_not_eq_false fun hblank => wordChars_ne_nil hc hblank h
  · refine fun h => List.eq_nil_iff_forall_not_mem.2 fun w hw => ?_
    obtain ⟨hword, hmem⟩ := isWord_of_mem_wordChars hw
    obtain ⟨c, hc⟩ := List.exists_mem_of_ne_nil w hword.ne_nil
    exact Bool.false_ne_true ((hword.not_blank c hc).symm.trans (h c (hmem c hc)))

/-! ## Fields and lines -/

theorem fieldChars_ne_nil (sep : Char) (s : List Char) : fieldChars sep s ≠ [] := by
  cases s with
  | nil => exact List.cons_ne_nil _ _
  | cons c s =>
    rw [fieldChars, List.foldr_cons]
    split
    · exact List.cons_ne_nil _ _
    · rw [ne_eq, List.modifyHead_eq_nil_iff]
      exact fieldChars_ne_nil sep s

/-- A separator cuts a text into two parts with fields of their own. -/
theorem fieldChars_append_sep (sep : Char) (a b : List Char) :
    fieldChars sep (a ++ sep :: b) = fieldChars sep a ++ fieldChars sep b := by
  induction a with
  | nil => simp [fieldChars]
  | cons c a ih =>
    obtain ⟨first, rest, hfields⟩ := List.exists_cons_of_ne_nil (fieldChars_ne_nil sep a)
    have hstep : ∀ s, fieldChars sep (c :: s) =
        if c = sep then [] :: fieldChars sep s else (fieldChars sep s).modifyHead (c :: ·) :=
      fun _ => rfl
    rw [List.cons_append, hstep, hstep, ih, hfields]
    split <;> rfl

theorem fieldChars_of_not_mem {sep : Char} {a : List Char} (ha : sep ∉ a) :
    fieldChars sep a = [a] := by
  induction a with
  | nil => rfl
  | cons c a ih =>
    rw [List.mem_cons, not_or] at ha
    rw [fieldChars, List.foldr_cons, if_neg (Ne.symm ha.1)]
    exact congrArg (List.modifyHead (c :: ·)) (ih ha.2)

theorem fieldChars_append {sep : Char} {a : List Char} (ha : sep ∉ a) (b : List Char) :
    fieldChars sep (a ++ sep :: b) = a :: fieldChars sep b := by
  rw [fieldChars_append_sep, fieldChars_of_not_mem ha, List.singleton_append]

theorem fieldChars_joinWith {sep : Char} : ∀ {parts : List (List Char)}, parts ≠ [] →
    (∀ p ∈ parts, sep ∉ p) → fieldChars sep (joinWith [sep] parts) = parts
  | [p], _, h => by
    rw [joinWith_singleton]
    exact fieldChars_of_not_mem (h p List.mem_cons_self)
  | p :: q :: parts, _, h => by
    rw [joinWith_cons_cons, List.append_assoc, List.singleton_append,
      fieldChars_append (h p List.mem_cons_self),
      fieldChars_joinWith (List.cons_ne_nil q parts) fun x hx => h x (List.mem_cons_of_mem p hx)]

/-- A text consists of its fields, with the separator between them. -/
theorem joinWith_fieldChars (sep : Char) : ∀ s : List Char, joinWith [sep] (fieldChars sep s) = s
  | [] => rfl
  | c :: s => by
    obtain ⟨first, rest, hfields⟩ := List.exists_cons_of_ne_nil (fieldChars_ne_nil sep s)
    have hrest := joinWith_fieldChars sep s
    have hstep : fieldChars sep (c :: s) =
        if c = sep then [] :: fieldChars sep s else (fieldChars sep s).modifyHead (c :: ·) := rfl
    rw [hfields] at hrest hstep
    rw [hstep]
    split
    · next hsep => rw [joinWith_cons_cons, hrest, hsep, List.nil_append, List.singleton_append]
    · rw [List.modifyHead_cons]
      cases rest with
      | nil =>
        rw [joinWith_singleton] at hrest ⊢
        rw [hrest]
      | cons second rest =>
        rw [joinWith_cons_cons] at hrest ⊢
        rw [← hrest]
        rfl

/-- No field holds a separator. -/
theorem not_mem_of_mem_fieldChars {sep : Char} : ∀ {s field : List Char},
    field ∈ fieldChars sep s → sep ∉ field
  | [], field, h => by
    rw [List.mem_singleton.1 h]
    exact List.not_mem_nil
  | c :: s, field, h => by
    rw [fieldChars, List.foldr_cons] at h
    split at h
    · rcases List.mem_cons.1 h with rfl | h
      · exact List.not_mem_nil
      · exact not_mem_of_mem_fieldChars h
    · next hne =>
      change field ∈ (fieldChars sep s).modifyHead (c :: ·) at h
      cases hfields : fieldChars sep s with
      | nil => simp [hfields] at h
      | cons first rest =>
        have hfirst : sep ∉ first := not_mem_of_mem_fieldChars (hfields ▸ List.mem_cons_self)
        rw [hfields, List.modifyHead_cons] at h
        rcases List.mem_cons.1 h with rfl | h
        · rw [List.mem_cons, not_or]
          exact ⟨Ne.symm hne, hfirst⟩
        · exact not_mem_of_mem_fieldChars (hfields ▸ List.mem_cons_of_mem first h)

/-- A text that consists of some lines, with a line feed between each two of them. -/
structure MadeOf (text : List Char) (lines : List (List Char)) : Prop where
  /-- No line holds a line feed. -/
  no_feed : ∀ line ∈ lines, '\n' ∉ line
  /-- The lines make up the text. -/
  joined : joinWith ['\n'] lines = text

theorem madeOf_fieldChars (text : List Char) : MadeOf text (fieldChars '\n' text) where
  no_feed _ := not_mem_of_mem_fieldChars
  joined := joinWith_fieldChars '\n' text

/-- If there are lines at all, no others make up the text. -/
theorem MadeOf.fieldChars_eq {text : List Char} {lines : List (List Char)} (h : MadeOf text lines)
    (hne : lines ≠ []) : fieldChars '\n' text = lines := by
  rw [← h.joined, fieldChars_joinWith hne h.no_feed]

/-- What stands in front of a line feed is a line, and so is what stands behind the last one unless
it is empty. -/
theorem exists_madeOf_lineChars (text : List Char) : ∃ front last, MadeOf text (front ++ [last]) ∧
    lineChars text = front.map dropReturn ++ if last = [] then [] else [last] := by
  have hne := fieldChars_ne_nil '\n' text
  have hmade := madeOf_fieldChars text
  rw [← List.dropLast_concat_getLast hne] at hmade
  refine ⟨_, _, hmade, ?_⟩
  rw [lineChars, List.getLast?_eq_some_getLast hne]
  simp only [Option.getD_some, List.isEmpty_iff]

theorem map_dropReturn {ls : List (List Char)} (h : ∀ l ∈ ls, IsLine l) :
    ls.map dropReturn = ls := by
  refine (List.map_congr_left fun l hl => ?_).trans (List.map_id ls)
  rw [dropReturn, if_neg (h l hl).no_return]
  rfl

/-- Lines joined by line feeds are the lines of the whole. -/
theorem lineChars_joinWith {ls : List (List Char)} (h : ∀ l ∈ ls, IsLine l) :
    lineChars (joinWith ['\n'] ls) = ls := by
  by_cases hnil : ls = []
  · rw [hnil]
    rfl
  · have hfields : fieldChars '\n' (joinWith ['\n'] ls) = ls :=
      fieldChars_joinWith hnil fun l hl => (h l hl).no_feed
    have hmap := map_dropReturn fun l hl => h l ((List.dropLast_prefix ls).mem hl)
    have hlast : (ls.getLast hnil).isEmpty = false := by
      simpa using (h _ (List.getLast_mem hnil)).ne_nil
    simp only [lineChars, hfields, hmap, List.getLast?_eq_some_getLast hnil, Option.getD_some, hlast,
      Bool.false_eq_true, if_false]
    exact List.dropLast_concat_getLast hnil

theorem fieldChars_flatMap {sep : Char} {parts : List (List Char)} (h : ∀ p ∈ parts, sep ∉ p) :
    fieldChars sep (parts.flatMap fun p => p ++ [sep]) = parts ++ [[]] := by
  induction parts with
  | nil => rfl
  | cons p parts ih =>
    have hrest := ih fun x hx => h x (List.mem_cons_of_mem p hx)
    rw [List.flatMap_cons, List.append_assoc, List.singleton_append,
      fieldChars_append (h p List.mem_cons_self), hrest]
    rfl

/-- Lines that each end with a line feed are the lines of the whole. -/
theorem lineChars_flatMap {ls : List (List Char)} (h : ∀ l ∈ ls, IsLine l) :
    lineChars (ls.flatMap fun l => l ++ ['\n']) = ls := by
  have hfields := fieldChars_flatMap fun l hl => (h l hl).no_feed
  simp [lineChars, hfields, map_dropReturn h]

/-- No line holds a line feed. -/
theorem not_mem_of_mem_lineChars {s line : List Char} (h : line ∈ lineChars s) : '\n' ∉ line := by
  have hfield : ∀ field ∈ fieldChars '\n' s, '\n' ∉ field := fun _ => not_mem_of_mem_fieldChars
  rw [lineChars, List.mem_append] at h
  rcases h with h | h
  · obtain ⟨field, hmem, rfl⟩ := List.mem_map.1 h
    have hnot := hfield field (List.dropLast_subset _ hmem)
    rw [dropReturn]
    split
    · exact fun hfeed => hnot (List.dropLast_subset _ hfeed)
    · exact hnot
  · split at h
    · cases h
    · rw [List.mem_singleton.1 h]
      cases hlast : (fieldChars '\n' s).getLast? with
      | none => exact List.not_mem_nil
      | some field => exact hfield field (List.mem_of_getLast? hlast)

/-! ## The first separator -/

theorem splitFirst?_append {sep : Char} {a : List Char} (ha : sep ∉ a) (b : List Char) :
    splitFirst? sep (a ++ sep :: b) = some (a, b) := by
  induction a with
  | nil => simp [splitFirst?]
  | cons c a ih =>
    rw [List.mem_cons, not_or] at ha
    simp [splitFirst?, Ne.symm ha.1, ih ha.2]

/-- A text with a separator is split, and what stands behind the separator is not touched. -/
theorem exists_splitFirst?_append (sep : Char) (a b : List Char) :
    ∃ front rest, splitFirst? sep (a ++ sep :: b) = some (front, rest) ∧ b <:+ rest := by
  induction a with
  | nil => exact ⟨[], b, by simp [splitFirst?], List.suffix_refl b⟩
  | cons c a ih =>
    by_cases hc : c = sep
    · refine ⟨[], a ++ sep :: b, by simp [splitFirst?, hc], ?_⟩
      exact (List.suffix_cons sep b).trans (List.suffix_append a _)
    · obtain ⟨front, rest, hsplit, hsuffix⟩ := ih
      exact ⟨c :: front, rest, by simp [splitFirst?, hc, hsplit], hsuffix⟩

/-- A text is split at its first separator. -/
theorem splitFirst?_eq_some_iff {sep : Char} {s a b : List Char} :
    splitFirst? sep s = some (a, b) ↔ s = a ++ sep :: b ∧ sep ∉ a := by
  constructor
  · intro h
    induction s generalizing a with
    | nil => simp [splitFirst?] at h
    | cons c s ih =>
      rw [splitFirst?] at h
      split at h
      · next heq =>
        cases h
        exact ⟨by rw [heq, List.nil_append], List.not_mem_nil⟩
      · next hne =>
        obtain ⟨⟨a', b'⟩, hsplit, heq⟩ := Option.map_eq_some_iff.1 h
        cases heq
        obtain ⟨rfl, hnot⟩ := ih hsplit
        rw [List.mem_cons, not_or]
        exact ⟨rfl, Ne.symm hne, hnot⟩
  · rintro ⟨rfl, ha⟩
    exact splitFirst?_append ha b

/-- A text without a separator is not split. -/
theorem splitFirst?_eq_none_iff {sep : Char} {s : List Char} : splitFirst? sep s = none ↔ sep ∉ s := by
  constructor
  · intro h hmem
    obtain ⟨a, b, rfl⟩ := List.append_of_mem hmem
    obtain ⟨front, rest, hsplit, -⟩ := exists_splitFirst?_append sep a b
    rw [h] at hsplit
    cases hsplit
  · intro h
    refine Option.eq_none_iff_forall_ne_some.2 fun parts hsplit => h ?_
    obtain ⟨rfl, -⟩ := splitFirst?_eq_some_iff.1 hsplit
    exact List.mem_append_right _ List.mem_cons_self

end Concordance.Text
