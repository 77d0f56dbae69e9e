import Concordance.Listing.LemmaIndex
import Concordance.Proofs.Contents
import Concordance.Proofs.Listing.Basic
import Concordance.Proofs.Text.Lines

/-!
# Lemma listings, written and read

Lemma groups are recorded if each lemma is trimmed and holds no line feed, and has tokens that are
words (`LemmaGroups.Recorded`). The listing of such groups is always read again
(`exists_parse_render`). A line is cut at its first colon (`readLine_eq_ok_iff`), and taking in what a
line gives keeps groups recorded (`recorded_addLine`), so all groups that any listing gives are
recorded and have no colon in a lemma (`recorded_of_parse`).

So recorded groups are read back exactly if no lemma of theirs has a colon (`parse_render_eq_iff`),
and what has been read from a text is listed and read again without a change (`groups_roundTrip`).
-/

namespace Concordance

open Listing Text

/-- Groups whose listing gives each of them one line : lemmas are trimmed and without line feeds,
and each has tokens, which are words. -/
structure LemmaGroups.Recorded (groups : LemmaGroups) : Prop where
  /-- A lemma is trimmed. -/
  trimmed : ∀ lem ∈ groups, trimChars lem.toList = lem.toList
  /-- A lemma stands on one line. -/
  no_feed : ∀ lem ∈ groups, '\n' ∉ lem.toList
  /-- A lemma has tokens. -/
  nonempty : ∀ (lem : String) (tokens : Std.ExtTreeSet String), groups[lem]? = some tokens → tokens ≠ ∅
  /-- The tokens are words. -/
  words : ∀ (lem : String) (tokens : Std.ExtTreeSet String), groups[lem]? = some tokens →
    ∀ t ∈ tokens, IsWord (String.toList t)

/-- No lemma has a colon. -/
def LemmaGroups.ColonFree (groups : LemmaGroups) : Prop :=
  ∀ lem ∈ groups, ':' ∉ lem.toList

namespace LemmaGroups

variable {groups : LemmaGroups} {group : String × Std.ExtTreeSet String}

/-- No groups are recorded. -/
theorem recorded_empty : Recorded ∅ where
  trimmed _ hlem := absurd hlem Std.ExtTreeMap.not_mem_empty
  no_feed _ hlem := absurd hlem Std.ExtTreeMap.not_mem_empty
  nonempty _ _ hget := by simp at hget
  words _ _ hget := by simp at hget

theorem mem_of_mem_toList (hgroup : group ∈ groups.toList) : group.1 ∈ groups := by
  rw [← Std.ExtTreeMap.mem_keys, ← Std.ExtTreeMap.map_fst_toList_eq_keys]
  exact List.mem_map_of_mem hgroup

/-- What is known of each group. -/
theorem Recorded.of_mem_toList (h : groups.Recorded) (hgroup : group ∈ groups.toList) :
    (trimChars group.1.toList = group.1.toList ∧ '\n' ∉ group.1.toList) ∧
      group.2 ≠ ∅ ∧ ∀ t ∈ group.2, IsWord (String.toList t) := by
  have hget : groups[group.1]? = some group.2 :=
    Std.ExtTreeMap.mem_toList_iff_getElem?_eq_some.1 hgroup
  have hmem := mem_of_mem_toList hgroup
  exact ⟨⟨h.trimmed _ hmem, h.no_feed _ hmem⟩, h.nonempty _ _ hget, h.words _ _ hget⟩

end LemmaGroups

namespace LemmaIndex

variable {groups : LemmaGroups} {group : String × Std.ExtTreeSet String}

/-! ## Single lines -/

/-- What stands behind the lemma and the colon of a line. -/
def tokenPart (tokens : Std.ExtTreeSet String) : List Char :=
  ' ' :: joinWith [' '] (tokens.toList.map String.toList)

theorem renderLine_eq (group : String × Std.ExtTreeSet String) :
    renderLine group = group.1.toList ++ ':' :: tokenPart group.2 := rfl

/-- The words behind the colon are the tokens. -/
theorem wordChars_tokenPart {tokens : Std.ExtTreeSet String}
    (h : ∀ t ∈ tokens, IsWord (String.toList t)) :
    wordChars (tokenPart tokens) = tokens.toList.map String.toList := by
  rw [tokenPart, ← List.nil_append (' ' :: _), wordChars_append_blank (by decide),
    wordChars_joinWith (by simpa using h)]
  rfl

theorem map_toList_ne_nil {tokens : Std.ExtTreeSet String} (hne : tokens ≠ ∅) :
    tokens.toList.map String.toList ≠ [] := by
  rw [ne_eq, List.map_eq_nil_iff, Std.ExtTreeSet.toList_eq_nil_iff]
  exact hne

/-- Behind the colon stands a character that is not a blank. -/
theorem exists_mem_tokenPart {tokens : Std.ExtTreeSet String} (hne : tokens ≠ ∅)
    (h : ∀ t ∈ tokens, IsWord (String.toList t)) : ∃ c ∈ tokenPart tokens, isBlank c = false := by
  have hwords := wordChars_tokenPart h
  obtain ⟨w, hw⟩ := List.exists_mem_of_ne_nil _ (map_toList_ne_nil hne)
  rw [← hwords] at hw
  obtain ⟨hword, hmem⟩ := isWord_of_mem_wordChars hw
  obtain ⟨c, hc⟩ := List.exists_mem_of_ne_nil _ hword.ne_nil
  exact ⟨c, hmem c hc, hword.not_blank c hc⟩

/-- A line is cut at its first colon : the lemma stands in front of it, and words behind it. -/
theorem readLine_eq_ok_iff {line : List Char} {entry : String × List String} :
    readLine line = .ok entry ↔ ∃ front rest, line = front ++ ':' :: rest ∧ ':' ∉ front ∧
      wordChars rest ≠ [] ∧
        entry = (String.ofList (trimChars front), (wordChars rest).map String.ofList) := by
  constructor
  · intro h
    rw [readLine] at h
    split at h
    · cases h
    · next front rest hsplit =>
      obtain ⟨hline, hcolon⟩ := splitFirst?_eq_some_iff.1 hsplit
      split at h
      · cases h
      · next hwords =>
        cases h
        exact ⟨front, rest, hline, hcolon, hwords, rfl⟩
  · rintro ⟨front, rest, rfl, hcolon, hwords, rfl⟩
    rw [readLine, splitFirst?_append hcolon]
    dsimp only
    split
    · next hnil => exact absurd hnil hwords
    · rfl

/-- A line can be read if it has a colon and a character that is not a blank behind it. -/
theorem exists_readLine {front rest : List Char} {c : Char} (hc : c ∈ rest)
    (hblank : isBlank c = false) : ∃ entry, readLine (front ++ ':' :: rest) = .ok entry := by
  obtain ⟨front', rest', hsplit, hsuffix⟩ := exists_splitFirst?_append ':' front rest
  obtain ⟨hline, hcolon⟩ := splitFirst?_eq_some_iff.1 hsplit
  have hne : wordChars rest' ≠ [] := wordChars_ne_nil (hsuffix.mem hc) hblank
  exact ⟨_, readLine_eq_ok_iff.2 ⟨front', rest', hline, hcolon, hne, rfl⟩⟩

theorem readLine_renderLine (htrim : trimChars group.1.toList = group.1.toList)
    (hcolon : ':' ∉ group.1.toList) (hne : group.2 ≠ ∅)
    (hwords : ∀ t ∈ group.2, IsWord (String.toList t)) :
    readLine (renderLine group) = .ok (group.1, group.2.toList) := by
  have htokens := wordChars_tokenPart hwords
  refine readLine_eq_ok_iff.2 ⟨_, _, renderLine_eq group, hcolon, ?_, ?_⟩
  · rw [htokens]
    exact map_toList_ne_nil hne
  · simp [htokens, htrim, Function.comp_def]

theorem isLine_renderLine (hfeed : '\n' ∉ group.1.toList) (hne : group.2 ≠ ∅)
    (hwords : ∀ t ∈ group.2, IsWord (String.toList t)) : IsLine (renderLine group) := by
  have hword : ∀ w ∈ group.2.toList.map String.toList, IsWord w := by simpa using hwords
  refine ⟨by simp [renderLine_eq], fun hmem => ?_, ?_⟩
  · rw [renderLine_eq, List.mem_append, List.mem_cons, tokenPart, List.mem_cons] at hmem
    rcases hmem with hmem | hmem | hmem | hmem
    · exact hfeed hmem
    · exact absurd hmem (by decide)
    · exact absurd hmem (by decide)
    · rcases mem_joinWith hmem with hsep | ⟨w, hw, hmem⟩
      · exact absurd hsep (by decide)
      · exact absurd ((hword w hw).not_blank _ hmem) (by decide)
  · obtain ⟨w, hw, hlast⟩ := exists_getLast?_joinWith [' '] (map_toList_ne_nil hne)
      fun p hp => (hword p hp).ne_nil
    have hline : renderLine group =
        group.1.toList ++ [':', ' '] ++ joinWith [' '] (group.2.toList.map String.toList) := by
      simp [renderLine_eq, tokenPart]
    rw [hline, List.getLast?_append, hlast, List.getLast?_eq_some_getLast (hword w hw).ne_nil]
    intro h
    rw [Option.some_or, Option.some.injEq] at h
    exact absurd ((hword w hw).not_blank _ (List.getLast_mem _)) (by rw [h]; decide)

/-- What a line gives can be recorded, and its lemma has no colon. -/
theorem of_readLine {line : List Char} {entry : String × List String} (hfeed : '\n' ∉ line)
    (h : readLine line = .ok entry) :
    (trimChars entry.1.toList = entry.1.toList ∧ '\n' ∉ entry.1.toList ∧ ':' ∉ entry.1.toList) ∧
      entry.2 ≠ [] ∧ ∀ t ∈ entry.2, IsWord (String.toList t) := by
  obtain ⟨front, rest, rfl, hcolon, hne, rfl⟩ := readLine_eq_ok_iff.1 h
  simp only [String.toList_ofList, ne_eq, List.map_eq_nil_iff]
  refine ⟨⟨trimChars_trimChars front, fun hmem => hfeed ?_, fun hmem => hcolon ?_⟩, hne, ?_⟩
  · exact List.mem_append_left _ (mem_of_mem_trimBy hmem)
  · exact mem_of_mem_trimBy hmem
  · intro t ht
    obtain ⟨w, hw, rfl⟩ := List.mem_map.1 ht
    rw [String.toList_ofList]
    exact (isWord_of_mem_wordChars hw).1

/-! ## Taking lines in -/

theorem mem_foldl_insert {tokens : List String} {set : Std.ExtTreeSet String} {t : String} :
    t ∈ tokens.foldl (fun set token => set.insert token) set ↔ t ∈ set ∨ t ∈ tokens := by
  rw [← Std.ExtTreeSet.insertMany_list_eq_foldl, Std.ExtTreeSet.mem_insertMany_list,
    List.contains_iff_mem]

/-- The tokens of a line join those that its lemma has already. -/
theorem getElem?_addLine (groups : LemmaGroups) (entry : String × List String) (lem : String) :
    (addLine groups entry)[lem]? = if entry.1 = lem then
      some (entry.2.foldl (fun set token => set.insert token) (groups[lem]?.getD ∅))
    else groups[lem]? := by
  rw [addLine, Std.ExtTreeMap.getElem?_insert]
  by_cases h : entry.1 = lem
  · rw [if_pos h, if_pos (Std.LawfulEqCmp.compare_eq_iff_eq.2 h), h]
  · rw [if_neg h, if_neg (mt Std.LawfulEqCmp.compare_eq_iff_eq.1 h)]

theorem mem_addLine_iff {entry : String × List String} {lem : String} :
    lem ∈ addLine groups entry ↔ entry.1 = lem ∨ lem ∈ groups := by
  rw [addLine, Std.ExtTreeMap.mem_insert, Std.LawfulEqCmp.compare_eq_iff_eq]

/-- Recorded groups stay recorded when the tokens of a line are taken in. -/
theorem recorded_addLine {entry : String × List String} (h : groups.Recorded)
    (htrim : trimChars entry.1.toList = entry.1.toList) (hfeed : '\n' ∉ entry.1.toList)
    (hne : entry.2 ≠ []) (hwords : ∀ t ∈ entry.2, IsWord (String.toList t)) :
    (addLine groups entry).Recorded where
  trimmed lem hlem := by
    rcases mem_addLine_iff.1 hlem with rfl | hlem
    · exact htrim
    · exact h.trimmed lem hlem
  no_feed lem hlem := by
    rcases mem_addLine_iff.1 hlem with rfl | hlem
    · exact hfeed
    · exact h.no_feed lem hlem
  nonempty lem tokens hget := by
    rw [getElem?_addLine] at hget
    split at hget
    · cases hget
      obtain ⟨t, ht⟩ := List.exists_mem_of_ne_nil _ hne
      exact Std.ExtTreeSet.ne_empty_of_mem (mem_foldl_insert.2 (Or.inr ht))
    · exact h.nonempty lem tokens hget
  words lem tokens hget t ht := by
    rw [getElem?_addLine] at hget
    split at hget
    · cases hget
      rcases mem_foldl_insert.1 ht with ht | ht
      · cases hold : groups[lem]? with
        | none => simp [hold] at ht
        | some old => exact h.words lem old hold t (by simpa [hold] using ht)
      · exact hwords t ht
    · exact h.words lem tokens hget t ht

theorem colonFree_addLine {entry : String × List String} (h : groups.ColonFree)
    (hcolon : ':' ∉ entry.1.toList) : (addLine groups entry).ColonFree := by
  intro lem hlem
  rcases mem_addLine_iff.1 hlem with rfl | hlem
  · exact hcolon
  · exact h lem hlem

/-! ## Whole listings -/

/-- The listing of recorded groups has one line for each of them. -/
theorem lineChars_render (h : groups.Recorded) :
    lineChars (render groups).toList = groups.toList.map renderLine := by
  rw [render, String.toList_ofList]
  refine lineChars_joinWith fun l hl => ?_
  obtain ⟨group, hgroup, rfl⟩ := List.mem_map.1 hl
  obtain ⟨⟨-, hfeed⟩, hne, hwords⟩ := h.of_mem_toList hgroup
  exact isLine_renderLine hfeed hne hwords

/-- The listing of recorded groups can be read. -/
theorem exists_parse_render (h : groups.Recorded) : ∃ read, parse (render groups) = .ok read := by
  rw [parse, lineChars_render h]
  refine exists_readLines_of_forall fun l hl => ?_
  obtain ⟨group, hgroup, rfl⟩ := List.mem_map.1 hl
  obtain ⟨-, hne, hwords⟩ := h.of_mem_toList hgroup
  obtain ⟨c, hc, hblank⟩ := exists_mem_tokenPart hne hwords
  exact exists_readLine hc hblank

/-- The groups that a listing gives are recorded, and no lemma of theirs has a colon. -/
theorem recorded_of_parse {text : String} (h : parse text = .ok groups) :
    groups.Recorded ∧ groups.ColonFree := by
  refine readLines_keeps (fun groups => groups.Recorded ∧ groups.ColonFree) ?_ ?_ h
  · rintro line hline acc entry hread ⟨hrecorded, hfree⟩
    obtain ⟨⟨htrim, hfeed, hcolon⟩, hne, hwords⟩ :=
      of_readLine (not_mem_of_mem_lineChars hline) hread
    exact ⟨recorded_addLine hrecorded htrim hfeed hne hwords, colonFree_addLine hfree hcolon⟩
  · exact ⟨LemmaGroups.recorded_empty, fun lem hlem => absurd hlem Std.ExtTreeMap.not_mem_empty⟩

/-- Lines of different lemmas are taken in one by one. -/
theorem foldl_addLine_eq : ∀ (entries : List (String × Std.ExtTreeSet String)) (acc : LemmaGroups),
    entries.Pairwise (fun a b => ¬compare a.1 b.1 = .eq) → (∀ entry ∈ entries, entry.1 ∉ acc) →
    (entries.map fun entry => (entry.1, entry.2.toList)).foldl addLine acc =
      entries.foldl (fun map entry => map.insert entry.1 entry.2) acc
  | [], _, _, _ => rfl
  | entry :: entries, acc, hpair, hnew => by
    have hadd : addLine acc (entry.1, entry.2.toList) = acc.insert entry.1 entry.2 := by
      rw [addLine, Std.ExtTreeMap.getElem?_eq_none (hnew entry List.mem_cons_self), Option.getD_none,
        ← Std.ExtTreeSet.ofList_eq_foldl, ofList_elements]
    rw [List.pairwise_cons] at hpair
    rw [List.map_cons, List.foldl_cons, List.foldl_cons, hadd]
    refine foldl_addLine_eq entries _ hpair.2 fun other hother => ?_
    rw [Std.ExtTreeMap.mem_insert, not_or]
    exact ⟨hpair.1 other hother, hnew other (List.mem_cons_of_mem entry hother)⟩

/-- Recorded groups without colons are read back from their listing. -/
theorem parse_render (h : groups.Recorded) (hcolon : groups.ColonFree) :
    parse (render groups) = .ok groups := by
  rw [parse, lineChars_render h, readLines_map fun g => (g.1, g.2.toList)]
  · rw [foldl_addLine_eq _ _ Std.ExtTreeMap.distinct_keys_toList
      fun _ _ => Std.ExtTreeMap.not_mem_empty, ← Std.ExtTreeMap.ofList_eq_foldl, ofList_entries]
  · intro group hgroup
    obtain ⟨⟨htrim, -⟩, hne, hwords⟩ := h.of_mem_toList hgroup
    have hfree : ':' ∉ group.1.toList := hcolon _ (LemmaGroups.mem_of_mem_toList hgroup)
    refine ⟨List.ne_nil_of_mem (mem_trimChars_of_not_blank (c := ':') ?_ (by decide)),
      readLine_renderLine htrim hfree hne hwords⟩
    simp [renderLine_eq]

/-- Recorded groups are read back from their listing exactly if no lemma has a colon. -/
theorem parse_render_eq_iff (h : groups.Recorded) :
    parse (render groups) = .ok groups ↔ groups.ColonFree :=
  ⟨fun hparse => (recorded_of_parse hparse).2, parse_render h⟩

/-- Groups are read back from their own listing exactly if they are recorded and no lemma of theirs
has a colon, and other groups are given by no listing. So the listing of what was read is read as
the same groups, whatever text they were read from. -/
theorem groups_roundTrip (groups : LemmaGroups) :
    (parse (render groups) = .ok groups ↔ groups.Recorded ∧ groups.ColonFree) ∧
    ((∃ text, parse text = .ok groups) ↔ groups.Recorded ∧ groups.ColonFree) ∧
    ∀ text, parse text = .ok groups → parse (render groups) = .ok groups := by
  have hback : groups.Recorded ∧ groups.ColonFree → parse (render groups) = .ok groups :=
    fun h => parse_render h.1 h.2
  refine ⟨⟨recorded_of_parse, hback⟩, ⟨?_, fun h => ⟨_, hback h⟩⟩, ?_⟩
  · rintro ⟨text, h⟩
    exact recorded_of_parse h
  · exact fun text h => hback (recorded_of_parse h)

/-- Blanks around a lemma are dropped, and its lines are taken together. -/
example : (parse "кот: коты кот\n\n дом\t:дома :\r\nкот:кот  кота").toOption.map render =
    some "дом: : дома\nкот: кот кота коты" := by decide +kernel

end LemmaIndex

end Concordance
