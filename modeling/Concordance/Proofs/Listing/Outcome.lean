import Concordance.Proofs.Except
import Concordance.Proofs.Listing.LemmaIndex
import Concordance.Proofs.Listing.UrlIndex
import Concordance.Proofs.Number.Numeral

/-!
# Which listings are read, and as what

Of each kind of listing it is said what can be wrong with a line (`UrlIndex.Wrong`,
`LemmaIndex.Wrong`) and what a line says (`UrlIndex.Names`, `LemmaIndex.Lists`), without mention of
how lines are read; a line is refused exactly if something is wrong with it, and for that reason
(`refused_iff`).

A listing is read unless something is wrong with one of its lines, and then the first such line is
blamed (`FirstWrong`). In what is read, an address is that of the last line of its number
(`UrlIndex.getElem?_of_parse`), and a lemma has the tokens of all its lines
(`LemmaIndex.mem_of_parse_iff`). Together, and with what the lines of a listing are, this is
`listings_outcome`.
-/

namespace Concordance

open Listing Text

/-! ## Address listings -/

namespace UrlIndex

variable {line : List Char} {id : DocId} {url : String}

/-- What is wrong with a line of an address listing. -/
inductive Wrong (line : List Char) : Reason → Prop
  /-- Without the blanks around it, it has no space. -/
  | noSpace (not_blank : ¬Blank line) (none : ' ' ∉ trimChars line) : Wrong line .expectedUrl
  /-- In front of its first space there is no number of 32 bits. -/
  | noNumber {front rest : List Char} (cut : trimChars line = front ++ ' ' :: rest)
      (first : ' ' ∉ front) (none : ∀ id : DocId, ¬Decimal.Spells front id.toNat) :
      Wrong line (.invalidId (String.ofList front))

/-- A line gives the address of a document : without the blanks around it, the number stands in
front of the first space and the address behind it. -/
def Names (line : List Char) (id : DocId) (url : String) : Prop :=
  ∃ front rest, trimChars line = front ++ ' ' :: rest ∧ ' ' ∉ front ∧
    Decimal.Spells front id.toNat ∧ url = String.ofList (trimChars rest)

/-- A line is refused for what is wrong with it. -/
theorem refused_iff {reason : Reason} : Refused readLine line reason ↔ Wrong line reason := by
  constructor
  · rintro ⟨hblank, hread⟩
    rw [readLine] at hread
    split at hread
    · next hsplit =>
      cases hread
      exact .noSpace (mt trimChars_eq_nil_iff.2 hblank) (splitFirst?_eq_none_iff.1 hsplit)
    · next front rest hsplit =>
      obtain ⟨hcut, hfirst⟩ := splitFirst?_eq_some_iff.1 hsplit
      split at hread
      · next hnone =>
        cases hread
        exact .noNumber hcut hfirst (Decimal.readUInt32?_eq_none_iff.1 hnone)
      · cases hread
  · intro h
    cases h with
    | noSpace hblank hnone =>
      refine ⟨mt trimChars_eq_nil_iff.1 hblank, ?_⟩
      rw [readLine, splitFirst?_eq_none_iff.2 hnone]
    | noNumber hcut hfirst hnone =>
      refine ⟨by simp [hcut], ?_⟩
      rw [readLine, hcut, splitFirst?_append hfirst]
      simp only [Decimal.readUInt32?_eq_none_iff.2 hnone]

theorem reading?_eq_some_iff_names :
    reading? readLine line = some (id, url) ↔ Names line id url := by
  rw [reading?_eq_some_iff, readLine_eq_ok_iff]
  simp only [Decimal.readUInt32?_eq_some_iff]
  refine and_iff_right_of_imp ?_
  rintro ⟨front, rest, hcut, -⟩
  simp [hcut]

/-- A line has the number of a document. -/
theorem any_reading?_iff :
    (reading? readLine line).any (fun entry => entry.1 == id) = true ↔
      ∃ url, Names line id url := by
  simp only [Option.any_eq_true, beq_iff_eq, Prod.exists, ← reading?_eq_some_iff_names]
  constructor
  · rintro ⟨id, url, hentry, rfl⟩
    exact ⟨url, hentry⟩
  · rintro ⟨url, hentry⟩
    exact ⟨id, url, hentry, rfl⟩

/-- An address is that of the last line of its number. -/
theorem getElem?_of_parse {text : String} {urls : Std.ExtTreeMap DocId String}
    (h : parse text = .ok urls) (id : DocId) (url : String) :
    urls[id]? = some url ↔ ∃ front line rest, lineChars text.toList = front ++ line :: rest ∧
      Names line id url ∧ ∀ later ∈ rest, ∀ other, ¬Names later id other := by
  obtain ⟨-, hentries⟩ := readLines_eq_ok_iff.1 h
  -- of the lines in reverse the first one that has the number counts
  rw [← hentries, ← Std.ExtTreeMap.ofList_eq_foldl, getElem?_ofList, ← List.filterMap_reverse,
    List.find?_filterMap]
  simp only [Option.map_eq_some_iff, Option.bind_eq_some_iff, List.find?_eq_some_iff_append,
    Bool.not_eq_true', ← Bool.not_eq_true, any_reading?_iff, not_exists]
  constructor
  · rintro ⟨⟨other, url⟩, ⟨line, ⟨⟨url', hnames⟩, rest, front, hsplit, hrest⟩, hentry⟩, rfl⟩
    have hsame := (reading?_eq_some_iff_names.2 hnames).symm.trans hentry
    obtain ⟨rfl, rfl⟩ := Prod.mk.inj (Option.some.inj hsame)
    refine ⟨front.reverse, line, rest.reverse, ?_, hnames, by simpa using hrest⟩
    simpa using congrArg List.reverse hsplit
  · rintro ⟨front, line, rest, hsplit, hnames, hrest⟩
    refine ⟨(id, url), ⟨line, ⟨⟨url, hnames⟩, rest.reverse, front.reverse, ?_, ?_⟩, ?_⟩, rfl⟩
    · simp [hsplit]
    · simpa using hrest
    · exact reading?_eq_some_iff_names.2 hnames

end UrlIndex

/-! ## Lemma listings -/

namespace LemmaIndex

variable {line : List Char} {lem token : String}

/-- What is wrong with a line of a lemma listing. -/
inductive Wrong (line : List Char) : Reason → Prop
  /-- It has no colon. -/
  | noColon (not_blank : ¬Blank line) (none : ':' ∉ line) : Wrong line .expectedLemma
  /-- Behind its first colon there are blanks only. -/
  | noTokens {front rest : List Char} (cut : line = front ++ ':' :: rest) (first : ':' ∉ front)
      (blank : Blank rest) : Wrong line .noTokens

/-- A line lists a token under a lemma : the lemma stands in front of the first colon, without the
blanks around it, and the token is a word behind the colon. -/
def Lists (line : List Char) (lem token : String) : Prop :=
  ∃ front rest, line = front ++ ':' :: rest ∧ ':' ∉ front ∧ lem = String.ofList (trimChars front) ∧
    token.toList ∈ wordChars rest

/-- A line with a colon is not blank. -/
theorem not_blank_of_colon {front rest : List Char} : ¬Blank (front ++ ':' :: rest) := fun h =>
  absurd (h ':' (List.mem_append_right _ List.mem_cons_self)) (by decide)

/-- A line is refused for what is wrong with it. -/
theorem refused_iff {reason : Reason} : Refused readLine line reason ↔ Wrong line reason := by
  constructor
  · rintro ⟨hblank, hread⟩
    rw [readLine] at hread
    split at hread
    · next hsplit =>
      cases hread
      exact .noColon (mt trimChars_eq_nil_iff.2 hblank) (splitFirst?_eq_none_iff.1 hsplit)
    · next front rest hsplit =>
      obtain ⟨hcut, hfirst⟩ := splitFirst?_eq_some_iff.1 hsplit
      split at hread
      · next hnil =>
        cases hread
        exact .noTokens hcut hfirst (wordChars_eq_nil_iff.1 hnil)
      · cases hread
  · intro h
    cases h with
    | noColon hblank hnone =>
      refine ⟨mt trimChars_eq_nil_iff.1 hblank, ?_⟩
      rw [readLine, splitFirst?_eq_none_iff.2 hnone]
    | noTokens hcut hfirst hblank =>
      subst hcut
      refine ⟨mt trimChars_eq_nil_iff.1 not_blank_of_colon, ?_⟩
      rw [readLine, splitFirst?_append hfirst]
      simp only [wordChars_eq_nil_iff.2 hblank]

/-- The entry of a line has the tokens that the line lists. -/
theorem exists_reading?_iff_lists : (∃ entry, reading? readLine line = some entry ∧ entry.1 = lem ∧
    token ∈ entry.2) ↔ Lists line lem token := by
  simp only [reading?_eq_some_iff, readLine_eq_ok_iff]
  constructor
  · rintro ⟨entry, ⟨-, front, rest, hline, hfirst, -, rfl⟩, hlem, htoken⟩
    obtain ⟨w, hw, rfl⟩ := List.mem_map.1 htoken
    exact ⟨front, rest, hline, hfirst, hlem.symm, by rwa [String.toList_ofList]⟩
  · rintro ⟨front, rest, hline, hfirst, rfl, htoken⟩
    refine ⟨_, ⟨?_, front, rest, hline, hfirst, List.ne_nil_of_mem htoken, rfl⟩, rfl, ?_⟩
    · exact hline ▸ mt trimChars_eq_nil_iff.1 not_blank_of_colon
    · exact List.mem_map.2 ⟨_, htoken, String.ofList_toList⟩

theorem mem_getD_addLine_iff {groups : LemmaGroups} {entry : String × List String} :
    token ∈ (addLine groups entry)[lem]?.getD ∅ ↔
      token ∈ groups[lem]?.getD ∅ ∨ entry.1 = lem ∧ token ∈ entry.2 := by
  rw [getElem?_addLine]
  split
  · next heq => simp [heq, mem_foldl_insert]
  · next hne => simp [hne]

theorem mem_getD_foldl_addLine_iff : ∀ (entries : List (String × List String))
    (groups : LemmaGroups), token ∈ (entries.foldl addLine groups)[lem]?.getD ∅ ↔
      token ∈ groups[lem]?.getD ∅ ∨ ∃ entry ∈ entries, entry.1 = lem ∧ token ∈ entry.2
  | [], groups => by simp
  | entry :: entries, groups => by
    rw [List.foldl_cons, mem_getD_foldl_addLine_iff entries, mem_getD_addLine_iff, or_assoc]
    simp only [List.mem_cons, exists_eq_or_imp]

/-- A lemma has the tokens of all its lines. -/
theorem mem_of_parse_iff {text : String} {groups : LemmaGroups} (h : parse text = .ok groups)
    (lem token : String) : token ∈ groups[lem]?.getD ∅ ↔
      ∃ line ∈ lineChars text.toList, Lists line lem token := by
  obtain ⟨-, hentries⟩ := readLines_eq_ok_iff.1 h
  rw [← hentries, mem_getD_foldl_addLine_iff]
  simp only [Std.ExtTreeMap.getElem?_empty, Option.getD_none, Std.ExtTreeSet.not_mem_empty,
    false_or,
    List.mem_filterMap, ← exists_reading?_iff_lists]
  constructor
  · rintro ⟨entry, ⟨line, hline, hentry⟩, hlists⟩
    exact ⟨line, hline, entry, hentry, hlists⟩
  · rintro ⟨line, hline, entry, hentry, hlists⟩
    exact ⟨entry, ⟨line, hline, hentry⟩, hlists⟩

/-- The lemmas are those of the lines. -/
theorem mem_lemma_of_parse_iff {text : String} {groups : LemmaGroups} (h : parse text = .ok groups)
    (lem : String) :
    lem ∈ groups ↔ ∃ line ∈ lineChars text.toList, ∃ token, Lists line lem token := by
  have hrecorded := (recorded_of_parse h).1
  constructor
  · intro hlem
    obtain ⟨tokens, htokens⟩ :=
      Option.isSome_iff_exists.1 (Std.ExtTreeMap.mem_iff_isSome_getElem?.1 hlem)
    obtain ⟨token, htoken⟩ := List.exists_mem_of_ne_nil tokens.toList
      (mt Std.ExtTreeSet.toList_eq_nil_iff.1 (hrecorded.nonempty lem tokens htokens))
    obtain ⟨line, hline, hlists⟩ := (mem_of_parse_iff h lem token).1
      (by simpa [htokens] using Std.ExtTreeSet.mem_toList.1 htoken)
    exact ⟨line, hline, token, hlists⟩
  · rintro ⟨line, hline, token, hlists⟩
    have htoken := (mem_of_parse_iff h lem token).2 ⟨line, hline, hlists⟩
    refine Classical.byContradiction fun hlem => ?_
    simp [Std.ExtTreeMap.getElem?_eq_none hlem] at htoken

end LemmaIndex

/-! ## Both kinds of listings -/

namespace Listing

/-- The first line with which something is wrong. Lines are counted from one, and blank lines
count. -/
def FirstWrong (Wrong : List Char → Reason → Prop) (lines : List (List Char))
    (fault : Fault) : Prop :=
  ∃ front line rest, lines = front ++ line :: rest ∧ fault.line = front.length + 1 ∧
    Wrong line fault.reason ∧ ∀ earlier ∈ front, ∀ reason, ¬Wrong earlier reason

variable {σ ε : Type} {read : List Char → Except Reason ε} {add : σ → ε → σ}
  {Wrong : List Char → Reason → Prop}

/-- Where lines are refused for what is wrong with them, the first line with which something is
wrong is blamed. -/
theorem readLines_eq_error_iff_firstWrong
    (hrefused : ∀ line reason, Refused read line reason ↔ Wrong line reason) {acc : σ}
    {lines : List (List Char)} {fault : Fault} :
    readLines read add 1 acc lines = .error fault ↔ FirstWrong Wrong lines fault := by
  simp only [readLines_eq_error_iff, hrefused, FirstWrong, Nat.add_comm 1]

/-- Lines are not all read exactly if something is wrong with one of them. -/
theorem exists_readLines_eq_error_iff
    (hrefused : ∀ line reason, Refused read line reason ↔ Wrong line reason) {acc : σ}
    {lines : List (List Char)} :
    (∃ fault, readLines read add 1 acc lines = .error fault) ↔
      ∃ line ∈ lines, ∃ reason, Wrong line reason := by
  simp only [← hrefused]
  constructor
  · rintro ⟨fault, h⟩
    obtain ⟨front, line, rest, rfl, -, hline, -⟩ := readLines_eq_error_iff.1 h
    exact ⟨line, List.mem_append_right _ List.mem_cons_self, fault.reason, hline⟩
  · rintro ⟨line, hline, reason, hreason⟩
    cases hread : readLines read add 1 acc lines with
    | error fault => exact ⟨fault, rfl⟩
    | ok result => exact absurd hreason ((readLines_eq_ok_iff.1 hread).1 line hline reason)

/-- A listing consists of lines, with line feeds behind them; the last line feed may be missing, and
carriage returns in front of them do not belong to the lines. It is not read exactly if something is
wrong with one of its lines, and then the first such line is blamed for what is wrong with it. If it
is read, each number has the address on its last line, and each lemma the tokens on all its lines.
-/
theorem listings_outcome (text : String) :
    (∃ front last, MadeOf text.toList (front ++ [last]) ∧
      lineChars text.toList = front.map dropReturn ++ if last = [] then [] else [last]) ∧
    (((∃ fault, UrlIndex.parse text = .error fault) ↔
        ∃ line ∈ lineChars text.toList, ∃ reason, UrlIndex.Wrong line reason) ∧
      (∀ fault, UrlIndex.parse text = .error fault ↔
        FirstWrong UrlIndex.Wrong (lineChars text.toList) fault) ∧
      ∀ urls, UrlIndex.parse text = .ok urls → ∀ id url, urls[id]? = some url ↔
        ∃ front line rest, lineChars text.toList = front ++ line :: rest ∧
          UrlIndex.Names line id url ∧ ∀ later ∈ rest, ∀ other, ¬UrlIndex.Names later id other) ∧
    ((∃ fault, LemmaIndex.parse text = .error fault) ↔
        ∃ line ∈ lineChars text.toList, ∃ reason, LemmaIndex.Wrong line reason) ∧
      (∀ fault, LemmaIndex.parse text = .error fault ↔
        FirstWrong LemmaIndex.Wrong (lineChars text.toList) fault) ∧
      ∀ groups, LemmaIndex.parse text = .ok groups →
        (∀ lem, lem ∈ groups ↔
          ∃ line ∈ lineChars text.toList, ∃ token, LemmaIndex.Lists line lem token) ∧
        ∀ lem token, token ∈ groups[lem]?.getD ∅ ↔
          ∃ line ∈ lineChars text.toList, LemmaIndex.Lists line lem token := by
  refine ⟨exists_madeOf_lineChars _, ⟨?_, fun fault => ?_, ?_⟩, ?_, fun fault => ?_, ?_⟩
  · exact exists_readLines_eq_error_iff fun _ _ => UrlIndex.refused_iff
  · exact readLines_eq_error_iff_firstWrong fun _ _ => UrlIndex.refused_iff
  · exact fun urls h => UrlIndex.getElem?_of_parse h
  · exact exists_readLines_eq_error_iff fun _ _ => LemmaIndex.refused_iff
  · exact readLines_eq_error_iff_firstWrong fun _ _ => LemmaIndex.refused_iff
  · exact fun groups h => ⟨LemmaIndex.mem_lemma_of_parse_iff h, LemmaIndex.mem_of_parse_iff h⟩

/-- The third line has a tab where a space should be; the second one is blank. -/
example : failure? (UrlIndex.parse "+01 https://a.example\n \n2\thttps://b.example x\n3") =
    some ⟨3, .invalidId "2\thttps://b.example"⟩ := by decide +kernel

end Listing

end Concordance
