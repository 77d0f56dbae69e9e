import Concordance.Proofs.Normalization
import Concordance.Proofs.Query.Lexing

/-!
# Clean words

Cleaning a word leaves small letters of the Russian alphabet and hyphens, with no hyphen at either
end (`isClean_cleanWord`). On such words every step of reading a text is the identity : their
letters are in normal form (`isSettled_of_isCleanChar`), they are in lower case
(`IsClean.lowerChars_eq_self`), and cleaning them again changes nothing
(`IsClean.cleanWord_eq_self`).

So the tokens of a text can be read again. With blanks between them they have themselves as tokens
(`Normalizer.tokenize_intercalate`), and as a query each of them is an operand, never an operator
(`Normalizer.lex_of_mem_tokenize`). Cleaning a word comes before the filter, which therefore sees what
it keeps : no stop word and no typo is a token, and cutting a text into tokens is idempotent
(`Normalizer.tokenize_normal`).
-/

namespace Concordance

open Text Listing

/-! ## Small letters -/

theorem toUpper_of_isTokenChar {c : Char} (h : isTokenChar c = true) : c.toUpper = c := by
  have hall : tokenChars.all (fun c => decide (c.toUpper = c)) = true := by decide +kernel
  exact of_decide_eq_true (List.all_eq_true.1 hall c (mem_tokenChars h))

theorem isSettled_of_isCleanChar {c : Char} (h : isCleanChar c = true) : isSettled c = true := by
  simp only [isCleanChar, isSettled, Bool.or_eq_true, Bool.and_eq_true, decide_eq_true_eq,
    beq_iff_eq] at h ⊢
  omega

/-! ## Clean words -/

/-- Small letters and hyphens, with no hyphen at either end. -/
structure IsClean (word : List Char) : Prop where
  /-- All characters are small letters or hyphens. -/
  chars : ∀ c ∈ word, isCleanChar c = true
  /-- The first character is not a hyphen. -/
  head : word.head? ≠ some '-'
  /-- Neither is the last one. -/
  last : word.getLast? ≠ some '-'

/-- Cleaning makes a word clean. -/
theorem isClean_cleanWord (word : List Char) : IsClean (cleanWord word) := by
  have hlower : ∀ c ∈ trimBy (· == '-') (word.filter isTokenChar),
      isCleanChar (lowerLetter c) = true ∧ (lowerLetter c = '-' → c = '-') := by
    intro c hc
    have h := lowerLetter_of_isTokenChar (isTokenChar_of_mem_trimBy_filter hc)
    exact ⟨h.1, h.2.1⟩
  rw [cleanWord_eq_map]
  constructor
  case chars =>
    intro c hc
    obtain ⟨x, hx, rfl⟩ := List.mem_map.1 hc
    exact (hlower x hx).1
  case head =>
    rw [List.head?_map]
    intro hhead
    obtain ⟨x, hx, hhyphen⟩ := Option.map_eq_some_iff.1 hhead
    have hne := not_of_head?_trimBy hx
    rw [(hlower x (List.mem_of_head? hx)).2 hhyphen] at hne
    cases hne
  case last =>
    rw [List.getLast?_map]
    intro hlast
    obtain ⟨x, hx, hhyphen⟩ := Option.map_eq_some_iff.1 hlast
    have hne := not_of_getLast?_trimBy hx
    rw [(hlower x (List.mem_of_getLast? hx)).2 hhyphen] at hne
    cases hne

namespace IsClean

variable {word : List Char} (h : IsClean word)

include h

theorem isTokenChar_of_mem {c : Char} (hc : c ∈ word) : isTokenChar c = true :=
  isTokenChar_of_isCleanChar (h.chars c hc)

theorem lowerChars_eq_self : lowerChars word = word := by
  rw [lowerChars, lowerAfter_eq_map fun c hc => not_special_of_isTokenChar (h.isTokenChar_of_mem hc)]
  exact (List.map_congr_left fun c hc => lowerLetter_of_isCleanChar (h.chars c hc)).trans
    (List.map_id word)

theorem map_toUpper_eq_self : word.map Char.toUpper = word :=
  (List.map_congr_left fun _ hc => toUpper_of_isTokenChar (h.isTokenChar_of_mem hc)).trans
    (List.map_id word)

/-- Cleaning a clean word changes nothing. -/
theorem cleanWord_eq_self : cleanWord word = word := by
  have hfilter : word.filter isTokenChar = word :=
    List.filter_eq_self.2 fun c hc => h.isTokenChar_of_mem hc
  have htrim : trimBy (· == '-') word = word := by
    refine trimBy_eq_self (fun c hc => ?_) fun c hc => ?_
    · exact beq_eq_false_iff_ne.2 fun heq => h.head (heq ▸ hc)
    · exact beq_eq_false_iff_ne.2 fun heq => h.last (heq ▸ hc)
  rw [cleanWord, hfilter, htrim, h.lowerChars_eq_self]

/-- No reserved word is made of small letters of the alphabet. -/
theorem ofWord?_eq_none : Query.Operator.ofWord? word = none := by
  have hlatin : ∀ op : Query.Operator, ∃ c ∈ op.word.toList, isCleanChar c = false := by
    intro op
    cases op
    case and => exact ⟨'A', by decide, by decide⟩
    case or => exact ⟨'O', by decide, by decide⟩
    case not => exact ⟨'N', by decide, by decide⟩
  rw [Query.Operator.ofWord?, List.find?_eq_none]
  intro op _ heq
  obtain ⟨c, hc, hfalse⟩ := hlatin op
  rw [beq_iff_eq, h.map_toUpper_eq_self] at heq
  rw [heq] at hc
  rw [h.chars c hc] at hfalse
  cases hfalse

end IsClean

/-! ## Reading clean words again -/

/-- A clean word is an operand of a query. -/
theorem Query.lex_of_isClean {token : String} (hne : token.toList ≠ []) (h : IsClean token.toList) :
    lex token = [.operand token] := by
  have hletter : ∀ c ∈ token.toList, lexemeRole c = .letter := by
    intro c hc
    have htoken := h.isTokenChar_of_mem hc
    refine lexemeRole_eq_letter_iff.2 ⟨⟨?_, ?_⟩, ?_⟩
    · rintro rfl
      exact absurd htoken (by decide)
    · rintro rfl
      exact absurd htoken (by decide)
    · exact (Bool.or_eq_false_iff.1 (not_isSeparator_of_isTokenChar htoken)).1
  rw [lex, segments_of_letter hne hletter, List.map_singleton, ofLexeme_of_letter hletter,
    h.ofWord?_eq_none, h.lowerChars_eq_self, String.ofList_toList, Option.map_none, Option.getD_none]

namespace Normalizer

variable {normalizer : Normalizer} {text token : String} {tokens : List String}

theorem isClean_of_mem_tokenize (h : token ∈ normalizer.tokenize text) : IsClean token.toList := by
  rw [tokenize, List.mem_filter, List.mem_map] at h
  obtain ⟨⟨word, -, rfl⟩, -⟩ := h
  rw [String.toList_ofList]
  exact isClean_cleanWord word

/-- A token is in lower case. -/
theorem lower_of_mem_tokenize (h : token ∈ normalizer.tokenize text) : lower token = token := by
  rw [lower, (isClean_of_mem_tokenize h).lowerChars_eq_self, String.ofList_toList]

theorem keeps_of_mem_tokenize (h : token ∈ normalizer.tokenize text) :
    normalizer.filter.keeps token = true := by
  rw [tokenize, List.mem_filter] at h
  exact h.2

/-- Clean words that the filter keeps, with blanks between them, are cut into themselves. -/
theorem tokenize_intercalate (hne : ∀ t ∈ tokens, t.toList ≠ [])
    (hclean : ∀ t ∈ tokens, IsClean t.toList)
    (hkeeps : ∀ t ∈ tokens, normalizer.filter.keeps t = true) :
    normalizer.tokenize (" ".intercalate tokens) = tokens := by
  have hword : ∀ w ∈ tokens.map String.toList, IsWord w := by
    intro w hw
    obtain ⟨t, ht, rfl⟩ := List.mem_map.1 hw
    exact IsToken.isWord ⟨hne t ht, fun c hc => (hclean t ht).isTokenChar_of_mem hc⟩
  have hsettled : ∀ c ∈ joinWith [' '] (tokens.map String.toList), isSettled c = true := by
    intro c hc
    rcases mem_joinWith hc with hblank | ⟨w, hw, hc⟩
    · rw [List.mem_singleton.1 hblank]
      rfl
    · obtain ⟨t, ht, rfl⟩ := List.mem_map.1 hw
      exact isSettled_of_isCleanChar ((hclean t ht).chars c hc)
  have hself : tokens.map ((fun word => String.ofList (cleanWord word)) ∘ String.toList) =
      tokens := by
    refine (List.map_congr_left fun t ht => ?_).trans (List.map_id tokens)
    rw [Function.comp_apply, (hclean t ht).cleanWord_eq_self, String.ofList_toList, id]
  have hjoin : (" ".intercalate tokens).toList = joinWith [' '] (tokens.map String.toList) :=
    String.toList_intercalate
  rw [tokenize, hjoin, nfkc_eq_self hsettled, wordChars_joinWith hword, List.map_map, hself,
    List.filter_eq_self.2 hkeeps]

section

variable (hmin : 1 ≤ normalizer.filter.minChars)

include hmin

/-- Tokens of texts, with blanks between them, are cut into themselves. -/
theorem tokenize_intercalate_of_mem (htokens : ∀ t ∈ tokens, ∃ text, t ∈ normalizer.tokenize text) :
    normalizer.tokenize (" ".intercalate tokens) = tokens := by
  refine tokenize_intercalate (fun t ht => ?_) (fun t ht => ?_) fun t ht => ?_
  all_goals obtain ⟨text, hmem⟩ := htokens t ht
  · exact (isToken_of_mem_tokenize hmin hmem).ne_nil
  · exact isClean_of_mem_tokenize hmem
  · exact keeps_of_mem_tokenize hmem

variable (h : token ∈ normalizer.tokenize text)

include h

/-- A token is its own only token. -/
theorem tokenize_of_mem_tokenize : normalizer.tokenize token = [token] := by
  have hjoin : normalizer.tokenize (" ".intercalate [token]) = [token] :=
    tokenize_intercalate_of_mem hmin (by simpa using ⟨text, h⟩)
  rwa [String.intercalate_singleton] at hjoin

/-- A token is a query for itself. -/
theorem lex_of_mem_tokenize : Query.lex token = [.operand token] :=
  Query.lex_of_isClean (isToken_of_mem_tokenize hmin h).ne_nil (isClean_of_mem_tokenize h)

end

/-- A word that the filter was given, in any case, is no token. -/
theorem ne_lower_of_mem_tokenize {words : List String} {word : String}
    (hgiven : normalizer.filter.stopWords = TokenFilter.lowerSet words ∨
      normalizer.filter.typos = TokenFilter.lowerSet words) (hword : word ∈ words)
    (h : token ∈ normalizer.tokenize text) : token ≠ lower word := by
  have hlower : lower word ∈ TokenFilter.lowerSet words := by
    rw [TokenFilter.lowerSet, Std.ExtTreeSet.mem_ofList, List.contains_iff_mem]
    exact List.mem_map_of_mem hword
  obtain ⟨-, hstop, htypo⟩ := TokenFilter.keeps_iff.1 (keeps_of_mem_tokenize h)
  rintro rfl
  rcases hgiven with hgiven | hgiven
  · exact hstop (hgiven ▸ hlower)
  · exact htypo (hgiven ▸ hlower)

/-- Tokens are clean words that are long enough, and on neither list of the filter : no stop word
and no typo that it was given, whatever case it was given in. Cutting the tokens of a text again,
with blanks between them, gives the same tokens. -/
theorem tokenize_normal (normalizer : Normalizer) (text : String)
    (hmin : 1 ≤ normalizer.filter.minChars) :
    (∀ token ∈ normalizer.tokenize text, IsClean token.toList ∧
      normalizer.filter.minChars ≤ token.length ∧
      token ∉ normalizer.filter.stopWords ∧ token ∉ normalizer.filter.typos) ∧
    (∀ words, normalizer.filter.stopWords = TokenFilter.lowerSet words ∨
        normalizer.filter.typos = TokenFilter.lowerSet words →
      ∀ token ∈ normalizer.tokenize text, ∀ word ∈ words, token ≠ lower word) ∧
    normalizer.tokenize (" ".intercalate (normalizer.tokenize text)) =
      normalizer.tokenize text := by
  refine ⟨fun token h => ⟨isClean_of_mem_tokenize h, ?_⟩, ?_, ?_⟩
  · exact TokenFilter.keeps_iff.1 (keeps_of_mem_tokenize h)
  · exact fun words hgiven token h word hword => ne_lower_of_mem_tokenize hgiven hword h
  · exact tokenize_intercalate_of_mem hmin fun token h => ⟨text, h⟩

/-- The standard normalizer with one stop word and one typo. -/
def withLists : Normalizer :=
  { standard with filter := (TokenFilter.standard.withStopWords ["КОТ"]).withTypos ["првиет"] }

/-- Hyphens inside of a word are kept, and the stop word and the typo are left out. -/
theorem tokenize_normal_withLists : 1 ≤ withLists.filter.minChars ∧
    withLists.tokenize "Кот-Ёж, -кот- Првиет и Дом7" = ["кот-ёж", "дом"] ∧
    "дом" ≠ lower "КОТ" ∧ withLists.tokenize "кот-ёж дом" = ["кот-ёж", "дом"] := by
  have hmin : 1 ≤ withLists.filter.minChars := by decide
  have htokens : withLists.tokenize "Кот-Ёж, -кот- Првиет и Дом7" = ["кот-ёж", "дом"] := by
    decide +kernel
  obtain ⟨-, hgiven, hagain⟩ :=
    tokenize_normal withLists "Кот-Ёж, -кот- Првиет и Дом7" hmin
  rw [htokens] at hgiven hagain
  exact ⟨hmin, htokens, hgiven ["КОТ"] (Or.inl rfl) "дом" (by simp) "КОТ" (by simp), hagain⟩

end Normalizer

end Concordance
