import Concordance.Index.Settings
import Concordance.Proofs.Except
import Concordance.Proofs.Grouping
import Concordance.Proofs.Listing.Document
import Concordance.Proofs.Text.Case

/-!
# What normalization records

Tokens are words of letters of the Russian alphabet and hyphens (`IsToken`), which lower case keeps
within the alphabet (`lowerLetter_of_isTokenChar`). Each step of the stemmer removes an ending, so a
stem is a front part of its token (`stemChars_isPrefix`), and the lemmas of a dictionary are words
in lower case. So the lemmas of tokens are words (`Lemmatizer.isWord_lemmatize`), and all that a
document of a normalizer holds can be listed (`Normalizer.recorded_normalize`). A colon comes into a
lemma only from the lemma column of a dictionary (`Lemmatizer.colonFree_stemmer`,
`Lemmatizer.colonFree_ofDictionary`).
-/

namespace Concordance

open Text

/-! ## Tokens -/

/-- A word of letters of the Russian alphabet and hyphens. -/
structure IsToken (token : String) : Prop where
  /-- There is a character. -/
  ne_nil : token.toList ≠ []
  /-- All characters may stand in a token. -/
  chars : ∀ c ∈ token.toList, isTokenChar c = true

theorem not_isSeparator_of_isTokenChar {c : Char} (h : isTokenChar c = true) :
    isSeparator c = false := by
  refine Bool.eq_false_iff.2 fun hsep => ?_
  have hpoint := toNat_mem_separatorPoints hsep
  simp only [isTokenChar, Bool.or_eq_true, Bool.and_eq_true, decide_eq_true_eq, beq_iff_eq] at h
  simp only [separatorPoints, List.mem_cons, List.not_mem_nil, or_false] at hpoint
  omega

theorem IsToken.isWord {token : String} (h : IsToken token) : IsWord token.toList where
  ne_nil := h.ne_nil
  not_blank c hc := (Bool.or_eq_false_iff.1 (not_isSeparator_of_isTokenChar (h.chars c hc))).1

theorem IsToken.colon_not_mem {token : String} (h : IsToken token) : ':' ∉ token.toList :=
  fun hmem => absurd (h.chars _ hmem) (by decide)

/-- The characters of tokens. -/
def tokenChars : List Char :=
  '-' :: 'Ё' :: 'ё' :: (List.range 64).map fun n => Char.ofNat (0x410 + n)

theorem mem_tokenChars {c : Char} (h : isTokenChar c = true) : c ∈ tokenChars := by
  have hpoint : c.toNat = 0x2D ∨ c.toNat = 0x401 ∨ c.toNat = 0x451 ∨
      c.toNat - 0x410 < 64 ∧ 0x410 + (c.toNat - 0x410) = c.toNat := by
    simp only [isTokenChar, Bool.or_eq_true, Bool.and_eq_true, decide_eq_true_eq, beq_iff_eq] at h
    omega
  rw [← Char.ofNat_toNat c]
  rcases hpoint with heq | heq | heq | ⟨hbound, heq⟩
  · rw [heq]
    decide
  · rw [heq]
    decide
  · rw [heq]
    decide
  · rw [← heq]
    exact List.mem_cons_of_mem _ (List.mem_cons_of_mem _ (List.mem_cons_of_mem _
      (List.mem_map_of_mem (List.mem_range.2 hbound))))

/-- The small letters of the Russian alphabet and the hyphen. -/
def isCleanChar (c : Char) : Bool :=
  let n := c.toNat
  (0x430 ≤ n && n ≤ 0x44F) || n == 0x451 || n == 0x2D

theorem isTokenChar_of_isCleanChar {c : Char} (h : isCleanChar c = true) :
    isTokenChar c = true := by
  simp only [isCleanChar, isTokenChar, Bool.or_eq_true, Bool.and_eq_true, decide_eq_true_eq,
    beq_iff_eq] at h ⊢
  omega

/-- Lower case makes every letter a small one and keeps small letters. No letter becomes a
hyphen. -/
theorem lowerLetter_of_isTokenChar {c : Char} (h : isTokenChar c = true) :
    isCleanChar (lowerLetter c) = true ∧ (lowerLetter c = '-' → c = '-') ∧
      (isCleanChar c = true → lowerLetter c = c) := by
  -- `∀ c ∈ tokenChars` could be decided by going through all characters instead of the list
  have hall : tokenChars.all (fun c => decide (isCleanChar (lowerLetter c) = true ∧
      (lowerLetter c = '-' → c = '-') ∧ (isCleanChar c = true → lowerLetter c = c))) = true := by
    decide +kernel
  exact of_decide_eq_true (List.all_eq_true.1 hall c (mem_tokenChars h))

theorem lowerLetter_of_isCleanChar {c : Char} (h : isCleanChar c = true) : lowerLetter c = c :=
  (lowerLetter_of_isTokenChar (isTokenChar_of_isCleanChar h)).2.2 h

/-- No letter of the alphabet has a lower-case form that depends on the letters around it. -/
theorem not_special_of_isTokenChar {c : Char} (h : isTokenChar c = true) : c ≠ 'Σ' ∧ c ≠ 'İ' := by
  constructor
  · rintro rfl
    exact absurd h (by decide)
  · rintro rfl
    exact absurd h (by decide)

theorem isTokenChar_of_mem_trimBy_filter {word : List Char} {c : Char}
    (h : c ∈ trimBy (· == '-') (word.filter isTokenChar)) : isTokenChar c = true :=
  (List.mem_filter.1 (mem_of_mem_trimBy h)).2

theorem cleanWord_eq_map (word : List Char) :
    cleanWord word = (trimBy (· == '-') (word.filter isTokenChar)).map lowerLetter :=
  lowerAfter_eq_map fun _ hc => not_special_of_isTokenChar (isTokenChar_of_mem_trimBy_filter hc)

theorem isTokenChar_of_mem_cleanWord {word : List Char} {c : Char} (h : c ∈ cleanWord word) :
    isTokenChar c = true := by
  rw [cleanWord_eq_map] at h
  obtain ⟨x, hx, rfl⟩ := List.mem_map.1 h
  exact isTokenChar_of_isCleanChar
    (lowerLetter_of_isTokenChar (isTokenChar_of_mem_trimBy_filter hx)).1

/-- A filter keeps the words that are long enough and on neither of its lists. -/
theorem TokenFilter.keeps_iff {filter : TokenFilter} {word : String} : filter.keeps word = true ↔
    filter.minChars ≤ word.length ∧ word ∉ filter.stopWords ∧ word ∉ filter.typos := by
  simp only [keeps, Bool.and_eq_true, decide_eq_true_eq, Bool.not_eq_true', and_assoc,
    ← Bool.not_eq_true, Std.ExtTreeSet.contains_iff_mem]

namespace Normalizer

/-- What a text is cut into are tokens, if no token may be empty. -/
theorem isToken_of_mem_tokenize {normalizer : Normalizer} {text token : String}
    (hmin : 1 ≤ normalizer.filter.minChars) (h : token ∈ normalizer.tokenize text) :
    IsToken token := by
  rw [tokenize, List.mem_filter, List.mem_map] at h
  obtain ⟨⟨word, -, rfl⟩, hkeeps⟩ := h
  refine ⟨?_, fun c hc => isTokenChar_of_mem_cleanWord (by simpa using hc)⟩
  have hlong := (TokenFilter.keeps_iff.1 hkeeps).1
  rintro hnil
  have hlength : (String.ofList (cleanWord word)).length = 0 := by
    rw [← String.length_toList, hnil]
    rfl
  omega

end Normalizer

/-! ## Stems -/

namespace Stem

theorem suffix_of_dropEnding? {ending region rest : List Char}
    (h : dropEnding? ending region = some rest) : rest <:+ region := by
  rw [dropEnding?] at h
  split at h
  · cases h
    exact List.drop_suffix _ _
  · cases h

theorem suffix_of_remove? {endings : Endings} {region rest : List Char}
    (h : remove? endings region = some rest) : rest <:+ region := by
  rw [remove?] at h
  obtain ⟨ending, -, h⟩ := Option.bind_eq_some_iff.1 h
  have hdrop : some (region.drop ending.length) = some rest := by
    dsimp only at h
    split at h
    · exact h
    · split at h
      · exact h
      · exact h
      · cases h
  rw [← Option.some.inj hdrop]
  exact List.drop_suffix _ _

theorem remove_suffix (endings : Endings) (region : List Char) :
    remove endings region <:+ region := by
  rw [remove]
  cases h : remove? endings region with
  | none => exact List.suffix_refl region
  | some rest => exact suffix_of_remove? h

theorem removeInflection_suffix (region : List Char) : removeInflection region <:+ region := by
  rw [removeInflection]
  split
  · next h => exact suffix_of_remove? h
  · refine List.IsSuffix.trans ?_ (remove_suffix reflexive region)
    dsimp only
    generalize remove reflexive region = rest
    unfold removeAdjectival?
    cases hadjective : remove? adjective rest with
    | some left => exact (remove_suffix participle left).trans (suffix_of_remove? hadjective)
    | none =>
      cases hverb : remove? verb rest with
      | some left => exact suffix_of_remove? hverb
      | none =>
        cases hnoun : remove? noun rest with
        | some left => exact suffix_of_remove? hnoun
        | none => exact List.suffix_refl rest

theorem removeVowel_suffix (region : List Char) : removeVowel region <:+ region := by
  rw [removeVowel]
  cases h : dropEnding? ['и'] region with
  | none => exact List.suffix_refl region
  | some rest => exact suffix_of_dropEnding? h

theorem removeDerivation_suffix (bound : Nat) (region : List Char) :
    removeDerivation bound region <:+ region := by
  rw [removeDerivation]
  split
  · split
    · exact List.drop_suffix _ _
    · exact List.suffix_refl region
  · exact List.suffix_refl region

theorem undouble_suffix (region : List Char) : undouble region <:+ region := by
  unfold undouble
  split
  · exact List.suffix_cons _ _
  · exact List.suffix_refl region

theorem tidy_suffix (region : List Char) : tidy region <:+ region := by
  unfold tidy
  split
  · exact (undouble_suffix _).trans (List.drop_suffix _ _)
  · split
    · exact List.suffix_cons _ _
    · exact undouble_suffix region

/-- Every step removes an ending, so a stem is a front part of its word. -/
theorem stemChars_isPrefix (word : List Char) : stemChars word <+: word := by
  have hsuffix : tidy (removeDerivation (secondStart word - regionStart word)
      (removeVowel (removeInflection (word.drop (regionStart word)).reverse))) <:+
        (word.drop (regionStart word)).reverse :=
    (tidy_suffix _).trans ((removeDerivation_suffix _ _).trans
      ((removeVowel_suffix _).trans (removeInflection_suffix _)))
  have hprefix := List.reverse_prefix.2 hsuffix
  rw [List.reverse_reverse] at hprefix
  obtain ⟨rest, hrest⟩ := hprefix
  refine ⟨rest, ?_⟩
  simp only [stemChars, List.append_assoc, hrest, List.take_append_drop]

/-- The region begins behind a character, so a stem is not empty. -/
theorem stemChars_ne_nil {word : List Char} (h : word ≠ []) : stemChars word ≠ [] := by
  have hstart : 1 ≤ regionStart word := by
    rw [regionStart, through?]
    cases word.findIdx? isVowel with
    | none => exact List.length_pos_iff.2 h
    | some i => exact Nat.succ_le_succ (Nat.zero_le i)
  have htake : word.take (regionStart word) ≠ [] := by
    rw [ne_eq, List.take_eq_nil_iff, not_or]
    exact ⟨by omega, h⟩
  exact List.append_ne_nil_of_left_ne_nil htake _

/-- The stem of a token is a token. -/
theorem isToken_stem {token : String} (h : IsToken token) : IsToken (stem token) where
  ne_nil := by
    rw [stem, String.toList_ofList]
    exact stemChars_ne_nil h.ne_nil
  chars c hc := by
    rw [stem, String.toList_ofList] at hc
    exact h.chars c ((stemChars_isPrefix token.toList).mem hc)

end Stem

/-! ## Lemmas -/

namespace Lemmatizer

/-- The lemmatizers that settings can name. -/
inductive Available : Lemmatizer → Prop
  /-- The stemmer. -/
  | stemmer : Available .stemmer
  /-- A dictionary that is read from a text. -/
  | dictionary (text : String) : Available (.ofDictionary text)

/-- The lemma column of a dictionary holds words. -/
theorem isWord_of_formAndLemma? {line form lem : String}
    (h : formAndLemma? line = some (form, lem)) :
    ∃ w ∈ words line, IsWord w.toList ∧ lem = lower w := by
  rw [formAndLemma?] at h
  split at h
  · cases h
  · split at h
    · next form' lem' rest hwords =>
      cases h
      refine ⟨lem', by simp [hwords], ?_, rfl⟩
      have hmem : lem' ∈ words line := by simp [hwords]
      obtain ⟨w, hw, rfl⟩ := List.mem_map.1 hmem
      rw [String.toList_ofList]
      exact (isWord_of_mem_wordChars hw).1
    · cases h

theorem lemmatize_ofDictionary (text token : String) :
    (ofDictionary text).lemmatize token = (readForms text)[token]?.getD token :=
  rfl

/-- A form that a dictionary has is mapped to the lemma on a line of its text. -/
theorem exists_formAndLemma?_of_lemmatize (text token : String) :
    (ofDictionary text).lemmatize token = token ∨ ∃ line ∈ lines text, ∃ form,
      formAndLemma? line = some (form, (ofDictionary text).lemmatize token) := by
  rw [lemmatize_ofDictionary]
  cases h : (readForms text)[token]? with
  | none => exact Or.inl rfl
  | some lem =>
    obtain ⟨line, hline, hentry⟩ := List.mem_filterMap.1 (mem_of_getElem?_ofList h)
    exact Or.inr ⟨line, hline, token, hentry⟩

/-- The lemma of a token is a word. -/
theorem isWord_lemmatize {lemmatizer : Lemmatizer} (h : lemmatizer.Available) {token : String}
    (htoken : IsToken token) : IsWord (lemmatizer.lemmatize token).toList := by
  cases h with
  | stemmer => exact (Stem.isToken_stem htoken).isWord
  | dictionary text =>
    rcases exists_formAndLemma?_of_lemmatize text token with heq | ⟨line, -, form, h⟩
    · rw [heq]
      exact htoken.isWord
    · obtain ⟨w, -, hword, heq⟩ := isWord_of_formAndLemma? h
      rw [heq, lower, String.toList_ofList]
      exact hword.lowerChars

/-- No token has a lemma with a colon. -/
def ColonFree (lemmatizer : Lemmatizer) : Prop :=
  ∀ token, IsToken token → ':' ∉ (lemmatizer.lemmatize token).toList

theorem colonFree_stemmer : stemmer.ColonFree :=
  fun _ htoken => (Stem.isToken_stem htoken).colon_not_mem

/-- A dictionary whose lemma column has no colon gives no lemma with one. -/
theorem colonFree_ofDictionary {text : String}
    (h : ∀ line ∈ lines text, ∀ form lem rest, words line = form :: lem :: rest →
      ':' ∉ lem.toList) : (ofDictionary text).ColonFree := by
  intro token htoken
  rcases exists_formAndLemma?_of_lemmatize text token with
    heq | ⟨line, hline, form, hentry⟩
  · rw [heq]
    exact htoken.colon_not_mem
  · rw [formAndLemma?] at hentry
    split at hentry
    · cases hentry
    · split at hentry
      · next form' lem rest hwords =>
        obtain ⟨-, hlem⟩ := Prod.mk.injEq .. ▸ Option.some.inj hentry
        rw [← hlem, lower, String.toList_ofList]
        exact fun hmem => h line hline form' lem rest hwords (mem_of_mem_lowerChars (by decide) hmem)
      · cases hentry

end Lemmatizer

/-! ## Documents -/

namespace Document

variable {id : DocId} {text : String} {tokens : List String} {lemmatize : String → String}

/-- A document of tokens whose lemmas are words can be listed. -/
theorem recorded_ofTokens (htokens : ∀ t ∈ tokens, IsToken t)
    (hlemmas : ∀ t ∈ tokens, IsWord (lemmatize t).toList) :
    (ofTokens id text tokens lemmatize).Recorded where
  line t ht := (htokens t ht).isWord.isLine
  trimmed t ht := (htokens t ht).isWord.trimChars_eq
  groups := {
    trimmed := fun lem hlem => by
      obtain ⟨token, htoken, rfl⟩ := mem_lemmaGroups_ofTokens_iff.1 hlem
      exact (hlemmas token htoken).trimChars_eq
    no_feed := fun lem hlem => by
      obtain ⟨token, htoken, rfl⟩ := mem_lemmaGroups_ofTokens_iff.1 hlem
      exact (hlemmas token htoken).isLine.no_feed
    nonempty := fun lem group hgroup => by
      rw [lemmaGroups_ofTokens] at hgroup
      obtain ⟨token, htoken⟩ := exists_mem_of_getElem?_invert hgroup
      exact Std.ExtTreeSet.ne_empty_of_mem htoken
    words := fun lem group hgroup token htoken =>
      (htokens token (mem_tokens_of_mem_group hgroup htoken)).isWord }

end Document

namespace Normalizer

variable {normalizer : Normalizer}

/-- All that a document of a normalizer holds can be listed. -/
theorem recorded_normalize (hmin : 1 ≤ normalizer.filter.minChars)
    (havailable : normalizer.lemmatizer.Available) (id : DocId) (text : String) :
    (normalizer.normalize id text).Recorded := by
  refine Document.recorded_ofTokens (fun t ht => isToken_of_mem_tokenize hmin ht) fun t ht => ?_
  exact Lemmatizer.isWord_lemmatize havailable (isToken_of_mem_tokenize hmin ht)

/-- A document has no lemma with a colon if no token has one. -/
theorem colonFree_normalize (hmin : 1 ≤ normalizer.filter.minChars)
    (hfree : normalizer.lemmatizer.ColonFree) (id : DocId) (text : String) :
    (normalizer.normalize id text).lemmaGroups.ColonFree := by
  intro lem hlem
  obtain ⟨token, htoken, rfl⟩ := Document.mem_lemmaGroups_ofTokens_iff.1 hlem
  exact hfree token (isToken_of_mem_tokenize hmin htoken)

end Normalizer

/-! ## Settings -/

namespace Settings

variable {settings : Settings} {tree : FileTree} {start : Place} {normalizer : Normalizer}

/-- The least number of characters is the standard one. -/
theorem minChars_of_filter {filter : TokenFilter} (h : settings.filter tree start = .ok filter) :
    filter.minChars = 3 := by
  obtain ⟨stopWords, typos, dictionary⟩ := settings
  cases stopWords with
  | none =>
    obtain ⟨base, hbase, h⟩ := bind_eq_ok_iff.1 h
    cases hbase
    cases typos with
    | none =>
      cases h
      rfl
    | some path =>
      obtain ⟨words, -, h⟩ := bind_eq_ok_iff.1 h
      cases h
      rfl
  | some path =>
    obtain ⟨stop, -, h⟩ := bind_eq_ok_iff.1 h
    obtain ⟨base, hbase, h⟩ := bind_eq_ok_iff.1 h
    cases hbase
    cases typos with
    | none =>
      cases h
      rfl
    | some path =>
      obtain ⟨words, -, h⟩ := bind_eq_ok_iff.1 h
      cases h
      rfl

theorem available_of_lemmatizer {lemmatizer : Lemmatizer}
    (h : settings.lemmatizer tree start = .ok lemmatizer) : lemmatizer.Available := by
  rw [Settings.lemmatizer] at h
  split at h
  · obtain ⟨text, -, h⟩ := bind_eq_ok_iff.1 h
    cases h
    exact .dictionary text
  · cases h
    exact .stemmer

/-- A normalizer that settings describe keeps no empty token, and has their lemmatizer. -/
theorem normalizer_eq_ok (h : settings.normalizer tree start = .ok normalizer) :
    1 ≤ normalizer.filter.minChars ∧ normalizer.lemmatizer.Available ∧
      settings.lemmatizer tree start = .ok normalizer.lemmatizer := by
  rw [Settings.normalizer] at h
  obtain ⟨filter, hfilter, h⟩ := bind_eq_ok_iff.1 h
  obtain ⟨lemmatizer, hlemmatizer, h⟩ := bind_eq_ok_iff.1 h
  cases h
  exact ⟨by rw [minChars_of_filter hfilter]; decide, available_of_lemmatizer hlemmatizer,
    hlemmatizer⟩

/-- The files that settings name. -/
def paths (settings : Settings) : List String :=
  settings.stopWords.toList ++ settings.typos.toList ++ settings.dictionary.toList

/-- The normalizer depends on the files that are named. -/
theorem normalizer_congr {tree' : FileTree}
    (h : ∀ path ∈ settings.paths, tree'.readPath start path = tree.readPath start path) :
    settings.normalizer tree' start = settings.normalizer tree start := by
  obtain ⟨stopWords, typos, dictionary⟩ := settings
  simp only [paths, List.mem_append, Option.mem_toList] at h
  have hword : ∀ path, (stopWords = some path ∨ typos = some path) ∨ dictionary = some path →
      readWordList tree' start path = readWordList tree start path := by
    intro path hpath
    rw [readWordList, readWordList, h path hpath]
  have hfilter : Settings.filter ⟨stopWords, typos, dictionary⟩ tree' start =
      Settings.filter ⟨stopWords, typos, dictionary⟩ tree start := by
    unfold Settings.filter
    cases stopWords with
    | none =>
      cases typos with
      | none => rfl
      | some path => simp only [hword path (.inl (.inr rfl))]
    | some path =>
      cases typos with
      | none => simp only [hword path (.inl (.inl rfl))]
      | some path' => simp only [hword path (.inl (.inl rfl)), hword path' (.inl (.inr rfl))]
  have hlemmatizer : Settings.lemmatizer ⟨stopWords, typos, dictionary⟩ tree' start =
      Settings.lemmatizer ⟨stopWords, typos, dictionary⟩ tree start := by
    unfold Settings.lemmatizer
    cases dictionary with
    | none => rfl
    | some path => simp only [h path (.inr rfl)]
  rw [Settings.normalizer, Settings.normalizer, hfilter, hlemmatizer]

end Settings

end Concordance
