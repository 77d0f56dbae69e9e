import Concordance.Proofs.Inversion
import Concordance.Proofs.Statistics.Counting

/-!
# Grouping tokens by lemma

A document that is made of tokens holds each of them under its lemma, and nothing else
(`Document.mem_group_ofTokens_iff`). So each token is looked up under the lemma that it was grouped
by (`Document.getElem?_tokenLemmas_ofTokens`), whatever the function was : counting the lemmas of a
document gives back the lemmas of its tokens, with their repetitions
(`Document.lemmas_analyze_ofTokens`).
-/

namespace Concordance.Document

variable {id : DocId} {text : String} {tokens : List String} {lemmatize : String → String}
  {token lem : String}

/-! ## Groups -/

/-- The groups of a document hold each token under its lemma. -/
theorem lemmaGroups_ofTokens : (ofTokens id text tokens lemmatize).lemmaGroups =
    invert (tokens.map fun token => (lemmatize token, token)) := by
  rw [invert, List.foldl_map]
  rfl

/-- The lemmas of a document are those of its tokens. -/
theorem mem_lemmaGroups_ofTokens_iff : lem ∈ (ofTokens id text tokens lemmatize).lemmaGroups ↔
    ∃ token ∈ tokens, lemmatize token = lem := by
  rw [lemmaGroups_ofTokens, invert, mem_foldl_enter_iff]
  simp [List.mem_map]

/-- A token is recorded under its lemma only. -/
theorem mem_group_ofTokens_iff :
    token ∈ (ofTokens id text tokens lemmatize).lemmaGroups[lem]?.getD ∅ ↔
      token ∈ tokens ∧ lemmatize token = lem := by
  rw [lemmaGroups_ofTokens, mem_invert_iff, List.mem_map]
  constructor
  · rintro ⟨other, hother, heq⟩
    obtain ⟨rfl, rfl⟩ := Prod.mk.inj heq
    exact ⟨hother, rfl⟩
  · rintro ⟨htoken, rfl⟩
    exact ⟨token, htoken, rfl⟩

theorem mem_tokens_of_mem_group {group : Std.ExtTreeSet String}
    (hgroup : (ofTokens id text tokens lemmatize).lemmaGroups[lem]? = some group)
    (htoken : token ∈ group) : token ∈ tokens :=
  (mem_group_ofTokens_iff.1 (by rwa [hgroup])).1

/-! ## Lemmas of tokens -/

/-- Every grouped token with the lemma of its group. -/
def groupedTokens (doc : Document) : List (String × String) :=
  doc.lemmaGroups.toList.flatMap fun group => group.2.toList.map fun token => (token, group.1)

theorem tokenLemmas_eq_foldl (doc : Document) : doc.tokenLemmas =
    doc.groupedTokens.foldl (fun map pair => map.insertIfNew pair.1 pair.2) ∅ := by
  rw [groupedTokens, List.foldl_flatMap]
  simp only [List.foldl_map]
  rfl

theorem mem_groupedTokens_iff {doc : Document} :
    (token, lem) ∈ doc.groupedTokens ↔ token ∈ doc.lemmaGroups[lem]?.getD ∅ := by
  simp only [groupedTokens, List.mem_flatMap, List.mem_map, Prod.mk.injEq, Prod.exists,
    Std.ExtTreeSet.mem_toList, Std.ExtTreeMap.mem_toList_iff_getElem?_eq_some]
  constructor
  · rintro ⟨lem, group, hgroup, token, htoken, rfl, rfl⟩
    rwa [hgroup]
  · intro htoken
    cases hgroup : doc.lemmaGroups[lem]? with
    | none => simp [hgroup] at htoken
    | some group => exact ⟨lem, group, hgroup, token, by simpa [hgroup] using htoken, rfl, rfl⟩

theorem mem_groupedTokens_ofTokens_iff :
    (token, lem) ∈ (ofTokens id text tokens lemmatize).groupedTokens ↔
      token ∈ tokens ∧ lemmatize token = lem :=
  mem_groupedTokens_iff.trans mem_group_ofTokens_iff

/-- Of several values for one key the first one counts. -/
theorem getElem?_foldl_insertIfNew :
    ∀ (pairs : List (String × String)) (map : Std.ExtTreeMap String String),
      (pairs.foldl (fun map pair => map.insertIfNew pair.1 pair.2) map)[token]? =
        map[token]?.or ((pairs.find? (·.1 == token)).map Prod.snd)
  | [], map => by simp
  | (other, lem) :: pairs, map => by
    rw [List.foldl_cons, getElem?_foldl_insertIfNew pairs, Std.ExtTreeMap.getElem?_insertIfNew,
      List.find?_cons]
    by_cases h : other = token
    · subst h
      cases hget : map[other]? with
      | none => simp [Std.ExtTreeMap.mem_iff_isSome_getElem?, hget]
      | some value => simp [Std.ExtTreeMap.mem_iff_isSome_getElem?, hget]
    · have hne : (other == token) = false := by simpa using h
      simp [h, hne]

/-- A token is looked up under the first lemma that it stands grouped with. -/
theorem getElem?_tokenLemmas_eq_find? (doc : Document) (token : String) :
    doc.tokenLemmas[token]? = (doc.groupedTokens.find? (·.1 == token)).map Prod.snd := by
  rw [tokenLemmas_eq_foldl, getElem?_foldl_insertIfNew, Std.ExtTreeMap.getElem?_empty,
    Option.none_or]

/-- Each token is looked up under the lemma it was grouped by. -/
theorem getElem?_tokenLemmas_ofTokens (h : token ∈ tokens) :
    (ofTokens id text tokens lemmatize).tokenLemmas[token]? = some (lemmatize token) := by
  rw [getElem?_tokenLemmas_eq_find?]
  cases hfind : (ofTokens id text tokens lemmatize).groupedTokens.find? (·.1 == token) with
  | none =>
    have hgrouped : (token, lemmatize token) ∈ (ofTokens id text tokens lemmatize).groupedTokens :=
      mem_groupedTokens_ofTokens_iff.2 ⟨h, rfl⟩
    simpa using List.find?_eq_none.1 hfind _ hgrouped
  | some pair =>
    obtain ⟨other, lem⟩ := pair
    obtain rfl : other = token := by simpa using List.find?_some hfind
    have hgrouped := mem_groupedTokens_ofTokens_iff.1 (List.mem_of_find?_eq_some hfind)
    rw [hgrouped.2]
    rfl

/-- Counting the lemmas of a document counts those of its tokens. -/
theorem lemmas_analyze_ofTokens {ν : Type} [Counter ν] :
    ((ofTokens id text tokens lemmatize).analyze : Analysis ν).lemmas =
      FrequencyTable.ofTerms (tokens.map lemmatize) := by
  refine congrArg FrequencyTable.ofTerms (List.map_congr_left fun token htoken => ?_)
  have hlemma : (ofTokens id text tokens lemmatize).tokenLemmas[token]? = some (lemmatize token) :=
    getElem?_tokenLemmas_ofTokens htoken
  rw [hlemma, Option.getD_some]

end Concordance.Document
