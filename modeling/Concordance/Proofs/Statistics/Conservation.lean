import Mathlib.Algebra.BigOperators.Group.Finset.Basic
import Mathlib.Data.String.Basic
import Concordance.Proofs.Grouping

/-!
# Analysis conserves tokens

Counting takes every token of a document to one term of each vocabulary, so the counts of either
table sum to the number of tokens (`FrequencyTable.sum_count_of_fits`), and to what is left of it
modulo the modulus of the counters if it is too large for them (`FrequencyTable.sum_count_mod`).

A token may be recorded under several lemmas, and a lemma may be a token in turn. The groups are
gone through in the order of their lemmas, and the first lemma found for a token is kept, so a token
is looked up under the smallest lemma it is recorded under
(`Document.getElem?_tokenLemmas_eq_some_iff`). A token in no group is its own lemma and is counted
together with the tokens that have it as their lemma (`Document.analyze_conserves`).
-/

namespace Concordance

/-! ## Tables -/

namespace FrequencyTable

variable {ν : Type} [Counter ν] {terms : List String}

/-- The terms of a list occur in it as often as it is long. -/
theorem sum_count_terms_eq_length :
    ∑ term ∈ (ofTerms terms : FrequencyTable ν).terms.toFinset, terms.count term = terms.length := by
  have hterms : (ofTerms terms : FrequencyTable ν).terms.toFinset = terms.toFinset := by
    ext term
    rw [List.mem_toFinset, List.mem_toFinset, mem_terms_iff, contains_ofTerms_iff]
  rw [hterms, terms.sum_toFinset_count_eq_length]

/-- The counts of a table sum to its total, up to multiples of the modulus. -/
theorem sum_count_mod : (∑ term ∈ (ofTerms terms : FrequencyTable ν).terms.toFinset,
      Counter.toNat ((ofTerms terms : FrequencyTable ν).count term)) % Counter.modulus ν =
    Counter.toNat (ofTerms terms : FrequencyTable ν).total := by
  simp only [count_ofTerms, total_ofTerms, Counter.toNat_ofNat]
  rw [← Finset.sum_nat_mod, sum_count_terms_eq_length]

/-- They sum to it as they are if a counter can show the number of terms. -/
theorem sum_count_of_fits (h : Counter.Fits ν terms.length) :
    ∑ term ∈ (ofTerms terms : FrequencyTable ν).terms.toFinset,
      Counter.toNat ((ofTerms terms : FrequencyTable ν).count term) =
    Counter.toNat (ofTerms terms : FrequencyTable ν).total := by
  simp only [toNat_count_ofTerms h, toNat_total_ofTerms h]
  exact sum_count_terms_eq_length

end FrequencyTable

namespace Document

variable {doc : Document} {token lem : String}

/-! ## The smallest lemma of a token -/

/-- The lemmas that a token is recorded under. -/
def lemmasOf (doc : Document) (token : String) : List String :=
  doc.lemmas.filter fun lem => token ∈ doc.lemmaGroups[lem]?.getD ∅

theorem mem_lemmasOf_iff : lem ∈ doc.lemmasOf token ↔ (token, lem) ∈ doc.groupedTokens := by
  rw [mem_groupedTokens_iff, lemmasOf, List.mem_filter, decide_eq_true_eq, lemmas,
    Std.ExtTreeMap.mem_keys, and_iff_right_iff_imp]
  intro htoken
  refine Std.ExtTreeMap.mem_iff_isSome_getElem?.2 (Option.isSome_iff_ne_none.2 fun hnone => ?_)
  rw [hnone] at htoken
  exact Std.ExtTreeSet.not_mem_empty htoken

/-- A lemma that a token is recorded under, and no larger than the others. -/
def IsSmallestLemma (doc : Document) (token lem : String) : Prop :=
  lem ∈ doc.lemmasOf token ∧ ∀ other ∈ doc.lemmasOf token, lem ≤ other

instance : Decidable (doc.IsSmallestLemma token lem) :=
  inferInstanceAs (Decidable (_ ∧ _))

/-- Grouped tokens stand in the order of their lemmas. -/
theorem pairwise_groupedTokens : doc.groupedTokens.Pairwise fun a b => a.2 ≤ b.2 := by
  rw [groupedTokens, List.pairwise_flatMap]
  constructor
  · intro group _
    rw [List.pairwise_map]
    exact List.pairwise_of_forall fun _ _ => le_refl group.1
  · refine Std.ExtTreeMap.ordered_keys_toList.imp fun {a b} hlt x hx y hy => ?_
    obtain ⟨_, -, rfl⟩ := List.mem_map.1 hx
    obtain ⟨_, -, rfl⟩ := List.mem_map.1 hy
    exact le_of_lt (compare_lt_iff_lt.1 hlt)

/-- The first lemma that a token stands grouped with is the smallest one. -/
theorem isSmallestLemma_of_find? {pair : String × String}
    (h : doc.groupedTokens.find? (·.1 == token) = some pair) :
    doc.IsSmallestLemma token pair.2 := by
  obtain ⟨htoken, front, rest, hsplit, hfront⟩ := List.find?_eq_some_iff_append.1 h
  refine ⟨mem_lemmasOf_iff.2 ?_, fun other hother => ?_⟩
  · rw [← eq_of_beq htoken]
    exact List.mem_of_find?_eq_some h
  · have hmem := mem_lemmasOf_iff.1 hother
    have hpairwise := doc.pairwise_groupedTokens
    rw [hsplit] at hmem hpairwise
    rcases List.mem_append.1 hmem with hmem | hmem
    · simpa using hfront _ hmem
    · rcases List.mem_cons.1 hmem with rfl | hmem
      · exact le_refl other
      · exact (List.pairwise_cons.1 (List.pairwise_append.1 hpairwise).2.1).1 _ hmem

theorem IsSmallestLemma.unique {other : String} (h : doc.IsSmallestLemma token lem)
    (hother : doc.IsSmallestLemma token other) : lem = other :=
  le_antisymm (h.2 other hother.1) (hother.2 lem h.1)

/-- A token is looked up under its smallest lemma. -/
theorem getElem?_tokenLemmas_eq_some_iff :
    doc.tokenLemmas[token]? = some lem ↔ doc.IsSmallestLemma token lem := by
  rw [getElem?_tokenLemmas_eq_find?]
  constructor
  · intro h
    obtain ⟨pair, hfind, rfl⟩ := Option.map_eq_some_iff.1 h
    exact isSmallestLemma_of_find? hfind
  · intro h
    cases hfind : doc.groupedTokens.find? (·.1 == token) with
    | none => simpa using List.find?_eq_none.1 hfind _ (mem_lemmasOf_iff.1 h.1)
    | some pair => rw [Option.map_some, (isSmallestLemma_of_find? hfind).unique h]

/-- A token that is recorded under no lemma is not found. -/
theorem getElem?_tokenLemmas_eq_none_iff :
    doc.tokenLemmas[token]? = none ↔ doc.lemmasOf token = [] := by
  rw [getElem?_tokenLemmas_eq_find?, Option.map_eq_none_iff, List.find?_eq_none,
    List.eq_nil_iff_forall_not_mem]
  constructor
  · intro h lem hlem
    simpa using h _ (mem_lemmasOf_iff.1 hlem)
  · rintro h ⟨other, lem⟩ hpair hother
    obtain rfl : other = token := eq_of_beq hother
    exact h lem (mem_lemmasOf_iff.2 hpair)

/-- A token is counted under its smallest lemma, or under itself if it has none. -/
theorem tokenLemmas_getD_eq_iff : doc.tokenLemmas[token]?.getD token = lem ↔
    doc.IsSmallestLemma token lem ∨ doc.lemmasOf token = [] ∧ token = lem := by
  rw [← getElem?_tokenLemmas_eq_some_iff, ← getElem?_tokenLemmas_eq_none_iff]
  cases doc.tokenLemmas[token]? <;> simp

/-! ## The counts of a document -/

/-- A token without lemmas is counted under itself, if it is a token at all. -/
theorem sum_count_of_lemmasOf_eq_nil : ∑ token ∈ doc.tokens.toFinset with
      doc.lemmasOf token = [] ∧ token = lem, doc.tokens.count token =
    if doc.lemmasOf lem = [] then doc.tokens.count lem else 0 := by
  rw [Finset.sum_filter, Finset.sum_eq_single lem]
  · simp
  · exact fun token _ hne => if_neg fun h => hne h.2
  · intro hlem
    have hcount : doc.tokens.count lem = 0 :=
      List.count_eq_zero.2 (mt List.mem_toFinset.2 hlem)
    rw [hcount, ite_self]

/-- The occurrences of the tokens that have a lemma as their smallest one, and of the lemma itself
if it is a token without lemmas. -/
def occurrences (doc : Document) (lem : String) : Nat :=
  (∑ token ∈ doc.tokens.toFinset with doc.IsSmallestLemma token lem, doc.tokens.count token) +
    if doc.lemmasOf lem = [] then doc.tokens.count lem else 0

/-- A lemma stands for that many tokens. -/
theorem count_terms_lemmas : (doc.terms .lemmas).count lem = doc.occurrences lem := by
  -- a token with a smallest lemma has lemmas
  have hdisjoint : Disjoint {token ∈ doc.tokens.toFinset | doc.IsSmallestLemma token lem}
      {token ∈ doc.tokens.toFinset | doc.lemmasOf token = [] ∧ token = lem} := by
    refine Finset.disjoint_filter.2 fun token _ hsmallest hnone => ?_
    exact List.ne_nil_of_mem hsmallest.1 hnone.1
  calc (doc.terms .lemmas).count lem
    _ = doc.tokens.countP fun token => doc.tokenLemmas[token]?.getD token = lem := by
      rw [terms, List.count_eq_countP, List.countP_map]
      rfl
    _ = ∑ token ∈ doc.tokens.toFinset with doc.IsSmallestLemma token lem ∨
          doc.lemmasOf token = [] ∧ token = lem, doc.tokens.count token := by
      rw [← Finset.sum_filter_count_eq_countP]
      simp only [tokenLemmas_getD_eq_iff]
    _ = (∑ token ∈ doc.tokens.toFinset with doc.IsSmallestLemma token lem, doc.tokens.count token) +
          ∑ token ∈ doc.tokens.toFinset with doc.lemmasOf token = [] ∧ token = lem,
            doc.tokens.count token := by
      rw [Finset.filter_or, Finset.sum_union hdisjoint]
    _ = doc.occurrences lem := by rw [sum_count_of_lemmasOf_eq_nil, occurrences]

/-- Counters of 32 bits show numbers modulo `2 ^ 32`. Up to this, in both vocabularies the counts
sum to the total, which is the number of tokens; tokens are counted as often as they occur, and a
lemma as often as the tokens that have it as the smallest of their lemmas, and as itself where it is
a token in no group. For a document of fewer than `2 ^ 32` tokens the numbers are shown as they are.
-/
theorem analyze_conserves (doc : Document) :
    let analysis : Analysis UInt32 := doc.analyze
    ((∀ vocabulary, let table := analysis.table vocabulary
        UInt32.ofNat (∑ term ∈ table.terms.toFinset, (table.count term).toNat) = table.total ∧
        table.total = .ofNat doc.tokens.length) ∧
      (∀ token, analysis.tokens.count token = .ofNat (doc.tokens.count token)) ∧
      ∀ lem, analysis.lemmas.count lem = .ofNat (doc.occurrences lem)) ∧
    (doc.tokens.length < 2 ^ 32 →
      (∀ vocabulary, let table := analysis.table vocabulary
        ∑ term ∈ table.terms.toFinset, (table.count term).toNat = table.total.toNat ∧
        table.total.toNat = doc.tokens.length) ∧
      (∀ token, (analysis.tokens.count token).toNat = doc.tokens.count token) ∧
      ∀ lem, (analysis.lemmas.count lem).toNat = doc.occurrences lem) := by
  have htable : ∀ vocabulary, (doc.analyze : Analysis UInt32).table vocabulary = _ := fun _ =>
    table_analyze
  refine ⟨⟨fun vocabulary => ?_, fun token => ?_, fun lem => ?_⟩, fun hlength => ?_⟩
  · rw [htable]
    refine ⟨UInt32.toNat_inj.1 (UInt32.toNat_ofNat.trans FrequencyTable.sum_count_mod), ?_⟩
    rw [FrequencyTable.total_ofTerms, length_terms, Counter.ofNat_uint32]
  · exact FrequencyTable.count_ofTerms.trans (Counter.ofNat_uint32 _)
  · rw [← count_terms_lemmas]
    exact FrequencyTable.count_ofTerms.trans (Counter.ofNat_uint32 _)
  · have hfits : ∀ vocabulary, Counter.Fits UInt32 (doc.terms vocabulary).length := fun vocabulary =>
      length_terms.symm ▸ Counter.fits_uint32 hlength
    refine ⟨fun vocabulary => ?_, fun token => ?_, fun lem => ?_⟩
    · rw [htable]
      exact ⟨FrequencyTable.sum_count_of_fits (hfits vocabulary),
        (FrequencyTable.toNat_total_ofTerms (hfits vocabulary)).trans length_terms⟩
    · exact FrequencyTable.toNat_count_ofTerms (hfits .tokens)
    · rw [← count_terms_lemmas]
      exact FrequencyTable.toNat_count_ofTerms (hfits .lemmas)

/-- A document that records the token `кот` under two lemmas, and `дом` under none. -/
def twoLemmas : Document :=
  ⟨1, "", ["кот", "дом", "кот", "дома"],
    ((LemmaGroups.record ∅ "кот" "кот").record "зверь" "кот").record "дом" "дома"⟩

/-- The token `кот` is counted under the smaller one of its lemmas, and `дом` together with `дома`.
-/
theorem analyze_conserves_twoLemmas :
    let analysis : Analysis UInt32 := twoLemmas.analyze
    twoLemmas.tokens.length < 2 ^ 32 ∧
      analysis.lemmas.counts.toList = [("дом", 2), ("зверь", 2)] ∧
      twoLemmas.occurrences "зверь" = 2 ∧ twoLemmas.occurrences "дом" = 2 ∧
      ∑ term ∈ analysis.lemmas.terms.toFinset, (analysis.lemmas.count term).toNat = 4 := by
  intro analysis
  have hlength : twoLemmas.tokens.length < 2 ^ 32 := by decide
  have hcounts : analysis.lemmas.counts.toList = [("дом", 2), ("зверь", 2)] := by decide +kernel
  obtain ⟨-, hexact⟩ := analyze_conserves twoLemmas
  obtain ⟨htotal, -, hlemmas⟩ := hexact hlength
  obtain ⟨hsum, hfour⟩ := htotal .lemmas
  exact ⟨hlength, hcounts, (hlemmas "зверь").symm.trans (by decide +kernel),
    (hlemmas "дом").symm.trans (by decide +kernel), hsum.trans hfour⟩

end Document

end Concordance
