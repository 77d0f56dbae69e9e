import Concordance.Proofs.Weight.Discrimination

/-!
# Similarity lies between zero and one

By the inequality of Cauchy and Schwarz a dot product is at most the product of the lengths
(`TermVector.dot_le_norm_mul_norm`), so no cosine exceeds one (`TermVector.cosine_le_one`), and it
is one for vectors that are positive multiples of each other (`TermVector.cosine_eq_one`). Weights
are not negative, since no term is in more documents than there are, and only positive scores are
ranked. So every score of a ranking is positive and at most one (`Snapshot.rank_bounded`).
-/

open Finset

namespace Concordance

namespace TermVector

variable {v w : TermVector ℝ} {vWalk wWalk : Walk} {c : ℝ}

/-! ## Products and lengths -/

/-- The square of a dot product is at most the product of the sums of squares. -/
theorem sq_dot_le : v.dot w vWalk wWalk ^ 2 ≤
    (v.weights.values.map (· ^ 2)).sum * (w.weights.values.map (· ^ 2)).sum := by
  rw [dot_eq_sum subset_union_left subset_union_right, sum_squares_eq subset_union_left,
    sum_squares_eq subset_union_right]
  exact sum_mul_sq_le_sq_mul_sq _ _ _

theorem dot_le_norm_mul_norm : v.dot w vWalk wWalk ≤ v.norm vWalk * w.norm wWalk := by
  have hsq : v.dot w vWalk wWalk ^ 2 ≤ (v.norm vWalk * w.norm wWalk) ^ 2 := by
    rw [mul_pow, norm_sq, norm_sq]
    exact sq_dot_le
  exact le_of_abs_le (abs_le_of_sq_le_sq hsq (mul_nonneg norm_nonneg norm_nonneg))

theorem cosine_le_one : v.cosine w vWalk wWalk ≤ 1 := by
  rw [cosine_eq_div]
  exact div_le_one_of_le₀ dot_le_norm_mul_norm (mul_nonneg norm_nonneg norm_nonneg)

/-! ## Multiples -/

section Multiple

variable (h : ∀ term, w.weight term = c * v.weight term)

include h

theorem dot_of_multiple : v.dot w vWalk wWalk = c * v.norm vWalk ^ 2 := by
  rw [dot_eq_sum subset_union_left subset_union_right, norm_sq, sum_squares_eq subset_union_left,
    mul_sum]
  refine sum_congr rfl fun term _ => ?_
  rw [h]
  ring

theorem norm_of_multiple (hc : 0 < c) : w.norm wWalk = c * v.norm vWalk := by
  refine (sq_eq_sq₀ norm_nonneg (mul_nonneg hc.le norm_nonneg)).1 ?_
  rw [mul_pow, norm_sq, norm_sq, sum_squares_eq (s := w.terms ∪ v.terms) subset_union_left,
    sum_squares_eq subset_union_right, mul_sum]
  refine sum_congr rfl fun term _ => ?_
  rw [h]
  ring

/-- A vector has the greatest similarity with its positive multiples. -/
theorem cosine_eq_one (hc : 0 < c) (hv : v.norm vWalk ≠ 0) : v.cosine w vWalk wWalk = 1 := by
  have hnorm : w.norm wWalk = c * v.norm vWalk := norm_of_multiple h hc
  rw [cosine_eq_div, dot_of_multiple h, hnorm]
  field_simp

end Multiple

end TermVector

/-! ## Scores -/

namespace DocumentVectors

variable {vectors : DocumentVectors ℝ} {walks : Walks} {query : TermVector ℝ}

theorem score_bounds {hit : Hit ℝ} (h : hit ∈ vectors.rank walks query) :
    0 < hit.score ∧ hit.score ≤ 1 := by
  obtain ⟨v, -, hscore, hpos⟩ := mem_rank_iff.1 h
  exact ⟨Scalar.isPositive_iff.1 hpos, hscore ▸ TermVector.cosine_le_one⟩

/-- A document that is a positive multiple of the query is ranked with the score one only. -/
theorem mem_rank_multiple_iff {v : TermVector ℝ} {id : DocId} {c score : ℝ}
    (hget : vectors.get? id = some v) (hquery : query.norm walks.query ≠ 0) (hc : 0 < c)
    (h : ∀ term, v.weight term = c * query.weight term) :
    ⟨id, score⟩ ∈ vectors.rank walks query ↔ score = 1 := by
  rw [mem_rank_iff, Scalar.isPositive_iff]
  constructor
  · rintro ⟨w, hw, hscore, -⟩
    rw [hget] at hw
    refine hscore.symm.trans ?_
    rw [← Option.some.inj hw]
    exact TermVector.cosine_eq_one h hc hquery
  · rintro rfl
    exact ⟨v, hget, TermVector.cosine_eq_one h hc hquery, one_pos⟩

end DocumentVectors

namespace Snapshot

/-- In exact arithmetic the square of a dot product is at most the product of the sums of squares,
no inverse document frequency and no weight of a document or a query is negative, every score is
positive and at most one, and a document whose weights are a positive multiple of those of the query
is ranked with the score one. Counts need not be exact for this. -/
theorem rank_bounded (ν : Type) [Counter ν] (corpus : Corpus) (normalizer : Normalizer)
    (walks : Walks) (query : String) :
    let snapshot : Snapshot ν ℝ := ofCorpus corpus
    (∀ (v w : TermVector ℝ) (vWalk wWalk : Walk), v.dot w vWalk wWalk ^ 2 ≤
      (v.weights.values.map (· ^ 2)).sum * (w.weights.values.map (· ^ 2)).sum) ∧
    (∀ vocabulary term, 0 ≤ (snapshot.statistics.space vocabulary).inverseFrequency ℝ term) ∧
    (∀ id v, snapshot.vectors.get? id = some v → ∀ term, 0 ≤ v.weight term) ∧
    (∀ v, snapshot.queryVector? walks.query normalizer query = some v →
      ∀ term, 0 ≤ v.weight term) ∧
    (∀ hit ∈ snapshot.rank walks normalizer query, 0 < hit.score ∧ hit.score ≤ 1) ∧
    ∀ q, snapshot.queryVector? walks.query normalizer query = some q →
      ∀ id v c, snapshot.vectors.get? id = some v → 0 < c →
        (∀ term, v.weight term = c * q.weight term) →
        ∀ score, ⟨id, score⟩ ∈ snapshot.rank walks normalizer query ↔ score = 1 := by
  intro snapshot
  refine ⟨fun _ _ _ _ => TermVector.sq_dot_le, fun vocabulary _ =>
    TermSpace.inverseFrequency_nonneg (Statistics.documentFrequency_le vocabulary), ?_, ?_, ?_, ?_⟩
  · intro id v hv
    obtain ⟨table, -, rfl⟩ := DocumentVectors.get?_ofSpace_eq_some_iff.1 hv
    exact weight_nonneg table
  · intro v hv
    obtain ⟨-, -, rfl⟩ := TermVector.ofQuery?_eq_some_iff.1 hv
    exact weight_nonneg _
  · intro hit hhit
    unfold rank at hhit
    split at hhit
    · exact DocumentVectors.score_bounds hhit
    · cases hhit
  · intro q hq id v c hv hc hmultiple score
    obtain ⟨-, hlength, -⟩ := TermVector.ofQuery?_eq_some_iff.1 hq
    rw [rank, hq]
    have hne := Scalar.isZero_eq_false_iff.1 hlength
    exact DocumentVectors.mem_rank_multiple_iff hv hne hc hmultiple

/-- Two documents with cheese, one of them with a cat. -/
def cheeseAndCat : List Document :=
  [.ofTokens 1 "Кот и сыр" ["кот", "сыр"] id, .ofTokens 2 "Сыр" ["сыр"] id]

/-- The cheese is in both documents and weighs nothing, so the first one is half of a query for a
cat and has the score one. -/
theorem rank_cheeseAndCat :
    let snapshot : Snapshot Nat ℝ := ofCorpus (.ofDocuments cheeseAndCat)
    ∀ walks : Walks, ∃ q v, snapshot.queryVector? walks.query stemming "коты" = some q ∧
      snapshot.vectors.get? 1 = some v ∧ (∀ term, v.weight term = 1 / 2 * q.weight term) ∧
      ⟨1, 1⟩ ∈ snapshot.rank walks stemming "коты" := by
  intro snapshot walks
  let space : TermSpace Nat := (Statistics.ofCorpus (.ofDocuments cheeseAndCat)).lemmas
  obtain ⟨-, hinverse, -, -, -, hone⟩ :=
    rank_bounded Nat (.ofDocuments cheeseAndCat) stemming walks "коты"
  have hlemmas : stemming.lemmas "коты" = ["кот"] := by decide +kernel
  have hcat : space.Discriminates "кот" := ⟨by decide +kernel, by decide +kernel⟩
  have hcheese : space.inverseFrequency ℝ "сыр" = 0 := by
    -- a logarithm is not evaluated : the lemma does not discriminate, so its weight is not positive
    refine le_antisymm (not_lt.1 fun hpos => ?_) (hinverse .lemmas "сыр")
    exact absurd (TermSpace.inverseFrequency_pos_iff.1 hpos).2 (by decide +kernel)
  have htable : space.table? 1 = some (.ofTerms ["кот", "сыр"]) := by decide +kernel
  obtain ⟨q, hq⟩ : ∃ q, snapshot.queryVector? walks.query stemming "коты" = some q :=
    exists_queryVector?_iff.2 ⟨"кот", by rw [hlemmas]; exact List.mem_cons_self, hcat⟩
  have hv : snapshot.vectors.get? 1 = some (.ofTable space (.ofTerms ["кот", "сыр"])) :=
    DocumentVectors.get?_ofSpace_eq_some_iff.2 ⟨_, htable, rfl⟩
  have hhalf : ∀ term,
      (TermVector.ofTable space (.ofTerms ["кот", "сыр"]) : TermVector ℝ).weight term =
        1 / 2 * q.weight term := by
    intro term
    obtain ⟨-, -, hvector⟩ := TermVector.ofQuery?_eq_some_iff.1 hq
    have hweight : q.weight term = ["кот"].count term * space.inverseFrequency ℝ term := by
      rw [hvector, hlemmas, TermVector.weight_ofTable (Counter.fits_nat _),
        FrequencyTable.share_ofTerms (Counter.fits_nat _),
        List.length_singleton, Nat.cast_one, div_one]
      rfl
    rw [hweight, TermVector.weight_ofTable (Counter.fits_nat _),
      FrequencyTable.share_ofTerms (Counter.fits_nat _)]
    by_cases hterm : term = "сыр"
    · rw [hterm, hcheese, mul_zero, mul_zero, mul_zero]
    · have hcount : ["кот", "сыр"].count term = ["кот"].count term := by
        simp [List.count_cons, Ne.symm hterm]
      rw [hcount, List.length_cons, List.length_singleton]
      ring
  exact ⟨q, _, hq, hv, hhalf, (hone q hq 1 _ (1 / 2) hv (by norm_num) hhalf 1).2 rfl⟩

end Snapshot

end Concordance
