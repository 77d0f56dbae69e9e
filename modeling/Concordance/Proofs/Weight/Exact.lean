import Mathlib.Algebra.BigOperators.Group.Finset.Basic
import Mathlib.Algebra.Order.BigOperators.Ring.Finset
import Mathlib.Analysis.Real.Sqrt
import Mathlib.Analysis.SpecialFunctions.Log.Basic
import Concordance.Proofs.Weight.Product

/-!
# Exact weights

Weights in exact arithmetic are real numbers. Over them the length of a vector and the dot product
of two vectors are sums over sets of terms (`TermVector.sum_squares_eq`, `TermVector.dot_eq_sum`),
where a term that a vector does not have weighs nothing. So only the vector without a weight has no
length (`TermVector.norm_eq_zero_iff`), two vectors without negative weights have a positive product
exactly if they share a term with a weight (`TermVector.dot_pos_iff`), and their cosine, the product
over the lengths (`TermVector.cosine_eq_div`), is positive exactly if their product is
(`TermVector.cosine_pos_iff`). All this holds however the vectors are walked.
-/

open Finset

namespace Concordance

/-- Exact arithmetic. -/
noncomputable instance : Scalar ℝ where
  zero := 0
  ofNat := Nat.cast
  ln := Real.log
  sqrt := Real.sqrt
  isZero x := decide (x = 0)
  isPositive x := decide (0 < x)
  order := compare

namespace Scalar

variable {x : ℝ}

theorem isZero_eq_false_iff : isZero x = false ↔ x ≠ 0 :=
  decide_eq_false_iff_not

theorem isPositive_iff : isPositive x = true ↔ 0 < x :=
  decide_eq_true_iff

theorem sum_eq (xs : List ℝ) : sum xs = xs.sum :=
  List.sum_eq_foldl.symm

instance : Exact ℝ where
  add_comm := add_comm
  add_assoc := add_assoc
  zero_add := zero_add
  mul_comm := mul_comm
  zero_mul := zero_mul

end Scalar

namespace TermVector

variable {v w : TermVector ℝ} {vWalk wWalk : Walk} {term : String}

/-! ## Sums over terms -/

/-- The terms of a vector. -/
def terms (v : TermVector ℝ) : Finset String :=
  v.weights.keys.toFinset

theorem mem_terms_iff : term ∈ v.terms ↔ term ∈ v.weights := by
  rw [terms, List.mem_toFinset, Std.ExtTreeMap.mem_keys]

theorem weight_eq_zero_of_notMem (h : term ∉ v.terms) : v.weight term = 0 :=
  weight_eq_zero (mt mem_terms_iff.2 h)

/-! ## Length -/

/-- The squares of the weights add up over any terms that include those of the vector. -/
theorem sum_squares_eq {s : Finset String} (hv : v.terms ⊆ s) :
    (v.weights.values.map (· ^ 2)).sum = ∑ term ∈ s, v.weight term ^ 2 := by
  calc (v.weights.values.map (· ^ 2)).sum
    _ = (v.weights.keys.map (v.weight · ^ 2)).sum := by
      rw [values_eq, ← Std.ExtTreeMap.map_fst_toList_eq_keys, List.map_map, List.map_map]
      refine congrArg List.sum (List.map_congr_left fun entry hentry => ?_)
      simp [weight_eq_of_mem hentry]
    _ = ∑ term ∈ v.terms, v.weight term ^ 2 :=
      (List.sum_toFinset _ Std.ExtTreeMap.nodup_keys).symm
    _ = ∑ term ∈ s, v.weight term ^ 2 := by
      refine sum_subset hv fun term _ hterm => ?_
      rw [weight_eq_zero_of_notMem hterm, zero_pow two_ne_zero]

theorem norm_eq_sqrt : v.norm vWalk = √(v.weights.values.map (· ^ 2)).sum := by
  have hperm : ((v.entries vWalk).map (·.2 ^ 2)).Perm (v.weights.toList.map (·.2 ^ 2)) :=
    (v.entries_perm vWalk).map _
  rw [values_eq, List.map_map]
  simp only [norm, Scalar.sum_eq, ← pow_two]
  rw [hperm.sum_eq]
  rfl

theorem norm_nonneg : 0 ≤ v.norm vWalk := by
  rw [norm_eq_sqrt]
  exact Real.sqrt_nonneg _

theorem norm_sq : v.norm vWalk ^ 2 = (v.weights.values.map (· ^ 2)).sum := by
  rw [norm_eq_sqrt, sum_squares_eq (Subset.refl _), Real.sq_sqrt (sum_nonneg fun _ _ => sq_nonneg _)]

/-- Only a vector without weights has no length. -/
theorem norm_eq_zero_iff : v.norm vWalk = 0 ↔ ∀ term, v.weight term = 0 := by
  rw [← sq_eq_zero_iff, norm_sq, sum_squares_eq (Subset.refl _),
    sum_eq_zero_iff_of_nonneg fun _ _ => sq_nonneg _]
  constructor
  · intro h term
    by_cases hterm : term ∈ v.terms
    · exact sq_eq_zero_iff.1 (h term hterm)
    · exact weight_eq_zero_of_notMem hterm
  · intro h term _
    rw [h, zero_pow two_ne_zero]

/-! ## Products -/

/-- The dot product is the sum over any terms that include those of both vectors. -/
theorem dot_eq_sum {s : Finset String} (hv : v.terms ⊆ s) (hw : w.terms ⊆ s) :
    v.dot w vWalk wWalk = ∑ term ∈ s, v.weight term * w.weight term := by
  rw [dot, dotAlong_eq_sum (v.entries_perm vWalk) (w.entries_perm wWalk) s.nodup_toList,
    Scalar.sum_eq]
  · exact sum_map_toList s _
  · rintro term (h | h)
    · exact mem_toList.2 (hv (mem_terms_iff.2 h))
    · exact mem_toList.2 (hw (mem_terms_iff.2 h))

/-- Without negative weights, a product is positive exactly if the vectors share a term that has
a weight in both of them. -/
theorem dot_pos_iff (hv : ∀ term, 0 ≤ v.weight term) (hw : ∀ term, 0 ≤ w.weight term) :
    0 < v.dot w vWalk wWalk ↔ ∃ term, 0 < v.weight term ∧ 0 < w.weight term := by
  rw [dot_eq_sum subset_union_left subset_union_right,
    sum_pos_iff_of_nonneg fun term _ => mul_nonneg (hv term) (hw term)]
  constructor
  · rintro ⟨term, -, hpos⟩
    exact ⟨term, pos_of_mul_pos_left hpos (hw term), pos_of_mul_pos_right hpos (hv term)⟩
  · rintro ⟨term, hpos, hpos'⟩
    refine ⟨term, mem_union_left _ ?_, mul_pos hpos hpos'⟩
    by_contra hterm
    exact hpos.ne' (weight_eq_zero_of_notMem hterm)

/-- A vector that has a positive product with another one has a length. -/
theorem norm_pos_of_dot_pos (h : 0 < v.dot w vWalk wWalk) :
    0 < v.norm vWalk ∧ 0 < w.norm wWalk := by
  have hsum : v.dot w vWalk wWalk = _ := dot_eq_sum subset_union_left subset_union_right
  refine ⟨norm_nonneg.lt_of_ne' fun hzero => ?_, norm_nonneg.lt_of_ne' fun hzero => ?_⟩
  · simp [hsum, norm_eq_zero_iff.1 hzero] at h
  · simp [hsum, norm_eq_zero_iff.1 hzero] at h

/-- The cosine is the product over the lengths, also where one of them is zero. -/
theorem cosine_eq_div :
    v.cosine w vWalk wWalk = v.dot w vWalk wWalk / (v.norm vWalk * w.norm wWalk) := by
  rw [cosine, cosineBy]
  split
  · next hzero =>
    rw [Bool.or_eq_true] at hzero
    obtain h | h := hzero
    · rw [of_decide_eq_true h, zero_mul, div_zero]
      rfl
    · rw [of_decide_eq_true h, mul_zero, div_zero]
      rfl
  · rfl

/-- A cosine is positive exactly if the product is. -/
theorem cosine_pos_iff : 0 < v.cosine w vWalk wWalk ↔ 0 < v.dot w vWalk wWalk := by
  rw [cosine_eq_div]
  constructor
  · intro h
    by_contra hdot
    exact h.not_ge
      (div_nonpos_of_nonpos_of_nonneg (not_lt.1 hdot) (mul_nonneg norm_nonneg norm_nonneg))
  · intro h
    obtain ⟨hv, hw⟩ := norm_pos_of_dot_pos h
    exact div_pos h (mul_pos hv hw)

end TermVector

end Concordance
