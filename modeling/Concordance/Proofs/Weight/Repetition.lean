import Concordance.Proofs.Weight.Discrimination
import Concordance.Proofs.Weight.Walks

/-!
# Repeated and reordered queries

The table of a list depends on how often each term stands in it, and a share on the ratio of this
number to the length. Listing the same terms several times over, in any order, multiplies both alike
(`FrequencyTable.count_repeated`, `FrequencyTable.length_repeated`), so the shares stay the same
wherever quotients of counts may be reduced and counters can show the counts
(`FrequencyTable.share_repeated`). A query then has the same vector as before, or none as before. In
exact arithmetic it has the same ranking too (`TermVector.ofQuery?_repeated`); where scores are
rounded, the ranking also depends on how the vectors happen to be walked, even of the same query.
-/

namespace Concordance

variable {ν α : Type} [Counter ν] [Scalar α] {terms terms' : List String} {m : Nat} {term : String}

/-! ## Tables -/

namespace FrequencyTable

variable (h : terms'.Perm (List.replicate m terms).flatten)

include h

theorem count_repeated : terms'.count term = m * terms.count term := by
  rw [h.count_eq, List.count_flatten, List.map_replicate, List.sum_replicate_nat]

theorem length_repeated : terms'.length = m * terms.length := by
  rw [h.length_eq, List.length_flatten, List.map_replicate, List.sum_replicate_nat]

variable (hm : 1 ≤ m)

include hm

theorem contains_repeated : (ofTerms terms' : FrequencyTable ν).contains term =
    (ofTerms terms : FrequencyTable ν).contains term := by
  rw [Bool.eq_iff_iff, contains_ofTerms_iff, contains_ofTerms_iff, ← List.count_pos_iff,
    ← List.count_pos_iff, count_repeated h]
  exact Nat.mul_pos_iff_of_pos_left hm

variable (hfits : Counter.Fits ν (m * terms.length))

include hfits

theorem fits_repeated : Counter.Fits ν terms.length ∧ Counter.Fits ν terms'.length :=
  ⟨hfits.mono (Nat.le_mul_of_pos_left _ hm), length_repeated h ▸ hfits⟩

theorem isEmpty_repeated : (ofTerms terms' : FrequencyTable ν).isEmpty =
    (ofTerms terms : FrequencyTable ν).isEmpty := by
  obtain ⟨hbefore, hafter⟩ := fits_repeated h hm hfits
  rw [Bool.eq_iff_iff, isEmpty, isEmpty, toNat_total_ofTerms hbefore, toNat_total_ofTerms hafter,
    length_repeated h]
  simp
  omega

/-- Where quotients of counts may be reduced, the shares stay the same. -/
theorem share_repeated (hreduce : ∀ count ≤ terms.length,
      (Scalar.ofNat (m * count) : α) / Scalar.ofNat (m * terms.length) =
        Scalar.ofNat count / Scalar.ofNat terms.length) :
    (ofTerms terms' : FrequencyTable ν).share α term =
      (ofTerms terms : FrequencyTable ν).share α term := by
  obtain ⟨hbefore, hafter⟩ := fits_repeated h hm hfits
  unfold share
  -- the check for an empty table goes the same way on both sides, so only the quotients differ
  rw [isEmpty_repeated h hm hfits, toNat_count_ofTerms hbefore, toNat_count_ofTerms hafter,
    toNat_total_ofTerms hbefore, toNat_total_ofTerms hafter, count_repeated h, length_repeated h,
    hreduce _ List.count_le_length]

end FrequencyTable

/-! ## Queries -/

namespace TermVector

/-- A query whose lemmas are repeated as a whole and reordered has the same vector as before, or
none as before, provided that counters of 32 bits can show how many lemmas there are and that a
share is an exact quotient. If both have a vector it is the same one, however each of them is
walked. In exact arithmetic both queries rank documents in the same way, whatever the walks are. -/
theorem ofQuery?_repeated (space : TermSpace UInt32) {lemmas lemmas' : List String} {m : Nat}
    (hm : 1 ≤ m) (h : lemmas'.Perm (List.replicate m lemmas).flatten)
    (hcounts : m * lemmas.length < 2 ^ 32)
    (hreduce : ∀ count ≤ lemmas.length,
      (Scalar.ofNat (m * count) : α) / Scalar.ofNat (m * lemmas.length) =
        Scalar.ofNat count / Scalar.ofNat lemmas.length) :
    (∀ walk, (ofQuery? walk lemmas' space : Option (TermVector α)) = ofQuery? walk lemmas space) ∧
    (∀ walk walk' (v v' : TermVector α), ofQuery? walk lemmas space = some v →
      ofQuery? walk' lemmas' space = some v' → v' = v) ∧
    (Scalar.Exact α → ∀ (walks walks' : Walks) (vectors : DocumentVectors α),
      (ofQuery? walks'.query lemmas' space).map (vectors.rank walks') =
        (ofQuery? walks.query lemmas space).map (vectors.rank walks)) := by
  have hfits : Counter.Fits UInt32 (m * lemmas.length) := Counter.fits_uint32 hcounts
  have hvector : (ofTable space (.ofTerms lemmas') : TermVector α) =
      ofTable space (.ofTerms lemmas) :=
    ofTable_congr (fun _ => FrequencyTable.contains_repeated h hm)
      fun _ => FrequencyTable.share_repeated h hm hfits hreduce
  have hquery : ∀ walk, (ofQuery? walk lemmas' space : Option (TermVector α)) =
      ofQuery? walk lemmas space := by
    intro walk
    rw [ofQuery?_eq_ite, ofQuery?_eq_ite, FrequencyTable.isEmpty_repeated h hm hfits, hvector]
  refine ⟨hquery, fun walk walk' v v' hv hv' => ?_, fun hexact walks walks' vectors => ?_⟩
  · obtain ⟨-, -, rfl⟩ := ofQuery?_eq_some_iff.1 hv
    obtain ⟨-, -, rfl⟩ := ofQuery?_eq_some_iff.1 hv'
    exact hvector
  · rw [hquery, ofQuery?_eq_of_exact walks'.query walks.query,
      funext (vectors.rank_eq_of_exact walks' walks)]

end TermVector

/-- Quotients of real numbers may be reduced. -/
theorem Scalar.ofNat_mul_div (hm : 1 ≤ m) (x y : Nat) :
    (ofNat (m * x) : ℝ) / ofNat (m * y) = ofNat x / ofNat y := by
  have hcast : (m : ℝ) ≠ 0 := Nat.cast_ne_zero.2 (Nat.ne_of_gt hm)
  show ((m * x : ℕ) : ℝ) / ((m * y : ℕ) : ℝ) = x / y
  rw [Nat.cast_mul, Nat.cast_mul, mul_div_mul_left _ _ hcast]

/-- A query with a repeated word is asked twice over, in another order. -/
theorem TermVector.ofQuery?_catTwice :
    let space : TermSpace UInt32 :=
      (Statistics.ofCorpus (.ofDocuments Statistics.severalLemmatizers)).lemmas
    let lemmas := ["кот", "дом", "кот"]
    let lemmas' := ["дом", "дом", "кот", "кот", "кот", "кот"]
    lemmas'.Perm (List.replicate 2 lemmas).flatten ∧ 2 * lemmas.length < 2 ^ 32 ∧
      (∀ walk, ∃ v : TermVector ℝ, ofQuery? walk lemmas space = some v ∧
        ofQuery? walk lemmas' space = some v) ∧
      ∀ (walks walks' : Walks) (vectors : DocumentVectors ℝ),
        (ofQuery? walks'.query lemmas' space).map (vectors.rank walks') =
          (ofQuery? walks.query lemmas space).map (vectors.rank walks) := by
  intro space lemmas lemmas'
  have hperm : lemmas'.Perm (List.replicate 2 lemmas).flatten := by decide +kernel
  have hcounts : 2 * lemmas.length < 2 ^ 32 := by decide
  have hcat : space.Discriminates "кот" := ⟨by decide +kernel, by decide +kernel⟩
  have hfits : Counter.Fits UInt32 lemmas.length := Counter.fits_uint32 (by decide)
  obtain ⟨hquery, -, hrank⟩ := ofQuery?_repeated space one_le_two hperm hcounts
    fun count _ => Scalar.ofNat_mul_div one_le_two count _
  refine ⟨hperm, hcounts, fun walk => ?_, hrank inferInstance⟩
  obtain ⟨v, hv⟩ := (Snapshot.exists_ofQuery?_iff hfits).2 ⟨"кот", List.mem_cons_self, hcat⟩
  exact ⟨v, hv, (hquery walk).trans hv⟩

end Concordance
