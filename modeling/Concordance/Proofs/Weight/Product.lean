import Concordance.Proofs.Contents
import Concordance.Weight.TermVector

/-!
# Dot products in any order

The entries of a term vector have no order of their own, and of two vectors the dot product walks
the one with fewer terms. Where sums and products are exact (`Scalar.Exact`) neither matters : a sum
over the entries of a vector is the sum over any terms that include its own
(`TermVector.sum_entries`), since other terms weigh nothing. So the dot product is the sum over all
terms of the products of both weights, whatever the orders are, and it is the same from both sides
(`TermVector.dotAlong_exact`). Where numbers are rounded, the order of a sum may decide its last
digits, and so may that of the vectors.
-/

namespace Concordance

/-! ## Exact sums -/

namespace Scalar

/-- Sums and products follow the laws of arithmetic, as those of rational and of real numbers do. -/
class Exact (α : Type) [Scalar α] : Prop where
  add_comm (x y : α) : x + y = y + x
  add_assoc (x y z : α) : x + y + z = x + (y + z)
  zero_add (x : α) : zero + x = x
  mul_comm (x y : α) : x * y = y * x
  zero_mul (x : α) : zero * x = zero

variable {α β : Type} [Scalar α] [Exact α]

theorem sum_cons (x : α) (xs : List α) : sum (x :: xs) = x + sum xs := by
  have : Std.Associative (fun x y : α => x + y) := ⟨Exact.add_assoc⟩
  unfold sum
  rw [List.foldl_cons, Exact.add_comm zero x]
  exact List.foldl_assoc

/-- A sum does not depend on an order. -/
theorem sum_perm {xs ys : List α} (h : xs.Perm ys) : sum xs = sum ys := by
  refine h.foldl_eq' (fun x _ y _ z => ?_) zero
  rw [Exact.add_assoc, Exact.add_comm x y, ← Exact.add_assoc]

/-- Elements without a value may be left out of a sum. -/
theorem sum_map_filter {p : β → Bool} {f : β → α} : ∀ xs : List β,
    (∀ x ∈ xs, p x = false → f x = zero) → sum ((xs.filter p).map f) = sum (xs.map f)
  | [], _ => rfl
  | x :: xs, h => by
    have ih := sum_map_filter xs fun y hy => h y (List.mem_cons_of_mem x hy)
    cases hx : p x with
    | true => rw [List.filter_cons_of_pos hx, List.map_cons, List.map_cons, sum_cons, sum_cons, ih]
    | false =>
      rw [List.filter_cons_of_neg (by simp [hx]), ih, List.map_cons, sum_cons,
        h x List.mem_cons_self hx, Exact.zero_add]

end Scalar

/-! ## Products of vectors -/

namespace TermVector

variable {α : Type} [Scalar α] {v w : TermVector α} {term : String}

/-- A term that a vector does not have weighs nothing. -/
theorem weight_eq_zero (h : term ∉ v.weights) : v.weight term = Scalar.zero := by
  rw [weight, Std.ExtTreeMap.getElem?_eq_none h]
  rfl

theorem weight_eq_of_mem {entry : String × α} (h : entry ∈ v.weights.toList) :
    v.weight entry.1 = entry.2 := by
  rw [weight, Std.ExtTreeMap.mem_toList_iff_getElem?_eq_some.1 h, Option.getD_some]

/-- The entries of a vector are walked in some order. -/
theorem entries_perm (v : TermVector α) (walk : Walk) :
    (v.entries walk).Perm v.weights.toList := by
  have hentries : v.weights.keys.map (fun term => (term, v.weight term)) = v.weights.toList := by
    rw [← Std.ExtTreeMap.map_fst_toList_eq_keys, List.map_map]
    refine (List.map_congr_left fun entry hentry => ?_).trans (List.map_id _)
    exact Prod.ext rfl (weight_eq_of_mem hentry)
  exact hentries ▸ (walk.perm v.weights.keys).map _

/-- The terms of two vectors, each of them once. -/
theorem exists_terms {α : Type} (v w : TermVector α) : ∃ terms : List String,
    terms.Nodup ∧ ∀ term, term ∈ v.weights ∨ term ∈ w.weights → term ∈ terms := by
  refine ⟨v.weights.keys ++ w.weights.keys.filter (· ∉ v.weights), ?_, fun term h => ?_⟩
  · refine List.nodup_append.2 ⟨Std.ExtTreeMap.nodup_keys, Std.ExtTreeMap.nodup_keys.filter _, ?_⟩
    rintro term hv _ hw rfl
    exact of_decide_eq_true (List.mem_filter.1 hw).2 (Std.ExtTreeMap.mem_keys.1 hv)
  · by_cases hv : term ∈ v.weights
    · simp [hv]
    · simp [hv, h.resolve_left hv]

variable [Scalar.Exact α]

/-- A sum over the entries of a vector is the sum over any terms that include its own. -/
theorem sum_entries {entries : List (String × α)} {terms : List String}
    (hentries : entries.Perm v.weights.toList) (hnodup : terms.Nodup)
    (hterms : ∀ term ∈ v.weights, term ∈ terms) :
    Scalar.sum (entries.map fun p => p.2 * w.weight p.1) =
      Scalar.sum (terms.map fun term => v.weight term * w.weight term) := by
  have hkeys : v.weights.keys.Perm (terms.filter (· ∈ v.weights)) := by
    refine (List.perm_ext_iff_of_nodup Std.ExtTreeMap.nodup_keys (hnodup.filter _)).2 fun term => ?_
    rw [Std.ExtTreeMap.mem_keys, List.mem_filter, decide_eq_true_iff]
    exact ⟨fun h => ⟨hterms term h, h⟩, And.right⟩
  calc Scalar.sum (entries.map fun p => p.2 * w.weight p.1)
    -- each entry's number is the weight of its term, so only the terms matter from here on
    _ = Scalar.sum (v.weights.toList.map fun p => v.weight p.1 * w.weight p.1) := by
      rw [Scalar.sum_perm (hentries.map _)]
      refine congrArg Scalar.sum (List.map_congr_left fun p hp => ?_)
      rw [weight_eq_of_mem hp]
    _ = Scalar.sum (v.weights.keys.map fun term => v.weight term * w.weight term) := by
      rw [← Std.ExtTreeMap.map_fst_toList_eq_keys, List.map_map]
      rfl
    _ = Scalar.sum ((terms.filter (· ∈ v.weights)).map
          fun term => v.weight term * w.weight term) := Scalar.sum_perm (hkeys.map _)
    _ = Scalar.sum (terms.map fun term => v.weight term * w.weight term) := by
      refine Scalar.sum_map_filter terms fun term _ hterm => ?_
      rw [weight_eq_zero (of_decide_eq_false hterm), Scalar.Exact.zero_mul]

/-- In whatever orders the entries are walked, the dot product is the sum over any terms that
include those of both vectors. -/
theorem dotAlong_eq_sum {vEntries wEntries : List (String × α)} {terms : List String}
    (hv : vEntries.Perm v.weights.toList) (hw : wEntries.Perm w.weights.toList)
    (hnodup : terms.Nodup) (hterms : ∀ term, term ∈ v.weights ∨ term ∈ w.weights → term ∈ terms) :
    v.dotAlong w vEntries wEntries =
      Scalar.sum (terms.map fun term => v.weight term * w.weight term) := by
  unfold dotAlong
  split
  · exact sum_entries hv hnodup fun term h => hterms term (.inl h)
  · rw [sum_entries hw hnodup fun term h => hterms term (.inr h)]
    simp only [Scalar.Exact.mul_comm (w.weight _)]

/-- Exact dot products are sums over all terms : of any terms that include those of both vectors, in
whatever orders the entries are walked. They do not depend on these orders, nor on which vector
comes first. -/
theorem dotAlong_exact (v w : TermVector α) {vEntries wEntries : List (String × α)}
    (hv : vEntries.Perm v.weights.toList) (hw : wEntries.Perm w.weights.toList) :
    (∀ terms : List String, terms.Nodup →
      (∀ term, term ∈ v.weights ∨ term ∈ w.weights → term ∈ terms) →
      v.dotAlong w vEntries wEntries =
        Scalar.sum (terms.map fun term => v.weight term * w.weight term)) ∧
    ∀ vWalk wWalk, v.dotAlong w vEntries wEntries = v.dot w vWalk wWalk ∧
      ∀ vWalk' wWalk', v.dot w vWalk wWalk = w.dot v wWalk' vWalk' := by
  obtain ⟨terms, hnodup, hterms⟩ := exists_terms v w
  have hdot : ∀ vWalk wWalk, v.dot w vWalk wWalk = _ := fun vWalk wWalk =>
    dotAlong_eq_sum (v.entries_perm vWalk) (w.entries_perm wWalk) hnodup hterms
  refine ⟨fun _ hnodup hterms => dotAlong_eq_sum hv hw hnodup hterms, fun vWalk wWalk =>
    ⟨?_, fun vWalk' wWalk' => ?_⟩⟩
  -- for vectors of one size each product walks its own first vector, so both go through the terms
  · rw [dotAlong_eq_sum hv hw hnodup hterms, hdot]
  · rw [hdot, dot, dotAlong_eq_sum (w.entries_perm wWalk') (v.entries_perm vWalk') hnodup
      fun term h => hterms term h.symm]
    simp only [Scalar.Exact.mul_comm (w.weight _)]

end TermVector

/-! ## Rational weights -/

/-- Rational numbers, with any logarithm and square root : sums and products need neither. -/
@[reducible]
def Scalar.rational (ln sqrt : Rat → Rat) : Scalar Rat where
  zero := 0
  ofNat n := n
  ln := ln
  sqrt := sqrt
  isZero x := decide (x = 0)
  isPositive x := decide (0 < x)
  order x y := compareOfLessAndEq x y

theorem Scalar.exact_rational (ln sqrt : Rat → Rat) : @Exact Rat (rational ln sqrt) :=
  let := rational ln sqrt
  { add_comm := Rat.add_comm
    add_assoc := Rat.add_assoc
    zero_add := Rat.zero_add
    mul_comm := Rat.mul_comm
    zero_mul := Rat.zero_mul }

/-- Of two rational vectors of one size, the entries of the first one are walked, in any order. -/
theorem TermVector.dotAlong_halves :
    let := Scalar.rational id id
    let v : TermVector Rat := .ofList [("дом", 3), ("кот", 1 / 2)]
    let w : TermVector Rat := .ofList [("кот", 1 / 3), ("сыр", 0)]
    let reversed := [("кот", 1 / 2), ("дом", 3)]
    reversed.Perm v.weights.toList ∧ v.size = w.size ∧
      v.dotAlong w reversed w.weights.toList =
        Scalar.sum (["сыр", "дом", "кот"].map fun term => v.weight term * w.weight term) ∧
      ∀ vWalk wWalk, v.dot w vWalk wWalk = 1 / 6 ∧ w.dot v wWalk vWalk = 1 / 6 := by
  intro _ v w reversed
  have := Scalar.exact_rational id id
  have hreversed : reversed.Perm v.weights.toList := by decide +kernel
  have hterms : ∀ term, term ∈ v.weights ∨ term ∈ w.weights → term ∈ ["сыр", "дом", "кот"] := by
    simp only [v, w, TermVector.ofList, Std.ExtTreeMap.mem_ofList]
    grind
  obtain ⟨hsum, hdot⟩ := dotAlong_exact v w hreversed (.refl w.weights.toList)
  have hvalue : v.dotAlong w reversed w.weights.toList = 1 / 6 := by decide +kernel
  refine ⟨hreversed, rfl, hsum _ (by decide) hterms, fun vWalk wWalk => ?_⟩
  obtain ⟨heq, hcomm⟩ := hdot vWalk wWalk
  exact ⟨heq ▸ hvalue, (hcomm vWalk wWalk).symm.trans (heq ▸ hvalue)⟩

end Concordance
