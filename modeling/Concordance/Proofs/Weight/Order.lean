import Mathlib.Order.Compare
import Concordance.Proofs.Weight.Exact
import Concordance.Proofs.Weight.Vectors

/-!
# The order of a ranking

Hits compare by their scores, a higher one first, and then by their numbers (`Hit.order`), and a hit
may stand before another one exactly if it does not come after it (`Hit.before_eq_isLE_order`).
Where scores are totally preordered, so are hits, and a ranking is sorted. The vectors of a set of
documents have one number each, so no two hits compare alike, and a ranking is even strictly sorted
(`DocumentVectors.pairwise_order_rank`). This holds of floating point numbers as well, which are
ranked by their bits.
-/

namespace Concordance

/-- Floating point numbers are ranked by an integer key. -/
instance : Std.TransCmp (Scalar.order : Float → Float → Ordering) :=
  inferInstanceAs (Std.TransCmp (compareOn totalKey))

/-! ## Hits -/

namespace Hit

variable {α : Type} [Scalar α] {a b : Hit α}

/-- How two hits compare : by their scores, a higher one first, and then by their numbers. -/
def order : Hit α → Hit α → Ordering :=
  compareLex (fun a b => Scalar.order b.score a.score) (compareOn doc)

theorem before_eq_isLE_order : a.before b = (order a b).isLE := by
  rw [before, order, compareLex, compareOn]
  cases Scalar.order b.score a.score with
  | lt => rfl
  | gt => rfl
  | eq => exact Bool.eq_iff_iff.2 (decide_eq_true_iff.trans Std.isLE_compare.symm)

theorem order_eq_lt_iff : order a b = .lt ↔
    Scalar.order b.score a.score = .lt ∨ Scalar.order b.score a.score = .eq ∧ a.doc < b.doc := by
  rw [order, compareLex, compareOn, Ordering.then_eq_lt, Std.compare_eq_lt]

theorem doc_eq_of_order_eq (h : order a b = .eq) : a.doc = b.doc := by
  rw [order, compareLex, Ordering.then_eq_eq] at h
  exact Std.LawfulEqOrd.eq_of_compare h.2

variable [Std.TransCmp (Scalar.order : α → α → Ordering)]

instance : Std.TransCmp fun a b : Hit α => Scalar.order b.score a.score where
  eq_swap := Std.OrientedCmp.eq_swap
  isLE_trans h h' := Std.TransCmp.isLE_trans h' h

instance : Std.TransCmp (order : Hit α → Hit α → Ordering) :=
  inferInstanceAs (Std.TransCmp (compareLex _ _))

theorem before_trans (a b c : Hit α) (hab : a.before b = true) (hbc : b.before c = true) :
    a.before c = true := by
  rw [before_eq_isLE_order] at hab hbc ⊢
  exact Std.TransCmp.isLE_trans hab hbc

theorem before_total (a b : Hit α) : (a.before b || b.before a) = true := by
  rw [before_eq_isLE_order, before_eq_isLE_order, Bool.or_eq_true]
  by_cases h : (order a b).isLE = true
  · exact .inl h
  · exact .inr (Ordering.isLE_of_eq_lt (Std.OrientedCmp.lt_of_not_isLE h))

end Hit

/-! ## Rankings -/

namespace DocumentVectors

variable {α : Type} [Scalar α] {vectors : DocumentVectors α} {walks : Walks} {query : TermVector α}

/-- The numbers of the documents that are scored are those of the vectors. -/
theorem map_doc_scores : (vectors.scores walks query).map Hit.doc = vectors.vectors.keys := by
  rw [scores, List.map_map, ← Std.ExtTreeMap.map_fst_toList_eq_keys]
  rfl

/-- A document stands in a ranking only once. -/
theorem nodup_map_doc_rank : ((vectors.rank walks query).map Hit.doc).Nodup := by
  rw [rank, ((List.mergeSort_perm _ _).map Hit.doc).nodup_iff]
  refine List.Nodup.sublist (List.filter_sublist.map Hit.doc) ?_
  rw [map_doc_scores]
  exact Std.ExtTreeMap.nodup_keys

/-- A ranking has a hit for every document with a positive score. -/
theorem length_rank : (vectors.rank walks query).length =
    vectors.vectors.toList.countP fun p =>
      Scalar.isPositive (query.cosine p.2 walks.query (walks.document p.1)) := by
  rw [rank, List.length_mergeSort, ← List.countP_eq_length_filter, scores, List.countP_map]
  rfl

/-- A ranking is strictly sorted. -/
theorem pairwise_order_rank [Std.TransCmp (Scalar.order : α → α → Ordering)] :
    (vectors.rank walks query).Pairwise fun a b => Hit.order a b = .lt := by
  have hsorted : (vectors.rank walks query).Pairwise fun a b => a.before b = true :=
    List.pairwise_mergeSort Hit.before_trans Hit.before_total _
  have hnodup : (vectors.rank walks query).Pairwise fun a b => a.doc ≠ b.doc :=
    List.pairwise_map.1 nodup_map_doc_rank
  refine (hsorted.and hnodup).imp fun {a b} h => ?_
  rw [Hit.before_eq_isLE_order, Ordering.isLE_iff_eq_lt_or_eq_eq] at h
  exact h.1.resolve_right fun heq => h.2 (Hit.doc_eq_of_order_eq heq)

example (vectors : DocumentVectors Float) (walks : Walks) (query : TermVector Float) :
    (vectors.rank walks query).Pairwise fun a b => Hit.order a b = .lt :=
  pairwise_order_rank

/-- With scores in a total order, a ranking has exactly the documents of positive score, each of
them once, and of two hits the first one has a higher score, or the same score and a smaller
number. Its length is the number of these documents. -/
theorem rank_ordered [LinearOrder α] (horder : ∀ x y : α, Scalar.order x y = compare x y)
    (hpositive : ∀ x : α, Scalar.isPositive x = true ↔ Scalar.zero < x)
    (vectors : DocumentVectors α) (walks : Walks) (query : TermVector α) :
    (∀ id score, ⟨id, score⟩ ∈ vectors.rank walks query ↔ ∃ v, vectors.get? id = some v ∧
      query.cosine v walks.query (walks.document id) = score ∧ Scalar.zero < score) ∧
    ((vectors.rank walks query).map Hit.doc).Nodup ∧
    (vectors.rank walks query).Pairwise (fun a b =>
      b.score < a.score ∨ a.score = b.score ∧ a.doc < b.doc) ∧
    (vectors.rank walks query).length =
      vectors.vectors.toList.countP fun p =>
        Scalar.zero < query.cosine p.2 walks.query (walks.document p.1) := by
  have horder' : (Scalar.order : α → α → Ordering) = compare := funext₂ horder
  have htrans : Std.TransCmp (Scalar.order : α → α → Ordering) := by
    rw [horder']
    infer_instance
  refine ⟨fun id score => ?_, nodup_map_doc_rank, ?_, ?_⟩
  · rw [mem_rank_iff, hpositive]
  · refine pairwise_order_rank.imp fun {a b} h => ?_
    rw [Hit.order_eq_lt_iff, horder', compare_lt_iff_lt, compare_eq_iff_eq] at h
    exact h.imp_right fun h => ⟨h.1.symm, h.2⟩
  · rw [length_rank]
    refine List.countP_congr fun p _ => ?_
    rw [hpositive, decide_eq_true_iff]

/-- A vector of one term. -/
noncomputable def single (term : String) : TermVector ℝ := .ofList [(term, 1)]

/-- Two documents with one term, and a third one with another term. -/
noncomputable def catsAndHouse : DocumentVectors ℝ :=
  ⟨.ofList [((7 : DocId), single "кот"), (5, single "дом"), (3, single "кот")]⟩

/-- The two documents with the term of the query have the same score, and the one with the smaller
number comes first. -/
theorem rank_catsAndHouse : ∃ score,
    catsAndHouse.rank .inOrder (single "кот") = [⟨3, score⟩, ⟨7, score⟩] := by
  obtain ⟨hmem, -, hsorted, hlength⟩ :=
    rank_ordered (fun _ _ => rfl) (fun _ => Scalar.isPositive_iff) catsAndHouse .inOrder
      (single "кот")
  have hcat : Scalar.zero < (single "кот").cosine (single "кот") .inOrder .inOrder := by
    have hdot : (single "кот").dot (single "кот") .inOrder .inOrder = 0 + 1 * 1 := rfl
    exact TermVector.cosine_pos_iff.2 (by simp [hdot])
  have hhouse : ¬Scalar.zero < (single "кот").cosine (single "дом") .inOrder .inOrder := by
    have hdot : (single "кот").dot (single "дом") .inOrder .inOrder = 0 + 1 * 0 := rfl
    exact fun h => absurd (TermVector.cosine_pos_iff.1 h) (by simp [hdot])
  have hentries : catsAndHouse.vectors.toList =
      [(3, single "кот"), (5, single "дом"), (7, single "кот")] := rfl
  have hthird := (hmem 3 _).2 ⟨single "кот", rfl, rfl, hcat⟩
  have hseventh := (hmem 7 _).2 ⟨single "кот", rfl, rfl, hcat⟩
  rw [hentries] at hlength
  obtain ⟨x, y, hxy⟩ := List.length_eq_two.1 (hlength.trans (by simp [Walks.inOrder, hcat, hhouse]))
  rw [hxy] at hthird hseventh hsorted ⊢
  have hlt := List.rel_of_pairwise_cons hsorted List.mem_cons_self
  rw [List.mem_pair] at hthird hseventh
  obtain rfl | rfl := hthird
  · obtain heq | rfl := hseventh
    · exact absurd (congrArg Hit.doc heq) (by decide)
    · exact ⟨_, rfl⟩
  · obtain rfl | heq := hseventh
    · exact (hlt.elim (lt_irrefl _) fun h => absurd h.2 (by decide)).elim
    · exact absurd (congrArg Hit.doc heq) (by decide)

end DocumentVectors

end Concordance
