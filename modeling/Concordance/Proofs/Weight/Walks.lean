import Concordance.Proofs.Weight.Product
import Concordance.Snapshot

/-!
# Walks do not matter in exact arithmetic

Any order of the terms of a map is that of a walk (`Walk.exists_order_eq`). A length, a product and
a score are sums along walks, and where sums are exact they are the same along all of them
(`TermVector.norm_eq_of_exact`, `TermVector.dot_eq_of_exact`). Then a query has the same vector, and
a ranking the same hits with the same scores in the same order (`Snapshot.rank_eq_of_exact`). Where
numbers are rounded, scores may differ in their last digits from walk to walk, and with them the
order of documents whose scores are close.
-/

namespace Concordance

/-- Any order of some terms is the one in which a walk goes through them. -/
theorem Walk.exists_order_eq {terms terms' : List String} (h : terms'.Perm terms) :
    ∃ walk : Walk, walk.order terms = terms' := by
  refine ⟨⟨fun others => if others = terms then terms' else others, fun others => ?_⟩, if_pos rfl⟩
  split
  · next heq => exact heq ▸ h
  · exact .refl others

variable {ν α : Type} [Counter ν] [Scalar α] [Scalar.Exact α]

namespace TermVector

variable (v w : TermVector α)

theorem norm_eq_of_exact (walk walk' : Walk) : v.norm walk = v.norm walk' := by
  have hperm := (v.entries_perm walk).trans (v.entries_perm walk').symm
  rw [norm, norm, Scalar.sum_perm (hperm.map _)]

theorem dot_eq_of_exact (vWalk wWalk vWalk' wWalk' : Walk) :
    v.dot w vWalk wWalk = v.dot w vWalk' wWalk' := by
  obtain ⟨-, hdot⟩ := dotAlong_exact v w (v.entries_perm vWalk) (w.entries_perm wWalk)
  exact (hdot vWalk' wWalk').1

theorem cosine_eq_of_exact (vWalk wWalk vWalk' wWalk' : Walk) :
    v.cosine w vWalk wWalk = v.cosine w vWalk' wWalk' := by
  unfold cosine cosineBy
  rw [v.norm_eq_of_exact vWalk vWalk', w.norm_eq_of_exact wWalk wWalk',
    v.dot_eq_of_exact w vWalk wWalk vWalk' wWalk']

theorem ofQuery?_eq_of_exact (walk walk' : Walk) (lemmas : List String) (space : TermSpace ν) :
    (ofQuery? walk lemmas space : Option (TermVector α)) = ofQuery? walk' lemmas space := by
  unfold ofQuery?
  simp only [norm_eq_of_exact _ walk walk']

end TermVector

/-- Every document has the same score. -/
theorem DocumentVectors.rank_eq_of_exact (vectors : DocumentVectors α) (walks walks' : Walks)
    (query : TermVector α) : vectors.rank walks query = vectors.rank walks' query := by
  have hscores : vectors.scores walks query = vectors.scores walks' query :=
    List.map_congr_left fun p _ => congrArg (Hit.mk p.1) (query.cosine_eq_of_exact p.2 _ _ _ _)
  rw [rank, rank, hscores]

/-- The same documents are ranked, with the same scores and in the same order. -/
theorem Snapshot.rank_eq_of_exact (snapshot : Snapshot ν α) (walks walks' : Walks)
    (normalizer : Normalizer) (query : String) :
    snapshot.rank walks normalizer query = snapshot.rank walks' normalizer query := by
  have hquery : snapshot.queryVector? walks.query normalizer query =
      snapshot.queryVector? walks'.query normalizer query :=
    TermVector.ofQuery?_eq_of_exact walks.query walks'.query _ _
  rw [rank, rank, hquery]
  cases snapshot.queryVector? walks'.query normalizer query with
  | none => rfl
  | some v => exact snapshot.vectors.rank_eq_of_exact walks walks' v

end Concordance
