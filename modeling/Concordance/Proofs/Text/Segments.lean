import Concordance.Text.Blank

/-!
# Segments of trimmed text

A gap belongs to no segment. Gaps at the ends of a text may therefore be dropped, one by one
(`segments_cons_gap`, `segments_concat_gap`) or all together (`segments_trimBy`), without a
change of the segments. A text of letters alone is one segment (`segments_of_letter`), and every
segment is a mark or consists of letters (`isSegment_of_mem_segments`).
-/

namespace Concordance.Text

variable {role : Char → Role}

theorem segments_cons_gap {c : Char} (hc : role c = .gap) (s : List Char) :
    segments role (c :: s) = segments role s :=
  segments_append_gap role hc [] s

theorem segments_concat_gap {c : Char} (hc : role c = .gap) (s : List Char) :
    segments role (s ++ [c]) = segments role s := by
  rw [segments_append_gap role hc]
  exact List.append_nil _

theorem segments_dropWhile {p : Char → Bool} (hp : ∀ c, p c = true → role c = .gap) :
    ∀ s : List Char, segments role (s.dropWhile p) = segments role s
  | [] => rfl
  | c :: s => by
    cases hc : p c with
    | true => rw [List.dropWhile_cons_of_pos hc, segments_dropWhile hp s,
        segments_cons_gap (hp c hc)]
    | false => rw [List.dropWhile_cons_of_neg (by simp [hc])]

/-- What is dropped from the end are gaps, taken from the reversed text. -/
theorem segments_reverse_dropWhile {p : Char → Bool} (hp : ∀ c, p c = true → role c = .gap) :
    ∀ s : List Char, segments role (s.dropWhile p).reverse = segments role s.reverse
  | [] => rfl
  | c :: s => by
    cases hc : p c with
    | true => rw [List.dropWhile_cons_of_pos hc, segments_reverse_dropWhile hp s,
        List.reverse_cons, segments_concat_gap (hp c hc)]
    | false => rw [List.dropWhile_cons_of_neg (by simp [hc])]

/-- Trimming gaps does not change the segments. -/
theorem segments_trimBy {p : Char → Bool} (hp : ∀ c, p c = true → role c = .gap) (s : List Char) :
    segments role (trimBy p s) = segments role s := by
  rw [trimBy, segments_reverse_dropWhile hp, List.reverse_reverse, segments_dropWhile hp]

/-- Letters alone are one segment. -/
theorem segments_of_letter {s : List Char} (hne : s ≠ []) (h : ∀ c ∈ s, role c = .letter) :
    segments role s = [s] := by
  have hfoldr : ∀ s : List Char, (∀ c ∈ s, role c = .letter) →
      s.foldr (segmentStep role) ([], []) = (s, []) := by
    intro s
    induction s with
    | nil => exact fun _ => rfl
    | cons c s ih =>
      intro h
      rw [List.foldr_cons, ih fun x hx => h x (List.mem_cons_of_mem c hx), segmentStep,
        h c List.mem_cons_self]
  simp [segments, hfoldr s h, closeRun, hne]

/-- A mark by itself, or letters, at least one. -/
def IsSegment (role : Char → Role) (s : List Char) : Prop :=
  (∃ c, s = [c] ∧ role c = .mark) ∨ s ≠ [] ∧ ∀ c ∈ s, role c = .letter

theorem mem_closeRun {run s : List Char} {done : List (List Char)} (h : s ∈ closeRun run done) :
    (s = run ∧ run ≠ []) ∨ s ∈ done := by
  rw [closeRun] at h
  split at h
  · exact Or.inr h
  · next hrun => exact (List.mem_cons.1 h).imp_left fun h => ⟨h, by simpa using hrun⟩

/-- The open run has letters of the text, and the finished segments are segments of its
characters. -/
theorem isSegment_of_mem_foldr (role : Char → Role) (text : List Char) :
    (∀ c ∈ (text.foldr (segmentStep role) ([], [])).1, role c = .letter ∧ c ∈ text) ∧
      ∀ s ∈ (text.foldr (segmentStep role) ([], [])).2, IsSegment role s ∧ ∀ c ∈ s, c ∈ text := by
  induction text with
  | nil => simp
  | cons x text ih =>
    obtain ⟨hrun, hdone⟩ := ih
    have hdone' : ∀ s ∈ (text.foldr (segmentStep role) ([], [])).2,
        IsSegment role s ∧ ∀ c ∈ s, c ∈ x :: text :=
      fun s hs => ⟨(hdone s hs).1, fun c hc => List.mem_cons_of_mem x ((hdone s hs).2 c hc)⟩
    have hclosed : ∀ s ∈ closeRun (text.foldr (segmentStep role) ([], [])).1
        (text.foldr (segmentStep role) ([], [])).2, IsSegment role s ∧ ∀ c ∈ s, c ∈ x :: text := by
      intro s hs
      rcases mem_closeRun hs with ⟨rfl, hne⟩ | hmem
      · exact ⟨Or.inr ⟨hne, fun c hc => (hrun c hc).1⟩,
          fun c hc => List.mem_cons_of_mem x (hrun c hc).2⟩
      · exact hdone' s hmem
    rw [List.foldr_cons, segmentStep]
    split
    · exact ⟨by simp, hclosed⟩
    · next hmark =>
      refine ⟨by simp, fun s hs => ?_⟩
      rcases List.mem_cons.1 hs with rfl | hs
      · exact ⟨Or.inl ⟨x, rfl, hmark⟩, by simp⟩
      · exact hclosed s hs
    · next hletter =>
      refine ⟨List.forall_mem_cons.2 ⟨⟨hletter, List.mem_cons_self⟩, fun c hc => ?_⟩, hdone'⟩
      exact ⟨(hrun c hc).1, List.mem_cons_of_mem x (hrun c hc).2⟩

/-- What is cut from a text are segments of characters of the text. -/
theorem isSegment_of_mem_segments {text s : List Char} (h : s ∈ segments role text) :
    IsSegment role s ∧ ∀ c ∈ s, c ∈ text := by
  obtain ⟨hrun, hdone⟩ := isSegment_of_mem_foldr role text
  rcases mem_closeRun h with ⟨rfl, hne⟩ | hmem
  · exact ⟨Or.inr ⟨hne, fun c hc => (hrun c hc).1⟩, fun c hc => (hrun c hc).2⟩
  · exact hdone s hmem

end Concordance.Text
