import Concordance.Query.Formula
import Concordance.Query.Postfix

/-!
# Evaluating listed formulas

A stream that lists a formula operands first leaves exactly the value of the formula on the
stack, whatever stands below (`evaluateFrom_postorder_append`). Nothing else is ever
evaluated : the values on the stack are at every step the values of formulas whose listings
make up the tokens read so far, so a stream with a value is the listing of a formula, or it
has no tokens at all (`evaluate_eq_ok_iff`).

`mem_value_iff` reads the value of a formula point by point, and `mem_all_of_mem_value` says
that it stays within the set in which negation is taken.
-/

namespace Concordance.Query

variable {α : Type} [Ord α] [Std.TransOrd α] {all : Std.ExtTreeSet α}
  {find : String → Std.ExtTreeSet α}

/-! ## Listings have values -/

/-- The listing of a formula puts its value on the stack. -/
theorem evaluateFrom_postorder_append (all : Std.ExtTreeSet α) (find : String → Std.ExtTreeSet α) :
    ∀ (f : Formula) (stack : List (Std.ExtTreeSet α)) (rest : List Token),
      evaluateFrom all find stack (f.postorder ++ rest) =
        evaluateFrom all find (f.value all find :: stack) rest
  | .word _, _, _ => rfl
  | .not f, stack, rest => by
    rw [Formula.postorder, List.append_assoc, evaluateFrom_postorder_append all find f]
    rfl
  | .and f g, stack, rest => by
    rw [Formula.postorder, List.append_assoc, List.append_assoc,
      evaluateFrom_postorder_append all find f, evaluateFrom_postorder_append all find g]
    rfl
  | .or f g, stack, rest => by
    rw [Formula.postorder, List.append_assoc, List.append_assoc,
      evaluateFrom_postorder_append all find f, evaluateFrom_postorder_append all find g]
    rfl

/-- The listing of a formula evaluates to its value. -/
theorem evaluate_postorder (all : Std.ExtTreeSet α) (find : String → Std.ExtTreeSet α)
    (f : Formula) : evaluate all find f.postorder = .ok (f.value all find) := by
  have h := evaluateFrom_postorder_append all find f [] []
  rw [List.append_nil] at h
  rw [evaluate, h, evaluateFrom]

/-- A listing has tokens. -/
theorem Formula.postorder_ne_nil (f : Formula) : f.postorder ≠ [] := by
  cases f <;> simp [postorder]

/-! ## Only listings have values -/

/-- If the values on the stack are those of `fs`, top first, and the rest of the stream can be
evaluated, then the listings of `fs` and the rest are together the listing of one formula. -/
theorem exists_postorder_of_evaluateFrom :
    ∀ (stream : List Token) (fs : List Formula) {s : Std.ExtTreeSet α},
      evaluateFrom all find (fs.map (Formula.value all find)) stream = .ok s →
      (fs = [] ∧ stream = [] ∧ s = ∅) ∨
        ∃ f : Formula, fs.reverse.flatMap Formula.postorder ++ stream = f.postorder ∧
          s = f.value all find
  | [], [], s, h => by
    rw [List.map_nil, evaluateFrom] at h
    exact Or.inl ⟨rfl, rfl, (Except.ok.inj h).symm⟩
  | [], [f], s, h => by
    rw [List.map_cons, List.map_nil, evaluateFrom] at h
    exact Or.inr ⟨f, by simp, (Except.ok.inj h).symm⟩
  | [], _ :: _ :: _, s, h => by simp [evaluateFrom] at h
  | .operand w :: rest, fs, s, h => by
    rcases exists_postorder_of_evaluateFrom rest (.word w :: fs) h with ⟨hfs, -, -⟩ | ⟨f, hf, hs⟩
    · simp at hfs
    · exact Or.inr ⟨f, by simpa [Formula.postorder] using hf, hs⟩
  | .opening :: _, _, s, h => by simp [evaluateFrom] at h
  | .closing :: _, _, s, h => by simp [evaluateFrom] at h
  | .op .not :: rest, f :: fs, s, h => by
    rcases exists_postorder_of_evaluateFrom rest (.not f :: fs) h with ⟨hfs, -, -⟩ | ⟨g, hg, hs⟩
    · simp at hfs
    · exact Or.inr ⟨g, by simpa [Formula.postorder] using hg, hs⟩
  | .op .and :: rest, g :: f :: fs, s, h => by
    rcases exists_postorder_of_evaluateFrom rest (.and f g :: fs) h with ⟨hfs, -, -⟩ | ⟨e, he, hs⟩
    · simp at hfs
    · exact Or.inr ⟨e, by simpa [Formula.postorder] using he, hs⟩
  | .op .or :: rest, g :: f :: fs, s, h => by
    rcases exists_postorder_of_evaluateFrom rest (.or f g :: fs) h with ⟨hfs, -, -⟩ | ⟨e, he, hs⟩
    · simp at hfs
    · exact Or.inr ⟨e, by simpa [Formula.postorder] using he, hs⟩
  | .op .not :: _, [], s, h => by simp [evaluateFrom] at h
  | .op .and :: _, [], s, h => by simp [evaluateFrom] at h
  | .op .and :: _, [_], s, h => by simp [evaluateFrom] at h
  | .op .or :: _, [], s, h => by simp [evaluateFrom] at h
  | .op .or :: _, [_], s, h => by simp [evaluateFrom] at h

/-- A stream has a value exactly if it is empty or the listing of a formula. -/
theorem evaluate_eq_ok_iff {stream : List Token} {s : Std.ExtTreeSet α} :
    evaluate all find stream = .ok s ↔
      (stream = [] ∧ s = ∅) ∨ ∃ f : Formula, stream = f.postorder ∧ s = f.value all find := by
  constructor
  · intro h
    rcases exists_postorder_of_evaluateFrom stream [] h with ⟨-, hstream, hs⟩ | ⟨f, hf, hs⟩
    · exact Or.inl ⟨hstream, hs⟩
    · exact Or.inr ⟨f, by simpa using hf, hs⟩
  · rintro (⟨rfl, rfl⟩ | ⟨f, rfl, rfl⟩)
    · rfl
    · exact evaluate_postorder all find f

/-! ## The value of a formula point by point -/

/-- Within `all`, a point belongs to the value of a formula exactly if the formula holds
there. -/
theorem mem_value_iff {x : α} (hx : x ∈ all) :
    ∀ f : Formula, x ∈ f.value all find ↔ f.Holds fun w => x ∈ find w
  | .word _ => Iff.rfl
  | .not f => by
    rw [Formula.value, Std.ExtTreeSet.mem_diff_iff, mem_value_iff hx f, Formula.Holds]
    exact and_iff_right hx
  | .and f g => by
    rw [Formula.value, Std.ExtTreeSet.mem_inter_iff, mem_value_iff hx f, mem_value_iff hx g,
      Formula.Holds]
  | .or f g => by
    rw [Formula.value, Std.ExtTreeSet.mem_union_iff, mem_value_iff hx f, mem_value_iff hx g,
      Formula.Holds]

/-- If every operand denotes a part of `all`, so does every formula. -/
theorem mem_all_of_mem_value (hfind : ∀ w x, x ∈ find w → x ∈ all) {x : α} :
    ∀ f : Formula, x ∈ f.value all find → x ∈ all
  | .word w, h => hfind w x h
  | .not _, h => (Std.ExtTreeSet.mem_diff_iff.mp h).1
  | .and f _, h => mem_all_of_mem_value hfind f (Std.ExtTreeSet.mem_inter_iff.mp h).1
  | .or f g, h => by
    rcases Std.ExtTreeSet.mem_union_iff.mp h with h | h
    · exact mem_all_of_mem_value hfind f h
    · exact mem_all_of_mem_value hfind g h

end Concordance.Query
