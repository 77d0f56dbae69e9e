import Concordance.Proofs.Query.Acceptance

/-!
# Conversion as parsing

A listing determines its formula : read from the left, words go on a stack, and an operator joins
the formulas on top of it (`Formula.assemble_postorder_append`, `Formula.postorder_injective`).
Converting a query moves its operators and drops its brackets, but keeps its words in their order
(`Reads.filterMap_word?`).

So the conversion is a parser of the grammar. A query that spells a formula, with brackets wherever
the grammar lets them stand, is converted to the listing of this formula and of no other one, and
spells no other formula (`toPostfix_eq_postorder_iff`).
-/

namespace Concordance.Query

/-! ## Listings -/

namespace Formula

/-- The words of a formula from left to right. -/
def words : Formula → List String
  | word w => [w]
  | not f => f.words
  | and f g => f.words ++ g.words
  | or f g => f.words ++ g.words

/-- The formulas that a stream makes of those on a stack, top first; none if an operator finds too
few of them. -/
def assemble : List Formula → List Token → List Formula
  | fs, [] => fs
  | fs, .operand w :: rest => assemble (.word w :: fs) rest
  | f :: fs, .op .not :: rest => assemble (.not f :: fs) rest
  | g :: f :: fs, .op .and :: rest => assemble (.and f g :: fs) rest
  | g :: f :: fs, .op .or :: rest => assemble (.or f g :: fs) rest
  | _, _ :: _ => []

/-- The listing of a formula puts the formula on the stack. -/
theorem assemble_postorder_append :
    ∀ (f : Formula) (fs : List Formula) (rest : List Token),
      assemble fs (f.postorder ++ rest) = assemble (f :: fs) rest
  | .word w, fs, rest => by
    rw [postorder, List.singleton_append, assemble]
  | .not f, fs, rest => by
    rw [postorder, List.append_assoc, assemble_postorder_append f, List.singleton_append, assemble]
  | .and f g, fs, rest => by
    rw [postorder, List.append_assoc, List.append_assoc, assemble_postorder_append f,
      assemble_postorder_append g, List.singleton_append, assemble]
  | .or f g, fs, rest => by
    rw [postorder, List.append_assoc, List.append_assoc, assemble_postorder_append f,
      assemble_postorder_append g, List.singleton_append, assemble]

/-- A listing determines its formula. -/
theorem postorder_injective : Function.Injective postorder := by
  intro f g h
  have hassemble : ∀ f : Formula, assemble [] f.postorder = [f] := by
    intro f
    rw [← List.append_nil f.postorder, assemble_postorder_append, assemble]
  have heq : [f] = [g] := by rw [← hassemble f, h, hassemble g]
  exact List.singleton_injective heq

end Formula

/-! ## Words -/

/-- The search word that a token is, if it is one. -/
def Token.word? : Token → Option String
  | operand w => some w
  | _ => none

/-- The words of a formula are listed from left to right. -/
theorem Formula.filterMap_word?_postorder : ∀ f : Formula,
    f.postorder.filterMap Token.word? = f.words
  | .word w => rfl
  | .not f => by
    rw [postorder, List.filterMap_append, filterMap_word?_postorder f]
    exact List.append_nil _
  | .and f g | .or f g => by
    rw [postorder, List.filterMap_append, List.filterMap_append, filterMap_word?_postorder f,
      filterMap_word?_postorder g]
    exact List.append_nil _

/-- What the loose grammar reads keeps its words in their order. -/
theorem Reads.filterMap_word? {n : Nat} {ts out : List Token} (h : Reads n ts out) :
    out.filterMap Token.word? = ts.filterMap Token.word? := by
  induction h with
  | nil => rfl
  | word _ ih => rw [List.filterMap_append, List.filterMap_append, ih]
  | bracket _ _ ihts ihus =>
    simp only [List.filterMap_append, List.filterMap_cons, Token.word?, ihts, ihus,
      List.filterMap_nil, List.append_nil]
  | op o _ _ ihts ihus =>
    simp only [List.filterMap_append, List.filterMap_cons, Token.word?, ihts, ihus,
      List.filterMap_nil, List.append_nil]
  | loosen _ ih => exact ih

/-! ## Well-formed queries -/

/-- Of a query that spells a formula, the conversion gives the listing of this formula and of no
other one. It is the only formula that the query spells, and its words stand in the order of the
query. -/
theorem toPostfix_eq_postorder_iff {ts : List Token} {f : Formula} (h : Derives .expression ts f) :
    (∀ g, toPostfix ts = .ok g.postorder ↔ g = f) ∧ (∀ g, Derives .expression ts g ↔ g = f) ∧
      f.words = ts.filterMap Token.word? := by
  have hlisted : ∀ g, toPostfix ts = .ok g.postorder ↔ g = f := by
    intro g
    constructor
    · intro hg
      rw [h.toPostfix_eq] at hg
      exact Formula.postorder_injective (Except.ok.inj hg).symm
    · rintro rfl
      exact h.toPostfix_eq
  refine ⟨hlisted, fun g => ⟨fun hg => (hlisted g).1 hg.toPostfix_eq, ?_⟩, ?_⟩
  · rintro rfl
    exact h
  · rw [← f.filterMap_word?_postorder, h.reads.filterMap_word?]

/-- The tokens of `(кот) OR (дом) OR (NOT лес AND ((мышь OR сыр)))`. -/
def bracketed : List Token := [
  .opening, .operand "кот", .closing, .op .or, .opening, .operand "дом", .closing, .op .or,
  .opening, .op .not, .operand "лес", .op .and, .opening, .opening, .operand "мышь", .op .or,
  .operand "сыр", .closing, .closing, .closing]

/-- Brackets around words and formulas that need none are dropped, those around the last
disjunction keep it together, and the first two words are joined before the third part. -/
theorem toPostfix_bracketed :
    Derives .expression bracketed
        (.or (.or (.word "кот") (.word "дом"))
          (.and (.not (.word "лес")) (.or (.word "мышь") (.word "сыр")))) ∧
      toPostfix bracketed = .ok [.operand "кот", .operand "дом", .op .or, .operand "лес", .op .not,
        .operand "мышь", .operand "сыр", .op .or, .op .and, .op .or] := by
  have hword : ∀ w, Derives .expression [.operand w] (.word w) :=
    fun w => .ofTerm (.ofFactor (.ofPrimary .word))
  have hfirst : Derives .expression
      [.opening, .operand "кот", .closing, .op .or, .opening, .operand "дом", .closing]
      (.or (.word "кот") (.word "дом")) :=
    Derives.or (.ofTerm (.ofFactor (.ofPrimary (.bracket (hword "кот")))))
      (.ofFactor (.ofPrimary (.bracket (hword "дом"))))
  have hlast : Derives .primary
      [.opening, .opening, .operand "мышь", .op .or, .operand "сыр", .closing, .closing]
      (.or (.word "мышь") (.word "сыр")) :=
    .bracket (.ofTerm (.ofFactor (.ofPrimary
      (.bracket (Derives.or (hword "мышь") (.ofFactor (.ofPrimary .word)))))))
  have h : Derives .expression bracketed
      (.or (.or (.word "кот") (.word "дом"))
        (.and (.not (.word "лес")) (.or (.word "мышь") (.word "сыр")))) :=
    Derives.or hfirst (.ofFactor (.ofPrimary (.bracket
      (.ofTerm (Derives.and (.ofFactor (.not .word)) (.ofPrimary hlast))))))
  exact ⟨h, ((toPostfix_eq_postorder_iff h).1 _).2 rfl⟩

end Concordance.Query
