import Concordance.Proofs.Query.Lexing
import Concordance.Proofs.Text.Case

/-!
# Tokens are read as they are written

The tokens of a query can be written down and read again. A bracket and a reserved word are read as
what they are, and an operand is a run of letters in lower case, which a second reading leaves alone.
Lower case makes no run into a reserved word that is not one already
(`Operator.ofWord?_lowerChars`). So each token is the only one of its own text
(`lex_render_of_mem_lex`), and since blanks cut a query (`lex_append_blank`), the tokens of a query
are those of the texts of its tokens with blanks between them (`lex_rendered`).
-/

namespace Concordance.Query

open Text

/-! ## Reserved words -/

/-- The letters of the reserved words. -/
def reservedLetters : List Char := ['A', 'N', 'D', 'O', 'R', 'T']

theorem of_mem_reservedLetters {u : Char} (h : u ∈ reservedLetters) : u.toNat < 0x5B ∧ u ≠ 'K' := by
  have hall : reservedLetters.all (fun u => decide (u.toNat < 0x5B ∧ u ≠ 'K')) = true := by decide
  exact of_decide_eq_true (List.all_eq_true.1 hall u h)

theorem mem_reservedLetters_of_mem_word {o : Operator} {u : Char} (h : u ∈ o.word.toList) :
    u ∈ reservedLetters := by
  have hall : o.word.toList.all (fun u => decide (u ∈ reservedLetters)) = true := by
    cases o <;> decide
  exact of_decide_eq_true (List.all_eq_true.1 hall u h)

theorem toNat_lt_of_toUpper {c : Char} (h : c.toUpper.toNat < 0x5B) : c.toNat < 0x7B := by
  unfold Char.toUpper at h
  split at h
  · next hletter => exact Nat.lt_succ_of_le (UInt32.le_iff_toNat_le.1 hletter.2)
  · omega

/-- A letter whose lower-case form belongs to a reserved word belongs to it itself. -/
theorem toUpper_of_mem_reservedLetters {c : Char}
    (h : (lowerLetter c).toUpper ∈ reservedLetters) : (lowerLetter c).toUpper = c.toUpper := by
  obtain ⟨hbound, hk⟩ := of_mem_reservedLetters h
  refine (toUpper_eq_of_lowerLetter ?_ fun heq => hk ?_).symm
  · have := toNat_lt_of_toUpper hbound
    omega
  · have hsmall : lowerLetter c = 'k' := by rw [← Char.ofNat_toNat (lowerLetter c), heq]
    rw [hsmall]
    decide

/-- Where the capitals of a lower-case form are letters of reserved words, they are those of the text
itself. -/
theorem map_toUpper_lowerAfter : ∀ {before s : List Char},
    (∀ u ∈ (lowerAfter before s).map Char.toUpper, u ∈ reservedLetters) →
      (lowerAfter before s).map Char.toUpper = s.map Char.toUpper
  | _, [], _ => rfl
  | before, c :: s, h => by
    rw [lowerAfter, List.map_append, List.forall_mem_append] at h
    rw [lowerAfter, List.map_append, List.map_cons, map_toUpper_lowerAfter h.2]
    have hfirst := h.1
    split at hfirst
    · have hsigma : (lowerSigma before s).toUpper ∉ reservedLetters := by
        unfold lowerSigma
        split <;> decide
      exact absurd (hfirst _ (by simp)) hsigma
    · next hsigma =>
      rw [lowerChar] at hfirst
      split at hfirst
      · exact absurd (hfirst 'I' (by decide)) (by decide)
      · next hdotted =>
        rw [if_neg hsigma, lowerChar, if_neg hdotted, List.map_singleton, List.singleton_append,
          toUpper_of_mem_reservedLetters (hfirst _ (by simp))]

/-- Lower case makes no word reserved. -/
theorem Operator.ofWord?_lowerChars {s : List Char} (h : ofWord? s = none) :
    ofWord? (lowerChars s) = none := by
  rw [ofWord?, List.find?_eq_none] at h ⊢
  intro op hop heq
  refine h op hop ?_
  rw [beq_iff_eq] at heq ⊢
  rw [heq]
  exact map_toUpper_lowerAfter fun u hu => mem_reservedLetters_of_mem_word (heq ▸ hu)

/-! ## Single tokens -/

theorem eq_bracket_of_lexemeRole {c : Char} (h : lexemeRole c = .mark) : c = '(' ∨ c = ')' := by
  unfold lexemeRole at h
  split at h
  · next hbracket => simpa using hbracket
  · split at h <;> cases h

/-- Lower case keeps a run of letters one. -/
theorem lexemeRole_lowerChars {s : List Char} (h : ∀ c ∈ s, lexemeRole c = .letter) :
    ∀ c ∈ lowerChars s, lexemeRole c = .letter := by
  intro c hc
  simp only [lexemeRole_eq_letter_iff] at h ⊢
  refine ⟨⟨?_, ?_⟩, ?_⟩
  · rintro rfl
    exact (h '(' (mem_of_mem_lowerChars_of_lt (by decide) hc)).1.1 rfl
  · rintro rfl
    exact (h ')' (mem_of_mem_lowerChars_of_lt (by decide) hc)).1.2 rfl
  · refine Bool.eq_false_iff.2 fun hblank => ?_
    have hsep : isSeparator c = true := by rw [isSeparator, hblank, Bool.true_or]
    have := (h c (mem_of_mem_lowerChars hsep hc)).2
    rw [hblank] at this
    cases this

/-- A reserved word is read as its operator. -/
theorem lex_word (o : Operator) : lex o.word = [.op o] := by
  cases o <;> rfl

/-- A token of a query is the only token of its own text. -/
theorem lex_render_of_mem_lex {query : String} {t : Token} (h : t ∈ lex query) :
    lex t.render = [t] := by
  obtain ⟨s, hs, rfl⟩ := List.mem_map.1 h
  rcases (isSegment_of_mem_segments hs).1 with ⟨c, rfl, hmark⟩ | ⟨hne, hletter⟩
  · rcases eq_bracket_of_lexemeRole hmark with rfl | rfl <;> rfl
  · rw [ofLexeme_of_letter hletter]
    cases hword : Operator.ofWord? s with
    | some o => exact lex_word o
    | none =>
      have hlower := lexemeRole_lowerChars hletter
      rw [Option.map_none, Option.getD_none, Token.render, lex, String.toList_ofList,
        segments_of_letter (lowerChars_ne_nil hne) hlower, List.map_singleton,
        ofLexeme_of_letter hlower, Operator.ofWord?_lowerChars hword, lowerChars_lowerChars,
        Option.map_none, Option.getD_none]

/-! ## Queries -/

/-- Texts of single tokens, with blanks between them, have these tokens. -/
theorem lex_intercalate : ∀ {tokens : List Token}, (∀ t ∈ tokens, lex t.render = [t]) →
    lex (" ".intercalate (tokens.map Token.render)) = tokens
  | [], _ => rfl
  | [t], h => by simpa using h t List.mem_cons_self
  | t :: u :: tokens, h => by
    have hrest := lex_intercalate fun v hv => h v (List.mem_cons_of_mem t hv)
    have hcut := lex_append_blank (c := ' ') (by decide) t.render
      (" ".intercalate ((u :: tokens).map Token.render))
    rw [h t List.mem_cons_self, hrest] at hcut
    rw [List.map_cons, List.map_cons, String.intercalate_cons_cons, ← List.map_cons]
    exact hcut

/-- The tokens of a query, written with blanks between them, are read as the same tokens. Reading is
local : a query cut at a blank or at a bracket has the tokens of its two parts, with the bracket
between them. -/
theorem lex_rendered :
    (∀ query, lex (" ".intercalate ((lex query).map Token.render)) = lex query) ∧
    (∀ (a b : String) (c : Char), isBlank c = true →
      lex (a ++ String.singleton c ++ b) = lex a ++ lex b) ∧
    (∀ a b : String, lex (a ++ "(" ++ b) = lex a ++ [.opening] ++ lex b) ∧
    ∀ a b : String, lex (a ++ ")" ++ b) = lex a ++ [.closing] ++ lex b := by
  refine ⟨fun query => lex_intercalate fun t => lex_render_of_mem_lex,
    fun a b c hc => lex_append_blank hc a b, fun a b => ?_, fun a b => ?_⟩
  · simpa using lex_append_opening a b
  · simpa using lex_append_closing a b

/-- A query with letters and reserved words in any case, written with blanks and read again, and
cut at an em space. -/
theorem lex_rendered_catAndDog :
    lex "кот AND ( собака OR NOT мышь )" = lex "Кот and(Собака Or not МЫШЬ)" ∧
      isBlank '\u2003' = true ∧
      lex ("Кот(" ++ String.singleton '\u2003' ++ "Собака") = lex "Кот(" ++ lex "Собака" := by
  obtain ⟨hrendered, hblank, -⟩ := lex_rendered
  have htext : " ".intercalate ((lex "Кот and(Собака Or not МЫШЬ)").map Token.render) =
      "кот AND ( собака OR NOT мышь )" := by decide +kernel
  have hspace : isBlank '\u2003' = true := by decide
  exact ⟨htext ▸ hrendered _, hspace, hblank "Кот(" "Собака" '\u2003' hspace⟩

end Concordance.Query
