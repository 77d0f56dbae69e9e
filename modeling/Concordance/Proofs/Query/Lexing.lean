import Concordance.Proofs.Text.Segments
import Concordance.Query.Lexer

/-!
# Lexing is local

A query may be cut at a blank (`lex_append_blank`) or at a bracket (`lex_append_opening`,
`lex_append_closing`), and its tokens are those of the two parts, with the bracket between
them. Blanks around a query have no tokens, so a query has the tokens of its trimmed text
(`lex_trim`). Other characters are letters (`lexemeRole_eq_letter_iff`), of which a run is an operator
or an operand (`ofLexeme_of_letter`).
-/

namespace Concordance.Query

open Text

theorem lexemeRole_of_isBlank {c : Char} (hc : isBlank c = true) : lexemeRole c = .gap := by
  have hbracket : ¬(c = '(' ∨ c = ')') := by
    rintro (rfl | rfl)
    · exact absurd hc (by decide)
    · exact absurd hc (by decide)
  rw [lexemeRole, if_neg (by simpa using hbracket), if_pos hc]

theorem lexemeRole_eq_letter_iff {c : Char} :
    lexemeRole c = .letter ↔ (c ≠ '(' ∧ c ≠ ')') ∧ isBlank c = false := by
  unfold lexemeRole
  split
  · next hbracket =>
    have hbracket : c = '(' ∨ c = ')' := by simpa using hbracket
    constructor
    · intro h
      cases h
    · rintro ⟨hnot, -⟩
      exact (hbracket.elim hnot.1 hnot.2).elim
  · next hbracket =>
    have hbracket : c ≠ '(' ∧ c ≠ ')' := by simpa using hbracket
    cases hblank : isBlank c <;> simp [hbracket]

/-- A run of letters is an operator or an operand. -/
theorem ofLexeme_of_letter {s : List Char} (h : ∀ c ∈ s, lexemeRole c = .letter) :
    Token.ofLexeme s = ((Operator.ofWord? s).map Token.op).getD
      (.operand (String.ofList (lowerChars s))) := by
  have hopening : s ≠ ['('] := fun heq => absurd (h '(' (by simp [heq])) (by decide)
  have hclosing : s ≠ [')'] := fun heq => absurd (h ')' (by simp [heq])) (by decide)
  rw [Token.ofLexeme, if_neg hopening, if_neg hclosing]
  cases Operator.ofWord? s <;> rfl

/-- A blank separates the tokens of the texts around it. -/
theorem lex_append_blank {c : Char} (hc : isBlank c = true) (a b : String) :
    lex (a ++ String.singleton c ++ b) = lex a ++ lex b := by
  have h := segments_append_gap lexemeRole (lexemeRole_of_isBlank hc) a.toList b.toList
  simp [lex, h]

/-- An opening bracket is a token of its own. -/
theorem lex_append_opening (a b : String) : lex (a ++ "(" ++ b) = lex a ++ .opening :: lex b := by
  have h := segments_append_mark lexemeRole (c := '(') rfl a.toList b.toList
  simp [lex, h, Token.ofLexeme]

/-- A closing bracket is a token of its own. -/
theorem lex_append_closing (a b : String) : lex (a ++ ")" ++ b) = lex a ++ .closing :: lex b := by
  have h := segments_append_mark lexemeRole (c := ')') rfl a.toList b.toList
  simp [lex, h, Token.ofLexeme]

/-- A query has the tokens of its trimmed text. -/
theorem lex_trim (query : String) : lex (trim query) = lex query := by
  rw [lex, lex, trim, String.toList_ofList, trimChars,
    segments_trimBy fun _ hc => lexemeRole_of_isBlank hc]

/-- A query with tokens is not empty, even after trimming. -/
theorem isEmpty_trim_eq_false {query : String} (h : lex query ≠ []) :
    (trim query).isEmpty = false := by
  refine Bool.eq_false_iff.2 fun hempty => h ?_
  rw [← lex_trim, String.isEmpty_iff.1 hempty]
  rfl

end Concordance.Query
