import Concordance.Query.Token
import Concordance.Text.Blank
import Concordance.Text.Case

/-!
# Reading a query

Brackets are lexemes by themselves, and every other lexeme is a maximal run of characters
that are neither blank nor brackets. A run that spells a reserved word in any ASCII case is
that operator; every other run is an operand in lower case.
-/

namespace Concordance.Query

open Text

/-- Blanks separate lexemes and brackets are lexemes of their own. -/
def lexemeRole (c : Char) : Role :=
  if c = '(' || c = ')' then .mark else if isBlank c then .gap else .letter

/-- The token that a lexeme spells. -/
def Token.ofLexeme (s : List Char) : Token :=
  if s = ['('] then .opening
  else if s = [')'] then .closing
  else
    match Operator.ofWord? s with
    | some o => .op o
    | none => .operand (String.ofList (lowerChars s))

/-- The tokens of a query. -/
def lex (query : String) : List Token :=
  (segments lexemeRole query.toList).map Token.ofLexeme

end Concordance.Query
