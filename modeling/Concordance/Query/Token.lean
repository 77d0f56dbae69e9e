/-!
# Tokens of a boolean query

A query is a sequence of tokens : operands, the three operators, and brackets. `Operator`
carries what the conversion to postfix needs, how tightly an operator binds and how many
operands it takes. `Malformed` lists the ways in which a query can fail to mean anything.
-/

namespace Concordance.Query

/-- The connectives of a query. -/
inductive Operator
  /-- Both operands hold. -/
  | and
  /-- At least one operand holds. -/
  | or
  /-- The operand does not hold. -/
  | not
  deriving Repr, DecidableEq

namespace Operator

/-- How tightly the operator binds; a higher number binds tighter. -/
def precedence : Operator → Nat
  | not => 3
  | and => 2
  | or => 1

/-- The number of operands. -/
def arity : Operator → Nat
  | not => 1
  | and => 2
  | or => 2

/-- The reserved word of the operator. -/
def word : Operator → String
  | and => "AND"
  | or => "OR"
  | not => "NOT"

/-- The operator whose reserved word is `s`, in any ASCII case. -/
def ofWord? (s : List Char) : Option Operator :=
  [and, or, not].find? fun op => op.word.toList == s.map Char.toUpper

end Operator

/-- The pieces of a query. -/
inductive Token
  /-- A search word. -/
  | operand (word : String)
  /-- A connective. -/
  | op (operator : Operator)
  /-- An opening bracket. -/
  | opening
  /-- A closing bracket. -/
  | closing
  deriving Repr, DecidableEq

namespace Token

/-- The operator a token stands for, if it is one. -/
def operator? : Token → Option Operator
  | op o => some o
  | _ => none

/-- The token as it is written in a query. -/
def render : Token → String
  | operand w => w
  | op o => o.word
  | opening => "("
  | closing => ")"

end Token

/-- Why a query has no meaning. -/
inductive Malformed
  /-- There is nothing but blanks. -/
  | empty
  /-- A closing bracket matches no opening one. -/
  | unmatchedClosing
  /-- An opening bracket is never closed. -/
  | unclosedOpening
  /-- An operator lacks an operand. -/
  | missingOperand (operator : Operator)
  /-- Operands stand side by side. -/
  | missingOperator
  deriving Repr, DecidableEq

/-- The reason in words. -/
def Malformed.message : Malformed → String
  | empty => "query is empty"
  | unmatchedClosing => "closing bracket without a matching opening bracket"
  | unclosedOpening => "opening bracket is never closed"
  | missingOperand o => "operator " ++ o.word ++ " is missing an operand"
  | missingOperator => "operands are not joined by an operator"

end Concordance.Query
