import Concordance.Query.Token
import Std.Data.ExtTreeSet

/-!
# Formulas and their grammar

A well-formed query is a formula over search words. `Formula.postorder` lists it operands
first, `Formula.value` is its meaning over sets, and `Formula.Holds` its meaning at one
point. `Derives` is the grammar of the infix notation : a disjunction of conjunctions of
literals, where brackets may enclose any formula.
-/

namespace Concordance.Query

/-- A boolean combination of search words. -/
inductive Formula
  /-- A search word. -/
  | word (w : String)
  /-- A negation. -/
  | not (f : Formula)
  /-- A conjunction. -/
  | and (f g : Formula)
  /-- A disjunction. -/
  | or (f g : Formula)
  deriving Repr, DecidableEq

namespace Formula

/-- Operands first, each operator behind its last operand. -/
def postorder : Formula → List Token
  | word w => [.operand w]
  | not f => f.postorder ++ [.op .not]
  | and f g => f.postorder ++ g.postorder ++ [.op .and]
  | or f g => f.postorder ++ g.postorder ++ [.op .or]

/-- The meaning of a formula over sets. -/
def value {α : Type} [Ord α] [Std.TransOrd α] (all : Std.ExtTreeSet α)
    (find : String → Std.ExtTreeSet α) : Formula → Std.ExtTreeSet α
  | word w => find w
  | not f => all \ f.value all find
  | and f g => f.value all find ∩ g.value all find
  | or f g => f.value all find ∪ g.value all find

/-- The meaning of a formula when `p` tells which words hold. -/
def Holds (p : String → Prop) : Formula → Prop
  | word w => p w
  | not f => ¬ f.Holds p
  | and f g => f.Holds p ∧ g.Holds p
  | or f g => f.Holds p ∨ g.Holds p

end Formula

/-- The levels of the grammar, from the loosest to the tightest. -/
inductive Level
  /-- A disjunction of terms. -/
  | expression
  /-- A conjunction of factors. -/
  | term
  /-- A primary, negated at most once. -/
  | factor
  /-- A word or a bracketed expression. -/
  | primary
  deriving Repr, DecidableEq

/-- The grammar of queries : the tokens that spell a formula at a level. -/
inductive Derives : Level → List Token → Formula → Prop
  | or {ts us f g} : Derives .expression ts f → Derives .term us g →
      Derives .expression (ts ++ .op .or :: us) (.or f g)
  | ofTerm {ts f} : Derives .term ts f → Derives .expression ts f
  | and {ts us f g} : Derives .term ts f → Derives .factor us g →
      Derives .term (ts ++ .op .and :: us) (.and f g)
  | ofFactor {ts f} : Derives .factor ts f → Derives .term ts f
  | not {ts f} : Derives .primary ts f → Derives .factor (.op .not :: ts) (.not f)
  | ofPrimary {ts f} : Derives .primary ts f → Derives .factor ts f
  | word {w} : Derives .primary [.operand w] (.word w)
  | bracket {ts f} : Derives .expression ts f →
      Derives .primary (.opening :: ts ++ [.closing]) f

/-- The tokens spell some formula. -/
def WellFormed (tokens : List Token) : Prop :=
  ∃ f, Derives .expression tokens f

end Concordance.Query
