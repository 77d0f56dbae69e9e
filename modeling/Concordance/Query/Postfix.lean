import Concordance.Query.Token
import Std.Data.ExtTreeSet

/-!
# Postfix form

`toPostfix` turns the tokens of a query into postfix order with one stack of operators and
opening brackets. An incoming operator first releases the stacked operators that bind at
least as tightly, so equal operators associate to the left. The connective `NOT` stands in
front of its operand : an operator directly behind it would release it too early, and is
refused.

`evaluate` reads a postfix stream against any look-up of sets. The two functions keep no
positions; what they refuse together is exactly what the grammar does not derive.
-/

namespace Concordance.Query

/-! ## From infix to postfix -/

/-- What waits on the stack of the conversion. -/
inductive Pending
  /-- An operator whose right operand is not complete. -/
  | op (operator : Operator)
  /-- A bracket that is not closed. -/
  | opening
  deriving Repr, DecidableEq

/-- Release the operators on top of the stack that bind at least as tightly as `level`. -/
def release (level : Nat) : List Pending → List Token × List Pending
  | .op o :: stack =>
    if o.precedence < level then ([], .op o :: stack)
    else
      let r := release level stack
      (.op o :: r.1, r.2)
  | stack => ([], stack)

/-- Release the operators above the innermost bracket, and the bracket itself. -/
def closeBracket : List Pending → Except Malformed (List Token × List Pending)
  | [] => .error .unmatchedClosing
  | .opening :: stack => .ok ([], stack)
  | .op o :: stack => do
    let r ← closeBracket stack
    return (.op o :: r.1, r.2)

/-- Release all that is left at the end of the query. -/
def drain : List Pending → Except Malformed (List Token)
  | [] => .ok []
  | .opening :: _ => .error .unclosedOpening
  | .op o :: stack => do
    let out ← drain stack
    return .op o :: out

/-- The output for the remaining tokens; `afterNot` tells that the token before them is
`NOT`. -/
def postfixFrom (afterNot : Bool) (stack : List Pending) :
    List Token → Except Malformed (List Token)
  | [] => drain stack
  | .operand w :: rest => do
    let out ← postfixFrom false stack rest
    return .operand w :: out
  | .opening :: rest => postfixFrom false (.opening :: stack) rest
  | .closing :: rest => do
    let r ← closeBracket stack
    let out ← postfixFrom false r.2 rest
    return r.1 ++ out
  | .op o :: rest =>
    if afterNot then .error (.missingOperand .not)
    else do
      let r := release o.precedence stack
      let out ← postfixFrom (o == .not) (.op o :: r.2) rest
      return r.1 ++ out

/-- The tokens of a query in postfix order. -/
def toPostfix (tokens : List Token) : Except Malformed (List Token) :=
  postfixFrom false [] tokens

/-! ## Evaluation -/

variable {α : Type} [Ord α] [Std.TransOrd α]

/-- The values left when the rest of a stream meets the stack `stack`. -/
def evaluateFrom (all : Std.ExtTreeSet α) (find : String → Std.ExtTreeSet α)
    (stack : List (Std.ExtTreeSet α)) : List Token → Except Malformed (Std.ExtTreeSet α)
  | [] =>
    match stack with
    | [] => .ok ∅
    | [s] => .ok s
    | _ => .error .missingOperator
  | .operand w :: rest => evaluateFrom all find (find w :: stack) rest
  | .opening :: _ => .error .unclosedOpening
  | .closing :: _ => .error .unclosedOpening
  | .op .not :: rest =>
    match stack with
    | s :: stack => evaluateFrom all find ((all \ s) :: stack) rest
    | _ => .error (.missingOperand .not)
  | .op .and :: rest =>
    match stack with
    | right :: left :: stack => evaluateFrom all find ((left ∩ right) :: stack) rest
    | _ => .error (.missingOperand .and)
  | .op .or :: rest =>
    match stack with
    | right :: left :: stack => evaluateFrom all find ((left ∪ right) :: stack) rest
    | _ => .error (.missingOperand .or)

/-- The value of a postfix stream, where `find` gives the value of an operand and negation is
taken within `all`. -/
def evaluate (all : Std.ExtTreeSet α) (find : String → Std.ExtTreeSet α)
    (stream : List Token) : Except Malformed (Std.ExtTreeSet α) :=
  evaluateFrom all find [] stream

end Concordance.Query
