import Concordance.Proofs.Except
import Concordance.Query.Postfix
import Mathlib.Data.List.Chain

/-!
# Steps of the conversion to postfix

Each token is one step of `postfixFrom` : it writes something and goes on with another stack.
`postfixFrom_operand`, `postfixFrom_closing` and `postfixFrom_op` say what is written in front
of the rest of the output. Besides operands only operators are written, those that the step
takes off the stack (`release_append`, `closeBracket_append`, `drain_map`).

The three ways in which the conversion fails stay apart. `closeBracket` and `drain` fail at
brackets only, and `NegatesOperands` is the condition that no operator stands directly behind
`NOT` : every converted query satisfies it (`negatesOperands_of_postfixFrom`), and a query
that satisfies it never misses the operand of a `NOT` (`postfixFrom_ne_missingOperand`).
-/

namespace Concordance.Query

/-! ## One step -/

section Steps

variable (afterNot : Bool) (stack : List Pending) (rest : List Token)

theorem postfixFrom_operand (w : String) :
    postfixFrom afterNot stack (.operand w :: rest) =
      (.operand w :: ·) <$> postfixFrom false stack rest :=
  bind_pure_comp _ _

theorem postfixFrom_closing {r : List Token × List Pending} {stack : List Pending}
    (hr : closeBracket stack = .ok r) :
    postfixFrom afterNot stack (.closing :: rest) = (r.1 ++ ·) <$> postfixFrom false r.2 rest := by
  rw [postfixFrom, hr]
  exact bind_pure_comp (r.1 ++ ·) (postfixFrom false r.2 rest)

theorem postfixFrom_closing_error {e : Malformed} {stack : List Pending}
    (he : closeBracket stack = .error e) :
    postfixFrom afterNot stack (.closing :: rest) = .error e := by
  rw [postfixFrom, he]
  rfl

theorem postfixFrom_op (o : Operator) :
    postfixFrom false stack (.op o :: rest) =
      ((release o.precedence stack).1 ++ ·) <$>
        postfixFrom (Token.op o == .op .not) (.op o :: (release o.precedence stack).2) rest := by
  have hflag : (Token.op o == .op .not) = (o == .not) := by cases o <;> rfl
  rw [postfixFrom, if_neg Bool.false_ne_true, hflag]
  exact bind_pure_comp _ _

theorem postfixFrom_op_behind_not (o : Operator) :
    postfixFrom true stack (.op o :: rest) = .error (.missingOperand .not) := by
  rw [postfixFrom, if_pos rfl]

end Steps

theorem closeBracket_op (o : Operator) (stack : List Pending) :
    closeBracket (.op o :: stack) = (fun r => (.op o :: r.1, r.2)) <$> closeBracket stack :=
  bind_pure_comp _ _

theorem drain_op (o : Operator) (stack : List Pending) :
    drain (.op o :: stack) = (.op o :: ·) <$> drain stack :=
  bind_pure_comp _ _

/-! ## Operators on the stack -/

theorem Operator.one_le_precedence (o : Operator) : 1 ≤ o.precedence := by
  cases o <;> decide

theorem Operator.precedence_lt_four (o : Operator) : o.precedence < 4 := by
  cases o <;> decide

/-- An operator on top of the stack binds less tightly than `n`. -/
def Below (n : Nat) : List Pending → Prop
  | .op o :: _ => o.precedence < n
  | _ => True

theorem Below.mono {n m : Nat} (hnm : n ≤ m) :
    ∀ {stack : List Pending}, Below n stack → Below m stack
  | [], _ => trivial
  | .opening :: _, _ => trivial
  | .op _ :: _, h => Nat.lt_of_lt_of_le h hnm

theorem release_of_below {k : Nat} : ∀ {stack : List Pending}, Below k stack →
    release k stack = ([], stack)
  | [], _ => rfl
  | .opening :: _, _ => rfl
  | .op _ :: _, h => if_pos h

/-- Exactly the operators that bind at least as tightly are released. -/
theorem release_append {k : Nat} {stack : List Pending} (hs : Below k stack) :
    ∀ {os : List Operator}, (∀ o ∈ os, k ≤ o.precedence) →
      release k (os.map .op ++ stack) = (os.map .op, stack)
  | [], _ => release_of_below hs
  | o :: os, hos => by
    have hrest := release_append hs fun p hp => hos p (List.mem_cons_of_mem o hp)
    rw [List.map_cons, List.cons_append, release, if_neg (Nat.not_lt.2 (hos o (by simp))), hrest]
    rfl

theorem closeBracket_append (stack : List Pending) : ∀ os : List Operator,
    closeBracket (os.map .op ++ .opening :: stack) = .ok (os.map .op, stack)
  | [] => rfl
  | o :: os => by
    rw [List.map_cons, List.cons_append, closeBracket_op, closeBracket_append stack os]
    rfl

theorem drain_map : ∀ os : List Operator, drain (os.map .op) = .ok (os.map .op)
  | [] => rfl
  | o :: os => by
    rw [List.map_cons, drain_op, drain_map os]
    rfl

theorem exists_release_eq_map (k : Nat) : ∀ stack : List Pending,
    ∃ os : List Operator, (release k stack).1 = os.map .op
  | [] => ⟨[], rfl⟩
  | .opening :: _ => ⟨[], rfl⟩
  | .op o :: stack => by
    obtain ⟨os, hos⟩ := exists_release_eq_map k stack
    rw [release]
    split
    · exact ⟨[], rfl⟩
    · exact ⟨o :: os, congrArg (Token.op o :: ·) hos⟩

theorem exists_closeBracket_eq_map :
    ∀ {stack : List Pending} {r : List Token × List Pending}, closeBracket stack = .ok r →
      ∃ os : List Operator, r.1 = os.map .op
  | .opening :: _, _, h => ⟨[], by rw [← Except.ok.inj h]; rfl⟩
  | .op o :: stack, _, h => by
    rw [closeBracket_op, map_eq_ok_iff] at h
    obtain ⟨r', h, rfl⟩ := h
    obtain ⟨os, hos⟩ := exists_closeBracket_eq_map h
    exact ⟨o :: os, congrArg (Token.op o :: ·) hos⟩

theorem exists_drain_eq_map :
    ∀ {stack : List Pending} {out : List Token}, drain stack = .ok out →
      ∃ os : List Operator, out = os.map .op
  | [], _, h => ⟨[], (Except.ok.inj h).symm⟩
  | .op o :: stack, _, h => by
    rw [drain_op, map_eq_ok_iff] at h
    obtain ⟨out', h, rfl⟩ := h
    obtain ⟨os, rfl⟩ := exists_drain_eq_map h
    exact ⟨o :: os, rfl⟩

/-! ## Failures -/

/-- A closing bracket fails only for want of an opening one. -/
theorem eq_unmatchedClosing_of_closeBracket :
    ∀ {stack : List Pending} {e : Malformed}, closeBracket stack = .error e → e = .unmatchedClosing
  | [], _, h => (Except.error.inj h).symm
  | .opening :: _, _, h => by cases h
  | .op o :: stack, _, h => by
    rw [closeBracket_op, map_eq_error_iff] at h
    exact eq_unmatchedClosing_of_closeBracket h

/-- The end of a query fails only at an open bracket. -/
theorem eq_unclosedOpening_of_drain :
    ∀ {stack : List Pending} {e : Malformed}, drain stack = .error e → e = .unclosedOpening
  | [], _, h => by cases h
  | .opening :: _, _, h => (Except.error.inj h).symm
  | .op o :: stack, _, h => by
    rw [drain_op, map_eq_error_iff] at h
    exact eq_unclosedOpening_of_drain h

/-- No operator stands directly behind `NOT`. -/
def NegatesOperands (tokens : List Token) : Prop :=
  tokens.IsChain fun a b => a = .op .not → b.operator? = none

theorem negatesOperands_cons_iff {a b : Token} {tokens : List Token} :
    NegatesOperands (a :: b :: tokens) ↔
      (a = .op .not → b.operator? = none) ∧ NegatesOperands (b :: tokens) :=
  List.isChain_cons_cons

/-- A converted query has no operator directly behind `NOT`; `prev` is the token in front of
it. -/
theorem negatesOperands_of_postfixFrom :
    ∀ (tokens : List Token) {prev : Token} {stack : List Pending} {out : List Token},
      postfixFrom (prev == .op .not) stack tokens = .ok out → NegatesOperands (prev :: tokens)
  | [], prev, _, _, _ => List.isChain_singleton prev
  | .operand w :: rest, prev, stack, out, h => by
    rw [postfixFrom_operand, map_eq_ok_iff] at h
    obtain ⟨out', h, -⟩ := h
    exact negatesOperands_cons_iff.2 ⟨fun _ => rfl, negatesOperands_of_postfixFrom rest h⟩
  | .opening :: rest, prev, stack, out, h =>
    negatesOperands_cons_iff.2 ⟨fun _ => rfl, negatesOperands_of_postfixFrom rest h⟩
  | .closing :: rest, prev, stack, out, h => by
    refine negatesOperands_cons_iff.2 ⟨fun _ => rfl, ?_⟩
    cases hr : closeBracket stack with
    | error e => rw [postfixFrom_closing_error _ _ hr] at h; cases h
    | ok r =>
      rw [postfixFrom_closing _ _ hr, map_eq_ok_iff] at h
      obtain ⟨out', h, -⟩ := h
      exact negatesOperands_of_postfixFrom rest h
  | .op o :: rest, prev, stack, out, h => by
    cases hprev : prev == Token.op .not with
    | true => rw [hprev, postfixFrom_op_behind_not] at h; cases h
    | false =>
      rw [hprev, postfixFrom_op, map_eq_ok_iff] at h
      obtain ⟨out', h, -⟩ := h
      refine negatesOperands_cons_iff.2 ⟨fun hp => absurd hp (by simpa using hprev), ?_⟩
      exact negatesOperands_of_postfixFrom rest h

/-- A query without an operator directly behind `NOT` does not miss the operand of a `NOT`;
`prev` is the token in front of it. -/
theorem postfixFrom_ne_missingOperand :
    ∀ (tokens : List Token) {prev : Token} (stack : List Pending),
      NegatesOperands (prev :: tokens) →
        postfixFrom (prev == .op .not) stack tokens ≠ .error (.missingOperand .not)
  | [], _, _, _, h => by cases eq_unclosedOpening_of_drain h
  | .operand w :: rest, _, stack, hn, h => by
    rw [postfixFrom_operand, map_eq_error_iff] at h
    exact postfixFrom_ne_missingOperand rest stack (negatesOperands_cons_iff.1 hn).2 h
  | .opening :: rest, _, stack, hn, h =>
    postfixFrom_ne_missingOperand rest (.opening :: stack) (negatesOperands_cons_iff.1 hn).2 h
  | .closing :: rest, _, stack, hn, h => by
    cases hr : closeBracket stack with
    | error e =>
      rw [postfixFrom_closing_error _ _ hr, eq_unmatchedClosing_of_closeBracket hr] at h
      cases h
    | ok r =>
      rw [postfixFrom_closing _ _ hr, map_eq_error_iff] at h
      exact postfixFrom_ne_missingOperand rest r.2 (negatesOperands_cons_iff.1 hn).2 h
  | .op o :: rest, prev, stack, hn, h => by
    have hprev : (prev == Token.op .not) = false := by
      simpa [Token.operator?] using (negatesOperands_cons_iff.1 hn).1
    rw [hprev, postfixFrom_op, map_eq_error_iff] at h
    exact postfixFrom_ne_missingOperand rest _ (negatesOperands_cons_iff.1 hn).2 h

end Concordance.Query
