import Mathlib.Data.List.Induction
import Concordance.Postings
import Concordance.Proofs.Query.Parsing

/-!
# Where queries are refused

The conversion and the evaluation read their tokens from the left, and stop at the first one that
they object to because of the tokens in front of it. `Passes` says that there is none.

The conversion objects to an operator directly behind `NOT` and to a closing bracket without an open
one (`refusal?`). Its stack holds the brackets that are open (`exists_run_of_passes`), so a query
without an objection fails only if a bracket is open at the end. Every other query is converted, and
loses its brackets and nothing else (`toPostfix_outcome`).

The evaluation objects to an operator that finds too few values (`shortage?`). The values on its
stack are the words less the binary operators so far (`exists_values_of_passes`), so a stream without
an objection fails only if several values are left. Otherwise it is the listing of one formula, or
empty (`evaluate_outcome`).
-/

namespace Concordance.Query

/-! ## Objections -/

/-- No token meets an objection because of the tokens in front of it. -/
def Passes (objection? : List Token → Token → Option Malformed) (tokens : List Token) : Prop :=
  ∀ before t after, tokens = before ++ t :: after → objection? before t = none

section Passes

variable {objection? : List Token → Token → Option Malformed} {tokens : List Token}

theorem passes_concat_iff {t : Token} :
    Passes objection? (tokens ++ [t]) ↔ Passes objection? tokens ∧ objection? tokens t = none := by
  constructor
  · intro h
    refine ⟨fun before u after hsplit => h before u (after ++ [t]) ?_, h tokens t [] rfl⟩
    simp [hsplit]
  · rintro ⟨h, ht⟩ before u after hsplit
    rcases List.eq_nil_or_concat after with rfl | ⟨after', v, rfl⟩
    · obtain ⟨rfl, hlast⟩ := List.append_inj' hsplit rfl
      rwa [← List.singleton_inj.1 hlast]
    · have hsplit' : tokens ++ [t] = (before ++ u :: after') ++ [v] := by simpa using hsplit
      exact h before u after' (List.append_inj' hsplit' rfl).1

instance : Decidable (Passes objection? tokens) :=
  decidable_of_iff (∀ i : Fin tokens.length, objection? (tokens.take i) tokens[i] = none) <| by
    constructor
    · rintro h before t after rfl
      simpa using h ⟨before.length, by simp⟩
    · intro h i
      exact h _ _ (tokens.drop (i + 1)) (by simp)

end Passes

/-! ## Refused by the conversion -/

/-- The number of opening brackets that are open behind the tokens. A closing bracket closes one of
them, if there is any. -/
def openBrackets (tokens : List Token) : Nat :=
  tokens.foldl (fun n t => match t with
    | .opening => n + 1
    | .closing => n - 1
    | _ => n) 0

/-- The last token is `NOT`. -/
def endsInNot (tokens : List Token) : Bool :=
  tokens.getLast? == some (.op .not)

/-- Why a token cannot follow those in front of it, if it cannot. -/
def refusal? (before : List Token) : Token → Option Malformed
  | .op _ => if endsInNot before then some (.missingOperand .not) else none
  | .closing => if openBrackets before = 0 then some .unmatchedClosing else none
  | _ => none

theorem endsInNot_concat (tokens : List Token) (t : Token) :
    endsInNot (tokens ++ [t]) = (t == .op .not) := by
  simp [endsInNot]

theorem count_release (k : Nat) : ∀ stack : List Pending,
    (release k stack).2.count .opening = stack.count .opening
  | [] => rfl
  | .opening :: _ => rfl
  | .op o :: stack => by
    rw [release]
    split
    · rfl
    · simpa using count_release k stack

/-- A closing bracket finds the innermost open one. -/
theorem exists_closeBracket : ∀ stack : List Pending, 0 < stack.count .opening →
    ∃ r, closeBracket stack = .ok r ∧ r.2.count .opening = stack.count .opening - 1
  | .opening :: stack, _ => ⟨([], stack), rfl, by simp⟩
  | .op o :: stack, h => by
    obtain ⟨r, hr, hcount⟩ := exists_closeBracket stack (by simpa using h)
    exact ⟨(.op o :: r.1, r.2), by rw [closeBracket_op, hr]; rfl, by simpa using hcount⟩

theorem closeBracket_of_count_eq_zero : ∀ {stack : List Pending}, stack.count .opening = 0 →
    closeBracket stack = .error .unmatchedClosing
  | [], _ => rfl
  | .opening :: stack, h => by simp at h
  | .op o :: stack, h => by
    rw [closeBracket_op, closeBracket_of_count_eq_zero (by simpa using h)]
    rfl

theorem exists_drain : ∀ stack : List Pending, stack.count .opening = 0 →
    ∃ out, drain stack = .ok out
  | [], _ => ⟨[], rfl⟩
  | .opening :: stack, h => by simp at h
  | .op o :: stack, h => by
    obtain ⟨out, hout⟩ := exists_drain stack (by simpa using h)
    exact ⟨.op o :: out, by rw [drain_op, hout]; rfl⟩

theorem drain_of_count_pos : ∀ {stack : List Pending}, 0 < stack.count .opening →
    drain stack = .error .unclosedOpening
  | .opening :: stack, _ => rfl
  | .op o :: stack, h => by
    rw [drain_op, drain_of_count_pos (by simpa using h)]
    rfl

/-- A token that is not refused is a step of the conversion, after which the stack again holds the
open brackets. -/
theorem exists_step {before : List Token} {t : Token} {stack : List Pending}
    (hopen : stack.count .opening = openBrackets before) (h : refusal? before t = none) :
    ∃ (now : List Token) (stack' : List Pending),
      stack'.count .opening = openBrackets (before ++ [t]) ∧
      ∀ rest, postfixFrom (endsInNot before) stack (t :: rest) =
        (now ++ ·) <$> postfixFrom (endsInNot (before ++ [t])) stack' rest := by
  rw [endsInNot_concat]
  cases t with
  | operand w =>
    refine ⟨[.operand w], stack, by simpa [openBrackets] using hopen, fun rest => ?_⟩
    exact postfixFrom_operand _ stack rest w
  | opening =>
    refine ⟨[], .opening :: stack, by simpa [openBrackets] using hopen, fun rest => ?_⟩
    exact (id_map (postfixFrom false (.opening :: stack) rest)).symm
  | closing =>
    have hpos : 0 < stack.count .opening := by
      simp only [refusal?, ite_eq_right_iff, reduceCtorEq, imp_false] at h
      omega
    obtain ⟨r, hr, hcount⟩ := exists_closeBracket stack hpos
    refine ⟨r.1, r.2, by simpa [openBrackets, hopen] using hcount, fun rest => ?_⟩
    exact postfixFrom_closing _ rest hr
  | op o =>
    have hnot : endsInNot before = false := by simpa [refusal?] using h
    refine ⟨(release o.precedence stack).1, .op o :: (release o.precedence stack).2, ?_,
      fun rest => ?_⟩
    · simpa [openBrackets, count_release] using hopen
    · rw [hnot]
      exact postfixFrom_op stack rest o

/-- A token that is refused stops the conversion. -/
theorem postfixFrom_of_refusal {before : List Token} {t : Token} {stack : List Pending}
    {e : Malformed} (hopen : stack.count .opening = openBrackets before)
    (h : refusal? before t = some e) (rest : List Token) :
    postfixFrom (endsInNot before) stack (t :: rest) = .error e := by
  cases t with
  | operand w => simp [refusal?] at h
  | opening => simp [refusal?] at h
  | closing =>
    obtain ⟨hzero, rfl⟩ : openBrackets before = 0 ∧ .unmatchedClosing = e := by
      simpa [refusal?] using h
    exact postfixFrom_closing_error _ _ (closeBracket_of_count_eq_zero (hopen.trans hzero))
  | op o =>
    obtain ⟨hnot, rfl⟩ : endsInNot before = true ∧ .missingOperand .not = e := by
      simpa [refusal?] using h
    rw [hnot, postfixFrom_op_behind_not]

/-- Tokens that are not refused are steps of the conversion, after which the stack holds the open
brackets. -/
theorem exists_run_of_passes (tokens : List Token) (h : Passes refusal? tokens) :
    ∃ (now : List Token) (stack : List Pending), stack.count .opening = openBrackets tokens ∧
      ∀ rest, toPostfix (tokens ++ rest) =
        (now ++ ·) <$> postfixFrom (endsInNot tokens) stack rest := by
  induction tokens using List.reverseRecOn with
  | nil => exact ⟨[], [], rfl, fun rest => (id_map (toPostfix rest)).symm⟩
  | append_singleton tokens t ih =>
    obtain ⟨hpasses, ht⟩ := passes_concat_iff.1 h
    obtain ⟨now, stack, hopen, hrun⟩ := ih hpasses
    obtain ⟨now', stack', hopen', hstep⟩ := exists_step hopen ht
    refine ⟨now ++ now', stack', hopen', fun rest => ?_⟩
    rw [List.append_assoc, List.singleton_append, hrun, hstep, Functor.map_map]
    simp only [List.append_assoc]

/-- There are no brackets among the tokens. -/
def BracketFree (tokens : List Token) : Prop :=
  ∀ t ∈ tokens, t ≠ .opening ∧ t ≠ .closing

instance (tokens : List Token) : Decidable (BracketFree tokens) :=
  inferInstanceAs (Decidable (∀ t ∈ tokens, t ≠ .opening ∧ t ≠ .closing))

theorem Reads.bracketFree {n : Nat} {ts out : List Token} (h : Reads n ts out) :
    BracketFree out := by
  induction h with
  | nil => simp [BracketFree]
  | word _ ih => simpa [BracketFree, or_imp, forall_and] using ih
  | bracket _ _ ihts ihus => exact fun t ht => (List.mem_append.1 ht).elim (ihts t) (ihus t)
  | op o _ _ ihts ihus =>
    intro t ht
    rcases List.mem_append.1 ht with ht | ht
    · exact (List.mem_append.1 ht).elim (ihts t) (ihus t)
    · simp [List.mem_singleton.1 ht]
  | loosen _ ih => exact ih

/-- What the loose grammar reads keeps its operators. -/
theorem Reads.count_op {n : Nat} {ts out : List Token} (h : Reads n ts out) (p : Operator) :
    out.count (.op p) = ts.count (.op p) := by
  induction h with
  | nil => rfl
  | word _ ih => simpa using ih
  | bracket _ _ ihts ihus => simp [ihts, ihus]
  | op o _ _ ihts ihus =>
    simp only [List.count_append, List.count_cons, List.count_nil, ihts, ihus]
    omega
  | loosen _ ih => exact ih

/-- The first token that is refused decides how a query fails. If none is, a query fails exactly if
a bracket is open at its end. Every other query is converted, formula or not : the words stand in
their order, each operator as often as in the query, and the brackets are gone. -/
theorem toPostfix_outcome (tokens : List Token) :
    (∀ before t after e, tokens = before ++ t :: after → Passes refusal? before →
      refusal? before t = some e → toPostfix tokens = .error e) ∧
    (Passes refusal? tokens → 0 < openBrackets tokens →
      toPostfix tokens = .error .unclosedOpening) ∧
    (Passes refusal? tokens → openBrackets tokens = 0 →
      ∃ out, toPostfix tokens = .ok out ∧ BracketFree out ∧
        out.filterMap Token.word? = tokens.filterMap Token.word? ∧
        ∀ o : Operator, out.count (.op o) = tokens.count (.op o)) := by
  refine ⟨?_, fun h hopen => ?_, fun h hopen => ?_⟩
  · rintro before t after e rfl h he
    obtain ⟨now, stack, hstack, hrun⟩ := exists_run_of_passes before h
    rw [hrun, postfixFrom_of_refusal hstack he]
    rfl
  · obtain ⟨now, stack, hstack, hrun⟩ := exists_run_of_passes tokens h
    rw [← List.append_nil tokens, hrun, postfixFrom, drain_of_count_pos (hstack ▸ hopen)]
    rfl
  · obtain ⟨now, stack, hstack, hrun⟩ := exists_run_of_passes tokens h
    obtain ⟨out, hout⟩ := exists_drain stack (hstack.trans hopen)
    have hconverted : toPostfix tokens = .ok (now ++ out) := by
      rw [← List.append_nil tokens, hrun, postfixFrom, hout]
      rfl
    have hread := (toPostfix_eq_ok_iff_reads.1 hconverted).2
    exact ⟨now ++ out, hconverted, hread.bracketFree, hread.filterMap_word?, hread.count_op⟩

/-- Of two faults the first one counts; a bracket that is open at the end counts last. A query without
such a fault is converted, even if its operators lack operands. -/
theorem toPostfix_faults :
    toPostfix [.operand "кот", .closing, .op .not, .op .or] = .error .unmatchedClosing ∧
      toPostfix [.opening, .op .not, .op .or, .closing, .closing] =
        .error (.missingOperand .not) ∧
      toPostfix [.opening, .operand "кот", .op .or] = .error .unclosedOpening ∧
      ∃ out, toPostfix [.op .or, .opening, .op .not, .closing, .op .or] = .ok out ∧
        BracketFree out ∧ out.count (.op .or) = 2 := by
  refine ⟨(toPostfix_outcome _).1 [.operand "кот"] .closing _ _ rfl (by decide) rfl,
    (toPostfix_outcome _).1 [.opening, .op .not] (.op .or) _ _ rfl (by decide) rfl,
    (toPostfix_outcome _).2.1 (by decide) (by decide), ?_⟩
  obtain ⟨out, hout, hfree, -, hcount⟩ := (toPostfix_outcome
    [.op .or, .opening, .op .not, .closing, .op .or]).2.2 (by decide) (by decide)
  exact ⟨out, hout, hfree, hcount .or⟩

/-! ## Refused by the evaluation -/

/-- The number of operands in a stream. -/
def operandCount (stream : List Token) : Nat :=
  stream.countP fun t => t.word?.isSome

/-- The number of binary operators in a stream. -/
def binaryCount (stream : List Token) : Nat :=
  stream.countP fun t => t.operator?.any fun o => o.arity = 2

/-- Why a token finds too few values, if it does. Of those in front of it every operand has put a
value on the stack, and every binary operator has made one value of two. -/
def shortage? (before : List Token) : Token → Option Malformed
  | .op o =>
    if operandCount before < binaryCount before + o.arity then some (.missingOperand o) else none
  | _ => none

section Evaluation

variable {α : Type} [Ord α] [Std.TransOrd α] (all : Std.ExtTreeSet α)
  (find : String → Std.ExtTreeSet α)

/-- An operator with enough operands leaves one value in their place. -/
theorem exists_evaluateFrom_op {stack : List (Std.ExtTreeSet α)} {o : Operator}
    (h : o.arity ≤ stack.length) : ∃ stack' : List (Std.ExtTreeSet α),
      stack'.length + o.arity = stack.length + 1 ∧
      ∀ rest, evaluateFrom all find stack (.op o :: rest) = evaluateFrom all find stack' rest := by
  rcases stack with _ | ⟨right, _ | ⟨left, stack⟩⟩
  · cases o <;> simp [Operator.arity] at h
  · cases o with
    | not => exact ⟨[all \ right], rfl, fun _ => rfl⟩
    | and | or => simp [Operator.arity] at h
  · cases o with
    | not => exact ⟨(all \ right) :: left :: stack, rfl, fun _ => rfl⟩
    | and => exact ⟨(left ∩ right) :: stack, rfl, fun _ => rfl⟩
    | or => exact ⟨(left ∪ right) :: stack, rfl, fun _ => rfl⟩

theorem evaluateFrom_op_of_length_lt {stack : List (Std.ExtTreeSet α)} {o : Operator}
    (h : stack.length < o.arity) (rest : List Token) :
    evaluateFrom all find stack (.op o :: rest) = .error (.missingOperand o) := by
  rcases stack with _ | ⟨right, _ | ⟨left, stack⟩⟩
  · cases o <;> rfl
  · cases o with
    | not => simp [Operator.arity] at h
    | and | or => rfl
  · have harity : o.arity ≤ 2 := by cases o <;> decide
    simp only [List.length_cons] at h
    omega

/-- Where no operator finds too few values, the stack has a value for every operand, less one for
every binary operator. -/
theorem exists_values_of_passes (stream : List Token) (hfree : BracketFree stream)
    (h : Passes shortage? stream) :
    ∃ stack : List (Std.ExtTreeSet α), stack.length + binaryCount stream = operandCount stream ∧
      ∀ rest, evaluate all find (stream ++ rest) = evaluateFrom all find stack rest := by
  induction stream using List.reverseRecOn with
  | nil => exact ⟨[], rfl, fun _ => rfl⟩
  | append_singleton stream t ih =>
    obtain ⟨hpasses, ht⟩ := passes_concat_iff.1 h
    obtain ⟨stack, hlength, hrun⟩ := ih (fun u hu => hfree u (by simp [hu])) hpasses
    simp only [List.append_assoc, List.singleton_append, hrun]
    cases t with
    | opening => exact absurd rfl (hfree .opening (by simp)).1
    | closing => exact absurd rfl (hfree .closing (by simp)).2
    | operand w =>
      refine ⟨find w :: stack, ?_, fun _ => rfl⟩
      simp [operandCount, binaryCount, Token.word?, Token.operator?] at hlength ⊢
      omega
    | op o =>
      have hfit : o.arity ≤ stack.length := by
        simp only [shortage?, ite_eq_right_iff, reduceCtorEq, imp_false] at ht
        omega
      obtain ⟨stack', hlength', hstep⟩ := exists_evaluateFrom_op all find hfit
      refine ⟨stack', ?_, hstep⟩
      have harity : o.arity = 1 ∨ o.arity = 2 := by cases o <;> decide
      simp [operandCount, binaryCount, Token.word?, Token.operator?] at hlength ⊢
      split <;> omega

/-- A stream has a value exactly if it is empty or the listing of a formula, which is the only one.
Otherwise the first operator with too few values decides how it fails, and if there is none, some
values are left that no operator joins. -/
theorem evaluate_outcome {stream : List Token} (hfree : BracketFree stream) :
    (∀ s, evaluate all find stream = .ok s ↔ (stream = [] ∧ s = ∅) ∨
      ∃ f : Formula, (∀ g : Formula, g.postorder = stream ↔ g = f) ∧ s = f.value all find) ∧
    (∀ before t after e, stream = before ++ t :: after → Passes shortage? before →
      shortage? before t = some e → evaluate all find stream = .error e) ∧
    (Passes shortage? stream → stream ≠ [] → (∀ f : Formula, f.postorder ≠ stream) →
      evaluate all find stream = .error .missingOperator) := by
  refine ⟨fun s => ?_, ?_, fun h hne hlisting => ?_⟩
  · rw [evaluate_eq_ok_iff]
    refine or_congr_right (exists_congr fun f => and_congr_left fun _ => ⟨?_, fun h => ?_⟩)
    · rintro rfl g
      exact Formula.postorder_injective.eq_iff
    · exact ((h f).2 rfl).symm
  · rintro before t after e rfl h he
    obtain ⟨stack, hlength, hrun⟩ :=
      exists_values_of_passes all find before (fun u hu => hfree u (by simp [hu])) h
    cases t with
    | op o =>
      obtain ⟨hlt, rfl⟩ :
          operandCount before < binaryCount before + o.arity ∧ .missingOperand o = e := by
        simpa [shortage?] using he
      rw [hrun, evaluateFrom_op_of_length_lt all find (by omega)]
    | operand | opening | closing => simp [shortage?] at he
  · obtain ⟨stack, -, hrun⟩ := exists_values_of_passes all find stream hfree h
    have hnone : ∀ s, evaluate all find stream ≠ .ok s := by
      intro s hs
      rcases evaluate_eq_ok_iff.1 hs with ⟨hnil, -⟩ | ⟨f, hf, -⟩
      · exact hne hnil
      · exact hlisting f hf.symm
    rw [← List.append_nil stream, hrun] at hnone ⊢
    rcases stack with _ | ⟨s, _ | ⟨s', stack⟩⟩
    · exact absurd rfl (hnone ∅)
    · exact absurd rfl (hnone s)
    · rfl

end Evaluation

/-- Two documents, of which the first one has a lemma. -/
def catOfTwo : Postings where
  lists := Std.ExtTreeMap.ofList [("кот", (∅ : DocSet).insert 1)]
  all := ((∅ : DocSet).insert 1).insert 2

/-- The listing of `NOT кот` finds the other document. The operator that comes first among those with
too few values is reported, also if other values are left. -/
theorem evaluate_catOfTwo :
    evaluate catOfTwo.all catOfTwo.find [.operand "кот", .op .not] =
        .ok (catOfTwo.all \ catOfTwo.find "кот") ∧
      evaluate catOfTwo.all catOfTwo.find
          [.operand "кот", .operand "дом", .op .and, .op .or, .op .not, .operand "лес"] =
        .error (.missingOperand .or) ∧
      evaluate catOfTwo.all catOfTwo.find [.operand "кот", .operand "дом", .op .not] =
        .error .missingOperator := by
  have hlist : ∀ f : Formula, f.postorder ≠ [.operand "кот", .operand "дом", .op .not] := by
    intro f hf
    have hassemble := f.assemble_postorder_append [] []
    rw [List.append_nil, hf] at hassemble
    simp [Formula.assemble] at hassemble
  refine ⟨((evaluate_outcome _ _ (by decide)).1 _).2 (Or.inr ⟨.not (.word "кот"), ?_, rfl⟩),
    (evaluate_outcome _ _ (by decide)).2.1 [.operand "кот", .operand "дом", .op .and] (.op .or) _ _
      rfl (by decide) rfl,
    (evaluate_outcome _ _ (by decide)).2.2 (by decide) (by decide) hlist⟩
  intro g
  rw [← Formula.postorder_injective.eq_iff, Formula.postorder, Formula.postorder,
    List.singleton_append]

end Concordance.Query
