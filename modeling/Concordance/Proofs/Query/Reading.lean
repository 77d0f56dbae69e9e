import Concordance.Proofs.Query.Conversion
import Concordance.Query.Formula

/-!
# What the conversion reads

The conversion keeps no positions. It treats `NOT` like the other operators, lets operands
stand side by side, and does not ask whether an operator has operands next to it. `Reads` is
the loose grammar of what it accepts, with the output that it gives :

    E -> E OR T | T    T -> T AND F | F    F -> F NOT P | P    P -> nothing | P word | P ( E )

It differs from the grammar of formulas in two rules : a primary is any number of words and
brackets in a row, and `NOT` may have something on its left.

`toPostfix_eq_ok_iff_reads` : a query is converted to a stream exactly if the loose grammar reads
the one as the other and no operator stands directly behind `NOT`. One direction follows the
run of the conversion, whose stack always describes an unfinished reading (`Scanned`). The
other direction follows the reading, each part of which leaves its last operators on the
stack (`Reads.exists_runs`). A formula is read as its listing (`Derives.reads`).
-/

namespace Concordance.Query

/-! ## The loose grammar -/

/-- The tokens, whose operators outside brackets bind at least as tightly as the first number,
are converted to the stream. -/
inductive Reads : Nat → List Token → List Token → Prop
  | nil : Reads 4 [] []
  | word {ts out w} : Reads 4 ts out → Reads 4 (ts ++ [.operand w]) (out ++ [.operand w])
  | bracket {ts us out out'} : Reads 4 ts out → Reads 1 us out' →
      Reads 4 (ts ++ .opening :: us ++ [.closing]) (out ++ out')
  | op {ts us out out'} (o : Operator) : Reads o.precedence ts out →
      Reads (o.precedence + 1) us out' →
      Reads o.precedence (ts ++ .op o :: us) (out ++ out' ++ [.op o])
  | loosen {n ts out} : Reads (n + 1) ts out → Reads n ts out

theorem Reads.loosen_le {ts out : List Token} {n m : Nat} (h : Reads m ts out) (hnm : n ≤ m) :
    Reads n ts out := by
  induction hnm with
  | refl => exact h
  | step _ ih => exact ih h.loosen

/-! ## Every converted query is read -/

/-- The tokens have been scanned, the stream written, and the stack waits. Every operator on
it has a left part, and the part behind the top of the stack binds at least as tightly as the
number. -/
inductive Scanned : Nat → List Token → List Pending → List Token → Prop
  | phrase {n ts out} : Reads n ts out → 1 ≤ n → Scanned n ts [] out
  | op {n ts stack out us out'} (o : Operator) : Scanned o.precedence ts stack out →
      Reads n us out' → o.precedence < n →
      Scanned n (ts ++ .op o :: us) (.op o :: stack) (out ++ out')
  | opening {n ts stack out us out'} : Scanned 4 ts stack out → Reads n us out' → 1 ≤ n →
      Scanned n (ts ++ .opening :: us) (.opening :: stack) (out ++ out')

namespace Scanned

/-- What can be read behind every part can be read behind the last one. -/
theorem extend {n : Nat} {ts vs out out₁ : List Token} {stack : List Pending}
    (h : Scanned n ts stack out)
    (hvs : ∀ us out', Reads n us out' → Reads n (us ++ vs) (out' ++ out₁)) :
    Scanned n (ts ++ vs) stack (out ++ out₁) := by
  cases h with
  | phrase hts hn => exact .phrase (hvs _ _ hts) hn
  | op o h hus hn =>
    rw [List.append_assoc, List.append_assoc]
    exact .op o h (hvs _ _ hus) hn
  | opening h hus hn =>
    rw [List.append_assoc, List.append_assoc]
    exact .opening h (hvs _ _ hus) hn

/-- An operator that leaves the stack joins its left part with the part behind it. -/
theorem pop {n : Nat} {ts out : List Token} {o : Operator} {stack : List Pending}
    (h : Scanned n ts (.op o :: stack) out) :
    Scanned o.precedence ts stack (out ++ [.op o]) := by
  cases h with
  | op o h hus hn =>
    rw [List.append_assoc]
    refine h.extend fun vs out₁ hvs => ?_
    rw [← List.append_assoc]
    exact .op o hvs (hus.loosen_le hn)

/-- The operators that an incoming one releases are joined with their parts. -/
theorem release {k : Nat} (hk : 1 ≤ k) :
    ∀ (stack : List Pending) {n : Nat} {ts out : List Token}, Scanned n ts stack out → k ≤ n →
      Scanned k ts (Query.release k stack).2 (out ++ (Query.release k stack).1)
  | [], _, _, _, .phrase hts _, hkn => by
    simpa [Query.release] using Scanned.phrase (hts.loosen_le hkn) hk
  | .opening :: _, _, _, _, .opening h hus _, hkn => by
    simpa [Query.release] using Scanned.opening h (hus.loosen_le hkn) hk
  | .op o :: stack, n, ts, out, h, hkn => by
    by_cases hlt : o.precedence < k
    · rw [Query.release, if_pos hlt, List.append_nil]
      cases h with
      | op o h hus hn => exact .op o h (hus.loosen_le hkn) hlt
    · have hrest := release hk stack h.pop (Nat.le_of_not_lt hlt)
      rw [Query.release, if_neg hlt]
      simpa using hrest

/-- A closing bracket makes a primary of what has been scanned behind the opening one. -/
theorem closeBracket :
    ∀ (stack : List Pending) {n : Nat} {ts out : List Token} {r : List Token × List Pending},
      Scanned n ts stack out → Query.closeBracket stack = .ok r →
      Scanned 4 (ts ++ [.closing]) r.2 (out ++ r.1)
  | [], _, _, _, _, _, hr => by simp [Query.closeBracket] at hr
  | .opening :: stack, _, _, _, r, .opening h hus hn, hr => by
    obtain rfl : ([], stack) = r := Except.ok.inj hr
    rw [List.append_nil, List.append_assoc]
    refine h.extend fun vs out₁ hvs => ?_
    simpa using Reads.bracket hvs (hus.loosen_le hn)
  | .op o :: stack, _, _, _, r, h, hr => by
    rw [closeBracket_op, map_eq_ok_iff] at hr
    obtain ⟨r', hr', rfl⟩ := hr
    simpa using closeBracket stack h.pop hr'

/-- The end of the query joins all that is left. -/
theorem drain :
    ∀ (stack : List Pending) {n : Nat} {ts out out₁ : List Token},
      Scanned n ts stack out → Query.drain stack = .ok out₁ → Reads 1 ts (out ++ out₁)
  | [], _, _, _, _, .phrase hts hn, hout => by
    obtain rfl := Except.ok.inj hout
    rw [List.append_nil]
    exact hts.loosen_le hn
  | .op o :: stack, _, _, _, _, h, hout => by
    rw [drain_op, map_eq_ok_iff] at hout
    obtain ⟨out', hout', rfl⟩ := hout
    simpa using drain stack h.pop hout'

/-- An operator enters the stack behind its left part. -/
theorem push {o : Operator} {ts out : List Token} {stack : List Pending}
    (h : Scanned o.precedence ts stack out) :
    Scanned 4 (ts ++ [.op o]) (.op o :: stack) out := by
  simpa using Scanned.op o h Reads.nil o.precedence_lt_four

/-- A run that comes to its end has read its tokens. -/
theorem postfixFrom :
    ∀ (rest : List Token) {afterNot : Bool} {ts : List Token} {stack : List Pending}
      {out out₁ : List Token}, Scanned 4 ts stack out →
      Query.postfixFrom afterNot stack rest = .ok out₁ → Reads 1 (ts ++ rest) (out ++ out₁)
  | [], _, _, stack, _, _, h, hout => by
    rw [List.append_nil]
    exact drain stack h hout
  | .operand w :: rest, _, _, _, _, _, h, hout => by
    rw [postfixFrom_operand, map_eq_ok_iff] at hout
    obtain ⟨out', hout', rfl⟩ := hout
    simpa using postfixFrom rest (h.extend fun _ _ hus => hus.word) hout'
  | .opening :: rest, _, _, _, _, _, h, hout => by
    have hopen := Scanned.opening h Reads.nil (by decide)
    rw [List.append_nil] at hopen
    simpa using postfixFrom rest hopen hout
  | .closing :: rest, _, _, stack, _, _, h, hout => by
    cases hr : Query.closeBracket stack with
    | error e => rw [postfixFrom_closing_error _ _ hr] at hout; cases hout
    | ok r =>
      rw [postfixFrom_closing _ _ hr, map_eq_ok_iff] at hout
      obtain ⟨out', hout', rfl⟩ := hout
      simpa using postfixFrom rest (closeBracket stack h hr) hout'
  | .op o :: rest, true, _, stack, _, _, h, hout => by
    rw [postfixFrom_op_behind_not] at hout
    cases hout
  | .op o :: rest, false, _, stack, _, _, h, hout => by
    rw [postfixFrom_op, map_eq_ok_iff] at hout
    obtain ⟨out', hout', rfl⟩ := hout
    have hrel := release o.one_le_precedence stack h o.precedence_lt_four.le
    simpa using postfixFrom rest hrel.push hout'

end Scanned

/-! ## Every reading is converted -/

/-- The first result is the tokens `now` in front of one of the results `next`, unless the run
meets an operator directly behind `NOT`. -/
def Leads (first : Except Malformed (List Token)) (now : List Token)
    (next : Bool → Except Malformed (List Token)) : Prop :=
  first = .error (.missingOperand .not) ∨ ∃ afterNot, first = (now ++ ·) <$> next afterNot

namespace Leads

variable {first : Except Malformed (List Token)} {now now' : List Token}
  {next next' : Bool → Except Malformed (List Token)}

theorem trans (h : Leads first now next) (h' : ∀ afterNot, Leads (next afterNot) now' next') :
    Leads first (now ++ now') next' := by
  rcases h with h | ⟨b, rfl⟩
  · exact Or.inl h
  rcases h' b with h' | ⟨b', h'⟩
  · exact Or.inl (map_eq_error_iff.2 h')
  · refine Or.inr ⟨b', ?_⟩
    rw [h', Functor.map_map]
    simp only [List.append_assoc]

variable (afterNot : Bool) (stack : List Pending) (rest : List Token)

theorem operand (w : String) : Leads (postfixFrom afterNot stack (.operand w :: rest))
    [.operand w] fun b => postfixFrom b stack rest :=
  Or.inr ⟨false, postfixFrom_operand afterNot stack rest w⟩

theorem opening : Leads (postfixFrom afterNot stack (.opening :: rest)) []
    fun b => postfixFrom b (.opening :: stack) rest :=
  Or.inr ⟨false, (id_map _).symm⟩

/-- A closing bracket writes the operators above the opening one. -/
theorem closing (os : List Operator) :
    Leads (postfixFrom afterNot (os.map .op ++ .opening :: stack) (.closing :: rest)) (os.map .op)
      fun b => postfixFrom b stack rest :=
  Or.inr ⟨false, postfixFrom_closing _ _ (closeBracket_append stack os)⟩

/-- An operator writes those above it that bind at least as tightly. -/
theorem op {os : List Operator} (o : Operator) (hs : Below o.precedence stack)
    (hos : ∀ p ∈ os, o.precedence ≤ p.precedence) :
    Leads (postfixFrom afterNot (os.map .op ++ stack) (.op o :: rest)) (os.map .op)
      fun b => postfixFrom b (.op o :: stack) rest := by
  cases afterNot with
  | true => exact Or.inl (postfixFrom_op_behind_not _ _ o)
  | false =>
    refine Or.inr ⟨Token.op o == .op .not, ?_⟩
    rw [postfixFrom_op, release_append hs hos]

end Leads

/-- Where the stack binds less tightly than `n`, a run over the tokens writes `now` and leaves
the operators `later` on the stack. -/
def Runs (n : Nat) (ts now : List Token) (later : List Operator) : Prop :=
  ∀ (afterNot : Bool) (stack : List Pending) (rest : List Token), Below n stack →
    Leads (postfixFrom afterNot stack (ts ++ rest)) now
      fun b => postfixFrom b (later.map .op ++ stack) rest

namespace Runs

variable {ts us now now' : List Token} {later later' : List Operator}

theorem word (h : Runs 4 ts now []) (w : String) :
    Runs 4 (ts ++ [.operand w]) (now ++ [.operand w]) [] := by
  intro b stack rest hs
  rw [List.append_assoc]
  exact (h b stack _ hs).trans fun b' => Leads.operand b' stack rest w

theorem bracket (h : Runs 4 ts now []) (h' : Runs 1 us now' later') :
    Runs 4 (ts ++ .opening :: us ++ [.closing]) (now ++ (now' ++ later'.map .op)) [] := by
  intro b stack rest hs
  rw [List.append_assoc, List.append_assoc]
  refine (h b stack _ hs).trans fun b₁ => (Leads.opening b₁ stack _).trans fun b₂ => ?_
  exact (h' b₂ (.opening :: stack) _ trivial).trans fun b₃ => Leads.closing b₃ stack rest later'

theorem op (o : Operator) (h : Runs o.precedence ts now later)
    (hlater : ∀ p ∈ later, o.precedence ≤ p.precedence)
    (h' : Runs (o.precedence + 1) us now' later') :
    Runs o.precedence (ts ++ .op o :: us) (now ++ (later.map .op ++ now')) (later' ++ [o]) := by
  intro b stack rest hs
  rw [List.append_assoc, List.map_append, List.append_assoc]
  refine (h b stack _ hs).trans fun b₁ => (Leads.op b₁ stack _ o hs hlater).trans fun b₂ => ?_
  exact h' b₂ (.op o :: stack) rest (Nat.lt_succ_self _)

theorem loosen {n : Nat} (h : Runs (n + 1) ts now later) : Runs n ts now later :=
  fun b stack rest hs => h b stack rest (hs.mono (Nat.le_succ n))

end Runs

/-- A reading is run : the last operators of its output, which bind at least as tightly as the
reading, stay on the stack. -/
theorem Reads.exists_runs {n : Nat} {ts out : List Token} (h : Reads n ts out) :
    ∃ (now : List Token) (later : List Operator), out = now ++ later.map .op ∧
      (∀ o ∈ later, n ≤ o.precedence) ∧ Runs n ts now later := by
  have hnone : ∀ later : List Operator, (∀ o ∈ later, 4 ≤ o.precedence) → later = [] := by
    intro later hlater
    refine List.eq_nil_iff_forall_not_mem.2 fun o ho => ?_
    exact absurd (hlater o ho) (Nat.not_le.2 o.precedence_lt_four)
  induction h with
  | nil => exact ⟨[], [], rfl, by simp, fun b stack rest _ => Or.inr ⟨b, (id_map _).symm⟩⟩
  | @word ts out w _ ih =>
    obtain ⟨now, later, rfl, hlater, hrun⟩ := ih
    obtain rfl := hnone later hlater
    exact ⟨now ++ [.operand w], [], by simp, by simp, hrun.word w⟩
  | bracket _ _ ihts ihus =>
    obtain ⟨now, later, rfl, hlater, hrun⟩ := ihts
    obtain ⟨now', later', rfl, -, hrun'⟩ := ihus
    obtain rfl := hnone later hlater
    exact ⟨now ++ (now' ++ later'.map .op), [], by simp, by simp, hrun.bracket hrun'⟩
  | op o _ _ ihts ihus =>
    obtain ⟨now, later, rfl, hlater, hrun⟩ := ihts
    obtain ⟨now', later', rfl, hlater', hrun'⟩ := ihus
    refine ⟨now ++ (later.map .op ++ now'), later' ++ [o], by simp, ?_, hrun.op o hlater hrun'⟩
    intro p hp
    rcases List.mem_append.1 hp with hp | hp
    · exact (Nat.le_succ _).trans (hlater' p hp)
    · rw [List.mem_singleton.1 hp]
  | loosen _ ih =>
    obtain ⟨now, later, rfl, hlater, hrun⟩ := ih
    exact ⟨now, later, rfl, fun o ho => (Nat.le_succ _).trans (hlater o ho), hrun.loosen⟩

/-- A query is converted exactly if no operator stands directly behind `NOT` and the loose
grammar reads it, and then to the output of the reading. -/
theorem toPostfix_eq_ok_iff_reads {ts out : List Token} :
    toPostfix ts = .ok out ↔ NegatesOperands ts ∧ Reads 1 ts out := by
  constructor
  · intro h
    have hn : NegatesOperands (.opening :: ts) := negatesOperands_of_postfixFrom ts h
    exact ⟨hn.tail, Scanned.postfixFrom ts (.phrase .nil (by decide)) h⟩
  · rintro ⟨hn, h⟩
    obtain ⟨now, later, rfl, -, hrun⟩ := h.exists_runs
    rcases hrun false [] [] trivial with he | ⟨b, hok⟩
    · rw [List.append_nil] at he
      refine absurd he (@postfixFrom_ne_missingOperand ts .opening [] ?_)
      cases ts with
      | nil => exact List.isChain_singleton _
      | cons t ts => exact negatesOperands_cons_iff.2 ⟨fun ht => (by cases ht), hn⟩
    · rw [List.append_nil] at hok
      rw [toPostfix, hok]
      show (now ++ ·) <$> Query.drain (later.map .op ++ []) = _
      rw [List.append_nil, drain_map]
      rfl

/-! ## Formulas are read as their listings -/

/-- How tightly the operators of a level bind at least. -/
def Level.rank : Level → Nat
  | .expression => 1
  | .term => 2
  | .factor => 3
  | .primary => 4

/-- The tokens of a formula are read as its listing. -/
theorem Derives.reads {l : Level} {ts : List Token} {f : Formula} (h : Derives l ts f) :
    Reads l.rank ts f.postorder := by
  induction h with
  | or _ _ ihf ihg => exact .op .or ihf ihg
  | ofTerm _ ih => exact ih.loosen
  | and _ _ ihf ihg => exact .op .and ihf ihg
  | ofFactor _ ih => exact ih.loosen
  | not _ ih => exact .op .not Reads.nil.loosen ih
  | ofPrimary _ ih => exact ih.loosen
  | word => exact Reads.nil.word
  | bracket _ ih => exact Reads.nil.bracket ih

end Concordance.Query
