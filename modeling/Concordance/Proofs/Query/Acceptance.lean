import Concordance.Proofs.Query.Evaluation
import Concordance.Proofs.Query.Reading

/-!
# Which queries are answered

`answer` converts the tokens of a query and evaluates the stream. A query with a search word
is answered exactly if it is listed as a formula, that is if the loose grammar reads it as the
listing of one (`answer_eq_ok_iff`), and the answer is the value of that formula.

Not every such query is a formula. In a formula each token also fits the one in front of it :
a word, an opening bracket or `NOT` begins an operand and stands only where none is complete,
and a binary operator or a closing bracket stands only behind a complete one
(`Token.joins`). A listed query is well formed exactly if all its neighbours fit
(`wellFormed_iff_joined`). What is listed but not joined is answered as well :
`AND кот собака` is converted to the listing of `кот AND собака`
(`answer_leading_operator`). `answered_wellFormed_iff` puts this together : an answered query
is a formula exactly if it is joined, and what is not listed is refused.
-/

namespace Concordance.Query

variable {α : Type} [Ord α] [Std.TransOrd α]

/-! ## Answers -/

/-- The value of the tokens of a query, converted and evaluated. -/
def answer (all : Std.ExtTreeSet α) (find : String → Std.ExtTreeSet α) (tokens : List Token) :
    Except Malformed (Std.ExtTreeSet α) := do
  evaluate all find (← toPostfix tokens)

/-- The conversion reads the tokens as the listing of the formula. -/
def Listed (tokens : List Token) (f : Formula) : Prop :=
  NegatesOperands tokens ∧ Reads 1 tokens f.postorder

theorem Reads.operand_mem {n : Nat} {ts out : List Token} {w : String} (h : Reads n ts out)
    (hw : .operand w ∈ ts) : .operand w ∈ out := by
  induction h with
  | nil => exact hw
  | word _ ih =>
    rcases List.mem_append.1 hw with hw | hw
    · exact List.mem_append_left _ (ih hw)
    · exact List.mem_append_right _ hw
  | bracket _ _ ihts ihus =>
    simp only [List.mem_append, List.mem_cons, List.not_mem_nil, reduceCtorEq, false_or,
      or_false] at hw
    exact List.mem_append.2 (hw.imp ihts ihus)
  | op o _ _ ihts ihus =>
    simp only [List.mem_append, List.mem_cons, reduceCtorEq, false_or] at hw
    exact List.mem_append_left _ (List.mem_append.2 (hw.imp ihts ihus))
  | loosen _ ih => exact ih hw

/-- A query with a search word is answered exactly if it is listed as a formula, and then by
the value of the formula. -/
theorem answer_eq_ok_iff {all : Std.ExtTreeSet α} {find : String → Std.ExtTreeSet α}
    {ts : List Token} (hw : ∃ w, .operand w ∈ ts) {s : Std.ExtTreeSet α} :
    answer all find ts = .ok s ↔ ∃ f, Listed ts f ∧ s = f.value all find := by
  constructor
  · intro h
    cases hout : toPostfix ts with
    | error e => rw [answer, hout] at h; cases h
    | ok out =>
      rw [answer, hout] at h
      have hread := toPostfix_eq_ok_iff_reads.1 hout
      rcases evaluate_eq_ok_iff.1 h with ⟨rfl, -⟩ | ⟨f, rfl, hs⟩
      · obtain ⟨w, hw⟩ := hw
        cases hread.2.operand_mem hw
      · exact ⟨f, hread, hs⟩
  · rintro ⟨f, hf, rfl⟩
    rw [answer, toPostfix_eq_ok_iff_reads.2 hf]
    exact evaluate_postorder all find f

/-! ## Neighbours -/

namespace Token

/-- The token ends an operand. -/
def completes : Token → Bool
  | operand _ => true
  | closing => true
  | _ => false

/-- The second token may stand directly behind the first. -/
def joins (a : Token) : Token → Bool
  | operand _ => !a.completes
  | opening => !a.completes
  | op .not => !a.completes && a != op .not
  | op _ => a.completes
  | closing => a.completes

end Token

/-- All neighbours fit, when brackets are put around the tokens. -/
def Joined (tokens : List Token) : Prop :=
  List.IsChain (fun a b : Token => a.joins b = true) (.opening :: tokens ++ [.closing])

instance (tokens : List Token) : Decidable (Joined tokens) :=
  inferInstanceAs (Decidable (List.IsChain _ _))

/-- A joined query has no operator directly behind `NOT`. -/
theorem Joined.negatesOperands {ts : List Token} (h : Joined ts) : NegatesOperands ts := by
  have himp : ∀ a b : Token, a.joins b = true → a = .op .not → b.operator? = none := by
    rintro _ b hb rfl
    rcases b with w | o | _ | _
    · rfl
    · cases o <;> simp [Token.joins, Token.completes] at hb
    · rfl
    · rfl
  have hts : ts.IsChain fun a b => a.joins b = true := by
    have := h.left_of_append
    exact this.tail
  exact hts.imp himp

/-! ## Formulas are joined -/

theorem Derives.exists_operand {l : Level} {ts : List Token} {f : Formula} (h : Derives l ts f) :
    ∃ w, .operand w ∈ ts := by
  induction h with
  | or _ _ ih _ | and _ _ ih _ =>
    obtain ⟨w, hw⟩ := ih
    exact ⟨w, List.mem_append_left _ hw⟩
  | not _ ih =>
    obtain ⟨w, hw⟩ := ih
    exact ⟨w, List.mem_cons_of_mem _ hw⟩
  | bracket _ ih =>
    obtain ⟨w, hw⟩ := ih
    exact ⟨w, List.mem_append_left _ (List.mem_cons_of_mem _ hw)⟩
  | word => exact ⟨_, List.mem_singleton_self _⟩
  | ofTerm _ ih | ofFactor _ ih | ofPrimary _ ih => exact ih

/-- The neighbours in a formula fit, also with what stands around it : a token `a` that does
not end an operand and a token `b` that may follow one. -/
theorem Derives.isChain {l : Level} {ts : List Token} {f : Formula} (h : Derives l ts f) :
    ∀ {a b : Token}, a.completes = false → (a = .op .not → l = .primary) →
      (∀ c : Token, c.completes = true → c.joins b = true) →
      (a :: ts ++ [b]).IsChain fun a b => a.joins b = true := by
  induction h with
  | @or ts us f g _ _ ihf ihg =>
    intro a b ha hl hb
    have hf := ihf (b := .op .or) ha (fun h => by cases hl h) fun _ hc => hc
    have hg := ihg (a := .op .or) rfl (fun h => by cases h) hb
    simpa using List.isChain_split.2 ⟨hf, hg⟩
  | ofTerm _ ih => exact fun ha hl hb => ih ha (fun h => by cases hl h) hb
  | @and ts us f g _ _ ihf ihg =>
    intro a b ha hl hb
    have hf := ihf (b := .op .and) ha (fun h => by cases hl h) fun _ hc => hc
    have hg := ihg (a := .op .and) rfl (fun h => by cases h) hb
    simpa using List.isChain_split.2 ⟨hf, hg⟩
  | ofFactor _ ih => exact fun ha hl hb => ih ha (fun h => by cases hl h) hb
  | not _ ih =>
    intro a b ha hl hb
    have hne : a ≠ .op .not := fun h => by cases hl h
    exact List.isChain_cons_cons.2 ⟨by simp [Token.joins, ha, hne], ih rfl (fun _ => rfl) hb⟩
  | ofPrimary _ ih => exact fun ha hl hb => ih ha (fun _ => rfl) hb
  | word =>
    intro a b ha _ hb
    simpa [Token.joins, ha] using hb _ rfl
  | @bracket ts f _ ih =>
    intro a b ha _ hb
    have hin := ih (a := .opening) (b := .closing) rfl (fun h => by cases h) fun _ hc => hc
    have hout : (Token.closing :: [b]).IsChain fun a b => a.joins b = true := by
      simpa using hb .closing rfl
    have := List.isChain_split.2 ⟨hin, hout⟩
    simpa [Token.joins, ha] using this

theorem WellFormed.joined {ts : List Token} (h : WellFormed ts) : Joined ts := by
  obtain ⟨f, hf⟩ := h
  exact hf.isChain (a := .opening) (b := .closing) rfl (fun h => by cases h) fun _ hc => hc

theorem WellFormed.listed {ts : List Token} (h : WellFormed ts) : ∃ f, Listed ts f := by
  have hn := h.joined.negatesOperands
  obtain ⟨f, hf⟩ := h
  exact ⟨f, hn, hf.reads⟩

/-- A query that spells a formula is converted to the listing of the formula. -/
theorem Derives.toPostfix_eq {ts : List Token} {f : Formula} (h : Derives .expression ts f) :
    toPostfix ts = .ok f.postorder :=
  toPostfix_eq_ok_iff_reads.2 ⟨(WellFormed.joined ⟨f, h⟩).negatesOperands, h.reads⟩

/-! ## Joined readings are formulas -/

theorem Reads.eq_nil {n : Nat} {out : List Token} (h : Reads n [] out) : out = [] := by
  generalize hts : ([] : List Token) = ts at h
  induction h with
  | nil => rfl
  | word | bracket | op => simp at hts
  | loosen _ ih => exact ih hts

/-- The last token of a reading ends an operand, unless it is an operator that binds tightly
enough. -/
theorem Reads.getLast {n : Nat} {ts out : List Token} (h : Reads n ts out) :
    ∀ t ∈ ts.getLast?, t.completes = true ∨ ∃ o, t = .op o ∧ n ≤ o.precedence := by
  induction h with
  | nil => simp
  | word | bracket =>
    intro t ht
    rw [List.getLast?_concat] at ht
    exact Or.inl (by rw [← Option.some.inj ht]; rfl)
  | @op ts us out out' o _ _ _ ih =>
    intro t ht
    rw [List.getLast?_append, List.getLast?_cons, Option.some_or, Option.mem_some_iff] at ht
    cases hlast : us.getLast? with
    | none => exact Or.inr ⟨o, by simpa [hlast] using ht.symm, le_rfl⟩
    | some t' =>
      obtain rfl : t' = t := by simpa [hlast] using ht
      rcases ih t' hlast with hc | ⟨p, hp, hle⟩
      · exact Or.inl hc
      · exact Or.inr ⟨p, hp, (Nat.le_succ _).trans hle⟩
  | loosen _ ih =>
    intro t ht
    rcases ih t ht with hc | ⟨p, hp, hle⟩
    · exact Or.inl hc
    · exact Or.inr ⟨p, hp, (Nat.le_succ _).trans hle⟩

/-- Nothing is read in front of a token `b` that begins an operand and does not stand behind an
operator of the reading. -/
theorem Reads.eq_nil_of_isChain {n : Nat} {ts out rest : List Token} {a b : Token}
    (h : Reads n ts out)
    (hchain : List.IsChain (fun a b : Token => a.joins b = true) (a :: ts ++ b :: rest))
    (hb : ∀ t : Token, t.joins b = true →
      t.completes = false ∧ ∀ o, t = .op o → o.precedence < n) :
    ts = [] ∧ out = [] := by
  rcases List.eq_nil_or_concat ts with rfl | ⟨ts', t, rfl⟩
  · exact ⟨rfl, h.eq_nil⟩
  · exfalso
    have hjoin : t.joins b = true := by
      rw [List.cons_append, List.concat_eq_append, List.append_assoc] at hchain
      exact (List.isChain_cons_append_cons_cons.1 hchain).2.1
    obtain ⟨hc, ho⟩ := hb t hjoin
    rcases h.getLast t (by simp) with hc' | ⟨o, rfl, hle⟩
    · rw [hc] at hc'
      cases hc'
    · exact absurd (ho o rfl) (Nat.not_lt.2 hle)

/-- The level of the grammar whose operators bind at least as tightly as the number. -/
def Level.ofRank : Nat → Level
  | 0 => .expression
  | 1 => .expression
  | 2 => .term
  | 3 => .factor
  | _ => .primary

/-- A reading whose neighbours fit, also with what stands around it, is a formula. -/
theorem Reads.exists_derives {n : Nat} {ts out : List Token} (h : Reads n ts out) :
    ∀ {a b : Token}, a.completes = false → (∀ c : Token, c.joins b = true → c.completes = true) →
      List.IsChain (fun a b : Token => a.joins b = true) (a :: ts ++ [b]) →
      ∃ f, Derives (Level.ofRank n) ts f ∧ out = f.postorder := by
  induction h with
  | nil =>
    intro a b ha hb hchain
    have hab := hb a (List.isChain_cons_cons.1 hchain).1
    rw [ha] at hab
    cases hab
  | @word ts out w h _ =>
    intro a b ha hb hchain
    rw [List.cons_append, List.append_assoc, ← List.cons_append] at hchain
    obtain ⟨rfl, rfl⟩ := h.eq_nil_of_isChain hchain fun t ht =>
      ⟨by simpa [Token.joins] using ht, fun o _ => o.precedence_lt_four⟩
    exact ⟨.word w, .word, rfl⟩
  | @bracket ts us out out' h _ _ ih =>
    intro a b ha hb hchain
    rw [List.append_assoc, List.cons_append, List.append_assoc, ← List.cons_append] at hchain
    obtain ⟨rfl, rfl⟩ := h.eq_nil_of_isChain hchain fun t ht =>
      ⟨by simpa [Token.joins] using ht, fun o _ => o.precedence_lt_four⟩
    have hin : List.IsChain (fun a b : Token => a.joins b = true)
        (.opening :: us ++ [.closing] ++ [b]) := by simpa using hchain.tail
    obtain ⟨f, hf, rfl⟩ := ih (b := .closing) rfl (fun _ hc => hc) hin.left_of_append
    exact ⟨f, .bracket hf, rfl⟩
  | @op ts us out out' o h _ ihts ihus =>
    intro a b ha hb hchain
    rw [List.cons_append, List.append_assoc, ← List.cons_append] at hchain
    obtain ⟨hl, hr⟩ := List.isChain_split.1 hchain
    cases o with
    | or =>
      obtain ⟨f, hf, rfl⟩ := ihts (b := .op .or) ha (fun _ hc => hc) hl
      obtain ⟨g, hg, rfl⟩ := ihus rfl hb hr
      exact ⟨.or f g, .or hf hg, rfl⟩
    | and =>
      obtain ⟨f, hf, rfl⟩ := ihts (b := .op .and) ha (fun _ hc => hc) hl
      obtain ⟨g, hg, rfl⟩ := ihus rfl hb hr
      exact ⟨.and f g, .and hf hg, rfl⟩
    | not =>
      obtain ⟨rfl, rfl⟩ := h.eq_nil_of_isChain hchain fun t ht => by
        simp only [Token.joins, Bool.and_eq_true, Bool.not_eq_true', bne_iff_ne] at ht
        refine ⟨ht.1, fun o ho => ?_⟩
        cases o with
        | not => exact absurd ho ht.2
        | and | or => decide
      obtain ⟨f, hf, rfl⟩ := ihus rfl hb hr
      exact ⟨.not f, .not hf, rfl⟩
  | @loosen n ts out _ ih =>
    intro a b ha hb hchain
    obtain ⟨f, hf, rfl⟩ := ih ha hb hchain
    refine ⟨f, ?_, rfl⟩
    match n with
    | 0 => exact hf
    | 1 => exact .ofTerm hf
    | 2 => exact .ofFactor hf
    | 3 => exact .ofPrimary hf
    | _ + 4 => exact hf

/-- The formulas among the listed queries are those whose neighbours fit. -/
theorem wellFormed_iff_joined {ts : List Token} :
    WellFormed ts ↔ (∃ f, Listed ts f) ∧ Joined ts := by
  constructor
  · exact fun h => ⟨h.listed, h.joined⟩
  · rintro ⟨⟨f, -, hread⟩, hjoined⟩
    obtain ⟨g, hg, -⟩ := hread.exists_derives (b := .closing) rfl (fun _ hc => hc) hjoined
    exact ⟨g, hg⟩

/-! ## Answered queries and formulas -/

/-- A query with a search word meets "answered only if well formed" exactly if it is not listed
or all its neighbours fit. The well-formed queries are those that are listed and whose
neighbours fit, and a query that is not listed is refused. -/
theorem answered_wellFormed_iff (all : Std.ExtTreeSet α) (find : String → Std.ExtTreeSet α)
    {ts : List Token} (hw : ∃ w, .operand w ∈ ts) :
    (((∃ s, answer all find ts = .ok s) → WellFormed ts) ↔ ((∃ f, Listed ts f) → Joined ts)) ∧
      (WellFormed ts ↔ (∃ f, Listed ts f) ∧ Joined ts) ∧
      (∀ f, Listed ts f → answer all find ts = .ok (f.value all find)) ∧
      ((¬ ∃ f, Listed ts f) → ∃ e, answer all find ts = .error e) := by
  have hanswer : (∃ s, answer all find ts = .ok s) ↔ ∃ f, Listed ts f := by
    constructor
    · rintro ⟨s, hs⟩
      obtain ⟨f, hf, -⟩ := (answer_eq_ok_iff hw).1 hs
      exact ⟨f, hf⟩
    · rintro ⟨f, hf⟩
      exact ⟨f.value all find, (answer_eq_ok_iff hw).2 ⟨f, hf, rfl⟩⟩
  refine ⟨?_, wellFormed_iff_joined, fun f hf => (answer_eq_ok_iff hw).2 ⟨f, hf, rfl⟩, ?_⟩
  · rw [hanswer, wellFormed_iff_joined]
    exact ⟨fun h hf => (h hf).2, fun h hf => ⟨hf, h hf⟩⟩
  · intro hnone
    cases hres : answer all find ts with
    | error e => exact ⟨e, rfl⟩
    | ok s => exact absurd (hanswer.1 ⟨s, hres⟩) hnone

/-- The operator in `кот (AND собака)` takes an operand from outside the brackets, and the query
is answered without being a formula. -/
theorem answered_bracketed_operator :
    (∃ w, .operand w ∈
        [.operand "кот", .opening, .op .and, .operand "собака", Token.closing]) ∧
      ¬((∃ s, answer (∅ : Std.ExtTreeSet Nat) (fun _ => ∅)
          [.operand "кот", .opening, .op .and, .operand "собака", .closing] = .ok s) →
        WellFormed [.operand "кот", .opening, .op .and, .operand "собака", .closing]) := by
  have hw : ∃ w, .operand w ∈
      [.operand "кот", .opening, .op .and, .operand "собака", Token.closing] :=
    ⟨"кот", List.mem_cons_self⟩
  refine ⟨hw, fun h => ?_⟩
  have hlisted : Listed [.operand "кот", .opening, .op .and, .operand "собака", .closing]
      (.and (.word "кот") (.word "собака")) := toPostfix_eq_ok_iff_reads.1 rfl
  exact absurd ((answered_wellFormed_iff _ _ hw).1.1 h ⟨_, hlisted⟩) (by decide)

/-- `AND кот собака` is answered like `кот AND собака`. -/
theorem answer_leading_operator :
    (∀ (all : Std.ExtTreeSet Nat) (find : String → Std.ExtTreeSet Nat),
      answer all find [.op .and, .operand "кот", .operand "собака"] =
        .ok (find "кот" ∩ find "собака")) ∧
      ¬ WellFormed [.op .and, .operand "кот", .operand "собака"] :=
  ⟨fun _ _ => rfl, fun h => absurd h.joined (by decide)⟩

end Concordance.Query
