import Concordance.Proofs.Inversion
import Concordance.Proofs.Query.Conversion

/-!
# Expansion commutes with conversion and evaluation

Expansion puts a bracketed disjunction into a query wherever a word has several lemmas. In
postfix order the same disjunction is a listing without brackets (`disjunction`), which
`expandStream` puts in the place of each word. A run of the conversion passes over an expanded
word as over the word itself and comes back to the same stack, whatever waits there
(`postfixFrom_expandWord`). So converting after expanding is expanding after converting, with
the same failures (`toPostfix_expand`).

An expanded stream is evaluated like the stream itself, when each word denotes the documents
of all its lemmas together (`evaluate_expandStream`). `expand_commutes` states both for the
search over a corpus, where a word that is recorded has lemmas.
-/

namespace Concordance

open Query

namespace BooleanSearch

/-! ## Disjunctions of lemmas -/

/-- The listing of a disjunction : the first lemma, then every other one with its operator. -/
def disjunction : List String → List Token
  | [] => []
  | lem :: lemmas => .operand lem :: lemmas.flatMap fun other => [.operand other, .op .or]

/-- What a search word stands for : its lemmas, ascending, or itself if it has none. -/
def meanings (search : BooleanSearch) (word : String) : List String :=
  match (search.lemmasFor? word).map (·.toList) with
  | none => [word]
  | some [] => [word]
  | some lemmas => lemmas

/-- Each word of a stream replaced by the listing of what it stands for. -/
def expandStream (search : BooleanSearch) (stream : List Token) : List Token :=
  stream.flatMap fun
    | .operand word => disjunction (search.meanings word)
    | token => [token]

/-- The documents of all that a word stands for. -/
def documentsOf (search : BooleanSearch) (word : String) : DocSet :=
  (search.meanings word).foldl (fun docs lem => docs ∪ search.postings.find lem) ∅

variable (search : BooleanSearch)

/-- A word is expanded to its only meaning, or to the bracketed disjunction of several. -/
theorem exists_expandWord (word : String) :
    (∃ lem, search.meanings word = [lem] ∧ search.expandWord word = [.operand lem]) ∨
      ∃ lem lemmas, search.meanings word = lem :: lemmas ∧
        search.expandWord word =
          .opening :: ((lem :: lemmas).map Token.operand).intersperse (.op .or) ++ [.closing] := by
  unfold meanings expandWord
  generalize (search.lemmasFor? word).map (·.toList) = found
  rcases found with _ | _ | ⟨lem, _ | ⟨other, lemmas⟩⟩
  · exact Or.inl ⟨word, rfl, rfl⟩
  · exact Or.inl ⟨word, rfl, rfl⟩
  · exact Or.inl ⟨lem, rfl, rfl⟩
  · exact Or.inr ⟨lem, other :: lemmas, rfl, rfl⟩

/-! ## Expansion and conversion -/

theorem expandStream_append (stream stream' : List Token) :
    search.expandStream (stream ++ stream') =
      search.expandStream stream ++ search.expandStream stream' :=
  List.flatMap_append

/-- A disjunction behind an opening bracket is converted to its listing, where the operators
`os` that wait above the bracket are written behind the first lemma. -/
theorem postfixFrom_intersperse (stack : List Pending) (rest : List Token) :
    ∀ (lem : String) (lemmas : List String) (os : List Operator) (afterNot : Bool),
      postfixFrom afterNot (os.map .op ++ .opening :: stack)
          (((lem :: lemmas).map Token.operand).intersperse (.op .or) ++ .closing :: rest) =
        (.operand lem :: os.map .op ++
            (lemmas.flatMap fun other => [.operand other, .op .or]) ++ ·) <$>
          postfixFrom false stack rest
  | lem, [], os, afterNot => by
    show postfixFrom afterNot _ (.operand lem :: .closing :: rest) = _
    rw [postfixFrom_operand, postfixFrom_closing _ _ (closeBracket_append stack os),
      Functor.map_map]
    simp
  | lem, other :: lemmas, os, afterNot => by
    show postfixFrom afterNot _ (.operand lem :: .op .or ::
      (((other :: lemmas).map Token.operand).intersperse (.op .or) ++ .closing :: rest)) = _
    have hrest := postfixFrom_intersperse stack rest other lemmas [.or] (Token.op .or == .op .not)
    have hrel : release 1 (os.map .op ++ .opening :: stack) = (os.map .op, .opening :: stack) :=
      release_append (show Below 1 (.opening :: stack) from trivial) fun o _ => o.one_le_precedence
    rw [postfixFrom_operand, postfixFrom_op, Operator.precedence, hrel]
    show (_ :: ·) <$> (os.map .op ++ ·) <$> postfixFrom _ ([.or].map .op ++ .opening :: stack) _ = _
    rw [hrest, Functor.map_map, Functor.map_map]
    simp

/-- An expanded word is passed over like the word : its listing is written, and the stack is
as before. -/
theorem postfixFrom_expandWord (word : String) (afterNot : Bool) (stack : List Pending)
    (rest : List Token) :
    postfixFrom afterNot stack (search.expandWord word ++ rest) =
      (disjunction (search.meanings word) ++ ·) <$> postfixFrom false stack rest := by
  rcases search.exists_expandWord word with ⟨lem, hmean, hexp⟩ | ⟨lem, lemmas, hmean, hexp⟩
  · rw [hexp, hmean]
    exact postfixFrom_operand afterNot stack rest lem
  · rw [hexp, hmean, List.cons_append, List.cons_append, List.append_assoc]
    exact postfixFrom_intersperse stack rest lem lemmas [] false

/-- What the steps write besides words is not changed by expansion. -/
theorem expandStream_map_op (os : List Operator) :
    search.expandStream (os.map .op) = os.map .op := by
  induction os with
  | nil => rfl
  | cons o os ih => exact congrArg (Token.op o :: ·) ih

theorem expand_cons_operand (word : String) (tokens : List Token) :
    search.expand (.operand word :: tokens) = search.expandWord word ++ search.expand tokens :=
  rfl

/-- A run over expanded tokens goes through the same stacks and writes the expanded output. -/
theorem postfixFrom_expand :
    ∀ (tokens : List Token) (afterNot : Bool) (stack : List Pending),
      postfixFrom afterNot stack (search.expand tokens) =
        search.expandStream <$> postfixFrom afterNot stack tokens
  | [], afterNot, stack => by
    show drain stack = search.expandStream <$> drain stack
    cases hout : drain stack with
    | error e => rfl
    | ok out =>
      obtain ⟨os, rfl⟩ := exists_drain_eq_map hout
      exact congrArg Except.ok (search.expandStream_map_op os).symm
  | .operand word :: tokens, afterNot, stack => by
    rw [expand_cons_operand, postfixFrom_expandWord, postfixFrom_expand tokens false stack,
      postfixFrom_operand, Functor.map_map, Functor.map_map]
    rfl
  | .opening :: tokens, afterNot, stack => postfixFrom_expand tokens false (.opening :: stack)
  | .closing :: tokens, afterNot, stack => by
    show postfixFrom afterNot stack (.closing :: search.expand tokens) = _
    cases hr : closeBracket stack with
    | error e =>
      rw [postfixFrom_closing_error _ _ hr, postfixFrom_closing_error _ _ hr]
      rfl
    | ok r =>
      obtain ⟨os, hos⟩ := exists_closeBracket_eq_map hr
      rw [postfixFrom_closing _ _ hr, postfixFrom_closing _ _ hr, postfixFrom_expand tokens,
        Functor.map_map, Functor.map_map]
      simp only [expandStream_append, hos, expandStream_map_op]
  | .op o :: tokens, afterNot, stack => by
    show postfixFrom afterNot stack (.op o :: search.expand tokens) = _
    cases afterNot with
    | true =>
      rw [postfixFrom_op_behind_not, postfixFrom_op_behind_not]
      rfl
    | false =>
      obtain ⟨os, hos⟩ := exists_release_eq_map o.precedence stack
      rw [postfixFrom_op, postfixFrom_op, postfixFrom_expand tokens, Functor.map_map,
        Functor.map_map]
      simp only [expandStream_append, hos, expandStream_map_op]

/-- Converting expanded tokens expands the converted ones, and fails alike. -/
theorem toPostfix_expand (tokens : List Token) :
    toPostfix (search.expand tokens) = search.expandStream <$> toPostfix tokens :=
  search.postfixFrom_expand tokens false []

/-! ## Expansion and evaluation -/

/-- A word denotes the documents of all its meanings. -/
theorem mem_documentsOf_iff {word : String} {id : DocId} :
    id ∈ search.documentsOf word ↔
      ∃ lem ∈ search.meanings word, id ∈ search.postings.find lem := by
  have hfold : ∀ (lemmas : List String) (docs : DocSet),
      id ∈ lemmas.foldl (fun docs lem => docs ∪ search.postings.find lem) docs ↔
        id ∈ docs ∨ ∃ lem ∈ lemmas, id ∈ search.postings.find lem := by
    intro lemmas
    induction lemmas with
    | nil => simp
    | cons lem lemmas ih =>
      intro docs
      rw [List.foldl_cons, ih, Std.ExtTreeSet.mem_union_iff, or_assoc]
      simp only [List.mem_cons, exists_eq_or_imp]
  rw [documentsOf, hfold]
  simp

/-- Each further lemma of a disjunction adds its documents to the value on the stack. -/
theorem evaluateFrom_flatMap_or (all : DocSet) (find : String → DocSet) (rest : List Token) :
    ∀ (lemmas : List String) (docs : DocSet) (stack : List DocSet),
      evaluateFrom all find (docs :: stack)
          ((lemmas.flatMap fun other => [.operand other, .op .or]) ++ rest) =
        evaluateFrom all find (lemmas.foldl (fun docs lem => docs ∪ find lem) docs :: stack) rest
  | [], _, _ => rfl
  | lem :: lemmas, docs, stack =>
    evaluateFrom_flatMap_or all find rest lemmas (docs ∪ find lem) stack

/-- The listing of a disjunction puts the documents of all its lemmas on the stack. -/
theorem evaluateFrom_disjunction (all : DocSet) (word : String) (stack : List DocSet)
    (rest : List Token) :
    evaluateFrom all search.postings.find stack (disjunction (search.meanings word) ++ rest) =
      evaluateFrom all search.postings.find (search.documentsOf word :: stack) rest := by
  have hempty : ∀ docs : DocSet, ∅ ∪ docs = docs := fun docs =>
    Std.ExtTreeSet.ext_mem fun id => by simp
  have hcons : ∃ lem lemmas, search.meanings word = lem :: lemmas := by
    rcases search.exists_expandWord word with ⟨lem, hmean, -⟩ | ⟨lem, lemmas, hmean, -⟩
    · exact ⟨lem, [], hmean⟩
    · exact ⟨lem, lemmas, hmean⟩
  obtain ⟨lem, lemmas, hmean⟩ := hcons
  rw [documentsOf, hmean, List.foldl_cons, hempty]
  exact evaluateFrom_flatMap_or all _ rest lemmas _ stack

/-- An expanded stream is evaluated like the stream whose words denote the documents of all
their lemmas, with the same failures. -/
theorem evaluateFrom_expandStream (all : DocSet) :
    ∀ (stream : List Token) (stack : List DocSet),
      evaluateFrom all search.postings.find stack (search.expandStream stream) =
        evaluateFrom all search.documentsOf stack stream
  | [], _ => rfl
  | .operand word :: stream, stack =>
    (search.evaluateFrom_disjunction all word stack _).trans
      (evaluateFrom_expandStream all stream (search.documentsOf word :: stack))
  | .opening :: _, _ => rfl
  | .closing :: _, _ => rfl
  | .op .not :: _, [] => rfl
  | .op .not :: stream, docs :: stack =>
    evaluateFrom_expandStream all stream ((all \ docs) :: stack)
  | .op .and :: _, [] => rfl
  | .op .and :: _, [_] => rfl
  | .op .and :: stream, right :: left :: stack =>
    evaluateFrom_expandStream all stream ((left ∩ right) :: stack)
  | .op .or :: _, [] => rfl
  | .op .or :: _, [_] => rfl
  | .op .or :: stream, right :: left :: stack =>
    evaluateFrom_expandStream all stream ((left ∪ right) :: stack)

/-- The value of an expanded stream, or its failure. -/
theorem evaluate_expandStream (stream : List Token) :
    search.evaluate (search.expandStream stream) =
      Query.evaluate search.postings.all search.documentsOf stream :=
  search.evaluateFrom_expandStream search.postings.all stream []

/-! ## Meanings in a corpus -/

/-- In a corpus every recorded word has lemmas, so it never stands for itself alone. -/
theorem meanings_ofCorpus (corpus : Corpus) (word : String) :
    (ofCorpus corpus).meanings word =
      (((ofCorpus corpus).lemmasFor? word).map (·.toList)).getD [word] := by
  unfold meanings
  cases h : (ofCorpus corpus).lemmasFor? word with
  | none => rfl
  | some lemmas =>
    have hne := toList_ne_nil_of_lemmasFor? h
    rw [Option.map_some, Option.getD_some]
    split
    · next heq => cases heq
    · next heq => exact absurd (Option.some.inj heq) hne
    · next heq => exact (Option.some.inj heq).symm

theorem pairwise_meanings (corpus : Corpus) (word : String) :
    ((ofCorpus corpus).meanings word).Pairwise fun a b => compare a b = .lt := by
  rw [meanings_ofCorpus]
  cases (ofCorpus corpus).lemmasFor? word with
  | none => exact List.pairwise_singleton _ _
  | some lemmas => exact Std.ExtTreeSet.ordered_toList

/-- Expansion over any corpus commutes with conversion and with evaluation : the converted
tokens have in the place of each recorded word the listing of its lemmas, ascending, and are
evaluated as if the word denoted the documents of all of them; failures are the same. -/
theorem expand_commutes (corpus : Corpus) (tokens : List Token) :
    toPostfix ((ofCorpus corpus).expand tokens) =
        (ofCorpus corpus).expandStream <$> toPostfix tokens ∧
      (∀ stream, (ofCorpus corpus).evaluate ((ofCorpus corpus).expandStream stream) =
        Query.evaluate (ofCorpus corpus).postings.all (ofCorpus corpus).documentsOf stream) ∧
      (∀ word, (ofCorpus corpus).meanings word =
        (((ofCorpus corpus).lemmasFor? word).map (·.toList)).getD [word]) ∧
      ∀ word, ((ofCorpus corpus).meanings word).Pairwise fun a b => compare a b = .lt :=
  ⟨toPostfix_expand _ tokens, evaluate_expandStream _, meanings_ofCorpus corpus,
    pairwise_meanings corpus⟩

end BooleanSearch

end Concordance
