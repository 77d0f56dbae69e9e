import Concordance.Proofs.Search.Meaning

/-!
# Bracketed composition of queries

Two accepted queries stay what they are when they are put into brackets and joined by
connectives, also if they are not well formed. The brackets keep their tokens apart
(`lex_negation`, `lex_conjunction`, `lex_disjunction`), expansion does not reach across a token
(`expand_append`), and an accepted query is one that is listed as a formula after expansion
(`finds_iff`). So the composed query is the listing of the composed formula
(`Listed.negation`, `Listed.conjunction`, `Listed.disjunction`).

`search_composition` says that searching is a homomorphism from bracketed queries to sets of
documents, with double negation and both laws of De Morgan as laws of queries.
-/

namespace Concordance

open Query

/-! ## Composed queries -/

/-- The negation of a query in brackets. -/
def negation (a : String) : String :=
  "NOT (" ++ a ++ ")"

/-- The conjunction of two queries in brackets. -/
def conjunction (a b : String) : String :=
  "(" ++ a ++ ") AND (" ++ b ++ ")"

/-- The disjunction of two queries in brackets. -/
def disjunctionOf (a b : String) : String :=
  "(" ++ a ++ ") OR (" ++ b ++ ")"

theorem lex_negation (a : String) :
    lex (negation a) = .op .not :: .opening :: lex a ++ [.closing] := by
  have h : negation a = "NOT " ++ "(" ++ (a ++ ")" ++ "") := by
    simp [negation, ← String.append_assoc]
  rw [h, lex_append_opening, lex_append_closing]
  rfl

/-- Two queries in brackets are lexed apart from each other and from what joins them. -/
theorem lex_brackets (a mid b : String) :
    lex ("(" ++ a ++ ")" ++ mid ++ "(" ++ b ++ ")") =
      .opening :: lex a ++ .closing :: lex mid ++ .opening :: lex b ++ [.closing] := by
  have h : "(" ++ a ++ ")" ++ mid ++ "(" ++ b ++ ")" =
      "" ++ "(" ++ (a ++ ")" ++ (mid ++ "(" ++ (b ++ ")" ++ ""))) := by
    simp [← String.append_assoc]
  rw [h, lex_append_opening, lex_append_closing, lex_append_opening, lex_append_closing]
  simp [show lex "" = [] from rfl]

theorem lex_conjunction (a b : String) :
    lex (conjunction a b) =
      .opening :: lex a ++ .closing :: .op .and :: .opening :: lex b ++ [.closing] := by
  have h : conjunction a b = "(" ++ a ++ ")" ++ " AND " ++ "(" ++ b ++ ")" := by
    rw [conjunction, show ") AND (" = ")" ++ " AND " ++ "(" from rfl]
    simp only [String.append_assoc]
  rw [h, lex_brackets, show lex " AND " = [.op .and] from rfl]
  simp

theorem lex_disjunction (a b : String) :
    lex (disjunctionOf a b) =
      .opening :: lex a ++ .closing :: .op .or :: .opening :: lex b ++ [.closing] := by
  have h : disjunctionOf a b = "(" ++ a ++ ")" ++ " OR " ++ "(" ++ b ++ ")" := by
    rw [disjunctionOf, show ") OR (" = ")" ++ " OR " ++ "(" from rfl]
    simp only [String.append_assoc]
  rw [h, lex_brackets, show lex " OR " = [.op .or] from rfl]
  simp

/-! ## Composed listings -/

namespace Query

/-- A token that is no operator keeps the operators on its two sides apart. -/
theorem NegatesOperands.append_cons {ts us : List Token} {t : Token} (hts : NegatesOperands ts)
    (ht : t.operator? = none) (hus : NegatesOperands us) : NegatesOperands (ts ++ t :: us) := by
  have hne : t ≠ .op .not := by
    rintro rfl
    cases ht
  refine List.isChain_append.2 ⟨hts, List.isChain_cons.2 ⟨fun _ _ h => absurd h hne, hus⟩, ?_⟩
  intro a _ b hb _
  rw [← Option.some.inj hb]
  exact ht

/-- A bracketed listing can stand wherever a word can. -/
theorem Listed.reads_bracket {ts : List Token} {f : Formula} (h : Listed ts f) :
    Reads 4 (.opening :: ts ++ [.closing]) f.postorder :=
  Reads.nil.bracket h.2

theorem Listed.negation {ts : List Token} {f : Formula} (h : Listed ts f) :
    Listed (.op .not :: .opening :: ts ++ [.closing]) (.not f) := by
  constructor
  · have hclosed : NegatesOperands (ts ++ [.closing]) := h.1.append_cons rfl List.isChain_nil
    have hnot : NegatesOperands [.op .not] := List.isChain_singleton _
    exact hnot.append_cons rfl hclosed
  · have hread := Reads.op .not Reads.nil.loosen h.reads_bracket
    exact hread.loosen_le (by decide)

/-- Two bracketed listings may be joined by an operator. -/
theorem Listed.negatesOperands_join {ts us : List Token} {f g : Formula} (o : Operator)
    (h : Listed ts f) (h' : Listed us g) :
    NegatesOperands (.opening :: ts ++ .closing :: .op o :: .opening :: us ++ [.closing]) := by
  have hclosed : NegatesOperands (us ++ [.closing]) := h'.1.append_cons rfl List.isChain_nil
  have hop : NegatesOperands [.op o] := List.isChain_singleton _
  have hright : NegatesOperands (ts ++ .closing :: ([.op o] ++ .opening :: (us ++ [.closing]))) :=
    h.1.append_cons rfl (hop.append_cons rfl hclosed)
  have hnil : NegatesOperands [] := List.isChain_nil
  simpa using hnil.append_cons (t := .opening) rfl hright

/-- Two bracketed listings are read as the operands of the operator between them. -/
theorem Listed.reads_join {ts us : List Token} {f g : Formula} (o : Operator)
    (h : Listed ts f) (h' : Listed us g) :
    Reads 1 (.opening :: ts ++ .closing :: .op o :: .opening :: us ++ [.closing])
      (f.postorder ++ g.postorder ++ [.op o]) := by
  have hleft := h.reads_bracket.loosen_le o.precedence_lt_four.le
  have hright := h'.reads_bracket.loosen_le o.precedence_lt_four
  simpa using (Reads.op o hleft hright).loosen_le o.one_le_precedence

theorem Listed.conjunction {ts us : List Token} {f g : Formula} (h : Listed ts f)
    (h' : Listed us g) :
    Listed (.opening :: ts ++ .closing :: .op .and :: .opening :: us ++ [.closing]) (.and f g) :=
  ⟨h.negatesOperands_join .and h', h.reads_join .and h'⟩

theorem Listed.disjunction {ts us : List Token} {f g : Formula} (h : Listed ts f)
    (h' : Listed us g) :
    Listed (.opening :: ts ++ .closing :: .op .or :: .opening :: us ++ [.closing]) (.or f g) :=
  ⟨h.negatesOperands_join .or h', h.reads_join .or h'⟩

end Query

/-! ## Accepted queries -/

namespace BooleanSearch

/-- Expansion works token by token. -/
theorem expand_append (search : BooleanSearch) (ts us : List Token) :
    search.expand (ts ++ us) = search.expand ts ++ search.expand us :=
  List.flatMap_append

/-- The query is converted to a stream that is not empty, and its answer is `docs`. -/
def Finds (search : BooleanSearch) (query : String) (docs : DocSet) : Prop :=
  (∃ stream, stream ≠ [] ∧ search.compile query = .ok stream) ∧ search.search query = .ok docs

variable {search : BooleanSearch} {a b : String} {s t : DocSet}

/-- An accepted query is listed as a formula, whose value is the answer. -/
theorem finds_iff {query : String} {docs : DocSet} :
    search.Finds query docs ↔
      ∃ f, Listed (search.expand (lex query)) f ∧
        docs = f.value search.postings.all search.postings.find := by
  constructor
  · rintro ⟨⟨stream, hne, hcompile⟩, hsearch⟩
    have hout : toPostfix (search.expand (lex query)) = .ok stream := by
      by_cases hempty : (Text.trim query).isEmpty = true
      · rw [compile, if_pos hempty] at hcompile
        cases hcompile
      · rwa [compile, if_neg hempty, lex_trim] at hcompile
    have hvalue : search.evaluate stream = .ok docs := by
      rw [BooleanSearch.search, hcompile] at hsearch
      exact hsearch
    rcases evaluate_eq_ok_iff.1 hvalue with ⟨rfl, -⟩ | ⟨f, rfl, hdocs⟩
    · exact absurd rfl hne
    · exact ⟨f, toPostfix_eq_ok_iff_reads.1 hout, hdocs⟩
  · rintro ⟨f, hf, rfl⟩
    have hlex : lex query ≠ [] := by
      intro hnil
      rw [hnil] at hf
      exact f.postorder_ne_nil hf.2.eq_nil
    have hcompile : search.compile query = .ok f.postorder :=
      (compile_eq_toPostfix hlex).trans (toPostfix_eq_ok_iff_reads.2 hf)
    refine ⟨⟨f.postorder, f.postorder_ne_nil, hcompile⟩, ?_⟩
    rw [BooleanSearch.search, hcompile]
    exact evaluate_postorder _ _ f

/-! ## Composition -/

theorem Finds.negation (ha : search.Finds a s) :
    search.Finds (negation a) (search.postings.all \ s) := by
  obtain ⟨f, hf, rfl⟩ := finds_iff.1 ha
  have hlex : search.expand (lex (Concordance.negation a)) =
      .op .not :: .opening :: search.expand (lex a) ++ [.closing] := by
    rw [lex_negation, expand_append]
    rfl
  exact finds_iff.2 ⟨.not f, hlex ▸ hf.negation, rfl⟩

theorem Finds.conjunction (ha : search.Finds a s) (hb : search.Finds b t) :
    search.Finds (conjunction a b) (s ∩ t) := by
  obtain ⟨f, hf, rfl⟩ := finds_iff.1 ha
  obtain ⟨g, hg, rfl⟩ := finds_iff.1 hb
  have hlex : search.expand (lex (Concordance.conjunction a b)) =
      .opening :: search.expand (lex a) ++
        .closing :: .op .and :: .opening :: search.expand (lex b) ++ [.closing] := by
    rw [lex_conjunction, expand_append, expand_append]
    rfl
  exact finds_iff.2 ⟨.and f g, hlex ▸ hf.conjunction hg, rfl⟩

theorem Finds.disjunction (ha : search.Finds a s) (hb : search.Finds b t) :
    search.Finds (disjunctionOf a b) (s ∪ t) := by
  obtain ⟨f, hf, rfl⟩ := finds_iff.1 ha
  obtain ⟨g, hg, rfl⟩ := finds_iff.1 hb
  have hlex : search.expand (lex (disjunctionOf a b)) =
      .opening :: search.expand (lex a) ++
        .closing :: .op .or :: .opening :: search.expand (lex b) ++ [.closing] := by
    rw [lex_disjunction, expand_append, expand_append]
    rfl
  exact finds_iff.2 ⟨.or f g, hlex ▸ hf.disjunction hg, rfl⟩

/-- An answer has documents of the corpus only. -/
theorem Finds.mem_all {corpus : Corpus} (ha : (ofCorpus corpus).Finds a s) {id : DocId}
    (h : id ∈ s) : id ∈ (Postings.ofCorpus corpus).all := by
  obtain ⟨f, -, rfl⟩ := finds_iff.1 ha
  exact mem_all_of_mem_value (fun _ _ => Postings.mem_all_of_mem_find) f h

end BooleanSearch

/-- The numbers of all documents of a corpus. -/
def Corpus.docIds (corpus : Corpus) : DocSet :=
  .ofList (corpus.docs.map (·.id))

theorem Postings.all_ofCorpus (corpus : Corpus) : (ofCorpus corpus).all = corpus.docIds := by
  refine Std.ExtTreeSet.ext_mem fun id => ?_
  rw [mem_all_iff, Corpus.docIds, Std.ExtTreeSet.mem_ofList]
  simp

namespace BooleanSearch

/-- Searching bracketed compositions of accepted queries is composing their answers, over any
corpus and however the queries are spelled : negation is the complement in all documents,
conjunction the intersection, disjunction the union. A double negation is answered like the
query, and both laws of De Morgan hold between queries. -/
theorem search_composition {corpus : Corpus} {a b : String} {s t : DocSet}
    (ha : (ofCorpus corpus).Finds a s) (hb : (ofCorpus corpus).Finds b t) :
    (ofCorpus corpus).search (negation a) = .ok (corpus.docIds \ s) ∧
      (ofCorpus corpus).search (conjunction a b) = .ok (s ∩ t) ∧
      (ofCorpus corpus).search (disjunctionOf a b) = .ok (s ∪ t) ∧
      (ofCorpus corpus).search (negation (negation a)) = (ofCorpus corpus).search a ∧
      (ofCorpus corpus).search (negation (conjunction a b)) =
        (ofCorpus corpus).search (disjunctionOf (negation a) (negation b)) ∧
      (ofCorpus corpus).search (negation (disjunctionOf a b)) =
        (ofCorpus corpus).search (conjunction (negation a) (negation b)) := by
  have hall : (ofCorpus corpus).postings.all = corpus.docIds := Postings.all_ofCorpus corpus
  refine ⟨hall ▸ ha.negation.2, (ha.conjunction hb).2, (ha.disjunction hb).2, ?_, ?_, ?_⟩
  · rw [ha.negation.negation.2, ha.2]
    refine congrArg Except.ok (Std.ExtTreeSet.ext_mem fun id => ?_)
    rw [Std.ExtTreeSet.mem_diff_iff, Std.ExtTreeSet.mem_diff_iff]
    constructor
    · rintro ⟨hid, hnot⟩
      exact Classical.byContradiction fun hs => hnot ⟨hid, hs⟩
    · exact fun hs => ⟨ha.mem_all hs, fun hnot => hnot.2 hs⟩
  · rw [(ha.conjunction hb).negation.2, (ha.negation.disjunction hb.negation).2]
    refine congrArg Except.ok (Std.ExtTreeSet.ext_mem fun id => ?_)
    simp only [Std.ExtTreeSet.mem_diff_iff, Std.ExtTreeSet.mem_inter_iff,
      Std.ExtTreeSet.mem_union_iff]
    rw [Classical.not_and_iff_not_or_not, and_or_left]
  · rw [(ha.disjunction hb).negation.2, (ha.negation.conjunction hb.negation).2]
    refine congrArg Except.ok (Std.ExtTreeSet.ext_mem fun id => ?_)
    simp only [Std.ExtTreeSet.mem_diff_iff, Std.ExtTreeSet.mem_inter_iff,
      Std.ExtTreeSet.mem_union_iff]
    rw [not_or, and_and_left]

/-- The query `AND кот дом` is accepted without being a formula, and its negation in brackets is
answered by the other document. -/
theorem search_negation_leading_operator :
    (ofCorpus (.ofDocuments [.ofTokens 1 "" ["кот", "дом"] id, .ofTokens 2 "" ["кот"] id])).Finds
        "AND кот дом" (.ofList [(1 : DocId)]) ∧
      (ofCorpus (.ofDocuments [.ofTokens 1 "" ["кот", "дом"] id,
          .ofTokens 2 "" ["кот"] id])).Finds "кот" (.ofList [(1 : DocId), 2]) ∧
      (ofCorpus (.ofDocuments [.ofTokens 1 "" ["кот", "дом"] id,
          .ofTokens 2 "" ["кот"] id])).search (negation "AND кот дом") =
        .ok (.ofList [(2 : DocId)]) := by
  have ha : (ofCorpus (.ofDocuments [.ofTokens 1 "" ["кот", "дом"] id,
      .ofTokens 2 "" ["кот"] id])).Finds "AND кот дом" (.ofList [(1 : DocId)]) :=
    ⟨⟨_, List.cons_ne_nil _ _, rfl⟩, rfl⟩
  have hb : (ofCorpus (.ofDocuments [.ofTokens 1 "" ["кот", "дом"] id,
      .ofTokens 2 "" ["кот"] id])).Finds "кот" (.ofList [(1 : DocId), 2]) :=
    ⟨⟨_, List.cons_ne_nil _ _, rfl⟩, rfl⟩
  exact ⟨ha, hb, (search_composition ha hb).1.trans rfl⟩

end BooleanSearch

end Concordance
