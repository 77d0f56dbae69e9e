import Concordance.Proofs.Query.Acceptance
import Concordance.Proofs.Query.Lexing
import Concordance.Proofs.Search.Expansion
import Concordance.Snapshot

/-!
# The meaning of a query

A document matches a word if it has a lemma under which the corpus records the word, or if the
corpus does not record the word and the document has it as a lemma (`Corpus.Matches`). The
documents of all the lemmas that a word stands for are the ones that match it
(`mem_documentsOf_iff_matches`).

A query whose tokens spell a formula is answered by the value of that formula
(`search_eq_value`) : it is converted to the listing of the formula, expanded and evaluated. So
searching finds exactly the documents of the corpus at which the formula holds
(`Snapshot.search_formula`).
-/

namespace Concordance

open Query

/-! ## Words and documents -/

/-- The document has a lemma under which the corpus records the word, or the word itself as a
lemma if the corpus does not record it. -/
def Corpus.Matches (corpus : Corpus) (doc : Document) (word : String) : Prop :=
  (∃ lem, corpus.Records word lem ∧ lem ∈ doc.lemmaGroups) ∨
    (∀ lem, ¬corpus.Records word lem) ∧ word ∈ doc.lemmaGroups

namespace BooleanSearch

/-- A word stands for the lemmas it is recorded under, and for itself if there are none. -/
theorem mem_meanings_iff {corpus : Corpus} {word lem : String} :
    lem ∈ (ofCorpus corpus).meanings word ↔
      corpus.Records word lem ∨ (∀ other, ¬corpus.Records word other) ∧ lem = word := by
  have hrec : lem ∈ ((ofCorpus corpus).lemmasFor? word).getD ∅ ↔ corpus.Records word lem :=
    mem_tokenLemmas_iff
  rw [meanings_ofCorpus]
  cases hfound : (ofCorpus corpus).lemmasFor? word with
  | none =>
    have hnone := lemmasFor?_eq_none_iff.1 hfound
    simp [hnone]
  | some lemmas =>
    have hsome : ¬∀ other, ¬corpus.Records word other := by
      rw [← lemmasFor?_eq_none_iff, hfound]
      exact Option.some_ne_none lemmas
    rw [hfound, Option.getD_some] at hrec
    rw [Option.map_some, Option.getD_some, Std.ExtTreeSet.mem_toList, hrec]
    simp [hsome]

/-- In a corpus made of documents, a word denotes the documents that match it. -/
theorem mem_documentsOf_iff_matches {docs : List Document} {doc : Document} {word : String}
    (hdoc : doc ∈ (Corpus.ofDocuments docs).docs) :
    doc.id ∈ (ofCorpus (.ofDocuments docs)).documentsOf word ↔
      (Corpus.ofDocuments docs).Matches doc word := by
  have hfind : ∀ lem, doc.id ∈ (ofCorpus (.ofDocuments docs)).postings.find lem ↔
      lem ∈ doc.lemmaGroups := fun lem =>
    Postings.mem_find_iff_of_mem_docs (fun _ _ => Corpus.id_eq_of_get?_ofDocuments) hdoc
  rw [mem_documentsOf_iff]
  simp only [mem_meanings_iff, hfind]
  constructor
  · rintro ⟨lem, hrec | ⟨hnone, rfl⟩, hmem⟩
    · exact Or.inl ⟨lem, hrec, hmem⟩
    · exact Or.inr ⟨hnone, hmem⟩
  · rintro (⟨lem, hrec, hmem⟩ | ⟨hnone, hmem⟩)
    · exact ⟨lem, Or.inl hrec, hmem⟩
    · exact ⟨word, Or.inr ⟨hnone, rfl⟩, hmem⟩

/-! ## Well-formed queries -/

variable {search : BooleanSearch} {query : String}

theorem compile_eq_toPostfix (h : lex query ≠ []) :
    search.compile query = toPostfix (search.expand (lex query)) := by
  rw [compile, if_neg (by simpa using isEmpty_trim_eq_false h), lex_trim]

/-- A query that spells a formula is answered by its value, where each word denotes the
documents of all its lemmas. -/
theorem search_eq_value {f : Formula} (h : Derives .expression (lex query) f) :
    search.search query = .ok (f.value search.postings.all search.documentsOf) := by
  have hne : lex query ≠ [] := by
    obtain ⟨w, hw⟩ := h.exists_operand
    exact List.ne_nil_of_mem hw
  have hcompile : search.compile query = .ok (search.expandStream f.postorder) := by
    rw [compile_eq_toPostfix hne, toPostfix_expand, h.toPostfix_eq]
    rfl
  rw [BooleanSearch.search, hcompile]
  show search.evaluate (search.expandStream f.postorder) = _
  rw [evaluate_expandStream, evaluate_postorder]

end BooleanSearch

/-! ## Searching a corpus -/

/-- A formula holds alike at points where the same words hold. -/
theorem Query.Formula.holds_congr {p q : String → Prop} (h : ∀ w, p w ↔ q w) (f : Formula) :
    f.Holds p ↔ f.Holds q := by
  rw [funext fun w => propext (h w)]

namespace Snapshot

variable {ν α : Type} [Counter ν] [Scalar α]

/-- A query that spells a formula is answered, and the answer is the set of the numbers of the
documents at which the formula holds. -/
theorem search_formula (docs : List Document) {query : String} {f : Formula}
    (h : Derives .expression (lex query) f) :
    ∃ found, (ofCorpus (.ofDocuments docs) : Snapshot ν α).search query = .ok found ∧
      ∀ id, id ∈ found ↔ ∃ doc ∈ (Corpus.ofDocuments docs).docs,
        doc.id = id ∧ f.Holds ((Corpus.ofDocuments docs).Matches doc) := by
  refine ⟨_, BooleanSearch.search_eq_value h, fun id => ?_⟩
  have hmem : ∀ doc ∈ (Corpus.ofDocuments docs).docs,
      doc.id ∈ f.value (Postings.ofCorpus (.ofDocuments docs)).all
          (BooleanSearch.ofCorpus (.ofDocuments docs)).documentsOf ↔
        f.Holds ((Corpus.ofDocuments docs).Matches doc) := by
    intro doc hdoc
    rw [mem_value_iff (Postings.mem_all_iff.2 ⟨doc, hdoc, rfl⟩)]
    exact f.holds_congr fun w => BooleanSearch.mem_documentsOf_iff_matches hdoc
  constructor
  · intro hid
    have hall : id ∈ (Postings.ofCorpus (.ofDocuments docs)).all := by
      refine mem_all_of_mem_value (fun w id hid => ?_) f hid
      obtain ⟨lem, -, hfind⟩ := (BooleanSearch.mem_documentsOf_iff _).1 hid
      exact Postings.mem_all_of_mem_find hfind
    obtain ⟨doc, hdoc, rfl⟩ := Postings.mem_all_iff.1 hall
    exact ⟨doc, hdoc, rfl, (hmem doc hdoc).1 hid⟩
  · rintro ⟨doc, hdoc, rfl, hholds⟩
    exact (hmem doc hdoc).2 hholds

/-- A negated disjunction in a conjunction, over a corpus that records `стали` and `дом` under two
lemmas each. -/
theorem search_negated_disjunction :
    Derives .expression (lex "NOT (кот OR стали) AND дом")
        (.and (.not (.or (.word "кот") (.word "стали"))) (.word "дом")) ∧
      ∃ found, (ofCorpus (.ofDocuments [.ofTokens 1 "" ["дом", "стали"] id,
          .ofTokens 2 "" ["дом", "стали"] fun _ => "сталь", .ofTokens 3 "" ["дом"] id]) :
            Snapshot UInt32 Float).search "NOT (кот OR стали) AND дом" = .ok found ∧
        found.toList = [3] := by
  have hwords : Derives .expression [.operand "кот", .op .or, .operand "стали"]
      (.or (.word "кот") (.word "стали")) :=
    Derives.or (.ofTerm (.ofFactor (.ofPrimary .word))) (.ofFactor (.ofPrimary .word))
  have hnot : Derives .factor
      [.op .not, .opening, .operand "кот", .op .or, .operand "стали", .closing]
      (.not (.or (.word "кот") (.word "стали"))) :=
    .not (.bracket hwords)
  have h : Derives .expression (lex "NOT (кот OR стали) AND дом")
      (.and (.not (.or (.word "кот") (.word "стали"))) (.word "дом")) :=
    .ofTerm (Derives.and (.ofFactor hnot) (.ofPrimary .word))
  obtain ⟨found, hfound, -⟩ := search_formula (ν := UInt32) (α := Float)
    [.ofTokens 1 "" ["дом", "стали"] id, .ofTokens 2 "" ["дом", "стали"] fun _ => "сталь",
      .ofTokens 3 "" ["дом"] id] h
  refine ⟨h, found, hfound, ?_⟩
  have hlist : ((ofCorpus (.ofDocuments [.ofTokens 1 "" ["дом", "стали"] id,
      .ofTokens 2 "" ["дом", "стали"] fun _ => "сталь", .ofTokens 3 "" ["дом"] id]) :
        Snapshot UInt32 Float).search "NOT (кот OR стали) AND дом").toOption.map (·.toList) =
      some [3] := by
    decide +kernel
  rw [hfound] at hlist
  exact Option.some.inj hlist

end Snapshot

end Concordance
