import Mathlib.Algebra.Group.Nat.Defs
import Concordance.Proofs.Contents
import Concordance.Statistics

/-!
# Counting terms

A counter shows the number of its steps modulo its modulus (`Counter.toNat_ofNat`), so a number that
is below it, or any number if there is none, is shown as it is (`Counter.Fits`). What is counted is
said by the numbers of steps; what the counters show follows from that.

A table counts each term as often as it stands in the list that the table is made of
(`FrequencyTable.count_ofTerms`). A term space keeps for each document the last of its tables that
is not empty (`TermSpace.table?_ofTables`), and its document frequencies are the counts of one
table, that of the terms of all documents, each document's terms listed once. So a term is counted
once for each document that has it (`TermSpace.documentFrequency_eq_ofNat_size`).

The two spaces of a corpus are made alike (`Statistics.space_ofCorpus`) : they have the same
documents, those whose number of tokens is not shown as zero, and no term is in more documents than
there are (`Statistics.documentFrequency_le`).
-/

set_option linter.unusedSectionVars false

namespace Concordance

variable {ν : Type} [Counter ν]

/-! ## Counters -/

namespace Counter

variable {m n : Nat}

/-- The counter after some steps. -/
def ofNat : Nat → ν
  | 0 => zero
  | n + 1 => next (ofNat n)

/-- A counter starts again at its modulus. -/
theorem toNat_ofNat (n : Nat) : toNat (ofNat n : ν) = n % modulus ν := by
  induction n with
  | zero => rw [ofNat, toNat_zero, Nat.zero_mod]
  | succ n ih => rw [ofNat, toNat_next, ih, Nat.mod_add_mod]

/-- A counter can show the number. -/
def Fits (ν : Type) [Counter ν] (n : Nat) : Prop :=
  n % modulus ν = n

theorem fits_nat (n : Nat) : Fits Nat n :=
  Nat.mod_zero n

theorem fits_uint32 (h : n < 2 ^ 32) : Fits UInt32 n :=
  Nat.mod_eq_of_lt h

theorem Fits.mono (h : Fits ν n) (hle : m ≤ n) : Fits ν m := by
  rw [Fits] at h ⊢
  rcases Nat.eq_zero_or_pos (modulus ν) with hzero | hpos
  · rw [hzero, Nat.mod_zero]
  · have hlt : n < modulus ν := h ▸ Nat.mod_lt n hpos
    exact Nat.mod_eq_of_lt (Nat.lt_of_le_of_lt hle hlt)

theorem Fits.toNat_ofNat (h : Fits ν n) : toNat (ofNat n : ν) = n :=
  (Counter.toNat_ofNat n).trans h

theorem Fits.mod_ne_zero_iff (h : Fits ν n) : n % modulus ν ≠ 0 ↔ n ≠ 0 := by
  rw [h]

theorem ofNat_uint32 (n : Nat) : (ofNat n : UInt32) = .ofNat n :=
  UInt32.toNat_inj.1 ((@toNat_ofNat UInt32 _ n).trans UInt32.toNat_ofNat.symm)

end Counter

open Counter (Fits)

/-! ## Tables -/

namespace FrequencyTable

variable {table : FrequencyTable ν} {terms : List String} {term other : String}

theorem count_add : (table.add other).count term =
    if other = term then Counter.next (table.count term) else table.count term := by
  rw [add, count, count, Std.ExtTreeMap.getElem?_insert]
  by_cases h : other = term
  · simp [h, count]
  · simp [h, count]

theorem count_foldl_add : ∀ (terms : List String) {table : FrequencyTable ν} {n : Nat},
    table.count term = Counter.ofNat n →
      (terms.foldl add table).count term = Counter.ofNat (n + terms.count term)
  | [], _, _, h => h
  | other :: terms, table, n, h => by
    rw [List.foldl_cons, List.count_cons]
    by_cases hother : other = term
    · have hnext : (table.add other).count term = Counter.ofNat (n + 1) := by
        rw [count_add, if_pos hother, h]
        rfl
      rw [count_foldl_add terms hnext, if_pos (beq_iff_eq.2 hother), Nat.add_right_comm,
        Nat.add_assoc]
    · have hsame : (table.add other).count term = Counter.ofNat n := by
        rw [count_add, if_neg hother, h]
      rw [count_foldl_add terms hsame, if_neg (by simpa using hother), Nat.add_zero]

/-- A term is counted as often as it occurs. -/
theorem count_ofTerms : (ofTerms terms : FrequencyTable ν).count term =
    Counter.ofNat (terms.count term) := by
  have hempty : (empty : FrequencyTable ν).count term = Counter.ofNat 0 := by
    simp [empty, count, Counter.ofNat]
  rw [ofTerms, count_foldl_add terms hempty, Nat.zero_add]

theorem toNat_count_ofTerms (h : Fits ν terms.length) :
    Counter.toNat ((ofTerms terms : FrequencyTable ν).count term) = terms.count term := by
  rw [count_ofTerms, (h.mono List.count_le_length).toNat_ofNat]

theorem mem_counts_foldl_add : ∀ (terms : List String) (table : FrequencyTable ν),
    term ∈ (terms.foldl add table).counts ↔ term ∈ terms ∨ term ∈ table.counts
  | [], table => by simp
  | other :: terms, table => by
    rw [List.foldl_cons, mem_counts_foldl_add terms, add, Std.ExtTreeMap.mem_insert,
      Std.LawfulEqCmp.compare_eq_iff_eq, List.mem_cons, or_assoc, or_left_comm, eq_comm]

/-- The terms of a table are those that it was made of. -/
theorem mem_counts_ofTerms_iff :
    term ∈ (ofTerms terms : FrequencyTable ν).counts ↔ term ∈ terms := by
  rw [ofTerms, mem_counts_foldl_add]
  simp [empty]

theorem contains_iff : table.contains term = true ↔ term ∈ table.counts :=
  Std.ExtTreeMap.contains_iff_mem

theorem contains_ofTerms_iff :
    (ofTerms terms : FrequencyTable ν).contains term = true ↔ term ∈ terms :=
  contains_iff.trans mem_counts_ofTerms_iff

theorem mem_terms_iff : term ∈ table.terms ↔ table.contains term = true :=
  Std.ExtTreeMap.mem_keys.trans contains_iff.symm

/-- No term is listed twice. -/
theorem count_terms : table.terms.count term = if table.contains term then 1 else 0 := by
  have hnodup : table.terms.Nodup := Std.ExtTreeMap.nodup_keys
  rw [hnodup.count]
  simp only [mem_terms_iff]

theorem total_foldl_add : ∀ (terms : List String) {table : FrequencyTable ν} {n : Nat},
    table.total = Counter.ofNat n →
      (terms.foldl add table).total = Counter.ofNat (n + terms.length)
  | [], _, _, h => h
  | other :: terms, table, n, h => by
    have hnext : (table.add other).total = Counter.ofNat (n + 1) := congrArg Counter.next h
    rw [List.foldl_cons, total_foldl_add terms hnext, List.length_cons, Nat.add_right_comm,
      Nat.add_assoc]

/-- All occurrences are counted. -/
theorem total_ofTerms :
    (ofTerms terms : FrequencyTable ν).total = Counter.ofNat terms.length := by
  have hempty : (empty : FrequencyTable ν).total = Counter.ofNat 0 := rfl
  rw [ofTerms, total_foldl_add terms hempty, Nat.zero_add]

theorem toNat_total_ofTerms (h : Fits ν terms.length) :
    Counter.toNat (ofTerms terms : FrequencyTable ν).total = terms.length := by
  rw [total_ofTerms, h.toNat_ofNat]

/-- A table looks empty where the number of its terms is shown as zero. -/
theorem isEmpty_ofTerms_eq_false_iff :
    (ofTerms terms : FrequencyTable ν).isEmpty = false ↔ terms.length % Counter.modulus ν ≠ 0 := by
  rw [isEmpty, total_ofTerms, Counter.toNat_ofNat, beq_eq_false_iff_ne]

/-- A table that has a term is not empty. -/
theorem isEmpty_ofTerms_of_contains (hfits : Fits ν terms.length)
    (h : (ofTerms terms : FrequencyTable ν).contains term = true) :
    (ofTerms terms : FrequencyTable ν).isEmpty = false := by
  rw [isEmpty_ofTerms_eq_false_iff, hfits.mod_ne_zero_iff]
  exact Nat.ne_of_gt (List.length_pos_of_mem (contains_ofTerms_iff.1 h))

/-- Counting term by term changes the counts in the same way in a table and outside of it. -/
theorem counts_foldl_add : ∀ (terms : List String) (table : FrequencyTable ν),
    (terms.foldl add table).counts = terms.foldl (fun counts term =>
      counts.insert term (Counter.next (counts[term]?.getD Counter.zero))) table.counts
  | [], _ => rfl
  | other :: terms, table => by
    rw [List.foldl_cons, counts_foldl_add terms]
    rfl

end FrequencyTable

/-! ## Spaces -/

namespace TermSpace

open FrequencyTable

variable {numDocs : Nat} {tables : List (DocId × FrequencyTable ν)} {space : TermSpace ν}
  {id : DocId} {table : FrequencyTable ν} {term : String}

theorem frequencies_ofTables : (ofTables numDocs tables).frequencies =
    Std.ExtTreeMap.ofList (tables.filter fun t => !t.2.isEmpty) := by
  rw [Std.ExtTreeMap.ofList_eq_foldl, List.foldl_filter]
  refine congrArg (fun step => tables.foldl step ∅) (funext fun map => funext fun t => ?_)
  cases t.2.isEmpty <;> rfl

/-- A document has the last of its tables that is not empty. -/
theorem table?_ofTables : (ofTables numDocs tables).table? id =
    (tables.reverse.find? fun t => t.1 == id && !t.2.isEmpty).map Prod.snd := by
  rw [table?, frequencies_ofTables, getElem?_ofList, ← List.filter_reverse, List.find?_filter]
  simp only [Bool.and_comm, Bool.decide_and, Bool.decide_eq_true]

/-- Where each document has one table, the tables that are not empty are kept. -/
theorem table?_ofTables_eq_some_iff (hdistinct : tables.Pairwise (·.1 ≠ ·.1)) :
    (ofTables numDocs tables).table? id = some table ↔
      (id, table) ∈ tables ∧ table.isEmpty = false := by
  have hmem : (id, table) ∈ tables.filter (fun t => !t.2.isEmpty) ↔
      (id, table) ∈ tables ∧ table.isEmpty = false := by
    simp
  rw [table?, frequencies_ofTables, ← hmem]
  refine ⟨mem_of_getElem?_ofList, Std.ExtTreeMap.getElem?_ofList_of_mem Std.ReflCmp.compare_self ?_⟩
  refine (hdistinct.filter _).imp fun hne => ?_
  exact mt Std.LawfulEqCmp.compare_eq_iff_eq.1 hne

/-- The documents with a table are those that were given one that is not empty. -/
theorem mem_documents_ofTables_iff : id ∈ (ofTables numDocs tables).documents ↔
    ∃ table, (id, table) ∈ tables ∧ table.isEmpty = false := by
  rw [documents, Std.ExtTreeMap.mem_keys, frequencies_ofTables, Std.ExtTreeMap.mem_ofList]
  simp

theorem mem_documents_iff : id ∈ space.documents ↔ ∃ table, space.table? id = some table := by
  rw [documents, Std.ExtTreeMap.mem_keys, Std.ExtTreeMap.mem_iff_isSome_getElem?,
    Option.isSome_iff_exists]
  rfl

/-- The documents whose table has a term. -/
def documentsWith (space : TermSpace ν) (term : String) : DocSet :=
  .ofList (space.documents.filter fun id => (space.table? id).any (·.contains term))

theorem mem_documentsWith_iff : id ∈ space.documentsWith term ↔
    ∃ table, space.table? id = some table ∧ table.contains term = true := by
  rw [documentsWith, Std.ExtTreeSet.mem_ofList, List.contains_iff_mem, List.mem_filter, documents,
    Std.ExtTreeMap.mem_keys, Std.ExtTreeMap.mem_iff_isSome_getElem?, table?]
  cases space.frequencies[id]? <;> simp

/-- The document frequencies count the terms of all documents, each document's terms once. -/
theorem documentFrequencies_ofTables : (ofTables numDocs tables).documentFrequencies =
    (ofTerms ((ofTables numDocs tables).frequencies.values.flatMap terms) :
      FrequencyTable ν).counts := by
  rw [ofTerms, counts_foldl_add, List.foldl_flatMap]
  rfl

/-- The vocabulary is made of the terms of the documents. -/
theorem mem_documentFrequencies_iff : term ∈ (ofTables numDocs tables).documentFrequencies ↔
    ∃ id, id ∈ (ofTables numDocs tables).documentsWith term := by
  simp only [documentFrequencies_ofTables, mem_counts_ofTerms_iff, List.mem_flatMap, values_eq,
    List.mem_map, Prod.exists, Std.ExtTreeMap.mem_toList_iff_getElem?_eq_some,
    mem_documentsWith_iff, contains_iff, table?, FrequencyTable.terms, Std.ExtTreeMap.mem_keys]
  constructor
  · rintro ⟨_, ⟨id, table, hget, rfl⟩, hterm⟩
    exact ⟨id, table, hget, hterm⟩
  · rintro ⟨id, table, hget, hterm⟩
    exact ⟨table, ⟨id, table, hget, rfl⟩, hterm⟩

theorem count_flatMap_terms : ∀ tables : List (FrequencyTable ν),
    (tables.flatMap FrequencyTable.terms).count term = tables.countP (·.contains term)
  | [] => rfl
  | table :: tables => by
    rw [List.flatMap_cons, List.count_append, count_flatMap_terms tables, count_terms,
      List.countP_cons, Nat.add_comm]

/-- The terms of all documents, each document's terms once, have a term as often as documents have
it. -/
theorem count_terms_frequencies :
    ((ofTables numDocs tables).frequencies.values.flatMap FrequencyTable.terms).count term =
      ((ofTables numDocs tables).documentsWith term).size := by
  have hkeys : (ofTables numDocs tables).documents.Pairwise fun a b => ¬compare a b = .eq :=
    Std.ExtTreeMap.distinct_keys
  calc ((ofTables numDocs tables).frequencies.values.flatMap FrequencyTable.terms).count term
    _ = (ofTables numDocs tables).frequencies.toList.countP (·.2.contains term) := by
      rw [count_flatMap_terms, values_eq, List.countP_map]
      rfl
    _ = (ofTables numDocs tables).documents.countP
          fun id => ((ofTables numDocs tables).table? id).any (·.contains term) := by
      rw [documents, ← Std.ExtTreeMap.map_fst_toList_eq_keys, List.countP_map]
      refine List.countP_congr fun entry hentry => ?_
      rw [Function.comp_apply, table?, Std.ExtTreeMap.mem_toList_iff_getElem?_eq_some.1 hentry]
      rfl
    _ = ((ofTables numDocs tables).documentsWith term).size := by
      rw [documentsWith, Std.ExtTreeSet.size_ofList (hkeys.filter _), List.countP_eq_length_filter]

/-- A term is counted once for each document that has it. -/
theorem documentFrequency_eq_ofNat_size : (ofTables numDocs tables).documentFrequency term =
    Counter.ofNat ((ofTables numDocs tables).documentsWith term).size := by
  rw [documentFrequency, documentFrequencies_ofTables, ← count_terms_frequencies, ← count_ofTerms]
  rfl

theorem toNat_documentFrequency :
    Counter.toNat ((ofTables numDocs tables).documentFrequency term) =
      ((ofTables numDocs tables).documentsWith term).size % Counter.modulus ν := by
  rw [documentFrequency_eq_ofNat_size, Counter.toNat_ofNat]

/-- A term is in no more documents than there are tables. -/
theorem size_documentsWith_le :
    ((ofTables numDocs tables).documentsWith term).size ≤ tables.length := by
  calc ((ofTables numDocs tables).documentsWith term).size
    _ ≤ (ofTables numDocs tables).documents.length :=
      Nat.le_trans Std.ExtTreeSet.size_ofList_le (List.length_filter_le _ _)
    _ = (ofTables numDocs tables).frequencies.size := Std.ExtTreeMap.length_keys
    _ ≤ tables.length := by
      rw [frequencies_ofTables]
      exact Nat.le_trans Std.ExtTreeMap.size_ofList_le (List.length_filter_le _ _)

theorem documentFrequency_le :
    Counter.toNat ((ofTables numDocs tables).documentFrequency term) ≤ tables.length := by
  rw [toNat_documentFrequency]
  exact Nat.le_trans (Nat.mod_le _ _) size_documentsWith_le

/-- Fewer tables than a counter can show are counted as they are. -/
theorem toNat_documentFrequency_of_fits (h : Fits ν tables.length) :
    Counter.toNat ((ofTables numDocs tables).documentFrequency term) =
      ((ofTables numDocs tables).documentsWith term).size :=
  toNat_documentFrequency.trans (h.mono size_documentsWith_le)

end TermSpace

/-! ## Corpora -/

/-- The counts of one vocabulary. -/
def Analysis.table (analysis : Analysis ν) : Vocabulary → FrequencyTable ν
  | .tokens => analysis.tokens
  | .lemmas => analysis.lemmas

namespace Document

variable {doc : Document} {vocabulary : Vocabulary} {term : String}

/-- The terms of a document that a vocabulary counts : its tokens, or a lemma for each of them. -/
def terms (doc : Document) : Vocabulary → List String
  | .tokens => doc.tokens
  | .lemmas => doc.tokens.map fun token => doc.tokenLemmas[token]?.getD token

theorem table_analyze :
    (doc.analyze : Analysis ν).table vocabulary = .ofTerms (doc.terms vocabulary) := by
  cases vocabulary <;> rfl

theorem length_terms : (doc.terms vocabulary).length = doc.tokens.length := by
  cases vocabulary with
  | tokens => rfl
  | lemmas => exact List.length_map _

/-- In either vocabulary a document counts something exactly if the number of its tokens is not
shown as zero. -/
theorem isEmpty_table_eq_false_iff (vocabulary : Vocabulary) :
    ((doc.analyze : Analysis ν).table vocabulary).isEmpty = false ↔
      doc.tokens.length % Counter.modulus ν ≠ 0 := by
  rw [table_analyze, FrequencyTable.isEmpty_ofTerms_eq_false_iff, length_terms]

theorem isEmpty_table_of_contains (vocabulary : Vocabulary) (hfits : Fits ν doc.tokens.length)
    (h : ((doc.analyze : Analysis ν).table vocabulary).contains term = true) :
    ((doc.analyze : Analysis ν).table vocabulary).isEmpty = false := by
  rw [table_analyze] at h ⊢
  exact FrequencyTable.isEmpty_ofTerms_of_contains (length_terms.symm ▸ hfits) h

end Document

/-- A counter can show the number of documents, and that of the tokens of each of them. -/
structure Corpus.Fits (ν : Type) [Counter ν] (corpus : Corpus) : Prop where
  /-- All documents. -/
  size : Counter.Fits ν corpus.size
  /-- The tokens of each document. -/
  tokens : ∀ doc ∈ corpus.docs, Counter.Fits ν doc.tokens.length

theorem Corpus.fits_nat (corpus : Corpus) : corpus.Fits Nat :=
  ⟨Counter.fits_nat _, fun _ _ => Counter.fits_nat _⟩

namespace Statistics

variable {corpus : Corpus} {vocabulary : Vocabulary} {id : DocId} {term : String}

/-- Both spaces are made alike, of the tables of all documents. -/
theorem space_ofCorpus : (ofCorpus corpus : Statistics ν).space vocabulary = .ofTables corpus.size
    (corpus.docs.map fun doc => (doc.id, (doc.analyze : Analysis ν).table vocabulary)) := by
  cases vocabulary with
  | tokens => exact congrArg (TermSpace.ofTables corpus.size) List.map_map
  | lemmas => exact congrArg (TermSpace.ofTables corpus.size) List.map_map

theorem numDocs_space :
    ((ofCorpus corpus : Statistics ν).space vocabulary).numDocs = corpus.size := by
  cases vocabulary <;> rfl

theorem length_docs : corpus.docs.length = corpus.size := by
  rw [Corpus.docs, values_eq, List.length_map, Std.ExtTreeMap.length_toList]
  rfl

/-- The documents of a space are those whose number of tokens is not shown as zero. -/
theorem mem_documents_iff : id ∈ ((ofCorpus corpus : Statistics ν).space vocabulary).documents ↔
    ∃ doc ∈ corpus.docs, doc.id = id ∧ doc.tokens.length % Counter.modulus ν ≠ 0 := by
  simp only [space_ofCorpus, TermSpace.mem_documents_ofTables_iff, List.mem_map, Prod.mk.injEq]
  constructor
  · rintro ⟨_, ⟨doc, hdoc, hid, rfl⟩, hempty⟩
    exact ⟨doc, hdoc, hid, (Document.isEmpty_table_eq_false_iff vocabulary).1 hempty⟩
  · rintro ⟨doc, hdoc, hid, htokens⟩
    exact ⟨_, ⟨doc, hdoc, hid, rfl⟩, (Document.isEmpty_table_eq_false_iff vocabulary).2 htokens⟩

/-- A term is in no more documents than there are. -/
theorem documentFrequency_le (vocabulary : Vocabulary) :
    Counter.toNat (((ofCorpus corpus : Statistics ν).space vocabulary).documentFrequency term) ≤
      ((ofCorpus corpus : Statistics ν).space vocabulary).numDocs := by
  rw [numDocs_space, space_ofCorpus, ← length_docs]
  exact Nat.le_trans TermSpace.documentFrequency_le (Nat.le_of_eq (List.length_map _))

end Statistics

end Concordance
