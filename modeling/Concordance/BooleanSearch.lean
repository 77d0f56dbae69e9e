import Concordance.Postings
import Concordance.Query.Lexer
import Concordance.Query.Postfix

/-!
# Boolean search

A query is lexed, its operands are replaced by the lemmas under which the corpus records
them, and the result is converted to postfix and evaluated against the postings. A word that
is recorded under several lemmas becomes a bracketed disjunction of them; a word that is not
recorded stays as it is and is looked up among the lemmas.
-/

namespace Concordance

open Query

/-- The postings of a corpus with the lemmas of its tokens. -/
structure BooleanSearch where
  /-- The inverted index. -/
  postings : Postings
  /-- Each token in lower case with the lemmas it is recorded under. -/
  tokenLemmas : Std.ExtTreeMap String (Std.ExtTreeSet String)

namespace BooleanSearch

/-- Enter the tokens of one lemma group. -/
def addGroup (map : Std.ExtTreeMap String (Std.ExtTreeSet String)) (lem : String)
    (tokens : List String) : Std.ExtTreeMap String (Std.ExtTreeSet String) :=
  tokens.foldl (fun map token =>
    map.insert (Text.lower token) ((map[Text.lower token]?.getD ∅).insert lem)) map

/-- The lemmas of every token of a corpus. -/
def lemmasOfTokens (corpus : Corpus) : Std.ExtTreeMap String (Std.ExtTreeSet String) :=
  corpus.docs.foldl (fun map doc =>
    doc.lemmaGroups.toList.foldl (fun map group => addGroup map group.1 group.2.toList) map) ∅

/-- Boolean search over a corpus. -/
def ofCorpus (corpus : Corpus) : BooleanSearch where
  postings := Postings.ofCorpus corpus
  tokenLemmas := lemmasOfTokens corpus

/-- The lemmas a token is recorded under, if it is recorded. -/
def lemmasFor? (search : BooleanSearch) (token : String) : Option (Std.ExtTreeSet String) :=
  search.tokenLemmas[token]?

/-- The tokens that stand for a search word : its only lemma, a bracketed disjunction of its
lemmas, or the word itself if it has none. -/
def expandWord (search : BooleanSearch) (word : String) : List Token :=
  match (search.lemmasFor? word).map (·.toList) with
  | none => [.operand word]
  | some [] => [.operand word]
  | some [lem] => [.operand lem]
  | some lemmas =>
    .opening :: (lemmas.map Token.operand).intersperse (.op .or) ++ [.closing]

/-- Replace operands by their lemmas. -/
def expand (search : BooleanSearch) (tokens : List Token) : List Token :=
  tokens.flatMap fun
    | .operand word => search.expandWord word
    | token => [token]

/-- The postfix form of a query. -/
def compile (search : BooleanSearch) (query : String) : Except Malformed (List Token) :=
  let query := Text.trim query
  if query.isEmpty then .error .empty
  else toPostfix (search.expand (lex query))

/-- Evaluate a postfix stream against the postings. -/
def evaluate (search : BooleanSearch) (stream : List Token) : Except Malformed DocSet :=
  Query.evaluate search.postings.all search.postings.find stream

/-- The documents that satisfy a query. -/
def search (search : BooleanSearch) (query : String) : Except Malformed DocSet := do
  search.evaluate (← search.compile query)

end BooleanSearch

end Concordance
