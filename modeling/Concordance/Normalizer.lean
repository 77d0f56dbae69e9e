import Concordance.Document
import Concordance.Stem
import Concordance.Text.Blank
import Concordance.Text.Case
import Concordance.Text.Normal

/-!
# From text to tokens and lemmas

A text is brought into compatibility normal form and cut at blanks. Of each word only the
letters of the Russian alphabet and hyphens are kept, hyphens at its ends are dropped, and it
is lower-cased; short words, stop words and known typos are left out. A lemmatizer maps each
remaining token to its lemma.
-/

namespace Concordance

open Text

/-! ## Settings of a normalizer -/

/-- The words left out when no list of stop words is given. -/
def defaultStopWords : List String := [
  "без", "более", "бы", "был", "была", "были", "было", "быть", "вам", "вас", "весь", "во", "вот",
  "все", "всего", "всех", "вы", "где", "да", "даже", "для", "до", "его", "ее", "её", "ей", "ему",
  "если", "есть", "еще", "ещё", "же", "за", "здесь", "из", "или", "им", "их", "как", "какая",
  "какой", "когда", "кого", "кто", "ли", "либо", "мне", "может", "мы", "на", "над", "нам", "нас",
  "не", "него", "нее", "неё", "нет", "ни", "них", "но", "ну", "об", "однако", "он", "она", "они",
  "оно", "от", "очень", "по", "под", "после", "при", "про", "раз", "с", "свой", "себя", "со", "так",
  "также", "такой", "там", "те", "тем", "то", "того", "тоже", "той", "только", "том", "ты", "уже",
  "хотя", "чем", "через", "что", "чтобы", "чье", "чья", "эта", "эти", "это", "этого", "этой",
  "этом", "этот"]

/-- Which tokens are kept. -/
structure TokenFilter where
  /-- Words that carry no meaning of their own. -/
  stopWords : Std.ExtTreeSet String
  /-- Misspelled words. -/
  typos : Std.ExtTreeSet String
  /-- The least number of characters of a token. -/
  minChars : Nat
  deriving DecidableEq

namespace TokenFilter

/-- A set of words in lower case. -/
def lowerSet (words : List String) : Std.ExtTreeSet String :=
  Std.ExtTreeSet.ofList (words.map lower)

/-- The filter with the built-in stop words, no typos, and tokens of three characters. -/
def standard : TokenFilter where
  stopWords := Std.ExtTreeSet.ofList defaultStopWords
  typos := ∅
  minChars := 3

/-- The filter with other stop words. -/
def withStopWords (filter : TokenFilter) (words : List String) : TokenFilter :=
  { filter with stopWords := lowerSet words }

/-- The filter with other typos. -/
def withTypos (filter : TokenFilter) (words : List String) : TokenFilter :=
  { filter with typos := lowerSet words }

/-- Whether a cleaned word is kept. -/
def keeps (filter : TokenFilter) (word : String) : Bool :=
  decide (filter.minChars ≤ word.length) && !filter.stopWords.contains word &&
    !filter.typos.contains word

end TokenFilter

/-! ## Lemmatizers -/

/-- What maps a token to its lemma. -/
structure Lemmatizer where
  /-- The lemma of a token. -/
  lemmatize : String → String

namespace Lemmatizer

/-- The stem stands for the lemma. -/
def stemmer : Lemmatizer := ⟨Stem.stem⟩

/-- A table of word forms; a form it does not have is its own lemma. -/
def dictionary (forms : Std.ExtTreeMap String String) : Lemmatizer :=
  ⟨fun token => forms[token]?.getD token⟩

/-- The form and the lemma that a line of a dictionary gives, both in lower case. A comment
and a line with a single word give none. -/
def formAndLemma? (line : String) : Option (String × String) :=
  if (trim line).startsWith "#" then none
  else
    match words line with
    | form :: lem :: _ => some (lower form, lower lem)
    | _ => none

/-- The word forms of a dictionary; of several lines for one form the last counts. -/
def readForms (text : String) : Std.ExtTreeMap String String :=
  Std.ExtTreeMap.ofList ((lines text).filterMap formAndLemma?)

/-- The lemmatizer that looks word forms up in a dictionary. -/
def ofDictionary (text : String) : Lemmatizer :=
  dictionary (readForms text)

end Lemmatizer

/-! ## The normalizer -/

/-- The letters of the Russian alphabet and the hyphen. -/
def isTokenChar (c : Char) : Bool :=
  let n := c.toNat
  (0x410 ≤ n && n ≤ 0x44F) || n == 0x401 || n == 0x451 || n == 0x2D

/-- The letters of a word in lower case, without hyphens at its ends. -/
def cleanWord (word : List Char) : List Char :=
  lowerChars (trimBy (· == '-') (word.filter isTokenChar))

/-- A token filter together with a lemmatizer. -/
structure Normalizer where
  /-- Which tokens are kept. -/
  filter : TokenFilter
  /-- What maps them to lemmas. -/
  lemmatizer : Lemmatizer

namespace Normalizer

/-- The normalizer with the standard filter and the stemmer. -/
def standard : Normalizer := ⟨.standard, .stemmer⟩

/-- The tokens of a text, in order and with repetitions. -/
def tokenize (normalizer : Normalizer) (text : String) : List String :=
  ((wordChars (nfkc text.toList)).map fun word => String.ofList (cleanWord word)).filter
    normalizer.filter.keeps

/-- The lemma of a token. -/
def lemmatize (normalizer : Normalizer) (token : String) : String :=
  normalizer.lemmatizer.lemmatize token

/-- The lemmas of a text, in order and with repetitions. -/
def lemmas (normalizer : Normalizer) (text : String) : List String :=
  (normalizer.tokenize text).map normalizer.lemmatize

/-- The document that a text makes. -/
def normalize (normalizer : Normalizer) (id : DocId) (text : String) : Document :=
  Document.ofTokens id text (normalizer.tokenize text) normalizer.lemmatize

end Normalizer

end Concordance
