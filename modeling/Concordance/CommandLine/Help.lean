import Concordance.CommandLine.Command

/-!
# Help

The help of a command says what it does, how it is called, and which options it has. Options
stand in two columns; the second begins two blanks behind the longest entry of the first.
-/

namespace Concordance.CommandLine

/-- The name of the program. -/
def programName : String := "lexis-indexer"

/-- What the program is for. -/
def purpose : String :=
  "Normalize crawled pages, build the inverted index and TF-IDF listings"

/-- What a command does. -/
def Verb.summary : Verb → String
  | normalize => "Extract text from pages/<n>.html and write token and lemma listings"
  | index => "Write inverted_index.txt from the lemma listings"
  | weights => "Write per-document TF-IDF listings for tokens and lemmas"
  | build => "Run every step and write corpus.bin and meta.json"
  | search => "Interactive console search over a built pipeline directory"

/-- What the help command does. -/
def helpSummary : String :=
  "Print this message or the help of the given subcommand(s)"

/-- How the value of an option is shown. -/
def Setting.placeholder : Setting → String
  | output => "<OUTPUT>"
  | stopWords => "<STOPWORDS>"
  | typos => "<TYPOS>"
  | dictionary => "<LEMMA_DICT>"

/-- What an option of a command means. -/
def Setting.summary (verb : Verb) : Setting → String
  | output =>
    (if verb = .normalize then "Pipeline directory (holds pages/ and index.txt) " else "") ++
      "[default: ./output]"
  | stopWords => "Stop-word list, one word per line (built-in list when omitted)"
  | typos => "Known typos to drop, one word per line"
  | dictionary => "`form lemma` dictionary (Snowball stemmer when omitted)"

/-- Two columns, indented. -/
def columns (rows : List (String × String)) : List String :=
  let width := (rows.map fun row => row.1.length).foldl max 0
  rows.map fun row =>
    "  " ++ row.1 ++ String.ofList (List.replicate (width + 2 - row.1.length) ' ') ++ row.2

/-- The entries of the options of a command. -/
def Verb.optionRows (verb : Verb) : List (String × String) :=
  verb.settings.map (fun setting =>
      ("    --" ++ setting.word ++ " " ++ setting.placeholder, setting.summary verb)) ++
    (if verb = .search then
      [("    --vector", "Rank by cosine similarity instead of evaluating boolean queries")]
    else []) ++ [("-h, --help", "Print help")]

/-- The lines of the help on a topic. -/
def Topic.lines : Topic → List String
  | overview =>
    [purpose, "", "Usage: " ++ programName ++ " <COMMAND>", "", "Commands:"] ++
      columns (Verb.all.map (fun verb => (verb.word, verb.summary)) ++ [("help", helpSummary)]) ++
      ["", "Options:"] ++ columns [("-h, --help", "Print help")]
  | verb v =>
    [v.summary, "", "Usage: " ++ programName ++ " " ++ v.word ++ " [OPTIONS]", "", "Options:"] ++
      columns v.optionRows
  | help =>
    [helpSummary, "", "Usage: " ++ programName ++ " help [COMMAND]...", "", "Arguments:"] ++
      columns [("[COMMAND]...", "Print help for the subcommand(s)")]

/-- The help on a topic. -/
def Topic.text (topic : Topic) : String :=
  String.join (topic.lines.map (· ++ "\n"))

end Concordance.CommandLine
