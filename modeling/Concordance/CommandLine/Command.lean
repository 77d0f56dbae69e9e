import Concordance.Console
import Concordance.Index.Settings

/-!
# Commands

A command line names a command and its options. Every command takes the directory of the
index; the two that normalize pages also take the files of the normalizer, and the search
takes a flag. An option takes its value from behind an equals sign or from the next argument,
and may be given once. A call for help ends the reading of the arguments.
-/

namespace Concordance.CommandLine

/-- What can be done. -/
inductive Verb
  /-- Normalize the pages. -/
  | normalize
  /-- Write the inverted index. -/
  | index
  /-- Write the weight listings. -/
  | weights
  /-- Build the whole index. -/
  | build
  /-- Answer queries. -/
  | search
  deriving Repr, DecidableEq

/-- All commands, in the order in which they are listed. -/
def Verb.all : List Verb := [normalize, index, weights, build, search]

/-- The word for a command. -/
def Verb.word : Verb → String
  | normalize => "normalize"
  | index => "index"
  | weights => "tfidf"
  | build => "build"
  | search => "search"

/-- The command of a word. -/
def Verb.ofWord? (word : String) : Option Verb :=
  all.find? (·.word == word)

/-- An option that takes a value. -/
inductive Setting
  /-- The directory of the index. -/
  | output
  /-- The list of stop words. -/
  | stopWords
  /-- The list of typos. -/
  | typos
  /-- The dictionary of word forms. -/
  | dictionary
  deriving Repr, DecidableEq

/-- The name of an option. -/
def Setting.word : Setting → String
  | output => "output"
  | stopWords => "stopwords"
  | typos => "typos"
  | dictionary => "lemma-dict"

/-- The options of a command that take a value. -/
def Verb.settings : Verb → List Setting
  | normalize | build => [.output, .stopWords, .typos, .dictionary]
  | index | weights | search => [.output]

/-- Whether an option may have a value : a path to read from must not be empty. -/
def Setting.accepts (setting : Setting) (value : String) : Bool :=
  setting = .output || !value.isEmpty

/-- A command with its options. -/
structure Command where
  /-- What to do. -/
  verb : Verb
  /-- The options that are given, with their values. -/
  values : List (Setting × String) := []
  /-- Whether to answer queries by similarity. -/
  ranked : Bool := false
  deriving Repr, DecidableEq

namespace Command

/-- The directory of the index. -/
def output (command : Command) : String :=
  (command.values.lookup .output).getD "./output"

/-- The files of the normalizer. -/
def settings (command : Command) : Settings where
  stopWords := command.values.lookup .stopWords
  typos := command.values.lookup .typos
  dictionary := command.values.lookup .dictionary

/-- How queries are answered. -/
def mode (command : Command) : Console.Mode :=
  if command.ranked then .ranked else .boolean

end Command

/-! ## Reading arguments -/

/-- What help is asked for. -/
inductive Topic
  /-- All commands. -/
  | overview
  /-- One command. -/
  | verb (verb : Verb)
  /-- The help itself. -/
  | help
  deriving Repr, DecidableEq

/-- Why arguments do not make a command. -/
inductive Stop
  /-- Help is asked for. -/
  | help (topic : Topic)
  /-- The arguments are wrong. -/
  | usage
  deriving Repr, DecidableEq

/-- The name of a long option, and the value behind an equals sign. -/
def splitOption? (arg : String) : Option (String × Option String) :=
  match arg.toList with
  | '-' :: '-' :: s =>
    match Text.splitFirst? '=' s with
    | some (name, value) => some (String.ofList name, some (String.ofList value))
    | none => some (String.ofList s, none)
  | _ => none

/-- Whether an argument is taken for an option, and not for the value of one. -/
def looksLikeOption (arg : String) : Bool :=
  arg.startsWith "-" && arg != "-"

/-- Whether an argument asks for help. -/
def asksHelp (arg : String) : Bool :=
  arg == "--help" || arg.startsWith "-h"

/-- The command with a value for an option, which must not have one yet. -/
def Command.give (command : Command) (setting : Setting) (value : String) :
    Except Stop Command :=
  if setting.accepts value && (command.values.lookup setting).isNone then
    .ok { command with values := (setting, value) :: command.values }
  else .error .usage

/-- The command with the flag for similarity, which must not be given yet. -/
def Command.flag (command : Command) : Except Stop Command :=
  if command.verb = .search && !command.ranked then .ok { command with ranked := true }
  else .error .usage

/-- Read the options of a command. -/
def readOptions (command : Command) : List String → Except Stop Command
  | [] => .ok command
  | ["--"] => .ok command
  | arg :: rest =>
    if asksHelp arg then .error (.help (.verb command.verb))
    else
      match splitOption? arg with
      | none => .error .usage
      | some ("vector", none) => do readOptions (← command.flag) rest
      | some (name, attached) =>
        match command.verb.settings.find? (·.word == name), attached, rest with
        | some setting, some value, rest => do readOptions (← command.give setting value) rest
        | some setting, none, value :: rest =>
          if looksLikeOption value then .error .usage
          else do readOptions (← command.give setting value) rest
        | _, _, _ => .error .usage

/-- What a call for help is about. -/
def readTopic : List String → Except Stop Command
  | [] => .error (.help .overview)
  | ["help"] => .error (.help .help)
  | [word] =>
    match Verb.ofWord? word with
    | some verb => .error (.help (.verb verb))
    | none => .error .usage
  | _ => .error .usage

/-- Read the arguments of a command line. -/
def readArguments : List String → Except Stop Command
  | [] => .error .usage
  | arg :: rest =>
    if asksHelp arg then .error (.help .overview)
    else if arg == "help" then readTopic rest
    else
      match Verb.ofWord? arg with
      | some verb => readOptions { verb } rest
      | none => .error .usage

end Concordance.CommandLine
