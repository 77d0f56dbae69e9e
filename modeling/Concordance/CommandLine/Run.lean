import Concordance.CommandLine.Help
import Concordance.Index.Build

/-!
# Running commands

A command works on a file tree and gives what is printed and a status code : zero if all went
well, one if the command failed, and two if the arguments are wrong.
-/

namespace Concordance.CommandLine

open FileTree (Edit)

/-- What a run of the program gives. -/
structure Outcome where
  /-- The status code. -/
  code : Nat
  /-- What is printed. -/
  output : String := ""
  /-- What is printed as an error. -/
  complaint : String := ""
  deriving Repr, DecidableEq

/-- What a run of the program finds. -/
structure Scene where
  /-- The working directory. -/
  directory : Place
  /-- The time. -/
  now : String
  /-- What is typed. -/
  input : String
  /-- The orders in which vectors are walked for each line of it. -/
  walks : Nat → Walks

/-- The outcome of arguments that do not make a command. -/
def Stop.outcome : Stop → Outcome
  | help topic => { code := 0, output := topic.text }
  | usage => { code := 2, complaint := Topic.overview.text }

/-- Answer the queries that are typed. -/
def answerQueries (layout : Layout) (mode : Console.Mode) (walks : Nat → Walks)
    (input : String) : Edit Build.Failure String := do
  let index ← Build.lookIndex (Index.load layout)
  return Console.session index.snapshot index.normalizer mode walks input

/-- The steps of a command, and what they print. -/
def Command.edit (command : Command) (scene : Scene) : Edit Build.Failure String :=
  let layout : Layout := ⟨Place.follow scene.directory command.output, scene.directory⟩
  match command.verb with
  | .normalize => do
    let _ ← Build.normalizePages layout command.settings scene.now
    return ""
  | .index => do Build.writeInvertedIndex layout; return ""
  | .weights => do Build.writeWeights layout; return ""
  | .build => do Build.build layout command.settings scene.now; return ""
  | .search => answerQueries layout command.mode scene.walks scene.input

/-- The outcome of a command that ended. -/
def outcome : Except Build.Failure String → Outcome
  | .ok output => { code := 0, output }
  | .error failure => { code := 1, complaint := "Error: " ++ failure.chain ++ "\n" }

/-- Run the program : the outcome, and the tree it leaves. -/
def run (args : List String) (scene : Scene) (tree : FileTree) : Outcome × FileTree :=
  match readArguments args with
  | .error stop => (stop.outcome, tree)
  | .ok command =>
    let (result, tree) := (command.edit scene).apply tree
    (outcome result, tree)

end Concordance.CommandLine
