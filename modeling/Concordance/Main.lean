import Concordance.CommandLine.Instant
import Concordance.CommandLine.Run
import Std.Time.DateTime.Timestamp

/-!
# The program

Reads the directory of an index and the files of its normalizer from disk, runs a command on
them, and writes back what the command changed. Queries are answered as they are typed.
-/

namespace Concordance.Program

open CommandLine

/-! ## Files on disk -/

/-- A place on disk. -/
def onDisk (place : Place) : IO.FS.DirEntry :=
  ⟨"/", String.intercalate "/" place.reverse⟩

/-- A tree with one more entry, if there is room for it. -/
def added (tree : FileTree) (result : Except FileTree.Fault FileTree) : FileTree :=
  result.toOption.getD tree

/-- Read a file, or a directory with all that is below it. -/
partial def scan (tree : FileTree) (place : Place) : IO FileTree := do
  let path := (onDisk place).path
  if ← path.isDir then
    let mut tree := added tree (tree.makeDirectories place)
    for entry in ← path.readDir do
      tree ← scan tree (entry.fileName :: place)
    return tree
  else if ← path.pathExists then
    return added tree (tree.save place (← IO.FS.readBinFile path))
  else return tree

/-- Write the entries that changed, and remove those that are gone. -/
def store (before after : FileTree) : IO Unit := do
  let deepestFirst := before.entries.toList.mergeSort fun a b => b.1.length ≤ a.1.length
  for (place, entry) in deepestFirst do
    unless after.has place do
      let path := (onDisk place).path
      if entry = .directory then IO.FS.removeDir path else IO.FS.removeFile path
  let shallowFirst := after.entries.toList.mergeSort fun a b => a.1.length ≤ b.1.length
  for (place, entry) in shallowFirst do
    unless before.get? place = some entry do
      let path := (onDisk place).path
      match entry with
      | .directory => IO.FS.createDirAll path
      | .file content => IO.FS.writeBinFile path content

/-! ## Running -/

/-- The moment as text. -/
def now : IO String := do
  let nanoseconds := (← Std.Time.Timestamp.now).toNanosecondsSinceUnixEpoch.val.toNat
  return Instant.render (nanoseconds / 1000000000) (nanoseconds % 1000000000)

/-- Answer queries as they are typed. -/
partial def converse (index : OpenIndex) (mode : Console.Mode) : IO Unit := do
  let line ← (← IO.getStdin).getLine
  let reply :=
    if line.isEmpty then none
    else Console.reply? index.snapshot index.normalizer mode .inOrder line
  match reply with
  | none => IO.println Console.farewell
  | some written =>
    for text in written do IO.println text
    (← IO.getStdout).flush
    converse index mode

/-- Read from disk what the settings name. -/
def scanSettings (tree : FileTree) (start : Place) (settings : Settings) : IO FileTree := do
  let paths := [settings.stopWords, settings.typos, settings.dictionary].filterMap id
  paths.foldlM (fun tree path => scan tree (Place.follow start path)) tree

/-- Read from disk what a command works on. -/
def scanCommand (command : Command) (start : Place) : IO FileTree := do
  let root := Place.follow start command.output
  let tree := added .empty (FileTree.empty.makeDirectories start)
  let tree ← scanSettings (← scan tree root) start command.settings
  match Index.loadSettings ⟨root, start⟩ tree with
  | .ok settings => scanSettings tree start settings
  | .error _ => return tree

/-- Run a command. -/
def runCommand (command : Command) : IO UInt32 := do
  let start := Place.follow [] (← IO.currentDir).toString
  let tree ← scanCommand command start
  let layout : Layout := ⟨Place.follow start command.output, start⟩
  match command.verb, Index.load layout tree with
  | .search, .ok index =>
    IO.println Console.prompt
    (← IO.getStdout).flush
    converse index command.mode
    return 0
  | _, _ =>
    let (result, after) := (command.edit ⟨start, ← now, "", fun _ => .inOrder⟩).apply tree
    let outcome := outcome result
    store tree after
    IO.print outcome.output
    IO.eprint outcome.complaint
    return UInt32.ofNat outcome.code

end Concordance.Program

/-- Run the program with the arguments of the command line. -/
def main (args : List String) : IO UInt32 := do
  match Concordance.CommandLine.readArguments args with
  | .ok command => Concordance.Program.runCommand command
  | .error stop =>
    let outcome := stop.outcome
    IO.print outcome.output
    IO.eprint outcome.complaint
    return UInt32.ofNat outcome.code
