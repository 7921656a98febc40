import TextMacro.CommandLine.Program
import TextMacro.Settings.Load

/-!
# The command line tool

The tool takes in the files below the working directory and below the directories that its arguments
name, runs the program on them, and then carries out on the disk what the run has changed.
-/

namespace TextMacro.Tool

/-- The number of steps granted to a run. -/
def granted : Nat := 1000000

/-- The place of an absolute path. -/
def locationOf (path : String) : Location :=
  (SourcePath.ofText path.toList).resolve []

/-- Add to a tree an entry of a directory, with all that stands below it. What cannot be read is
left out. -/
partial def load (tree : FileTree) (entry : IO.FS.DirEntry) : IO FileTree := do
  let place := locationOf entry.path.toString
  try
    if ← entry.path.isDir then
      (← entry.path.readDir).foldlM load (tree.plant place .directory)
    else
      return tree.plant place (.file (← IO.FS.readBinFile entry.path).toList)
  catch _ => return tree

/-- The tree of the files below the working directory and below the directories among the words. -/
def loadAll (words : List String) : IO FileTree := do
  let here ← IO.currentDir
  let place := locationOf here.toString
  let mut tree : FileTree := (⟨[], place⟩ : FileTree).plant place .directory
  for directory in here :: words.map (fun word : String => here / word) do
    if ← directory.isDir then
      tree := tree.plant (locationOf directory.toString) .directory
      tree ← (← directory.readDir).foldlM load tree
  return tree

/-- The variables of the environment that hold settings. -/
def settingVariables : IO (List (Text × Text)) := do
  let options : SourceOptions := {}
  let names := Settings.names.map fun name => options.start ++ name.map Char.toUpper
  let values ← names.mapM fun name => IO.getEnv (String.ofList name)
  return (names.zip values).filterMap fun (name, value) =>
    value.map fun value => (name, value.toList)

/-- Carry out on the disk what differs between two trees. -/
def store (before after : FileTree) : IO Unit :=
  for (place, node) in after.entries do
    if before.get? place ≠ some node then
      let path := String.ofList (Location.toPath place).toText
      match node with
      | .directory => IO.FS.createDirAll path
      | .file bytes => IO.FS.writeBinFile path ⟨bytes.toArray⟩

/-- The exit code of a run, and what remains to be said about it. -/
def exitOf : Ending Unit → UInt32 × String
  | .continued _ => (0, "")
  | .exited code => (code.toUInt32, "")
  | .failed failure => (1, failure.message ++ "\n")
  | .exhausted => (1, "too many steps\n")

/-- What is wrong with the settings, one line for each issue. -/
def describe : Settings.LoadFailure → String
  | .unreadable error => error.message ++ "\n"
  | .invalid issues =>
    String.join (issues.map fun issue => "invalid setting: " ++ String.ofList issue.name ++ "\n")

/-- Run the program on the disk. -/
def run (words : List String) : IO UInt32 := do
  let tree ← loadAll words
  match Settings.loadIn tree [] (← settingVariables) with
  | .error failure =>
    IO.eprint (describe failure)
    return 1
  | .ok settings =>
    let result := Program.run tree settings granted (words.map String.toList)
    store tree result.tree
    let (code, remark) := exitOf result.ending
    for event in result.events do
      IO.eprintln event.message
    IO.print result.output
    IO.eprint (result.diagnostics ++ remark)
    return code

end TextMacro.Tool

/-- Run the program with the words of the command line. -/
def main (words : List String) : IO UInt32 :=
  TextMacro.Tool.run words
