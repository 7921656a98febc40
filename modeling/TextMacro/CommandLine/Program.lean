import TextMacro.CommandLine.Options
import TextMacro.Pipeline

/-!
# The program

The program reads its command line, makes the output directory if there is none, checks that both
directories are directories, and runs the pipeline. A wrong command line ends it with exit code two,
a wrong directory with exit code one.
-/

namespace TextMacro.Program

/-- What a run of the program leaves. -/
structure Result where
  tree : FileTree
  events : List Event := []
  output : String := ""
  diagnostics : String := ""
  ending : Ending Unit

/-- The name of the program in its messages. -/
def name : String := "buildjs"

/-- The text that shows the version. -/
def version : String := name ++ " 1.0.0"

/-- The result of a command line that asks for no build. -/
def stopped (tree : FileTree) : CommandLine.Stop → Result
  | .wrong error =>
    { tree, diagnostics := name ++ ": error: " ++ error.message ++ "\n", ending := .exited 2 }
  | .showVersion => { tree, output := version ++ "\n", ending := .exited 0 }
  | .showHelp => { tree, ending := .exited 0 }

/-- The result for a path that should be a directory and is none. -/
def noDirectory (tree : FileTree) (path : SourcePath) : Result :=
  { tree, diagnostics := "Not a directory: " ++ String.ofList path.toText ++ "\n",
    ending := .exited 1 }

/-- The result of an error that the program does not expect. -/
def escaped (tree : FileTree) (cause : Cause) : Result :=
  { tree, ending := .failed (.plain cause) }

/-- The state with which the pipeline starts in the given directories. -/
def initialState (command : CommandLine.Command) (inputdir outputdir : SourcePath) :
    PipelineState :=
  { inputdir := some inputdir
    outputdir := some outputdir
    verbosity := .expected command.verbosity
    inputFiles := .expected command.inputFiles
    outputFile := (command.outputFile.map .expected).getD (.other (.list [])) }

/-- Run the pipeline, provided that the input directory is a directory. -/
def runPipeline (tree : FileTree) (settings : Settings) (steps : Nat)
    (command : CommandLine.Command) (inputdir outputdir : SourcePath)
    (obstacle : Option Misfit) : Result :=
  match tree.status inputdir with
  | .error error => escaped tree (.system error inputdir)
  | .ok (some .directory) =>
    let context : Context := ⟨tree, settings, .builtin, command.verbosity⟩
    let state := initialState command inputdir outputdir
    let result := Pipeline.run context steps state Stage.all obstacle
    { tree := result.tree, events := result.events, diagnostics := result.diagnostics
      ending := match result.ending with
        | .continued _ => .continued ()
        | .exited code => .exited code
        | .failed failure => .failed failure
        | .exhausted => .exhausted }
  | .ok _ => noDirectory tree inputdir

/-- Make the output directory if there is none, then run the pipeline. -/
def runCommand (tree : FileTree) (settings : Settings) (steps : Nat)
    (command : CommandLine.Command) (inputdir outputdir : SourcePath)
    (obstacle : Option Misfit) : Result :=
  match tree.status outputdir with
  | .error error => escaped tree (.system error outputdir)
  | .ok (some .directory) => runPipeline tree settings steps command inputdir outputdir obstacle
  | .ok (some (.file _)) => noDirectory tree outputdir
  | .ok none =>
    if FileTree.hasNull outputdir then escaped tree .nullInPath
    else match tree.makeNewDirectory outputdir with
      | (tree, .error (error, path)) => escaped tree (.system error path)
      | (tree, .ok ()) => runPipeline tree settings steps command inputdir outputdir obstacle

/-- Run the program on a command line. An obstacle may keep it from building. -/
def run (tree : FileTree) (settings : Settings) (steps : Nat) (words : List Text)
    (obstacle : Option Misfit := none) : Result :=
  match CommandLine.parse words with
  | .error stop => stopped tree stop
  | .ok command =>
    match command.inputdir, command.outputdir with
    | some inputdir, some outputdir =>
      runCommand tree settings steps command (.ofText inputdir) (.ofText outputdir) obstacle
    | _, _ => escaped tree (.misfit (.asPath .list))

end TextMacro.Program
