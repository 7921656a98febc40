import TextMacro.Output
import TextMacro.PipelineState

/-!
# The build pipeline

A build from the command line goes through four stages: the paths are worked out and the output
directory is made, the input files are built, the output file is written, and the result is
reported. Each stage works on the state that the one before it left. A stage can end the program
with an exit code and a diagnostic.
-/

namespace TextMacro

/-- The stages of the pipeline. -/
inductive Stage where
  | checkEnvironment
  | buildSources
  | writeOutput
  | reportResult
deriving DecidableEq, Repr

/-- How a stage ends. -/
inductive Ending (α : Type) where
  | continued (value : α)
  | exited (code : Nat)
  | failed (failure : Failure)
  | exhausted
deriving DecidableEq

/-- What a stage leaves: the file tree, the recorded events, the diagnostics, and how it ended. -/
structure StageResult (α : Type) where
  tree : FileTree
  events : List Event := []
  diagnostics : String := ""
  ending : Ending α

namespace Stage

/-- All stages, in order. -/
def all : List Stage := [checkEnvironment, buildSources, writeOutput, reportResult]

/-- The result of a stage that ends the program with a diagnostic. -/
def abort {α : Type} (tree : FileTree) (events : List Event) (diagnostic : String) :
    StageResult α :=
  ⟨tree, events, diagnostic ++ "\n", .exited 1⟩

/-- The events among those given that the verbosity asks for. -/
def recorded (context : Context) (events : List Event) : List Event :=
  events.filter fun event => isRecorded context.verbosity event.level

/-- The result of a stage that meets a value that does not fit. -/
def baffled {α : Type} (tree : FileTree) (events : List Event) (misfit : Misfit) : StageResult α :=
  ⟨tree, events, "", .failed (.plain (.misfit misfit))⟩

/-- Make the directory of the output file, and note the paths. -/
def prepare (context : Context) (state : PipelineState) (begun : List Event)
    (sources : List SourcePath) (target : SourcePath) : StageResult PipelineState :=
  if FileTree.hasNull target.parent then
    ⟨context.tree, begun, "", .failed (.plain .nullInPath)⟩
  else match context.tree.makeDirectories target.parent with
    | (tree, .error (error, path)) => ⟨tree, begun, "", .failed (.plain (.system error path))⟩
    | (tree, .ok ()) =>
      ⟨tree, begun ++ recorded context [.outputFile target], "",
        .continued { state with
          sourceFiles := sources.map SourcePath.toText
          outputTarget := target.toText
          environmentReady := .expected true }⟩

/-- Work out the paths, and make the directory of the output file. -/
def runCheck (context : Context) (state : PipelineState) : StageResult PipelineState :=
  let begun := recorded context [.banner, .checkingEnvironment]
  match state.sources with
  | .error misfit => baffled context.tree begun misfit
  | .ok sources =>
    let begun := begun ++ recorded context [.inputFiles sources]
    match state.target with
    | .error misfit => baffled context.tree begun misfit
    | .ok target => prepare context state begun sources target

/-- Build the input files. -/
def runBuild (context : Context) (steps : Nat) (state : PipelineState) :
    StageResult PipelineState :=
  let begun := recorded context [.expandingSources]
  match state.inputValue.names, state.inputValue.items with
  | .ok (files, misfit), .ok names =>
    let built := context.buildNamed steps state.inputdir files misfit
    let events := begun ++ built.events
    match built.outcome with
    | .done text =>
      ⟨context.tree, events ++ recorded context [.expandedSources names.length], "",
        .continued { state with builtSource := .expected (some text) }⟩
    | .failed (.build failure) => abort context.tree events ("Build error: " ++ failure.render)
    | .failed failure => ⟨context.tree, events, "", .failed failure⟩
    | .exhausted => ⟨context.tree, events, "", .exhausted⟩
  | .error misfit, _ | _, .error misfit => baffled context.tree begun misfit

/-- Whether a failure to write ends the program with a diagnostic. -/
def isWriteFault : Failure → Bool
  | .plain cause => cause.isExpansionFault || cause.isSystemFault
  | .build _ => true

/-- Write the output file. -/
def runWrite (context : Context) (state : PipelineState) : StageResult PipelineState :=
  match state.builtValue with
  | .null => abort context.tree [] "Error: No expanded source available"
  | built =>
    let written := context.writeValue built state.outputValue state.outputdir
    match written.run.outcome with
    | .done target =>
      let size := (built.text?.map List.length).getD 0
      ⟨written.tree, written.run.events, "",
        .continued { state with
          outputTarget := target.toText
          report := .expected (some (.written target.toText state.sourceFiles.length size)) }⟩
    | .failed failure =>
      if isWriteFault failure then
        abort written.tree written.run.events ("Write error: " ++ failure.message)
      else ⟨written.tree, written.run.events, "", .failed failure⟩
    | .exhausted => ⟨written.tree, written.run.events, "", .exhausted⟩

/-- The entries of a report that are shown, each with the event that shows it. -/
def shownEntries : List (Text × (Text → Event)) :=
  [("output_file".toList, .reportOutput), ("file_count".toList, .reportInputs),
    ("characters".toList, .reportSize)]

/-- The events that show entries of a report, up to the first entry that is missing. -/
def showReport (report : BuildReport) : List (Text × (Text → Event)) → List Event × Option Text
  | [] => ([], none)
  | (name, event) :: others =>
    match report.lookup name with
    | none => ([], some name)
    | some value =>
      let (events, missing) := showReport report others
      (event value.toText :: events, missing)

/-- Report the result. -/
def runReport (context : Context) (state : PipelineState) : StageResult PipelineState :=
  if !state.reportValue.holds then abort context.tree [] "Error: Build failed"
  else match state.reportValue with
    | .table report =>
      let (events, missing) := showReport report shownEntries
      ⟨context.tree, recorded context (.succeeded :: events), "",
        match missing with
        | none => .continued state
        | some name => .failed (.plain (.missingEntry name))⟩
    | value => baffled context.tree (recorded context [.succeeded]) (.indexed value.form)

/-- Run a stage with a verbosity. -/
def runVerbose (context : Context) (steps : Nat) (state : PipelineState) :
    Stage → StageResult PipelineState
  | checkEnvironment => runCheck context state
  | buildSources => runBuild context steps state
  | writeOutput => runWrite context state
  | reportResult => runReport context state

/-- The result of a stage whose verbosity is no number: it ends where the first event comes up.

The first two stages begin with an event. The last two may end before, and the output file is
written first. -/
def withoutVerbosity (context : Context) (result : StageResult PipelineState) (verbosity : Form)
    (stage : Stage) : StageResult PipelineState :=
  let misfit := Misfit.compared ">=" verbosity .number
  match stage, result.ending with
  | checkEnvironment, _ | buildSources, _ => baffled context.tree [] misfit
  | writeOutput, .continued _ => baffled result.tree [] misfit
  | writeOutput, _ => result
  | reportResult, .exited _ => result
  | reportResult, _ => baffled result.tree [] misfit

/-- The result of a stage that cannot start to build or to write because of an obstacle. -/
def obstructed (context : Context) (state : PipelineState) (result : StageResult PipelineState)
    (obstacle : Misfit) (stage : Stage) : StageResult PipelineState :=
  match stage, state.builtValue with
  | buildSources, _ => baffled context.tree (recorded context [.expandingSources]) obstacle
  | writeOutput, .null => result
  | writeOutput, _ => baffled context.tree [] obstacle
  | _, _ => result

/-- Run a stage, which an obstacle may keep from building and from writing. -/
def run (context : Context) (steps : Nat) (state : PipelineState) (stage : Stage)
    (obstacle : Option Misfit := none) : StageResult PipelineState :=
  let result := stage.runVerbose context steps state
  let result := match obstacle with
    | none => result
    | some obstacle => obstructed context state result obstacle stage
  if state.verbosityValue.number?.isSome then result
  else withoutVerbosity context result state.verbosityValue.form stage

end Stage

namespace Pipeline

/-- The results of stages run one after another, up to the first that does not continue. -/
def trace (context : Context) (steps : Nat) (state : PipelineState) (stages : List Stage)
    (obstacle : Option Misfit := none) : List (StageResult PipelineState) :=
  match stages with
  | [] => []
  | stage :: stages =>
    let result := stage.run context steps state obstacle
    match result.ending with
    | .continued state =>
      result :: trace { context with tree := result.tree } steps state stages obstacle
    | _ => [result]

/-- Stages run one after another, as one. -/
def run (context : Context) (steps : Nat) (state : PipelineState) (stages : List Stage)
    (obstacle : Option Misfit := none) : StageResult PipelineState :=
  match stages with
  | [] => ⟨context.tree, [], "", .continued state⟩
  | stage :: stages =>
    let result := stage.run context steps state obstacle
    match result.ending with
    | .continued state =>
      let rest := run { context with tree := result.tree } steps state stages obstacle
      ⟨rest.tree, result.events ++ rest.events, result.diagnostics ++ rest.diagnostics,
        rest.ending⟩
    | _ => result

end Pipeline

end TextMacro
