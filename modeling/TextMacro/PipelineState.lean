import TextMacro.BuildReport
import TextMacro.Misfit

/-!
# The state of a build

The state of a build holds what was asked for and what has been found out so far. It can be set up
with values of a form that was not expected; such a value only matters to what uses it.
-/

namespace TextMacro

/-- What was given for something: a value of the form that is expected, or another one. -/
inductive Given (α : Type) where
  | expected (value : α)
  | other (value : Value)

namespace Given

/-- What was given, as a value; the expected ones are turned into values by `lift`. -/
def toValue {α : Type} (lift : α → Value) : Given α → Value
  | expected value => lift value
  | other value => value

end Given

/-- The state that is handed from stage to stage.

The source files and the output target are kept as they are shown. -/
structure PipelineState where
  inputdir : Option SourcePath
  outputdir : Option SourcePath
  verbosity : Given Int := .expected 1
  inputFiles : Given (List Text) := .expected []
  outputFile : Given Text := .expected []
  environmentReady : Given Bool := .expected false
  sourceFiles : List Text := []
  outputTarget : Text := ['/']
  builtSource : Given (Option Text) := .expected none
  report : Given (Option BuildReport) := .expected none

/-- The path of a name in a directory, either of which may be missing. -/
def joinName : Option SourcePath → Value → Except Misfit SourcePath
  | some directory, .text name => .ok (directory.join (.ofText name))
  | some _, value => .error (.operands "/" .path value.form)
  | none, value => .error (.operands "/" .nothing value.form)

namespace PipelineState

/-- The verbosity as a value. -/
def verbosityValue (state : PipelineState) : Value :=
  state.verbosity.toValue .number

/-- The names of the input files as a value. -/
def inputValue (state : PipelineState) : Value :=
  state.inputFiles.toValue fun names => .list (names.map .text)

/-- The name of the output file as a value. -/
def outputValue (state : PipelineState) : Value :=
  state.outputFile.toValue .text

/-- What was built, as a value. -/
def builtValue (state : PipelineState) : Value :=
  state.builtSource.toValue fun built => (built.map .text).getD .null

/-- The report as a value. -/
def reportValue (state : PipelineState) : Value :=
  state.report.toValue fun report => (report.map .table).getD .null

/-- The paths of the input files. -/
def sources (state : PipelineState) : Except Misfit (List SourcePath) := do
  let names ← state.inputValue.items
  names.mapM (joinName state.inputdir)

/-- The path of the output file. -/
def target (state : PipelineState) : Except Misfit SourcePath :=
  joinName state.outputdir state.outputValue

end PipelineState

end TextMacro
