import TextMacro.Highlight
import TextMacro.Misfit

/-!
# The journal

What a run reports on its way is a list of events. Every event has a level, and is only recorded
when the verbosity is at least that level: level one is for the progress of a whole run, level two
for each file, level three for each block and command.
-/

namespace TextMacro

/-- Something a run reports. -/
inductive Event where
  | banner
  | checkingEnvironment
  | inputFiles (paths : List SourcePath)
  | outputFile (path : SourcePath)
  | expandingSources
  | expandedSources (count : Nat)
  | expanding (file : SourcePath)
  | block (file : SourcePath) (body : Text)
  | parsed (name : Text) (args : List Text)
  | expanded (file : SourcePath) (size : Nat)
  | wrote (file : SourcePath) (size : Nat)
  | succeeded
  | reportOutput (file : Text)
  | reportInputs (count : Text)
  | reportSize (size : Text)
deriving DecidableEq

namespace Event

/-- The title shown at the start of a verbose run. -/
def title : String :=
  "\n   _           _ _     _  _\n" ++
  "  | |__  _   _(_) | __| |(_)___\n" ++
  "  | '_ \\| | | | | |/ _` || / __|\n" ++
  "  | |_) | |_| | | | (_| || \\__ \\\n" ++
  "  |_.__/ \\__,_|_|_|\\__,_|/ |___/\n" ++
  "                       |__/\n" ++
  "  Text macro expansion\n"

/-- The level of an event. -/
def level : Event → Int
  | expandingSources | succeeded | reportOutput _ | reportInputs _ | reportSize _ => 1
  | block .. | parsed .. => 3
  | _ => 2

/-- A path as messages show it. -/
def showPath (path : SourcePath) : String :=
  String.ofList path.toText

/-- The message of an event. -/
def message : Event → String
  | banner => title
  | checkingEnvironment => "Checking environment..."
  | inputFiles paths => "Input files: " ++ ", ".intercalate (paths.map showPath)
  | outputFile path => "Output file: " ++ showPath path
  | expandingSources => "Expanding sources..."
  | expandedSources count => "Expanded " ++ toString count ++ " file(s)"
  | expanding file => "Expanding " ++ showPath file
  | block file body =>
    "Block in " ++ showPath file ++ ":\n" ++ String.ofList (Highlight.body body)
  | parsed name args =>
    "Parsed @" ++ String.ofList name ++ " " ++ String.ofList (Text.join [' '] args)
  | expanded file size => "Expanded " ++ showPath file ++ " (" ++ toString size ++ " characters)"
  | wrote file size => "Wrote " ++ showPath file ++ " (" ++ toString size ++ " characters)"
  | succeeded => "\n✓ Build successful!"
  | reportOutput file => "  Output: " ++ String.ofList file
  | reportInputs count => "  Inputs: " ++ String.ofList count
  | reportSize size => "  Size:   " ++ String.ofList size ++ " characters"

end Event

/-- Whether something of the given level is recorded under a verbosity. -/
def isRecorded (verbosity level : Int) : Bool :=
  level ≤ verbosity

/-- The verbosity that governs the journal: that of the connected run, or zero. -/
def governingVerbosity (connected : Option Int) : Int :=
  connected.getD 0

/-- The verbosity that governs the journal, when the connected run has one of any form. -/
def governingValue (connected : Option Value) : Value :=
  connected.getD (.number 0)

/-- Whether something is recorded, when level and verbosity are values of any form. -/
def isRecordedUnder (verbosity level : Value) : Except Misfit Bool :=
  verbosity.atLeast level

/-- Numbers as values are compared as numbers. -/
@[simp]
theorem isRecordedUnder_number (verbosity level : Int) :
    isRecordedUnder (.number verbosity) (.number level) = .ok (isRecorded verbosity level) := by
  simp [isRecordedUnder, isRecorded, Value.atLeast, Value.number?]

end TextMacro
