import TextMacro.Failure
import TextMacro.Frame
import TextMacro.Text.Search

/-!
# Commands

A command changes the text of the file being expanded. Its handler is given the arguments, the
frame of the file, the current text and the offset where the block stood, and answers with a task:
the new text, a failure, or a request for the expansion of another file together with what is to be
done with it. The two built-in commands are `def`, which replaces a name everywhere in the text, and
`inc`, which puts the expansion of a file where the block stood.
-/

namespace TextMacro

/-- What a handler is given. -/
structure Call where
  args : List Text
  frame : Frame
  text : Text
  index : Int

/-- What a handler wants done. -/
inductive Task where
  /-- The new text is known. -/
  | done (text : Text)
  /-- The command fails. -/
  | fail (failure : Failure)
  /-- A file is expanded inside the current one, and its text is used. -/
  | expand (request : Request) (next : Text → Task)
  /-- A file is built on its own, and its text is used. -/
  | build (path : Text) (basedir : Option SourcePath) (next : Text → Task)

/-- What a command does with a call. -/
abbrev Handler := Call → Task

/-- A command: its name without the at sign, the number of its arguments, and what it does. -/
structure Command where
  name : Text
  arity : Int
  handler : Handler
  description : Text
  examples : List Text

/-- A path without the double quotes around it, if it is quoted and holds no line feed. -/
def unquote (path : Text) : Text :=
  if 2 ≤ path.length ∧ path.head? = some '"' ∧ path.getLast? = some '"' ∧ '\n' ∉ path then
    path.tail.dropLast
  else path

namespace Command

/-- The task of a handler that is called with a wrong number of arguments. -/
def miscalled (command : String) (parameters : List String) (found : Nat) : Task :=
  .fail (.plain (.misfit (.called command.toList (parameters.map String.toList) found)))

/-- Replace the first argument by the second one in the whole text. -/
def replaceHandler : Handler := fun call =>
  match call.args with
  | [name, value] => .done (Text.replaceAll name value call.text)
  | args => miscalled "def" ["name", "value"] args.length

/-- Put the expansion of the file that the argument names where the block stood. -/
def includeHandler : Handler := fun call =>
  match call.args with
  | [path] =>
    .expand ⟨unquote path, some call.frame.directory, call.frame.active⟩ fun included =>
      .done (Text.insertAt call.text call.index included)
  | args => miscalled "inc" ["path"] args.length

/-- The built-in command that replaces a name by a value. -/
def definition : Command where
  name := "def".toList
  arity := 2
  handler := replaceHandler
  description := "Replace every occurrence of a name with a value".toList
  examples := ["/*buildjs @def DEBUG false */".toList]

/-- The built-in command that includes a file. -/
def inclusion : Command where
  name := "inc".toList
  arity := 1
  handler := includeHandler
  description := "Include another file, expanded, relative to this one".toList
  examples := ["/*buildjs @inc \"lib/util.js\" */".toList, "/*buildjs @inc header.js */".toList]

end Command

end TextMacro
