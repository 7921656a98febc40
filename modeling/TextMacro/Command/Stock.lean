import TextMacro.Command.Basic

/-!
# Stock handlers

Ready-made handlers for commands that extend a registry: they insert, wrap or replace text, show the
frame they are called in, build another file on its own, or fail. A handler that finds fewer
arguments than it uses fails as well.
-/

namespace TextMacro.Stock

/-- The arguments of a call with commas between them. -/
def joined (call : Call) : Text :=
  Text.join [','] call.args

/-- The text of a call with a piece put in where the block stood. -/
def splice (call : Call) (piece : Text) : Text :=
  Text.insertAt call.text call.index piece

/-- Put the arguments where the block stood. -/
def insert : Handler := fun call => .done (splice call (joined call))

/-- Put the text between the first argument and the second one. -/
def wrap : Handler := fun call =>
  match call.args with
  | before :: after :: _ => .done (before ++ call.text ++ after)
  | _ => .fail (.plain .indexOutOfRange)

/-- Replace the whole text by the arguments. -/
def replaceText : Handler := fun call => .done (joined call)

/-- Put a description of the frame where the block stood. -/
def describe : Handler := fun call =>
  let parts := [call.frame.path.toText, call.frame.resolved.toText, call.frame.directory.toText,
    (toString call.frame.active.length).toList, (toString call.index).toList]
  .done (splice call ('[' :: Text.join ['|'] parts ++ [']']))

/-- Put the build of the file that the argument names where the block stood. -/
def buildFile : Handler := fun call =>
  match call.args with
  | path :: _ =>
    .build path (some call.frame.directory) fun built => .done (splice call built)
  | [] => .fail (.plain .indexOutOfRange)

/-- Fail because of a value. -/
def rejectValue : Handler := fun call => .fail (.plain (.invalidValue (joined call)))

/-- Fail as a command. -/
def refuse : Handler := fun call => .fail (.plain (.refused (joined call)))

/-- Fail with a build failure of the given file and line. -/
def failAt (file : Text) (line : Int) : Handler := fun call =>
  .fail (.build ⟨.stated (joined call), some file, some line, []⟩)

end TextMacro.Stock
