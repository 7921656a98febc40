import TextMacro.Command.Basic

/-!
# Loose calls

A command can be called from outside of any block, and then with values of any form. A call in which
every value has the form that handlers expect is an ordinary call. In any other, a built-in command
goes as far as it gets with the values: it is only their use that shows whether they fit.
-/

namespace TextMacro

/-- What a command is called with from outside. -/
structure LooseCall where
  args : List Value
  frame : Frame
  text : Value
  index : Value

/-- A value with a piece put in at an index. Without an index the piece stands between two copies of
the value. -/
def Value.insertAt (value index : Value) (piece : Text) : Except Misfit Text :=
  match value, index with
  | table _, _ => .error .uncut
  | text content, null => .ok (content ++ piece ++ content)
  | list _, null => .error (.appended .list)
  | text content, index =>
    match index.number? with
    | some index => .ok (Text.insertAt content index piece)
    | none => .error .asCut
  | list _, index => .error (if index.number?.isSome then .appended .list else .asCut)
  | value, _ => .error (.indexed value.form)

namespace LooseCall

/-- The loose call that is an ordinary one. -/
def ofCall (call : Call) : LooseCall :=
  ⟨call.args.map .text, call.frame, .text call.text, .number call.index⟩

/-- The ordinary call that a loose one is, if it is one. -/
def call? (call : LooseCall) : Option Call :=
  match Value.texts call.args, call.text, call.index.number? with
  | (args, none), .text text, some index => some ⟨args, call.frame, text, index⟩
  | _, _, _ => none

/-- An ordinary call stays one. -/
@[simp]
theorem call?_ofCall (call : Call) : (ofCall call).call? = some call := by
  simp [call?, ofCall, Value.number?]

/-- The task that cannot be carried out. -/
def misfit (what : Misfit) : Task := .fail (.plain (.misfit what))

/-- Put a piece into the text of a call. -/
def splice (call : LooseCall) (piece : Text) : Task :=
  match call.text.insertAt call.index piece with
  | .ok text => .done text
  | .error what => misfit what

/-- Replace the first argument by the second one in the whole text. -/
def replace (call : LooseCall) : Task :=
  match call.args, call.text with
  | [.text name, .text value], .text text => .done (Text.replaceAll name value text)
  | [.text _, value], .text _ => misfit (.replaced 2 value.form)
  | [name, _], .text _ => misfit (.replaced 1 name.form)
  | [_, _], text => .fail (.plain (.lacking text.form "replace"))
  | args, _ => Command.miscalled "def" ["name", "value"] args.length

/-- Put the expansion of the file that the argument names into the text. -/
def includeFile (call : LooseCall) : Task :=
  match call.args with
  | [.text path] =>
    .expand ⟨unquote path, some call.frame.directory, call.frame.active⟩ call.splice
  | [path] => misfit (.asWord path.form)
  | args => Command.miscalled "inc" ["path"] args.length

/-- Let a command that is not built in join the arguments, and put them into the text. -/
def insert (call : LooseCall) : Task :=
  match (Value.list call.args).join [','] with
  | .ok piece => call.splice piece
  | .error what => misfit what

/-- What a command wants done with a loose call. -/
def task (call : LooseCall) (command : Command) : Task :=
  match call.call?, String.ofList command.name with
  | some call, _ => command.handler call
  | none, "def" => call.replace
  | none, "inc" => call.includeFile
  | none, _ => call.insert

/-- An ordinary call is left to the handler. -/
@[simp]
theorem task_ofCall (call : Call) (command : Command) :
    (ofCall call).task command = command.handler call := by
  simp [task]

end LooseCall

end TextMacro
