import TextMacro.Expansion

/-!
# Output files

Writing a text opens the target first, which creates the file or empties it, and only then looks up
the encoding and encodes the text. So an error after the opening leaves an empty file behind, and
the result of writing always comes with the tree that it left. Null characters in the name of the
encoding and in the path are noticed before the opening.
-/

namespace TextMacro

/-- A run that may have changed the file tree. -/
structure Change (α : Type) where
  tree : FileTree
  run : Run α

namespace Context

/-- The working directory as a path. -/
def workingDirectory (context : Context) : SourcePath :=
  context.tree.cwd.toPath

/-- The path that an output file name denotes, unless there is no name. -/
def target? (context : Context) (outfile : Option Text) (basedir : Option SourcePath) :
    Option SourcePath :=
  match outfile with
  | none | some [] => none
  | some name => some ((basedir.getD context.workingDirectory).join (.ofText name))

/-- Open a target for writing: the tree that this leaves, and the place of the file together with
the encoding in which it is written. -/
def openTarget (context : Context) (target : SourcePath) :
    FileTree × Except Cause (Location × Encoding) :=
  let encoding := context.settings.encoding
  if !encoding.isUsable then (context.tree, encoding.find.map fun encoding => ([], encoding))
  else if FileTree.hasNull target then (context.tree, .error .nullInPath)
  else match context.tree.fileSlot target with
    | .error error => (context.tree, .error (.system error target))
    | .ok location =>
      (context.tree.put location (.file []), encoding.find.map fun encoding => (location, encoding))

/-- Write a text to a target. -/
def writeTo (context : Context) (text : Text) (target : SourcePath) : Change SourcePath :=
  match context.openTarget target with
  | (opened, .error cause) => ⟨opened, .fail (.plain cause)⟩
  | (opened, .ok (location, encoding)) =>
    match encoding.encode text with
    | .error error => ⟨opened, .fail (.plain (.unencodable error))⟩
    | .ok bytes =>
      ⟨context.tree.put location (.file bytes),
        (context.record (.wrote target text.length)).andThen fun _ => .value target⟩

/-- Write a text to an output file. -/
def writeText (context : Context) (text : Text) (outfile : Option Text)
    (basedir : Option SourcePath) : Change SourcePath :=
  match context.target? outfile basedir with
  | none => ⟨context.tree, .fail (.plain .noOutputPath)⟩
  | some target => context.writeTo text target

/-- Build files and write their texts, put together, to an output file. -/
def writeOutput (context : Context) (steps : Nat) (paths : List Text) (outfile : Option Text)
    (basedir : Option SourcePath) : Change SourcePath :=
  match context.target? outfile basedir with
  | none => ⟨context.tree, .fail (.plain .noOutputPath)⟩
  | some target =>
    let built := context.buildAll steps (some (basedir.getD context.workingDirectory)) paths
    match built.outcome with
    | .done text =>
      let written := context.writeTo text target
      ⟨written.tree, ⟨built.events ++ written.run.events, written.run.outcome⟩⟩
    | .failed failure => ⟨context.tree, ⟨built.events, .failed failure⟩⟩
    | .exhausted => ⟨context.tree, ⟨built.events, .exhausted⟩⟩

/-- Open a target for something of a form that cannot be written. -/
def writeMisfit (context : Context) (content : Form) (target : SourcePath) : Change SourcePath :=
  match context.openTarget target with
  | (opened, .error cause) => ⟨opened, .fail (.plain cause)⟩
  | (opened, .ok _) => ⟨opened, .fail (.plain (.misfit (.asContent content)))⟩

/-- Write a value to an output file that a value names. Only texts are names, and only texts can be
written; anything else is noticed when it is used. -/
def writeValue (context : Context) (content outfile : Value) (basedir : Option SourcePath) :
    Change SourcePath :=
  match outfile, content with
  | .text name, .text text => context.writeText text (some name) basedir
  | .text name, content =>
    match context.target? (some name) basedir with
    | none => ⟨context.tree, .fail (.plain .noOutputPath)⟩
    | some target => context.writeMisfit content.form target
  | outfile, _ =>
    let cause : Cause :=
      if outfile.holds then .misfit (.operands "/" .path outfile.form) else .noOutputPath
    ⟨context.tree, .fail (.plain cause)⟩

/-- A text goes to the file of a name. -/
@[simp]
theorem writeValue_text (context : Context) (content name : Text) (basedir : Option SourcePath) :
    context.writeValue (.text content) (.text name) basedir =
      context.writeText content (some name) basedir := rfl

/-- Build the files that a value names, put their texts together, and write them to an output file
that a value names as well. -/
def writeOutputOf (context : Context) (steps : Nat) (paths outfile : Value)
    (basedir : Option SourcePath) : Change SourcePath :=
  match paths.names, outfile with
  | .ok (names, none), .text name => context.writeOutput steps names (some name) basedir
  | names, outfile =>
    if !outfile.holds then ⟨context.tree, .fail (.plain .noOutputPath)⟩
    else match names with
      | .error misfit => ⟨context.tree, .fail (.plain (.misfit misfit))⟩
      | .ok (names, misfit) =>
        let base := basedir.getD context.workingDirectory
        let built := context.buildNamed steps (some base) names misfit
        match built.outcome with
        | .done text =>
          let written := context.writeValue (.text text) outfile base
          ⟨written.tree, ⟨built.events ++ written.run.events, written.run.outcome⟩⟩
        | .failed failure => ⟨context.tree, ⟨built.events, .failed failure⟩⟩
        | .exhausted => ⟨context.tree, ⟨built.events, .exhausted⟩⟩

/-- Files that are named by texts are built and written as such. -/
@[simp]
theorem writeOutputOf_text (context : Context) (steps : Nat) (names : List Text) (name : Text)
    (basedir : Option SourcePath) :
    context.writeOutputOf steps (.list (names.map .text)) (.text name) basedir =
      context.writeOutput steps names (some name) basedir := by
  simp [writeOutputOf]

/-- Do something in the directory that a value is, provided that there is an output file to write.
The output file is looked at before the directory. -/
def inDirectory (context : Context) (outfile basedir : Value)
    (write : Option SourcePath → Change SourcePath) : Change SourcePath :=
  match basedir.directory? with
  | .ok basedir => write basedir
  | .error misfit =>
    let cause : Cause := if outfile.holds then .misfit misfit else .noOutputPath
    ⟨context.tree, .fail (.plain cause)⟩

end Context

end TextMacro
