import TextMacro.Settings.Home
import TextMacro.Settings.SourceOptions
import TextMacro.Text.Line
import TextMacro.Text.Space

/-!
# Directories of secrets

A directory of secrets holds a file for each setting, under the name of the variable for it; the
value is the content of the file without the white space around it. Directories that do not exist
are passed over. Of several directories the last one with such a file decides.
-/

namespace TextMacro.SecretDirectory

/-- What stands at several paths, without those where there is nothing. -/
def nodes (tree : FileTree) : List SourcePath → Except SourceError (List (SourcePath × Node))
  | [] => .ok []
  | path :: paths =>
    match tree.status path with
    | .error error => .error (.failed (.system error path))
    | .ok none => nodes tree paths
    | .ok (some node) => (nodes tree paths).map ((path, node) :: ·)

/-- The places of the directories at several paths, without those where there is nothing. -/
def locate (tree : FileTree) (paths : List SourcePath) : Except SourceError (List Location) := do
  let found ← nodes tree paths
  if found.any (·.2 ≠ .directory) then throw .secretsInFile
  return found.filterMap fun entry => (tree.locate entry.1).toOption

/-- The bytes of the file that a directory holds for a variable. -/
def bytes? (tree : FileTree) (options : SourceOptions) (variableName : Text) (place : Location) :
    Option (List UInt8) :=
  match (tree.children place).find? fun child => options.fold child.1.text == variableName with
  | some (_, .file bytes) => some bytes
  | _ => none

/-- The name of this source in diagnostics. -/
def sourceName : Text := "SecretsSettingsSource".toList

/-- The value that directories hold for a setting. -/
def value? (tree : FileTree) (options : SourceOptions) (places : List Location) (name : Text) :
    Except SourceError (Option Text) :=
  match places.reverse.findSome? (bytes? tree options (options.variableOf name)) with
  | none => .ok none
  | some bytes =>
    match Utf8.decode bytes with
    | .error _ => .error (.unreadableSetting name sourceName)
    | .ok text => .ok (some (Text.trim (Text.lineFeedsOnly text)))

/-- The values that directories hold for settings. -/
def values (tree : FileTree) (options : SourceOptions) (places : List Location) :
    List Text → Except SourceError (List (Text × Text))
  | [] => .ok []
  | name :: names => do
    let value ← value? tree options places name
    let others ← values tree options places names
    return (value.map fun text => (name, text)).toList ++ others

/-- The values for settings from the directories that the options name. -/
def read (tree : FileTree) (options : SourceOptions) (environment : List (Text × Text))
    (names : List Text) : Except SourceError (List (Text × Text)) := do
  let directories ← options.secretDirectories.paths.mapError .ofMisfit
  let paths ← directories.mapM (Home.pathOf environment)
  let places ← locate tree paths
  values tree options places names

end TextMacro.SecretDirectory
