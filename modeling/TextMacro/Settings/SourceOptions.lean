import TextMacro.Settings.SourceError
import TextMacro.Text.LetterCase

/-!
# Options of the settings sources

What is given directly holds values for settings, and may also say how the other sources are used:
which environment files are read and in which encoding, how the names of variables begin, whether
the case of names matters, whether empty values count, which word stands for no value, and which
directories hold a file for each setting. Such an option is known by its exact name. Options that
make no difference for the settings of this program are accepted as well.

An option may have a value that does not fit, which matters once it is used.
-/

namespace TextMacro

/-- How the sources of settings are used. -/
structure SourceOptions where
  environmentFiles : Value := .text ".env".toList
  fileEncoding : Value := .text "utf-8".toList
  fileDepth : Value := .number 0
  nestingLimit : Value := .null
  variableStart : Value := .text "BUILDJS_".toList
  startsVariables : Bool := true
  isCaseSensitive : Bool := false
  ignoresEmpty : Bool := false
  nullWord : Option Text := none
  secretDirectories : Value := .null

namespace SourceOptions

/-- The names of all options. -/
def names : List String :=
  ["_case_sensitive", "_nested_model_default_partial_update", "_env_prefix", "_env_prefix_target",
    "_env_file", "_env_file_depth", "_env_file_encoding", "_env_ignore_empty",
    "_env_nested_delimiter", "_env_nested_max_split", "_env_parse_none_str", "_env_parse_enums",
    "_cli_prog_name", "_cli_parse_args", "_cli_settings_source", "_cli_parse_none_str",
    "_cli_hide_none_type", "_cli_avoid_json", "_cli_enforce_required",
    "_cli_use_class_docs_for_groups", "_cli_exit_on_error", "_cli_prefix", "_cli_flag_prefix_char",
    "_cli_implicit_flags", "_cli_ignore_unknown_args", "_cli_kebab_case", "_cli_shortcuts",
    "_cli_show_env_vars", "_secrets_dir", "_build_sources"]

/-- Whether a name is that of an option. -/
def isName (name : Text) : Bool :=
  names.any fun option => option.toList == name

/-- The value given for an option, which is null if there is none. -/
def valueOf (given : List (Text × Value)) (name : String) : Value :=
  (given.lookup name.toList).getD .null

/-- Whether the beginning of names is meant for variables, and not only for other names of
settings, of which there are none. -/
def isVariableTarget : Value → Bool
  | .null => true
  | .text target => target = "variable".toList || target = "all".toList
  | _ => false

/-- The options among what is given. -/
def ofGiven (given : List (Text × Value)) : SourceOptions :=
  let usual : SourceOptions := {}
  let value := valueOf given
  { environmentFiles := (given.lookup "_env_file".toList).getD usual.environmentFiles
    fileEncoding := (value "_env_file_encoding").given?.getD usual.fileEncoding
    fileDepth := (value "_env_file_depth").given?.getD usual.fileDepth
    nestingLimit := value "_env_nested_max_split"
    variableStart := (value "_env_prefix").given?.getD usual.variableStart
    startsVariables := isVariableTarget (value "_env_prefix_target")
    isCaseSensitive := (value "_case_sensitive").holds
    ignoresEmpty := (value "_env_ignore_empty").holds
    nullWord := (value "_env_parse_none_str").text?
    secretDirectories := value "_secrets_dir" }

/-- What is wrong with the options that are used before any file is read: a limit that is given is a
number, and the beginning of names has a length. -/
def check (options : SourceOptions) : Except Misfit Unit :=
  let limit := options.nestingLimit
  let start := options.variableStart
  if limit.holds && limit.number?.isNone then .error (.operands "-" limit.form .number)
  else if start.items?.isNone then .error (.measured start.form)
  else .ok ()

/-- The beginning of the names of variables. -/
def start (options : SourceOptions) : Text :=
  if options.startsVariables then options.variableStart.text?.getD [] else []

/-- A name as it is compared: in lower case, unless the case matters. -/
def fold (options : SourceOptions) (name : Text) : Text :=
  if options.isCaseSensitive then name else Text.lower name

/-- The name of the variable that holds a setting, as it is compared. -/
def variableOf (options : SourceOptions) (setting : Text) : Text :=
  options.fold (options.start ++ setting)

/-- Whether the text of a variable counts. -/
def counts (options : SourceOptions) (text : Text) : Bool :=
  !(options.ignoresEmpty && text.isEmpty)

/-- The value that the text of a variable stands for. -/
def read (options : SourceOptions) (text : Text) : Value :=
  if options.nullWord = some text then .null else .text text

end SourceOptions

/-- The paths that a value names: one, or several. -/
def Value.paths : Value → Except Misfit (List Value)
  | null => .ok []
  | text path => .ok [text path]
  | value => value.items

end TextMacro
