import TextMacro.CommandLine.Demand
import TextMacro.Settings.SourceOptions
import TextMacro.Text.Space
import TextMacro.Text.WordCharacter

/-!
# Settings in words

Settings may be given as the words of a command line: every setting is an option with one value,
spelled with two dashes. Options of the source say whether its name is preceded by that of a group,
whether hyphens stand for low lines, which shorter spellings there are, whether a setting that is
true or false is a switch without a value, and what is done about words that nothing takes.
-/

namespace TextMacro

/-- How settings are given in words. -/
structure WordOptions where
  words : List Value
  start : Text := []
  nullWord : Text := "null".toList
  isCaseSensitive : Bool := false
  hasHyphens : Bool := false
  hasSwitches : Bool := false
  ignoresUnknown : Bool := false
  exits : Bool := true
  shortcuts : List (Text × Value) := []

namespace WordOptions

/-- Whether a text is a name: word characters, the first of which is no digit. -/
def isName (text : Text) : Bool :=
  text.all Text.isWord && !text.head?.all Text.isDecimalDigit

/-- The beginning of names that is given for them, with a full stop after it. -/
def readStart : Value → Except SourceError Text
  | .text start =>
    if start = [] then .ok []
    else if start.head? = some '.' || start.getLast? = some '.' ||
        !isName (start.filter (· != '.')) then .error (.invalidStart start)
    else .ok (start ++ ['.'])
  | value => if value.holds then .error (.failed (.lacking value.form "startswith")) else .ok []

/-- The words that are given, unless settings are not to be looked for in words. Without a list, the
words would be those of the program itself, which has none of its own. -/
def readWords : Value → Except SourceError (List Value)
  | .list words => .ok words
  | .null | .truth _ | .number 0 => .ok []
  | value => .error (.wordsExpected value.form)

/-- The options for words among what is given. -/
def ofGiven (given : List (Text × Value)) (isCaseSensitive : Bool) :
    Except SourceError WordOptions := do
  let value := SourceOptions.valueOf given
  let start ← readStart (value "_cli_prefix")
  let words ← readWords (value "_cli_parse_args")
  let usualNull := if (value "_cli_avoid_json").holds then "None" else "null"
  return {
    words, start, isCaseSensitive
    nullWord := ((value "_cli_parse_none_str").text?.filter (· ≠ [])).getD usualNull.toList
    hasHyphens := (value "_cli_kebab_case").holds
    hasSwitches := (value "_cli_implicit_flags").holds
    ignoresUnknown := (value "_cli_ignore_unknown_args").holds
    exits := ((value "_cli_exit_on_error").given?.map Value.holds).getD true
    shortcuts := match value "_cli_shortcuts" with
      | .table entries => entries
      | _ => [] }

end WordOptions

namespace SettingWords

/-- The options that words may hold. -/
inductive Flag where
  | help
  | setting (name : Text)
  | switch (name : Text) (value : Bool)
deriving DecidableEq, Repr

/-- The name of a setting as an option. -/
def optionName (options : WordOptions) (name : Text) : Text :=
  (options.start ++ name).map fun c => if options.hasHyphens && c == '_' then '-' else c

/-- The names of an option: its own, and the shorter ones given for it. -/
def optionNames (options : WordOptions) (name : Text) : List Text :=
  let own := optionName options name
  own :: ((options.shortcuts.lookup own).map fun value =>
    match value with
    | .text short => [short]
    | value => (value.items?.getD []).filterMap Value.text?).getD []

/-- The spelling of an option: one dash for a letter, two for a longer name. -/
def spell (name : Text) : Text :=
  List.replicate (min 2 name.length) '-' ++ name

/-- The setting that is true or false. -/
def truthSetting : Text := "detect_include_cycles".toList

/-- The spellings of a setting, with what they stand for. -/
def spellingsOf (options : WordOptions) (name : Text) : List (Text × Flag) :=
  let spellings := (optionNames options name).map spell
  if options.hasSwitches && name == truthSetting then
    spellings.flatMap fun spelling =>
      (spelling, .switch name true) ::
        if CommandLine.isShortSpelling spelling then []
        else [("--no-".toList ++ spelling.drop 2, .switch name false)]
  else spellings.map fun spelling => (spelling, .setting name)

/-- The name of an option in diagnostics: all its spellings. -/
def nameOf (options : WordOptions) : Flag → Text
  | .help => "-h/--help".toList
  | .setting name | .switch name _ =>
    Text.join ['/'] ((spellingsOf options name).map Prod.fst)

/-- The options that words may hold, as a grammar. -/
def grammar (options : WordOptions) (names : List Text) : CommandLine.Grammar Flag where
  spellings :=
    ("-h".toList, .help) :: ("--help".toList, .help) :: names.flatMap (spellingsOf options)
  name := nameOf options
  intake
    | .setting _ => .one
    | _ => .none
  allowsShort := false

/-- A word as it is compared: the name at its start in lower case, with the rest of the line. -/
def foldWord (word : Text) : Text :=
  match word with
  | '-' :: rest =>
    let name := rest.takeWhile fun c => !Text.isSpace c && c != '='
    if name = [] then word
    else Text.lower ('-' :: name) ++ (rest.drop name.length).takeWhile (· != '\n')
  | _ => word

/-- The text of a word. Where the case of names does not matter, a value that counts as false is
taken for the empty word. -/
def readWord (options : WordOptions) : Value → Except Misfit Text
  | .text word => .ok (if options.isCaseSensitive then word else foldWord word)
  | value =>
    if options.isCaseSensitive then .error (.indexed value.form)
    else if value.holds then .error (.asWord value.form)
    else .ok []

/-- Why words do not give settings. -/
inductive Stop where
  | wrong (error : CommandLine.UsageError)
  | showHelp

/-- What words ask for: options with their values, and the words that nothing takes. -/
structure Taken where
  actions : List (Flag × List Text) := []
  leftover : List Text := []

/-- Take the words one after another. -/
def takeWords (grammar : CommandLine.Grammar Flag) (taken : Taken)
    (words : List (CommandLine.Word Flag)) : Except Stop Taken :=
  match words with
  | [] => .ok taken
  | word :: rest =>
    match word.reading with
    | .option flag isShort attached =>
      match grammar.readOption flag isShort attached rest with
      | .error error => .error (.wrong error)
      | .ok demand =>
        if demand.actions.any (·.1 = .help) then .error .showHelp
        else takeWords grammar { taken with actions := taken.actions ++ demand.actions }
          (rest.drop demand.taken)
    | _ => takeWords grammar { taken with leftover := taken.leftover ++ [word.text] } rest
termination_by words.length
decreasing_by
  · simp only [List.length_drop, List.length_cons]; omega
  · simp

/-- The value that an option gives a setting. The divider is no value and leaves an empty list. -/
def valueOf (options : WordOptions) : Flag × List Text → Option (Text × Value)
  | (.setting name, values) =>
    match values.erase CommandLine.divider with
    | [value] => some (name, if value = options.nullWord then .null else .text value)
    | _ => some (name, .text "[]".toList)
  | (.switch name value, _) => some (name, .truth value)
  | (.help, _) => none

/-- The values that words give settings, the last one for a setting first. -/
def parse (options : WordOptions) (names words : List Text) : Except Stop (List (Text × Value)) :=
  let grammar := grammar options names
  match grammar.readWords words with
  | .error error => .error (.wrong error)
  | .ok words =>
    match takeWords grammar {} words with
    | .error stop => .error stop
    | .ok taken =>
      if taken.leftover = [] || options.ignoresUnknown then
        .ok (taken.actions.reverse.filterMap (valueOf options))
      else .error (.wrong (.unrecognized taken.leftover))

/-- The values that words give settings. Wrong words end the program, unless an option says that
they are an error. -/
def read (options : WordOptions) (names : List Text) :
    Except SourceError (List (Text × Value)) := do
  let words ← (options.words.mapM (readWord options)).mapError .ofMisfit
  match parse options names words with
  | .ok values => return values
  | .error .showHelp => throw (.exited 0)
  | .error (.wrong error) =>
    throw (if options.exits then .exited 2 else .wrongWords error.message)

end SettingWords

end TextMacro
