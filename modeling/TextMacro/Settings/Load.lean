import TextMacro.Settings.Basic
import TextMacro.Settings.EnvironmentFile
import TextMacro.Settings.SecretDirectory
import TextMacro.Settings.Words

/-!
# Loading settings

Settings come from six sources: words of a command line, values given directly, environment
variables, the assignments of environment files, directories of secrets, and the defaults. The first
source that has a value for a setting decides. In the environment, in files and in directories a
setting goes by its name after a common beginning. The case of names does not matter, unless an
option says so. Values given directly, and assignments in files, may only name settings.
-/

namespace TextMacro

/-- What can be wrong with a value given for a name. -/
inductive SettingProblem where
  | textExpected
  | truthUnreadable
  | truthExpected
  | unknownName
deriving DecidableEq, Repr

/-- A problem and the name it arose for. -/
structure SettingIssue where
  name : Text
  problem : SettingProblem
deriving DecidableEq, Repr

namespace Settings

/-- The words for a true value and for a false one. -/
def truthWords : List (String × Bool) :=
  [("true", true), ("t", true), ("yes", true), ("y", true), ("on", true), ("1", true),
    ("false", false), ("f", false), ("no", false), ("n", false), ("off", false), ("0", false)]

/-- Read a text setting. -/
def readText (name : Text) : Value → Except SettingIssue Text
  | .text value => .ok value
  | _ => .error ⟨name, .textExpected⟩

/-- Read a setting that is true or false: such a value, zero or one, or a word for it in any case.

A number too large for a machine word is not even taken for an attempt at one. -/
def readTruth (name : Text) : Value → Except SettingIssue Bool
  | .truth value => .ok value
  | .number value =>
    if value = 0 then .ok false
    else if value = 1 then .ok true
    else .error ⟨name, if fitsWord value then .truthUnreadable else .truthExpected⟩
  | .text value =>
    match truthWords.find? fun word => word.1.toList == value.map Char.toLower with
    | some word => .ok word.2
    | none => .error ⟨name, .truthUnreadable⟩
  | .null | .list _ | .table _ => .error ⟨name, .truthExpected⟩

/-- The sources of settings, apart from the defaults, and how they are used. -/
structure Sources where
  options : SourceOptions
  words : List (Text × Value)
  given : List (Text × Value)
  environment : List (Text × Text)
  assignments : Assignments
  secrets : List (Text × Text)

namespace Sources

/-- The first value given for a setting, in whatever case its name is spelled. -/
def given? (sources : Sources) (name : Text) : Option Value :=
  (sources.given.find? fun entry => Text.lower entry.1 == name).map Prod.snd

/-- The last value that the environment holds for a setting. -/
def environment? (sources : Sources) (name : Text) : Option Value :=
  let counted := sources.environment.filter fun entry => sources.options.counts entry.2
  (counted.reverse.find? fun entry =>
    sources.options.fold entry.1 == sources.options.variableOf name).map fun entry =>
      sources.options.read entry.2

/-- The assignments that count. -/
def countedAssignments (sources : Sources) : Assignments :=
  sources.assignments.filter fun entry => entry.2.all sources.options.counts

/-- The last assignment to a name as it is compared, if it gives a value. -/
def assigned? (sources : Sources) (name : Text) : Option Text :=
  (sources.countedAssignments.reverse.find? fun entry =>
    sources.options.fold entry.1 == name).bind Prod.snd

/-- The value for a setting from the first source that has one. -/
def value? (sources : Sources) (name : Text) : Option Value :=
  sources.words.lookup name <|> sources.given? name <|> sources.environment? name <|>
    (sources.assigned? (sources.options.variableOf name)).map sources.options.read <|>
    (sources.secrets.lookup name).map .text

/-- The names that the given values and the assignments use and that are no settings.

An assignment without a value or of the empty text is ignored, and so is one to the bare name of a
setting. -/
def unknownNames (sources : Sources) : List Text :=
  let given := (sources.given.map Prod.fst).filter fun name =>
    !SourceOptions.isName name && Text.lower name ∉ names
  let assigned := (sources.countedAssignments.map fun entry =>
    sources.options.fold entry.1).filter fun name =>
      (sources.assigned? name).any (· ≠ []) &&
        name ∉ names && name ∉ names.map sources.options.variableOf
  (given ++ assigned).eraseDups

end Sources

/-- The issue of a reading, if there is one. -/
def issueOf {α : Type} : Except SettingIssue α → List SettingIssue
  | .ok _ => []
  | .error issue => [issue]

/-- Read one setting, or take its default. -/
def readOr {α : Type} (sources : Sources) (name : String)
    (read : Text → Value → Except SettingIssue α) (fallback : α) : Except SettingIssue α :=
  match sources.value? name.toList with
  | some value => read name.toList value
  | none => .ok fallback

/-- Load settings, or say everything that is wrong, in the order of the names. -/
def load (sources : Sources) : Except (List SettingIssue) Settings :=
  let opening := readOr sources "open_marker" readText default.markers.opening
  let closing := readOr sources "close_marker" readText default.markers.closing
  let encoding := readOr sources "encoding" readText Encoding.usualName
  let cycles := readOr sources "detect_include_cycles" readTruth default.detectCycles
  let unknown := sources.unknownNames.map fun name => SettingIssue.mk name .unknownName
  match opening, closing, encoding, cycles, unknown with
  | .ok opening, .ok closing, .ok encoding, .ok cycles, [] =>
    .ok ⟨⟨opening, closing⟩, .named encoding, cycles⟩
  | opening, closing, encoding, cycles, unknown =>
    let issues := issueOf opening ++ issueOf closing ++ issueOf encoding ++ issueOf cycles
    .error ((issues ++ unknown).mergeSort fun a b => a.name.isAtMost b.name)

/-- Why settings could not be loaded. -/
inductive LoadFailure where
  /-- A source cannot be read. -/
  | unreadable (error : SourceError)
  /-- Something is wrong with the values. -/
  | invalid (issues : List SettingIssue)
deriving DecidableEq

/-- The name of the environment as a source in diagnostics. -/
def environmentSource : Text := "EnvSettingsSource".toList

/-- What is wrong with a beginning of names that is no text: it cannot be put before a name, nor be
turned to lower case. -/
def checkStart (options : SourceOptions) : Except SourceError Unit :=
  match options.variableStart with
  | .text _ => .ok ()
  | start =>
    if options.startsVariables then
      .error (.unreadableSetting "open_marker".toList environmentSource)
    else if options.isCaseSensitive then .ok ()
    else .error (.failed (.lacking start.form "lower"))

/-- The values for settings in words, if words are given. -/
def readWords (given : List (Text × Value)) (options : SourceOptions) :
    Except SourceError (List (Text × Value)) :=
  match SourceOptions.valueOf given "_cli_parse_args" with
  | .null => .ok []
  | _ => do SettingWords.read (← WordOptions.ofGiven given options.isCaseSensitive) names

/-- Read the sources. The files are read first; then the words; the variables of the environment are
looked up after that, and the secrets last. -/
def Sources.read (tree : FileTree) (given : List (Text × Value))
    (environment : List (Text × Text)) : Except SourceError Sources := do
  let options := SourceOptions.ofGiven given
  options.check.mapError .ofMisfit
  let assignments ← EnvironmentFile.readAll tree options environment
  let words ← readWords given options
  checkStart options
  let secrets ← SecretDirectory.read tree options environment names
  return ⟨options, words, given, environment, assignments, secrets⟩

/-- What comes of sources that are given ready for use, together with what they start from. An empty
value stands for no sources, which leaves the defaults; no other value is a source. -/
def ofReadySources (value : Value) : Except SourceError Settings :=
  match value.items? with
  | none => .error (.ofMisfit (.unpacked value.form))
  | some [sources, _] =>
    if !sources.holds then .ok default
    else match sources.items? with
      | none => .error (.ofMisfit (.iterated sources.form))
      | some items =>
        .error (.ofMisfit (.uncallable ((items.head?.map Value.form).getD .nothing)))
  | some items => .error (.notPair items.length)

/-- Load settings from what is given, the environment, and the files in a tree. -/
def loadIn (tree : FileTree) (given : List (Text × Value))
    (environment : List (Text × Text)) : Except LoadFailure Settings :=
  match SourceOptions.valueOf given "_build_sources" with
  | .null => do
    let sources ← (Sources.read tree given environment).mapError .unreadable
    (load sources).mapError .invalid
  | value => (ofReadySources value).mapError .unreadable

end Settings

end TextMacro
