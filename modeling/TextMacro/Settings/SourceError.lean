import TextMacro.Failure

/-!
# Errors of the settings sources

Before the values of settings are looked at, the sources of settings have to be set up and read. The
ways in which that can fail are gathered here, with the wording of their diagnostics.
-/

namespace TextMacro

/-- Why the sources of settings cannot be read. -/
inductive SourceError where
  /-- A file cannot be read, or an option has a value that does not fit. -/
  | failed (cause : Cause)
  /-- A file may be looked for in more directories than can be counted. -/
  | depthTooWide
  /-- The sources are not given as a pair, but as this number of values. -/
  | notPair (count : Nat)
  /-- A path starts in the home directory of somebody who has none. -/
  | noHome
  /-- There is a file in the place of a directory of secrets. -/
  | secretsInFile
  /-- A source cannot tell the value of a setting. -/
  | unreadableSetting (setting source : Text)
  /-- The words that hold settings are not given as a list. -/
  | wordsExpected (form : Form)
  /-- The beginning of the names in words is no name itself. -/
  | invalidStart (start : Text)
  /-- The words that hold settings are wrong. -/
  | wrongWords (message : String)
  /-- The words that hold settings end the program. -/
  | exited (code : Nat)
deriving DecidableEq

namespace SourceError

/-- The diagnostic for a number of values that are no pair. -/
def pairMessage (count : Nat) : String :=
  if count < 2 then "not enough values to unpack (expected 2, got " ++ toString count ++ ")"
  else "too many values to unpack (expected 2)"

/-- The error of an option whose value does not fit. -/
def ofMisfit (misfit : Misfit) : SourceError := failed (.misfit misfit)

/-- The diagnostic for an error. -/
def message : SourceError → String
  | failed cause => cause.message
  | depthTooWide =>
    "Stop argument for islice() must be None or an integer: 0 <= x <= sys.maxsize."
  | notPair count => pairMessage count
  | noHome => "Could not determine home directory."
  | secretsInFile => "secrets_dir must reference a directory, not a file"
  | unreadableSetting setting source =>
    "error getting value for field \"" ++ String.ofList setting ++ "\" from source \"" ++
      String.ofList source ++ "\""
  | wordsExpected form =>
    "cli_parse_args must be a list or tuple of strings, received <class '" ++ form.label ++ "'>"
  | invalidStart start => "CLI settings source prefix is invalid: " ++ String.ofList start
  | wrongWords message => "error parsing CLI: " ++ message
  | exited _ => ""

end SourceError

end TextMacro
