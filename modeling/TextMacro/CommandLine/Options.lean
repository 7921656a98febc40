import TextMacro.CommandLine.Demand

/-!
# Options of a command line

The words of a command line are taken from left to right. An option takes the values it needs from
the arguments after it; the other arguments are the input directory and then the output directory. A
word that nothing takes is an error, but only after it is known that nothing required is missing. An
option that shows something ends the reading as soon as it is met.
-/

namespace TextMacro.CommandLine

/-- The options of the program. -/
inductive Flag where
  | help
  | inputFiles
  | outputFile
  | verbosity
  | version
  | saveInputMeta
  | saveOutputMeta
deriving DecidableEq, Repr

namespace Flag

/-- All options, in the order in which they are looked through. -/
def all : List Flag :=
  [help, inputFiles, outputFile, verbosity, version, saveInputMeta, saveOutputMeta]

/-- The spellings of an option. -/
def spellings : Flag → List Text
  | help => ["-h".toList, "--help".toList]
  | inputFiles => ["--inputFiles".toList]
  | outputFile => ["--outputFile".toList]
  | verbosity => ["-v".toList, "--verbosity".toList]
  | version => ["-V".toList, "--version".toList]
  | saveInputMeta => ["--saveinputmeta".toList]
  | saveOutputMeta => ["--saveoutputmeta".toList]

/-- How many values the option takes. -/
def intake : Flag → Intake
  | inputFiles => .several
  | outputFile => .one
  | _ => .none

/-- The name of the option in diagnostics. -/
def name (flag : Flag) : Text :=
  Text.join ['/'] flag.spellings

end Flag

/-- The options of the program as a grammar. -/
def programGrammar : Grammar Flag where
  spellings := Flag.all.flatMap fun flag => flag.spellings.map fun spelling => (spelling, flag)
  name := Flag.name
  intake := Flag.intake
  allowsShort := true

/-- What a command line asks for, as far as it has been read.

The name of the output file and the directories may have been given without a value: the divider is
no value, where it is not taken for the divider. -/
structure Options where
  inputFiles : Option (List Text) := none
  outputFile : Option (Option Text) := none
  verbosity : Int := 1
  inputdir : Option (Option Text) := none
  outputdir : Option (Option Text) := none
  leftover : List Text := []
deriving DecidableEq, Repr

/-- Why the reading of a command line ends before its last word. -/
inductive Stop where
  | wrong (error : UsageError)
  | showVersion
  | showHelp
deriving DecidableEq, Repr

/-- Act on an option with its values, of which the divider is none. -/
def apply (options : Options) (flag : Flag) (values : List Text) : Except Stop Options :=
  match flag with
  | .help => .error .showHelp
  | .version => .error .showVersion
  | .inputFiles => .ok { options with inputFiles := some (values.erase divider) }
  | .outputFile => .ok { options with outputFile := some (values.erase divider).head? }
  | .verbosity => .ok { options with verbosity := options.verbosity + 1 }
  | .saveInputMeta | .saveOutputMeta => .ok options

/-- Act on options in order. -/
def applyAll (options : Options) : List (Flag × List Text) → Except Stop Options
  | [] => .ok options
  | (flag, values) :: others =>
    match apply options flag values with
    | .error stop => .error stop
    | .ok options => applyAll options others

/-- The argument at the front, between dividers, and the words after it. An argument that reads like
the divider has no value, unless the divider itself stands in front of it. -/
def takeArgument? (words : List (Word Flag)) : Option (Option Text × List (Word Flag)) :=
  match words.dropWhile Word.isDivider with
  | word :: rest =>
    if word.isArgument then
      let isDivided := words.head?.any Word.isDivider
      some (if isDivided || word.text ≠ divider then some word.text else none,
        rest.dropWhile Word.isDivider)
    else none
  | [] => none

/-- Take the directories that are still needed from the arguments at the front. -/
def takeDirectories (options : Options) (words : List (Word Flag)) : Options × List (Word Flag) :=
  let (options, words) :=
    match options.inputdir, takeArgument? words with
    | none, some (directory, rest) => ({ options with inputdir := some directory }, rest)
    | _, _ => (options, words)
  match options.inputdir, options.outputdir, takeArgument? words with
  | some _, none, some (directory, rest) => ({ options with outputdir := some directory }, rest)
  | _, _, _ => (options, words)

/-- Add the words that nothing takes. -/
def leave (options : Options) (words : List (Word Flag)) : Options :=
  { options with leftover := options.leftover ++ words.map Word.text }

/-- Take the words one after another. -/
def takeWords (options : Options) (words : List (Word Flag)) : Except Stop Options :=
  if !words.any Word.isOption then
    let (options, rest) := takeDirectories options words
    .ok (leave options rest)
  else match words with
    | [] => .ok options
    | word :: rest =>
      match word.reading with
      | .option flag isShort attached =>
        match programGrammar.readOption flag isShort attached rest with
        | .error error => .error (.wrong error)
        | .ok demand =>
          match applyAll options demand.actions with
          | .error stop => .error stop
          | .ok options => takeWords options (rest.drop demand.taken)
      | .unknown => takeWords (leave options [word]) rest
      | _ =>
        let (found, after) := takeDirectories options (word :: rest)
        if after.length < (word :: rest).length then takeWords found after
        else
          takeWords (leave options ((word :: rest).takeWhile (!·.isOption)))
            (rest.dropWhile (!·.isOption))
termination_by words.length
decreasing_by
  · simp only [List.length_drop, List.length_cons]; omega
  · simp
  · assumption
  · have := (List.dropWhile_sublist (l := rest) (!·.isOption)).length_le
    simp only [List.length_cons]; omega

/-- The names of what is required and was not given. -/
def missingNames (options : Options) : List Text :=
  (if options.inputFiles.isNone then [Flag.inputFiles.name] else []) ++
  (if options.outputFile.isNone then [Flag.outputFile.name] else []) ++
  (if options.inputdir.isNone then ["inputdir".toList] else []) ++
  (if options.outputdir.isNone then ["outputdir".toList] else [])

/-- A command line with everything that is required, though perhaps without a value. -/
structure Command where
  inputFiles : List Text
  outputFile : Option Text
  verbosity : Int
  inputdir : Option Text
  outputdir : Option Text
deriving DecidableEq, Repr

/-- Read a command line. -/
def parse (texts : List Text) : Except Stop Command :=
  match programGrammar.readWords texts with
  | .error error => .error (.wrong error)
  | .ok words =>
    match takeWords {} words with
    | .error stop => .error stop
    | .ok options =>
      match options.inputFiles, options.outputFile, options.inputdir, options.outputdir with
      | some inputFiles, some outputFile, some inputdir, some outputdir =>
        if options.leftover = [] then
          .ok ⟨inputFiles, outputFile, options.verbosity, inputdir, outputdir⟩
        else .error (.wrong (.unrecognized options.leftover))
      | _, _, _, _ => .error (.wrong (.missing (missingNames options)))

end TextMacro.CommandLine
