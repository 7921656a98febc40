import TextMacro.Settings.Home
import TextMacro.Settings.SourceOptions
import TextMacro.Text.Line
import TextMacro.Text.Space

/-!
# Environment files

An environment file assigns values to names, one on each line. A line may start with the word
`export`, spaces may surround the name and the value, and a number sign after a space starts a
comment. A name may also stand alone, which leaves it without a value. Lines of any other form are
ignored. Within a value a name in braces after a dollar sign stands for the value of that name: what
the file has assigned before, or else what the environment holds, or else the default that may
follow the name.
-/

namespace TextMacro

/-- Names and their values; a name may be without a value. -/
abbrev Assignments := List (Text × Option Text)

namespace Assignments

/-- The assignments with the value of a name set, which keeps the place of a name that is known. -/
def assign (name : Text) (value : Option Text) : Assignments → Assignments
  | [] => [(name, value)]
  | entry :: entries =>
    if entry.1 = name then (name, value) :: entries else entry :: assign name value entries

end Assignments

namespace EnvironmentFile

/-- Whether a character can be part of a name. -/
def isNameCharacter (c : Char) : Bool :=
  c != '=' && c != '#' && !Text.isSpace c

/-- The text before a number sign that follows a space, and before that space. -/
def dropComment : Text → Text
  | [] => []
  | c :: cs =>
    if Text.isSpace c && (Text.trimStart cs).head? == some '#' then [] else c :: dropComment cs

/-- A line without the word `export` in front. -/
def dropExport (line : Text) : Text :=
  let word := "export".toList
  let rest := line.drop word.length
  if word.isPrefixOf line && rest.head?.any Text.isSpace then Text.trimStart rest else line

/-- The name on a line and the value assigned to it, if there is one. -/
def readLine (line : Text) : Option (Text × Option Text) :=
  let line := dropExport (Text.trimStart line)
  let name := line.takeWhile isNameCharacter
  if name = [] then none
  else match Text.trimStart (line.dropWhile isNameCharacter) with
    | [] | '#' :: _ => some (name, none)
    | '=' :: value => some (name, some (Text.trim (dropComment value)))
    | _ => none

/-- A reference to a name, with the default that may follow it. -/
structure Reference where
  name : Text
  fallback : Option Text
deriving DecidableEq, Repr

/-- The reference of which a text holds what follows the opening brace, and the text after it. -/
def readReference (text : Text) : Option (Reference × Text) :=
  let name := text.takeWhile fun c => c != '}' && c != ':'
  match text.drop name.length with
  | '}' :: rest => some (⟨name, none⟩, rest)
  | ':' :: '-' :: more =>
    let fallback := more.takeWhile (· != '}')
    match more.drop fallback.length with
    | _ :: rest => some (⟨name, some fallback⟩, rest)
    | [] => none
  | _ => none

/-- A reference takes at least one character. -/
theorem length_lt_of_readReference {text rest : Text} {reference : Reference}
    (h : readReference text = some (reference, rest)) : rest.length < text.length := by
  simp only [readReference] at h
  split at h
  · next after hdrop =>
    have := congrArg List.length hdrop
    simp only [Option.some.injEq, Prod.mk.injEq] at h
    simp only [List.length_drop, List.length_cons] at this
    grind
  · next more hdrop =>
    have hlength := congrArg List.length hdrop
    split at h
    · next after hmore =>
      have := congrArg List.length hmore
      simp only [Option.some.injEq, Prod.mk.injEq] at h
      simp only [List.length_drop, List.length_cons] at this hlength
      grind
    · simp at h
  · simp at h

/-- A text with its references replaced by what they stand for. -/
def substitute (resolve : Reference → Text) (text : Text) : Text :=
  match text with
  | [] => []
  | '$' :: '{' :: rest =>
    match h : readReference rest with
    | some (reference, after) =>
      have := length_lt_of_readReference h
      resolve reference ++ substitute resolve after
    | none => '$' :: substitute resolve ('{' :: rest)
  | c :: rest => c :: substitute resolve rest
termination_by text.length
decreasing_by all_goals simp only [List.length_cons]; omega

/-- What a reference stands for after some assignments. -/
def resolve (environment : List (Text × Text)) (assignments : Assignments)
    (reference : Reference) : Text :=
  match assignments.lookup reference.name with
  | some value => value.getD []
  | none =>
    match environment.lookup reference.name with
    | some value => value
    | none => reference.fallback.getD []

/-- The assignments after one more line. -/
def addLine (environment : List (Text × Text)) (assignments : Assignments) (line : Text) :
    Assignments :=
  match readLine line with
  | none => assignments
  | some (name, value) =>
    assignments.assign name (value.map (substitute (resolve environment assignments)))

/-- The assignments of an environment file. -/
def read (environment : List (Text × Text)) (text : Text) : Assignments :=
  (Text.pieces '\n' (Text.lineFeedsOnly (Text.dropMark text))).foldl (addLine environment) []

/-- The name of the encoding of environment files. -/
def encodingName (options : SourceOptions) : Except SourceError Text :=
  match options.fileEncoding with
  | .text name => .ok name
  | value => .error (.ofMisfit (.asEncoding value.form))

/-- The assignments of the file at a path, which has none if it is no file. In that case the depth
up to which a file may be looked for has to be a number, and one of a machine word. -/
def readFile (tree : FileTree) (options : SourceOptions) (environment : List (Text × Text))
    (path : SourcePath) : Except SourceError Assignments :=
  match tree.status path with
  | .error error => .error (.failed (.system error path))
  | .ok (some (.file bytes)) => do
    let name ← encodingName options
    return read environment (← (decodeAs name bytes).mapError .failed)
  | .ok _ =>
    match options.fileDepth.number? with
    | some depth => if depth < wordBound then .ok [] else .error .depthTooWide
    | none => .error (.ofMisfit (.compared "<=" options.fileDepth.form .number))

/-- The assignments of the files that values name, one after another. -/
def readFiles (tree : FileTree) (options : SourceOptions) (environment : List (Text × Text)) :
    List Value → Except SourceError Assignments
  | [] => return []
  | value :: values => do
    let path ← Home.pathOf environment value
    let assignments ← readFile tree options environment path
    return assignments ++ (← readFiles tree options environment values)

/-- The assignments of the files that the options name. -/
def readAll (tree : FileTree) (options : SourceOptions) (environment : List (Text × Text)) :
    Except SourceError Assignments := do
  let values ← options.environmentFiles.paths.mapError .ofMisfit
  readFiles tree options environment values

end EnvironmentFile

end TextMacro
