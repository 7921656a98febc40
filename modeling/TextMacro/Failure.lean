import TextMacro.Encoding.Name
import TextMacro.FileTree
import TextMacro.Misfit

/-!
# Failures

A failure starts with a cause. A cause that is met while a file is expanded becomes a build failure:
it keeps its origin and the place where it was first seen, and collects one trace entry for every
block that was being processed, innermost first. The wording of every diagnostic is fixed here.
-/

namespace TextMacro

/-- Why something could not be done. -/
inductive Cause where
  | unmatchedToken (token : Text)
  | invalidCommand (name : Text)
  | arity (name : Text) (expected found : Int)
  | missingFile (path : Text)
  | includeCycle (chain : List Text)
  | noOutputPath
  | refused (message : Text)
  | invalidValue (message : Text)
  | nullInPath
  | system (error : SystemError) (path : SourcePath)
  | encodingName (fault : Encoding.NameFault) (name : Text)
  | undecodable (error : DecodeError)
  | unencodable (error : EncodeError)
  | indexOutOfRange
  /-- An index has too many digits to be one. -/
  | indexTooWide
  /-- An offset has too many digits to be one. -/
  | offsetTooWide
  | misfit (what : Misfit)
  /-- A value of this form does not have what is asked of it. -/
  | lacking (form : Form) (feature : String)
  /-- There is no setting of this name. -/
  | unknownSetting (name : Text)
  | missingEntry (name : Text)
deriving DecidableEq

namespace SystemError

/-- The number of a system error. -/
def code : SystemError → Nat
  | notFound => 2
  | alreadyExists => 17
  | notDirectory => 20
  | isDirectory => 21
  | nameTooLong => 36

/-- The description of a system error. -/
def message : SystemError → String
  | notFound => "No such file or directory"
  | alreadyExists => "File exists"
  | notDirectory => "Not a directory"
  | isDirectory => "Is a directory"
  | nameTooLong => "File name too long"

end SystemError

namespace Cause

/-- The diagnostic for a command with too few arguments. -/
def arityMessage (name expected found : Value) : String :=
  let noun := if expected.isOne then "argument" else "arguments"
  let verb := if found.isOne then "was" else "were"
  "Expected " ++ String.ofList expected.toText ++ " " ++ noun ++ " for @" ++
    String.ofList name.toText ++ ", but only " ++ String.ofList found.toText ++ " " ++ verb ++
    " found"

/-- What stands between files that include each other. -/
def arrow : Text := " -> ".toList

/-- The diagnostic for files that include each other, shown in a row. -/
def cycleMessage (row : Text) : String :=
  "Include cycle: " ++ String.ofList row

/-- The diagnostic for a cause. -/
def message : Cause → String
  | unmatchedToken token => "Unmatched token '" ++ String.ofList token ++ "'"
  | invalidCommand name => "Invalid command @" ++ String.ofList name
  | arity name expected found => arityMessage (.text name) (.number expected) (.number found)
  | missingFile path => "File not found '" ++ String.ofList path ++ "'"
  | includeCycle chain => cycleMessage (Text.join arrow chain)
  | noOutputPath => "You must define an output file"
  | refused message => String.ofList message
  | invalidValue message => String.ofList message
  | nullInPath => "embedded null byte"
  | system error path =>
    "[Errno " ++ toString error.code ++ "] " ++ error.message ++ ": " ++ Text.quote path.toText
  | encodingName fault name => fault.message name
  | undecodable error => error.message
  | unencodable error => error.message
  | indexOutOfRange => "tuple index out of range"
  | indexTooWide => "cannot fit 'int' into an index-sized integer"
  | offsetTooWide => "Python int too large to convert to C ssize_t"
  | .misfit what => what.message
  | lacking form feature => "'" ++ form.label ++ "' object has no attribute '" ++ feature ++ "'"
  | unknownSetting name => "\"AppSettings\" object has no field \"" ++ String.ofList name ++ "\""
  | missingEntry name => Text.quote name

/-- Whether the cause lies in a block that is malformed. -/
def isMalformed : Cause → Bool
  | unmatchedToken _ | invalidCommand _ | arity .. => true
  | _ => false

/-- Whether the cause belongs to the expansion of blocks as such. -/
def isExpansionFault : Cause → Bool
  | unmatchedToken _ | invalidCommand _ | arity .. | missingFile _ | includeCycle _
  | noOutputPath | refused _ => true
  | _ => false

/-- Whether the cause is an error of the file system. -/
def isSystemFault : Cause → Bool
  | system .. => true
  | _ => false

/-- Whether a build reports the cause as a build failure when it meets it outside of any block. -/
def isReported : Cause → Bool
  | undecodable _ => true
  | cause => cause.isExpansionFault || cause.isSystemFault

end Cause

/-- The text of bytes in the encoding that a name denotes. -/
def decodeAs (name : Text) (bytes : List UInt8) : Except Cause Text :=
  match Encoding.ofName name with
  | .error fault => .error (.encodingName fault name)
  | .ok encoding => (encoding.decode bytes).mapError .undecodable

/-- The text that a value is, where bytes would do as well. -/
def Value.decoded : Value → Except Cause Text
  | text value => .ok value
  | value => .error (.lacking value.form "decode")

/-- A file and the line of a block in it, counted from zero. -/
structure Place where
  file : Text
  line : Int
deriving DecidableEq, Repr

namespace Place

/-- The trace line of a file and a line in it. -/
def traceLine (file line : Value) : String :=
  "at " ++ String.ofList file.toText ++ ":" ++ String.ofList line.toText

/-- The trace line of a place. -/
def message (place : Place) : String :=
  traceLine (.text place.file) (.number place.line)

end Place

/-- What a build failure goes back to: a cause, or a message of its own. -/
inductive Origin where
  | caused (cause : Cause)
  | stated (message : Text)
deriving DecidableEq

namespace Origin

/-- The diagnostic of an origin. -/
def message : Origin → String
  | .caused cause => cause.message
  | .stated message => String.ofList message

end Origin

/-- A failure with the place where it was first seen and the trace of enclosing blocks. -/
structure BuildFailure where
  origin : Origin
  file : Option Text
  line : Option Int
  trace : List Place
deriving DecidableEq

namespace BuildFailure

/-- The failure with one more enclosing block. -/
def push (failure : BuildFailure) (place : Place) : BuildFailure :=
  { failure with trace := failure.trace ++ [place] }

/-- A diagnostic with the lines of a trace below it. -/
def assemble (message : String) (lines : List String) : String :=
  "\n".intercalate (message :: lines.map fun line => "    " ++ line)

/-- A diagnostic of any form with the lines of a trace below it; only texts go together. -/
def assembleValue (message : Value) (lines : List String) : Except Misfit String :=
  match message with
  | .text message => .ok (assemble (String.ofList message) lines)
  | message => .error (.joined 0 message.form)

/-- The diagnostic with one line for each entry of the trace. -/
def render (failure : BuildFailure) : String :=
  assemble failure.origin.message (failure.trace.map Place.message)

end BuildFailure

/-- A failure: a cause on its own, or a build failure. -/
inductive Failure where
  | plain (cause : Cause)
  | build (failure : BuildFailure)
deriving DecidableEq

namespace Failure

/-- The diagnostic of a failure. -/
def message : Failure → String
  | plain cause => cause.message
  | build failure => failure.render

/-- The failure as a block at `place` passes it on. -/
def within (failure : Failure) (place : Place) : Failure :=
  match failure with
  | plain cause => build ⟨.caused cause, some place.file, some place.line, [place]⟩
  | build failure => build (failure.push place)

/-- The failure as a build of `path` reports it. -/
def ofBuild (failure : Failure) (path : Text) : Failure :=
  match failure with
  | plain cause =>
    if cause.isReported then build ⟨.caused cause, some path, none, []⟩ else plain cause
  | build failure => build failure

end Failure

end TextMacro
