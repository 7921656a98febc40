import TextMacro.Block
import TextMacro.Failure

/-!
# Settings

What can be chosen about a build: the block markers, the encoding of all files, and whether a file
that includes itself is detected.
-/

namespace TextMacro

/-- What is given as the encoding of files: a name, or something of a form that is no name. -/
inductive EncodingSetting where
  | named (name : Text)
  | misfit (form : Form)
deriving DecidableEq, Repr

/-- The settings of a build. -/
structure Settings where
  markers : Markers
  encoding : EncodingSetting
  detectCycles : Bool
deriving DecidableEq, Repr

/-- The name of the encoding for which nothing was chosen. -/
def Encoding.usualName : Text := "utf-8".toList

namespace EncodingSetting

/-- The setting that a value is. Nothing stands for the encoding of the surroundings. -/
def ofValue : Value → EncodingSetting
  | .text name => named name
  | .null => named "locale".toList
  | value => misfit value.form

/-- The encoding of the setting, unless there is none or it is not supported. -/
def find : EncodingSetting → Except Cause Encoding
  | named name => (Encoding.ofName name).mapError (.encodingName · name)
  | misfit form => .error (.misfit (.asEncoding form))

/-- Whether files can be opened with the setting at all, be there such an encoding or not. -/
def isUsable : EncodingSetting → Bool
  | named name => !name.contains '\x00'
  | misfit _ => false

end EncodingSetting

namespace Settings

/-- The names of the settings. -/
def names : List Text :=
  ["open_marker".toList, "close_marker".toList, "encoding".toList,
    "detect_include_cycles".toList]

/-- The settings of a build for which nothing was chosen. -/
def default : Settings where
  markers := ⟨"/*buildjs".toList, "*/".toList⟩
  encoding := .named Encoding.usualName
  detectCycles := true

end Settings

end TextMacro
