import TextMacro.Text.DecimalDigit
import TextMacro.Text.Numeral
import TextMacro.Text.Search

/-!
# Words of a command line

Every word of a command line is read before any of them is acted on: it is an argument, the divider
after which there are only arguments, or an option. Which options there are is laid down by a
grammar. An option may be shortened, if the grammar allows it, as long as only one spelling starts
with it; it may have a value attached after an equals sign, and options of one letter may be run
together.
-/

namespace TextMacro.CommandLine

/-- How many values an option takes. -/
inductive Intake where
  | none
  | one
  | several
deriving DecidableEq, Repr

/-- The options `F` of a command line. -/
structure Grammar (F : Type) where
  /-- Every spelling with its option, in the order in which they are looked through. -/
  spellings : List (Text × F)
  /-- The name of an option in diagnostics. -/
  name : F → Text
  /-- How many values an option takes. -/
  intake : F → Intake
  /-- Whether options may be shortened. -/
  allowsShort : Bool

/-- The word after which there are only arguments. -/
def divider : Text := "--".toList

/-- How a word is read. -/
inductive Reading (F : Type) where
  /-- An argument. -/
  | argument
  /-- The divider after which there are only arguments. -/
  | divider
  /-- An option that the grammar does not have. -/
  | unknown
  /-- An option, whether it was spelled with one dash, and the text attached to it. -/
  | option (flag : F) (isShort : Bool) (attached : Option Text)
deriving DecidableEq, Repr

/-- A word with its reading. -/
structure Word (F : Type) where
  text : Text
  reading : Reading F
deriving DecidableEq, Repr

namespace Word

variable {F : Type}

/-- Whether the word is an argument. -/
def isArgument (word : Word F) : Bool :=
  match word.reading with
  | .argument => true
  | _ => false

/-- Whether the word is the divider. -/
def isDivider (word : Word F) : Bool :=
  match word.reading with
  | .divider => true
  | _ => false

/-- Whether the word is an option, known or not. -/
def isOption (word : Word F) : Bool :=
  !word.isArgument && !word.isDivider

end Word

/-- Whether a text consists of decimal digits, with a decimal point before the last of them or
without one. -/
def isDecimal (text : Text) : Bool :=
  match Text.cut? ['.'] text with
  | none => text ≠ [] && text.all Text.isDecimalDigit
  | some (whole, fraction) =>
    whole.all Text.isDecimalDigit && fraction ≠ [] && fraction.all Text.isDecimalDigit

/-- Whether a word looks like a negative number; a line feed at its end is overlooked. -/
def isNegativeNumber (word : Text) : Bool :=
  match word with
  | '-' :: digits => isDecimal (if digits.getLast? = some '\n' then digits.dropLast else digits)
  | _ => false

/-- The beginning of a word up to the first equals sign, and the text after it. -/
def splitEquals (word : Text) : Text × Option Text :=
  match Text.cut? ['='] word with
  | none => (word, none)
  | some (front, value) => (front, some value)

/-- Whether an option is spelled with one dash. -/
def isShortSpelling (spelling : Text) : Bool :=
  !divider.isPrefixOf spelling

namespace Grammar

variable {F : Type}

/-- The option of a spelling. -/
def flagOf? (grammar : Grammar F) (spelling : Text) : Option F :=
  grammar.spellings.lookup spelling

/-- The spellings that a word with a dash in front may stand for, with the text attached. -/
def candidates (grammar : Grammar F) (word : Text) : List (Text × Reading F) :=
  match word with
  | '-' :: '-' :: _ =>
    let (front, attached) := splitEquals word
    (grammar.spellings.filter fun entry =>
      grammar.allowsShort && front.isPrefixOf entry.1).map fun entry =>
        (entry.1, .option entry.2 false attached)
  | '-' :: letter :: value =>
    (grammar.spellings.filter fun entry => entry.1 == ['-', letter]).map fun entry =>
      (entry.1, .option entry.2 true (some value))
  | _ => []

/-- Read a word with a dash in front that spells no option exactly; the error holds the spellings
that a word may stand for if there is more than one. -/
def readDashed (grammar : Grammar F) (word : Text) : Except (List Text) (Reading F) :=
  match grammar.candidates word with
  | [] =>
    .ok (if isNegativeNumber word || word.contains ' ' then .argument else .unknown)
  | [(_, reading)] => .ok reading
  | several => .error (several.map Prod.fst)

/-- Read a word before the divider. -/
def readWord (grammar : Grammar F) (word : Text) : Except (List Text) (Reading F) :=
  if word.head? ≠ some '-' then .ok .argument
  else match grammar.flagOf? word with
    | some flag => .ok (.option flag (isShortSpelling word) none)
    | none =>
      if word.length = 1 then .ok .argument
      else match splitEquals word with
        | (front, some attached) =>
          match grammar.flagOf? front with
          | some flag => .ok (.option flag (isShortSpelling front) (some attached))
          | none => grammar.readDashed word
        | (_, none) => grammar.readDashed word

end Grammar

end TextMacro.CommandLine
