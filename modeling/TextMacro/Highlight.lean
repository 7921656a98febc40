import TextMacro.Text.Line
import TextMacro.Token

/-!
# Coloured block bodies

A block body is shown on a terminal with its directives, strings and blanks in colour. The body is
first brought to a normal form: a byte order mark in front is dropped, every line ends in a line
feed, there are no line feeds at either end, and one is added. Colour is set and reset for each line
of a token, so that no colour runs past the end of a line.
-/

namespace TextMacro.Highlight

/-- The characters after which a line ends; a carriage return does not occur in a normal form. -/
def isLineBreak (c : Char) : Bool :=
  c == '\n' || c == '\x0b' || c == '\x0c' || c == '\x1c' || c == '\x1d' || c == '\x1e' ||
    c == '\u0085' || c == '\u2028' || c == '\u2029'

/-- The lines of a text, each with the character that ends it. -/
def lines : Text → List Text
  | [] => []
  | c :: cs =>
    if isLineBreak c then [c] :: lines cs
    else match lines cs with
      | [] => [[c]]
      | line :: others => (c :: line) :: others

/-- The text without the line feeds at its end. -/
def trimEnd (text : Text) : Text :=
  (text.reverse.dropWhile (· == '\n')).reverse

/-- The text without the line feeds at its ends. -/
def trim (text : Text) : Text :=
  trimEnd (text.dropWhile (· == '\n'))

/-- The normal form of a body, before the line feed that is added to it. -/
def normalize (text : Text) : Text :=
  trim (Text.lineFeedsOnly (Text.dropMark text))

/-- The colour of a token, if it has one. -/
def color (token : Token) : Option Text :=
  match token.kind with
  | .directive => some ['3', '2']
  | .string => some ['3', '3']
  | .word => none
  | .char => if token.isBlank then some ['3', '7'] else none

/-- A piece of one line in a colour. -/
def paint (color piece : Text) : Text :=
  '\x1b' :: '[' :: color ++ 'm' :: piece ++
    ['\x1b', '[', '3', '9', ';', '4', '9', ';', '0', '0', 'm']

/-- One line of a token: the colour ends before a line feed. -/
def showLine (color : Option Text) (line : Text) : Text :=
  let content := if line.getLast? = some '\n' then line.dropLast else line
  let ending := if line.getLast? = some '\n' then ['\n'] else []
  (match color with
    | some color => paint color content
    | none => content) ++ ending

/-- A token in its colour. -/
def showToken (token : Token) : Text :=
  (lines token.value).flatMap (showLine (color token))

/-- A block body in colour. -/
def body (text : Text) : Text :=
  trimEnd ((tokenize (normalize text ++ ['\n'])).flatMap showToken)

end TextMacro.Highlight
