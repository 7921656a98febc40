import TextMacro.CommandLine.Word

/-!
# Demands of options

An option takes the values it needs from the text attached to it or from the arguments after it. A
text attached to an option that takes no value holds the letters of more options, if the option was
spelled with one dash. What is wrong with a command line is described here as well.
-/

namespace TextMacro.CommandLine

/-- What is wrong with a command line; options are named. -/
inductive UsageError where
  | ambiguous (word : Text) (spellings : List Text)
  | oneExpected (option : Text)
  | someExpected (option : Text)
  | valueIgnored (option : Text) (value : Text)
  | missing (names : List Text)
  | unrecognized (words : List Text)
deriving DecidableEq, Repr

namespace UsageError

/-- The diagnostic for a wrong command line. -/
def message : UsageError → String
  | ambiguous word spellings =>
    "ambiguous option: " ++ String.ofList word ++ " could match " ++
      String.ofList (Text.join ", ".toList spellings)
  | oneExpected option => "argument " ++ String.ofList option ++ ": expected one argument"
  | someExpected option =>
    "argument " ++ String.ofList option ++ ": expected at least one argument"
  | valueIgnored option value =>
    "argument " ++ String.ofList option ++ ": ignored explicit argument " ++ Text.quote value
  | missing names =>
    "the following arguments are required: " ++ String.ofList (Text.join ", ".toList names)
  | unrecognized words =>
    "unrecognized arguments: " ++ String.ofList (Text.join [' '] words)

end UsageError

/-- What one word asks for: options with their values, and the number of words after it that were
taken. -/
structure Demand (F : Type) where
  actions : List (F × List Text)
  taken : Nat

namespace Grammar

variable {F : Type}

/-- Read all words; those after the divider are arguments. -/
def readWords (grammar : Grammar F) : List Text → Except UsageError (List (Word F))
  | [] => .ok []
  | text :: texts =>
    if text = divider then
      .ok (⟨text, .divider⟩ :: texts.map fun text => ⟨text, .argument⟩)
    else match grammar.readWord text with
      | .error spellings => .error (.ambiguous text spellings)
      | .ok reading =>
        match grammar.readWords texts with
        | .error error => .error error
        | .ok words => .ok (⟨text, reading⟩ :: words)

/-- The values that an option takes from the words after it. -/
def takeValues (grammar : Grammar F) (flag : F) (words : List (Word F)) :
    Except UsageError (Demand F) :=
  let values := (words.takeWhile Word.isArgument).map Word.text
  match grammar.intake flag, values with
  | .none, _ => .ok ⟨[(flag, [])], 0⟩
  | .one, value :: _ => .ok ⟨[(flag, [value])], 1⟩
  | .one, [] => .error (.oneExpected (grammar.name flag))
  | .several, [] => .error (.someExpected (grammar.name flag))
  | .several, values => .ok ⟨[(flag, values)], values.length⟩

/-- Read an option with a text attached to it: the text is its value, or the letters of more options
that are spelled with one dash. -/
def readAttached (grammar : Grammar F) (flag : F) (isShort : Bool) (attached : Text)
    (words : List (Word F)) : Except UsageError (Demand F) :=
  if grammar.intake flag ≠ .none then .ok ⟨[(flag, [attached])], 0⟩
  else match attached with
    | [] => .error (.valueIgnored (grammar.name flag) [])
    | letter :: letters =>
      match if isShort then grammar.flagOf? ['-', letter] else none with
      | none => .error (.valueIgnored (grammar.name flag) (letter :: letters))
      | some next =>
        let demand :=
          if letters = [] then grammar.takeValues next words
          else grammar.readAttached next true letters words
        match demand with
        | .error error => .error error
        | .ok demand => .ok { demand with actions := (flag, []) :: demand.actions }

/-- Read an option. -/
def readOption (grammar : Grammar F) (flag : F) (isShort : Bool) (attached : Option Text)
    (words : List (Word F)) : Except UsageError (Demand F) :=
  match attached with
  | none => grammar.takeValues flag words
  | some attached => grammar.readAttached flag isShort attached words

end Grammar

end TextMacro.CommandLine
