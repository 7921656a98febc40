import TextMacro.SourcePath
import TextMacro.Value

/-!
# Misfits

A value can be given in a form that does not fit its use. What cannot be done with such a value is a
misfit.
-/

namespace TextMacro

/-- What cannot be done with a value. -/
inductive Misfit where
  /-- An operator has no meaning for operands of these forms. -/
  | operands (operator : String) (left right : Form)
  /-- A relation does not hold between things of these forms, nor does it fail to hold. -/
  | compared (relation : String) (left right : Form)
  /-- A value of this form is no path. -/
  | asPath (form : Form)
  /-- A value of this form is no name of an encoding. -/
  | asEncoding (form : Form)
  /-- A value of this form is no variable of the environment. -/
  | asVariable (form : Form)
  /-- A value of this form cannot be looked up. -/
  | asKey (form : Form)
  /-- A value of this form is no offset. -/
  | asOffset (form : Form)
  /-- A value of this form is no literal text to look for. -/
  | asLiteral (form : Form)
  /-- A value of this form cannot be the content of a file. -/
  | asContent (form : Form)
  /-- Something that is no number is no place to cut at. -/
  | asCut
  /-- A table cannot be cut. -/
  | uncut
  /-- A value of this form cannot be put together with a text. -/
  | appended (form : Form)
  /-- The argument of this number is no text to replace, or to replace one with. -/
  | replaced (number : Nat) (form : Form)
  /-- A value of this form is no word. -/
  | asWord (form : Form)
  /-- A value of this form cannot be gone through. -/
  | iterated (form : Form)
  /-- A value that cannot be gone through cannot be joined. -/
  | unjoinable
  /-- The item of this number cannot be joined, as it has this form. -/
  | joined (number : Nat) (form : Form)
  /-- A value of this form cannot be taken apart. -/
  | unpacked (form : Form)
  /-- A value of this form has no length. -/
  | measured (form : Form)
  /-- A value of this form has no entries with names. -/
  | indexed (form : Form)
  /-- A value of this form cannot be asked for settings. -/
  | uncallable (form : Form)
  /-- A command cannot be called with this number of arguments for its parameters. -/
  | called (command : Text) (parameters : List Text) (found : Nat)
deriving DecidableEq, Repr

namespace Misfit

/-- The ending of a word for a number of things. -/
def plural (count : Nat) : String :=
  if count = 1 then "" else "s"

/-- The diagnostic for a call with a wrong number of arguments. -/
def callMessage (command : Text) (parameters : List Text) (found : Nat) : String :=
  let subject :=
    "CommandRegistry.builtinCommands_register.<locals>." ++ String.ofList command ++ "_handler()"
  let missing := parameters.drop found
  if missing = [] then
    subject ++ " takes " ++ toString parameters.length ++ " positional argument" ++
      plural parameters.length ++ " but " ++ toString found ++ " positional argument" ++
      plural found ++ " (and 4 keyword-only arguments) were given"
  else
    subject ++ " missing " ++ toString missing.length ++ " required positional argument" ++
      plural missing.length ++ ": " ++
      " and ".intercalate (missing.map fun name => "'" ++ String.ofList name ++ "'")

/-- The diagnostic for a value without named entries. -/
def indexMessage : Form → String
  | .list => "list indices must be integers or slices, not str"
  | .text => "string indices must be integers, not 'str'"
  | form => "'" ++ form.label ++ "' object is not subscriptable"

/-- The diagnostic for a misfit. -/
def message : Misfit → String
  | operands operator left right =>
    "unsupported operand type(s) for " ++ operator ++ ": '" ++ left.label ++ "' and '" ++
      right.label ++ "'"
  | compared relation left right =>
    "'" ++ relation ++ "' not supported between instances of '" ++ left.label ++ "' and '" ++
      right.label ++ "'"
  | asPath form => "expected str, bytes or os.PathLike object, not " ++ form.label
  | asEncoding form => "open() argument 'encoding' must be str or None, not " ++ form.label
  | asVariable form => "str expected, not " ++ form.label
  | asKey form => "unhashable type: '" ++ form.label ++ "'"
  | asOffset form => "'" ++ form.label ++ "' object cannot be interpreted as an integer"
  | asLiteral form => "decoding to str: need a bytes-like object, " ++ form.label ++ " found"
  | asContent form => "write() argument must be str, not " ++ form.argumentLabel
  | asCut => "slice indices must be integers or None or have an __index__ method"
  | uncut => "unhashable type: 'slice'"
  | appended form =>
    "can only concatenate " ++ form.label ++ " (not \"str\") to " ++ form.label
  | replaced number form =>
    "replace() argument " ++ toString number ++ " must be str, not " ++ form.argumentLabel
  | asWord form => "expected string or bytes-like object, got '" ++ form.label ++ "'"
  | iterated form => "'" ++ form.label ++ "' object is not iterable"
  | unjoinable => "can only join an iterable"
  | joined number form =>
    "sequence item " ++ toString number ++ ": expected str instance, " ++ form.label ++ " found"
  | unpacked form => "cannot unpack non-iterable " ++ form.label ++ " object"
  | measured form => "object of type '" ++ form.label ++ "' has no len()"
  | indexed form => indexMessage form
  | uncallable form => "'" ++ form.label ++ "' object is not callable"
  | called command parameters found => callMessage command parameters found

end Misfit

namespace Value

/-- What a value holds when it is gone through. -/
def items (value : Value) : Except Misfit (List Value) :=
  match value.items? with
  | some items => .ok items
  | none => .error (.iterated value.form)

/-- The texts among values, up to the first that is none, and that one. -/
def texts : List Value → List Text × Option Value
  | [] => ([], none)
  | text first :: others => (texts others).map (first :: ·) id
  | value :: _ => ([], some value)

/-- Texts are texts. -/
@[simp]
theorem texts_map_text (names : List Text) : texts (names.map text) = (names, none) := by
  induction names with
  | nil => rfl
  | cons name names ih => simp [texts, ih]

/-- The text that a value is, where a text is searched for words. -/
def words : Value → Except Misfit Text
  | text value => .ok value
  | value => .error (.asWord value.form)

/-- What a value holds, joined with a separator between neighbours. -/
def join (separator : Text) (value : Value) : Except Misfit Text :=
  match value.items? with
  | none => .error .unjoinable
  | some items =>
    match texts items with
    | (pieces, none) => .ok (Text.join separator pieces)
    | (pieces, some odd) => .error (.joined pieces.length odd.form)

/-- The names that a value holds, up to something that is no name, and what is wrong with it. A text
is a single name, although it is gone through by its characters where a list is asked for. -/
def names : Value → Except Misfit (List Text × Option Misfit)
  | text name => .ok ([name], none)
  | value => value.items.map fun items =>
    (texts items).map id (Option.map fun odd => .asPath odd.form)

/-- A list of texts holds those names. -/
@[simp]
theorem names_list_text (names : List Text) :
    (list (names.map text)).names = .ok (names, none) := by
  simp [Value.names, items, items?, Except.map]

/-- The name of a file that a value is. -/
def name : Value → Except Misfit Text
  | text name => .ok name
  | value => .error (.asPath value.form)

/-- The text of a variable that a value is. -/
def variableText : Value → Except Misfit Text
  | text value => .ok value
  | value => .error (.asVariable value.form)

/-- The path that a value is. -/
def path (value : Value) : Except Misfit SourcePath :=
  value.name.map .ofText

/-- The path that a value is, unless it is null. -/
def path? : Value → Except Misfit (Option SourcePath)
  | null => .ok none
  | value => value.path.map some

/-- The paths that a value holds, of which there are none when it is null. -/
def pathList : Value → Except Misfit (List SourcePath)
  | null => .ok []
  | value => value.items >>= fun items => items.mapM path

/-- The directory that a value is, unless it counts as false. -/
def directory? (value : Value) : Except Misfit (Option SourcePath) :=
  if value.holds then value.path.map some else .ok none

mutual

/-- Whether a value is at least another one: numbers by size, texts in the order of their code
points, and lists by the first items that differ. -/
def atLeast : Value → Value → Except Misfit Bool
  | text first, text second => .ok (second.isAtMost first)
  | list first, list second => atLeastItems first second
  | first, second =>
    match first.number?, second.number? with
    | some first, some second => .ok (second ≤ first)
    | _, _ => .error (.compared ">=" first.form second.form)

/-- Whether a list is at least another one. -/
def atLeastItems : List Value → List Value → Except Misfit Bool
  | _, [] => .ok true
  | [], _ :: _ => .ok false
  | first :: firsts, second :: seconds =>
    if equal first second then atLeastItems firsts seconds else atLeast first second

end

end Value

end TextMacro
