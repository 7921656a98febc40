import TextMacro.Text.Numeral

/-!
# Values

Some things are given from outside in a form that is not known beforehand: settings and the options
of their sources, what a build starts from, and the entries of a report. Such a thing is a value.
This module says what form a value has, whether it counts as true, when two values are equal, what a
value holds when it is gone through, and how messages show it.
-/

namespace TextMacro

/-- The form of a value. -/
inductive Form where
  | path
  | text
  | number
  | truth
  | list
  | table
  | nothing
deriving DecidableEq, Repr

namespace Form

/-- The name of a form in diagnostics. -/
def label : Form → String
  | path => "PosixPath"
  | text => "str"
  | number => "int"
  | truth => "bool"
  | list => "list"
  | table => "dict"
  | nothing => "NoneType"

/-- The name of a form in diagnostics about an argument, where a missing value is named as such. -/
def argumentLabel : Form → String
  | nothing => "None"
  | form => form.label

end Form

/-- The first number that does not fit into 64 bits with a sign: `2 ^ 63`. -/
def wordBound : Int := 9223372036854775808

/-- Whether a number fits into 64 bits with a sign. -/
def fitsWord (number : Int) : Bool :=
  -wordBound ≤ number && number < wordBound

/-- A value of any form. -/
inductive Value where
  | null
  | truth (value : Bool)
  | number (value : Int)
  | text (value : Text)
  | list (items : List Value)
  | table (entries : List (Text × Value))
deriving Inhabited, Repr

namespace Value

/-- The form of a value. -/
def form : Value → Form
  | null => .nothing
  | truth _ => .truth
  | number _ => .number
  | text _ => .text
  | list _ => .list
  | table _ => .table

/-- Whether a value counts as true: nothing, zero and what is empty do not. -/
def holds : Value → Bool
  | null => false
  | truth value => value
  | number value => value ≠ 0
  | text value => !value.isEmpty
  | list items => !items.isEmpty
  | table entries => !entries.isEmpty

/-- The text that a value is, if it is one. -/
def text? : Value → Option Text
  | text value => some value
  | _ => none

/-- The whole number that a value is, if it is one; a truth value is one or zero. -/
def number? : Value → Option Int
  | number value => some value
  | truth value => some (if value then 1 else 0)
  | _ => none

/-- The value after a change of the number that it is to another one. -/
def moveTo (value : Value) (number : Int) : Value :=
  if value.number? = some number then value else .number number

/-- A number that is changed is the new number. -/
@[simp]
theorem moveTo_number (old new : Int) : (number old).moveTo new = number new := by
  by_cases h : old = new <;> simp [moveTo, number?, h]

/-- Whether a value equals one. -/
def isOne (value : Value) : Bool :=
  value.number? == some 1

/-- A value, unless it is null. -/
def given? : Value → Option Value
  | null => none
  | value => some value

/-- What a value holds when it is gone through: the items of a list, the names of a table, the
characters of a text. -/
def items? : Value → Option (List Value)
  | text value => some (value.map fun c => text [c])
  | list items => some items
  | table entries => some (entries.map fun entry => text entry.1)
  | _ => none

mutual

/-- Whether two values are equal; a truth value equals the number that it is. -/
def equal : Value → Value → Bool
  | null, null => true
  | text first, text second => first == second
  | list first, list second => equalItems first second
  | table first, table second => equalEntries first second
  | truth first, second => second.number? == some (if first then 1 else 0)
  | number first, second => second.number? == some first
  | _, _ => false

/-- Whether the items of two lists are equal, one by one. -/
def equalItems : List Value → List Value → Bool
  | [], [] => true
  | first :: firsts, second :: seconds => equal first second && equalItems firsts seconds
  | _, _ => false

/-- Whether the entries of two tables are equal, one by one. -/
def equalEntries : List (Text × Value) → List (Text × Value) → Bool
  | [], [] => true
  | (name, first) :: firsts, (other, second) :: seconds =>
    name == other && equal first second && equalEntries firsts seconds
  | _, _ => false

end

mutual

/-- A value as it is shown within another: a text stands between quotes. -/
def quoted : Value → String
  | null => "None"
  | truth value => if value then "True" else "False"
  | number value => toString value
  | text value => Text.quote value
  | list items => "[" ++ ", ".intercalate (quotedItems items) ++ "]"
  | table entries => "\x7b" ++ ", ".intercalate (quotedEntries entries) ++ "\x7d"

/-- The items of a list as they are shown. -/
def quotedItems : List Value → List String
  | [] => []
  | item :: items => quoted item :: quotedItems items

/-- The entries of a table as they are shown. -/
def quotedEntries : List (Text × Value) → List String
  | [] => []
  | (name, value) :: entries => (Text.quote name ++ ": " ++ quoted value) :: quotedEntries entries

end

/-- A value as messages show it: a text stands for itself. -/
def toText : Value → Text
  | text value => value
  | value => (quoted value).toList

end Value

end TextMacro
