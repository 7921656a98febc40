import TextMacro.Text.Basic
import TextMacro.Text.Printable

/-!
# Hexadecimal numerals and quoted texts

Diagnostics show bytes and characters as lower-case hexadecimal numerals of a fixed width, and
paths between quotes with the characters that would be unreadable escaped.
-/

namespace TextMacro.Text

/-- A number in lower-case hexadecimal digits, with zeros in front up to the given width. -/
def hexadecimal (width number : Nat) : String :=
  let digits := Nat.toDigits 16 number
  String.ofList (List.replicate (width - digits.length) '0' ++ digits)

/-- A character as a numeric escape of two, four or eight digits. -/
def numericEscape (c : Char) : String :=
  if c.toNat < 0x100 then "\\x" ++ hexadecimal 2 c.toNat
  else if c.toNat < 0x10000 then "\\u" ++ hexadecimal 4 c.toNat
  else "\\U" ++ hexadecimal 8 c.toNat

/-- A character between the given quotes: the quote, the backslash and the characters that are not
printable are escaped. -/
def escapeBetween (quote c : Char) : String :=
  if c = quote ∨ c = '\\' then String.ofList ['\\', c]
  else if c = '\n' then "\\n"
  else if c = '\r' then "\\r"
  else if c = '\t' then "\\t"
  else if isPrintable c then String.ofList [c]
  else numericEscape c

/-- A text between quotes: apostrophes, unless it holds one and no double quote. -/
def quote (text : Text) : String :=
  let mark := if '\'' ∈ text ∧ '"' ∉ text then '"' else '\''
  String.ofList [mark] ++ String.join (text.map (escapeBetween mark)) ++ String.ofList [mark]

end TextMacro.Text
