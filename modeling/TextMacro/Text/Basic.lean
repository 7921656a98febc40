/-!
# Texts

A text is a list of characters, so every offset and every length counts Unicode scalar values.
This module holds the operations on texts that the rest of the library shares: positions given as
integers, insertion at such a position, splitting at a separator, and the order of texts.
-/

namespace TextMacro

/-- A text: a sequence of Unicode scalar values. -/
abbrev Text := List Char

namespace Text

/-- The text with the `removed` characters from an offset on replaced by a piece. -/
def splice (piece : Text) (removed : Nat) : Nat → Text → Text
  | 0, text => piece ++ text.drop removed
  | _ + 1, [] => piece
  | offset + 1, c :: cs => c :: splice piece removed offset cs

/-- What stands before the offset and after the removed characters is kept. -/
theorem splice_eq (piece : Text) (removed offset : Nat) (text : Text) :
    splice piece removed offset text =
      text.take offset ++ piece ++ text.drop (offset + removed) := by
  induction text generalizing offset with
  | nil => cases offset <;> simp [splice]
  | cons c cs ih =>
    cases offset with
    | zero => simp [splice]
    | succ offset => simp [splice, ih, Nat.add_right_comm]

/-- The offset that a position denotes: a negative position counts from the end. -/
def offset (text : Text) (position : Int) : Nat :=
  if position < 0 then (text.length + position).toNat else position.toNat

/-- Put `piece` into `text` at a position; a position outside the text denotes its nearer end. -/
def insertAt (text : Text) (position : Int) (piece : Text) : Text :=
  splice piece 0 (offset text position) text

/-- What is inserted stands between the characters before the position and those after it. -/
theorem insertAt_eq (text : Text) (position : Int) (piece : Text) :
    insertAt text position piece =
      text.take (offset text position) ++ piece ++ text.drop (offset text position) := by
  simp [insertAt, splice_eq]

/-- The pieces of a text between the occurrences of a separator; there is always at least one. -/
def pieces (separator : Char) : Text → List Text
  | [] => [[]]
  | c :: cs =>
    if c = separator then [] :: pieces separator cs
    else match pieces separator cs with
      | [] => [[c]]
      | first :: others => (c :: first) :: others

/-- A text joined from pieces with a separator between neighbours. -/
def join (separator : Text) (pieces : List Text) : Text :=
  separator.intercalate pieces

/-- Whether a text comes no later than another one in the order of code points. -/
def isAtMost : Text → Text → Bool
  | [], _ => true
  | _ :: _, [] => false
  | c :: cs, d :: ds => c.toNat < d.toNat || (c == d && isAtMost cs ds)

/-- The number of line feeds before an offset, after `passed` of them. -/
def lineFeedsFrom (passed : Nat) : Nat → Text → Nat
  | 0, _ => passed
  | _ + 1, [] => passed
  | offset + 1, c :: cs => lineFeedsFrom (if c = '\n' then passed + 1 else passed) offset cs

/-- The number of line feeds before an offset. -/
def lineFeedsBefore (text : Text) (offset : Nat) : Nat :=
  lineFeedsFrom 0 offset text

/-- Line feeds that were passed are counted as well. -/
theorem lineFeedsFrom_eq (passed offset : Nat) (text : Text) :
    lineFeedsFrom passed offset text = passed + (text.take offset).count '\n' := by
  induction text generalizing passed offset with
  | nil => cases offset <;> simp [lineFeedsFrom]
  | cons c cs ih =>
    cases offset with
    | zero => simp [lineFeedsFrom]
    | succ offset =>
      by_cases h : c = '\n' <;> simp [lineFeedsFrom, ih, h, Nat.add_assoc, Nat.add_comm 1]

/-- The line feeds before an offset are those among the characters before it. -/
theorem lineFeedsBefore_eq (text : Text) (offset : Nat) :
    lineFeedsBefore text offset = (text.take offset).count '\n' := by
  simp [lineFeedsBefore, lineFeedsFrom_eq]

end Text

end TextMacro
