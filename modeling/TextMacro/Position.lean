import TextMacro.Argument
import TextMacro.Block
import TextMacro.Failure

/-!
# Positions

A position among tokens, or in a text, can be asked about with a value of any form. A position is a
number; one that does not fit into a machine word is refused where something has to be looked up
there.
-/

namespace TextMacro

namespace Position

/-- The number of a token that a value is. One below zero counts from the end, and not beyond the
first token. -/
def read (tokens : List Token) (cursor : Value) : Except Cause Int :=
  match cursor.number? with
  | none => .error (.misfit (.compared "<" cursor.form .number))
  | some number =>
    if number < 0 ∧ !fitsWord number then .error .indexTooWide
    else if number < -tokens.length then .error .indexOutOfRange
    else .ok number

/-- The first token that is not blank, at or after a cursor. -/
def skipBlanks (tokens : List Token) (cursor : Value) : Except Cause Value := do
  let number ← read tokens cursor
  match skipBlanksAt tokens number with
  | none => .error .indexOutOfRange
  | some reached => .ok (cursor.moveTo reached)

/-- The tokens from a cursor on. After those that a cursor below zero counts come all tokens. -/
def tokensFrom (tokens : List Token) (cursor : Int) : List Token :=
  if cursor < 0 then tokens.drop (tokens.length + cursor).toNat ++ tokens
  else tokens.drop cursor.toNat

/-- The argument that starts at a cursor, and the cursor just after it. -/
def readArgument (tokens : List Token) (cursor : Value) : Except Cause (Text × Value) := do
  let number ← read tokens cursor
  match Argument.readAt (tokensFrom tokens number) 0 with
  | .error bracket => .error (.unmatchedToken [bracket.opening])
  | .ok (text, count) => .ok (text, cursor.moveTo (number + count))

/-- The offset in a text that a value is; before the start there is only the start. -/
def readOffset (start : Value) : Except Cause Nat :=
  match start.number? with
  | none => .error (.misfit (.asOffset start.form))
  | some number => if fitsWord number then .ok number.toNat else .error .offsetTooWide

/-- The first block of a text at or after an offset. -/
def findBlock (markers : Markers) (text start : Value) : Except Cause (Option Block) := do
  let start ← readOffset start
  let text ← text.words.mapError .misfit
  return markers.find? text start

/-- A cursor that is not below zero is taken as it is. -/
@[simp]
theorem read_natCast (tokens : List Token) (cursor : Nat) :
    read tokens (.number cursor) = .ok cursor := by
  simp only [read, Value.number?]
  rw [if_neg (by omega), if_neg (by omega)]

/-- The tokens from such a cursor on. -/
@[simp]
theorem tokensFrom_natCast (tokens : List Token) (cursor : Nat) :
    tokensFrom tokens cursor = tokens.drop cursor := by
  simp only [tokensFrom]
  rw [if_neg (by omega), Int.toNat_natCast]

/-- The argument at such a cursor is the one that is read there. -/
theorem readArgument_natCast (tokens : List Token) (cursor : Nat) :
    readArgument tokens (.number cursor) =
      match Argument.readAt tokens cursor with
      | .error bracket => .error (.unmatchedToken [bracket.opening])
      | .ok (text, reached) => .ok (text, .number reached) := by
  simp only [readArgument, read_natCast, bind, Except.bind, tokensFrom_natCast,
    Value.moveTo_number, Argument.readAt, List.drop_zero]
  cases Argument.read (tokens.drop cursor) <;> simp

end Position

end TextMacro
