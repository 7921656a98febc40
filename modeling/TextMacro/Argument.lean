import TextMacro.Token

/-!
# Arguments

An argument is a run of tokens that ends before the first blank token at which no bracket is open,
or with the last token. The three kinds of bracket are counted apart, and only tokens that consist
of one bracket count. A count may fall below zero without harm, but it is an error to reach the end
of the tokens with a count above zero.
-/

namespace TextMacro

/-- The kinds of bracket, in the order in which an open one is reported. -/
inductive Bracket where
  | round
  | square
  | curly
deriving DecidableEq, Repr

namespace Bracket

/-- The character that opens a bracket. -/
def opening : Bracket → Char
  | round => '('
  | square => '['
  | curly => '{'

/-- The character that closes a bracket. -/
def closing : Bracket → Char
  | round => ')'
  | square => ']'
  | curly => '}'

/-- What a token adds to the level of a bracket: one if it opens it, minus one if it closes it. -/
def weight (bracket : Bracket) (token : Token) : Int :=
  if token.value = [bracket.opening] then 1
  else if token.value = [bracket.closing] then -1
  else 0

end Bracket

/-- For each kind of bracket, how many were opened and not closed. -/
structure Levels where
  round : Int
  square : Int
  curly : Int
deriving DecidableEq, Repr

namespace Levels

/-- The levels before any token. -/
def zero : Levels := ⟨0, 0, 0⟩

/-- The level of one kind of bracket. -/
def get (levels : Levels) : Bracket → Int
  | .round => levels.round
  | .square => levels.square
  | .curly => levels.curly

/-- The levels after one more token. -/
def add (levels : Levels) (token : Token) : Levels :=
  ⟨levels.round + Bracket.round.weight token, levels.square + Bracket.square.weight token,
    levels.curly + Bracket.curly.weight token⟩

/-- The levels after a run of tokens. -/
def ofTokens (tokens : List Token) : Levels :=
  tokens.foldl add zero

/-- The first kind of bracket whose level is above zero. -/
def open? (levels : Levels) : Option Bracket :=
  if 0 < levels.round then some .round
  else if 0 < levels.square then some .square
  else if 0 < levels.curly then some .curly
  else none

/-- A token adds its weight to the level of each kind of bracket. -/
@[simp]
theorem get_add (levels : Levels) (token : Token) (bracket : Bracket) :
    (levels.add token).get bracket = levels.get bracket + bracket.weight token := by
  cases bracket <;> rfl

end Levels

/-- The tokens without the blank ones at the front. -/
def skipBlanks (tokens : List Token) : List Token :=
  tokens.dropWhile Token.isBlank

namespace Argument

/-- The tokens of the argument at the front, and the tokens after it, with `levels` already open. -/
def span (levels : Levels) : List Token → List Token × List Token
  | [] => ([], [])
  | token :: tokens =>
    if token.isBlank && levels.open?.isNone then ([], token :: tokens)
    else
      let (taken, rest) := span (levels.add token) tokens
      (token :: taken, rest)

/-- The argument and the tokens after it make up the tokens. -/
theorem span_append (levels : Levels) (tokens : List Token) :
    (span levels tokens).1 ++ (span levels tokens).2 = tokens := by
  induction tokens generalizing levels with
  | nil => rfl
  | cons token tokens ih =>
    simp only [span]
    split
    · rfl
    · simp [ih]

/-- Read the argument at the front: its text and the tokens after it, or the bracket left open. -/
def read (tokens : List Token) : Except Bracket (Text × List Token) :=
  let (taken, rest) := span .zero tokens
  match (Levels.ofTokens taken).open? with
  | some bracket => .error bracket
  | none => .ok (taken.flatMap Token.value, rest)

/-- No token is gained when an argument is read. -/
theorem length_le_of_read {tokens rest : List Token} {text : Text}
    (h : read tokens = .ok (text, rest)) : rest.length ≤ tokens.length := by
  have hspan := congrArg List.length (span_append .zero tokens)
  simp only [read] at h
  split at h
  · simp at h
  · simp only [Except.ok.injEq, Prod.mk.injEq] at h
    rw [List.length_append, h.2] at hspan
    omega

/-- Read the argument that starts at an index among the tokens, and the index just after it. -/
def readAt (tokens : List Token) (cursor : Nat) : Except Bracket (Text × Nat) :=
  match read (tokens.drop cursor) with
  | .error bracket => .error bracket
  | .ok (text, _) => .ok (text, cursor + (span .zero (tokens.drop cursor)).1.length)

end Argument

/-- The number of blank tokens at the front. -/
def leadingBlanks (tokens : List Token) : Nat :=
  (tokens.takeWhile Token.isBlank).length

/-- The index of the first token at or after `cursor` that is not blank.

A negative index counts from the end, and when only blank tokens follow it, the search goes on with
the first token. There is no answer for an index before that of the first token. -/
def skipBlanksAt (tokens : List Token) (cursor : Int) : Option Int :=
  if 0 ≤ cursor then some (cursor + leadingBlanks (tokens.drop cursor.toNat))
  else if cursor < -tokens.length then none
  else
    let rest := tokens.drop (tokens.length + cursor).toNat
    if leadingBlanks rest < rest.length then some (cursor + leadingBlanks rest)
    else some (leadingBlanks tokens)

end TextMacro
