import TextMacro.Text.Basic
import TextMacro.Text.WordCharacter

/-!
# Tokens of a block body

A block body is cut into tokens from left to right. At each point the remaining text alone decides
the next token: an at sign with word characters after it is a directive; a quote that recurs before
the end of the line opens a string up to that quote; a run of word characters and dollar signs is a
word; everything else is one character. No character is dropped, so the values of the tokens make
up the body again.
-/

namespace TextMacro

/-- The kinds of token in a block body. -/
inductive TokenKind where
  | directive
  | string
  | word
  | char
deriving DecidableEq, Repr

/-- A token: its kind and the characters it covers. -/
structure Token where
  kind : TokenKind
  value : Text
deriving DecidableEq, Repr

namespace Text

/-- The blank characters: space, tab, line feed and carriage return. -/
def isBlank (c : Char) : Bool :=
  c == ' ' || c == '\t' || c == '\n' || c == '\r'

/-- The characters of a word token. -/
def isNamePart (c : Char) : Bool :=
  isWord c || c == '$'

/-- The text up to the next `quote` on the same line, and the text after that quote. -/
def closeQuote? (quote : Char) : Text → Option (Text × Text)
  | [] => none
  | c :: cs =>
    if c = quote then some ([], cs)
    else if c = '\n' then none
    else (closeQuote? quote cs).map fun parts => (c :: parts.1, parts.2)

/-- The inside of a string, the quote that ends it and what follows make up the searched text. -/
theorem append_of_closeQuote? {quote : Char} {text inside after : Text}
    (h : closeQuote? quote text = some (inside, after)) : inside ++ quote :: after = text := by
  induction text generalizing inside with
  | nil => simp [closeQuote?] at h
  | cons c cs ih =>
    simp only [closeQuote?] at h
    split at h
    · simp_all
    · split at h
      · simp at h
      · simp only [Option.map_eq_some_iff, Prod.exists, Prod.mk.injEq] at h
        obtain ⟨a, b, hab, rfl, rfl⟩ := h
        simpa using ih hab

/-- The string that a quote opens, when the text starts with a quote that recurs on its line. -/
def quoted? : Text → Option (Text × Text)
  | [] => none
  | c :: cs => if c = '"' ∨ c = '\'' then closeQuote? c cs else none

end Text

namespace Token

/-- Whether the token consists of blank characters. -/
def isBlank (token : Token) : Bool :=
  token.value ≠ [] && token.value.all Text.isBlank

/-- Whether the token names a command: a directive, or an at sign on its own. -/
def namesCommand (token : Token) : Bool :=
  token.kind == .directive || token.value == ['@']

/-- The command name of a token, without its at sign. -/
def commandName (token : Token) : Text :=
  token.value.drop 1

/-- The token at the front of a non-empty text, and the text after it. -/
def first (c : Char) (rest : Text) : Token × Text :=
  if c = '@' ∧ (rest.takeWhile Text.isWord) ≠ [] then
    (⟨.directive, c :: rest.takeWhile Text.isWord⟩, rest.dropWhile Text.isWord)
  else match Text.quoted? (c :: rest) with
    | some (inside, after) => (⟨.string, c :: inside ++ [c]⟩, after)
    | none =>
      if Text.isNamePart c then
        (⟨.word, c :: rest.takeWhile Text.isNamePart⟩, rest.dropWhile Text.isNamePart)
      else (⟨.char, [c]⟩, rest)

/-- The first token and the text after it make up the text. -/
theorem first_append (c : Char) (rest : Text) :
    (first c rest).1.value ++ (first c rest).2 = c :: rest := by
  unfold first
  split
  · simp
  · split
    · next inside after h =>
      simp only [Text.quoted?] at h
      split at h
      · simpa using Text.append_of_closeQuote? h
      · simp at h
    · split <;> simp

/-- A token is never empty. -/
theorem first_value_ne_nil (c : Char) (rest : Text) : (first c rest).1.value ≠ [] := by
  unfold first
  split
  · simp
  · split
    · simp
    · split <;> simp

/-- The text after the first token is shorter than the text. -/
theorem length_first_lt (c : Char) (rest : Text) :
    (first c rest).2.length < (c :: rest).length := by
  have hlength := congrArg List.length (first_append c rest)
  have := List.length_pos_iff.mpr (first_value_ne_nil c rest)
  rw [List.length_append] at hlength
  omega

end Token

/-- The tokens of a text, from left to right. -/
def tokenize (text : Text) : List Token :=
  match text with
  | [] => []
  | c :: rest => (Token.first c rest).1 :: tokenize (Token.first c rest).2
termination_by text.length
decreasing_by exact Token.length_first_lt c rest

/-- The empty text has no tokens. -/
@[simp]
theorem tokenize_nil : tokenize [] = [] := by
  rw [tokenize]

/-- A non-empty text starts with its first token; the others are those of the text after it. -/
theorem tokenize_cons (c : Char) (rest : Text) :
    tokenize (c :: rest) = (Token.first c rest).1 :: tokenize (Token.first c rest).2 := by
  rw [tokenize]

/-- The values of the tokens make up the text. -/
theorem flatMap_value_tokenize (text : Text) : (tokenize text).flatMap Token.value = text := by
  induction text using tokenize.induct with
  | case1 => simp
  | case2 c rest ih => simp [tokenize_cons, ih, Token.first_append]

/-- A token with the offset of its first character in the text. -/
structure PlacedToken extends Token where
  position : Nat
deriving DecidableEq, Repr

/-- Tokens with their offsets, the first of them standing at `position`. -/
def placeFrom (position : Nat) : List Token → List PlacedToken
  | [] => []
  | token :: tokens =>
    ⟨token, position⟩ :: placeFrom (position + token.value.length) tokens

/-- The tokens of a text with their offsets in it. -/
def tokenizePlaced (text : Text) : List PlacedToken :=
  placeFrom 0 (tokenize text)

end TextMacro
