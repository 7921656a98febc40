import TextMacro.Argument
import TextMacro.Command.Registry

/-!
# Invocations

A block body is a sequence of invocations: a token that names a command, and as many arguments as
the command takes, with blanks between them. Tokens outside of invocations are ignored. Parsing
stops at the first invocation that cannot be completed; what was parsed before it stays known, since
a run reports every invocation as it is parsed.
-/

namespace TextMacro

/-- A command with its arguments. -/
structure Invocation where
  command : Command
  args : List Text

/-- The result of parsing a body: the invocations up to the first error, and that error. -/
structure Parse where
  invocations : List Invocation
  error : Option Cause

namespace Parse

/-- The parse with an invocation in front. -/
def push (invocation : Invocation) (parse : Parse) : Parse :=
  ⟨invocation :: parse.invocations, parse.error⟩

/-- All invocations, unless there was an error. -/
def result (parse : Parse) : Except Cause (List Invocation) :=
  match parse.error with
  | some cause => .error cause
  | none => .ok parse.invocations

end Parse

/-- Read up to `count` arguments with blanks after each; fewer are read when the tokens end. -/
def readArguments : Nat → List Token → Except Bracket (List Text × List Token)
  | 0, tokens => .ok ([], tokens)
  | _ + 1, [] => .ok ([], [])
  | count + 1, token :: tokens =>
    match Argument.read (token :: tokens) with
    | .error bracket => .error bracket
    | .ok (text, rest) =>
      match readArguments count (skipBlanks rest) with
      | .error bracket => .error bracket
      | .ok (texts, rest) => .ok (text :: texts, rest)

/-- Skipping blanks leaves no more tokens than there were. -/
theorem length_skipBlanks_le (tokens : List Token) : (skipBlanks tokens).length ≤ tokens.length :=
  (List.dropWhile_sublist _).length_le

/-- Reading arguments leaves no more tokens than there were. -/
theorem length_le_of_readArguments {count : Nat} {tokens rest : List Token} {texts : List Text}
    (h : readArguments count tokens = .ok (texts, rest)) : rest.length ≤ tokens.length := by
  induction count generalizing tokens texts with
  | zero =>
    simp only [readArguments, Except.ok.injEq, Prod.mk.injEq] at h
    simp [h.2]
  | succ count ih =>
    cases tokens with
    | nil =>
      simp only [readArguments, Except.ok.injEq, Prod.mk.injEq] at h
      simp [← h.2]
    | cons token tokens =>
      simp only [readArguments] at h
      split at h
      · simp at h
      · next text middle hread =>
        split at h
        · simp at h
        · next others final hothers =>
          simp only [Except.ok.injEq, Prod.mk.injEq] at h
          obtain ⟨-, rfl⟩ := h
          have h₁ := Argument.length_le_of_read hread
          have h₂ := length_skipBlanks_le middle
          have h₃ := ih hothers
          omega

/-- Parse the tokens of a body. -/
def parseTokens (registry : Registry) (tokens : List Token) : Parse :=
  match tokens with
  | [] => ⟨[], none⟩
  | token :: tokens =>
    if token.namesCommand then
      match registry.find? token.commandName with
      | none => ⟨[], some (.invalidCommand token.commandName)⟩
      | some command =>
        match h : readArguments command.arity.toNat (skipBlanks tokens) with
        | .error bracket => ⟨[], some (.unmatchedToken [bracket.opening])⟩
        | .ok (args, rest) =>
          if args.length < command.arity then
            ⟨[], some (.arity token.commandName command.arity args.length)⟩
          else
            have := length_le_of_readArguments h
            have := length_skipBlanks_le tokens
            have := length_skipBlanks_le rest
            (parseTokens registry (skipBlanks rest)).push ⟨command, args⟩
    else
      have := length_skipBlanks_le tokens
      parseTokens registry (skipBlanks tokens)
termination_by tokens.length
decreasing_by all_goals simp only [List.length_cons]; omega

/-- Parse a block body. -/
def parse (registry : Registry) (body : Text) : Parse :=
  parseTokens registry (tokenize body)

end TextMacro
