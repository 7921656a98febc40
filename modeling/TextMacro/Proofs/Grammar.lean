import TextMacro.Proofs.ArgumentRun

/-!
# The grammar of block bodies

A body is a sequence of items: tokens that are ignored, and calls. A call is a token that names a
registered command, followed by as many runs of tokens as the command takes arguments, with blanks
between them. Blanks are ignored as well, and no blank names a command.

Parsing takes a body apart into items, and gives their calls; it stops at the first item that cannot
be completed, which decides the error. It finds every item that there is: whatever items a body is
split into, they are parsed to their calls.
-/

namespace TextMacro

open Argument

variable {registry : Registry} {tokens rest : List Token}

/-- An item of a body: a token that is ignored, or a call of a command with a run of tokens for each
argument. -/
inductive Item where
  | ignored (token : Token)
  | call (name : Token) (command : Command) (runs : List (List Token))

namespace Item

/-- Whether the item is a blank that is ignored. -/
def isBlank : Item → Bool
  | ignored token => token.isBlank
  | call .. => false

/-- The invocation of a call: its arguments are the texts of its runs. -/
def invocation? : Item → Option Invocation
  | ignored _ => none
  | call _ command runs => some ⟨command, runs.map (·.flatMap Token.value)⟩

end Item

/-- Tokens that are split into items, up to the tokens after them. -/
inductive Splits (registry : Registry) : List Token → List Item → List Token → Prop
  /-- There is no further item. -/
  | done {rest : List Token} : Splits registry rest [] rest
  /-- A token that names no command is ignored. -/
  | ignored {token : Token} {tokens rest : List Token} {items : List Item} :
    token.namesCommand = false → Splits registry tokens items rest →
    Splits registry (token :: tokens) (.ignored token :: items) rest
  /-- A token that names a registered command is followed by blanks and by as many runs as the
  command takes arguments. -/
  | call {name : Token} {command : Command} {blanks tokens after rest : List Token}
      {runs : List (List Token)} {items : List Item} :
    name.namesCommand = true → registry.find? name.commandName = some command →
    AllBlank blanks → Runs tokens runs after → runs.length = command.arity.toNat →
    Splits registry after items rest →
    Splits registry (name :: (blanks ++ tokens)) (.call name command runs :: items) rest

/-- Tokens whose first item cannot be completed, and why. -/
inductive Stuck (registry : Registry) : List Token → Cause → Prop
  /-- The name is not registered. -/
  | unknown {name : Token} {tokens : List Token} :
    name.namesCommand = true → registry.find? name.commandName = none →
    Stuck registry (name :: tokens) (.invalidCommand name.commandName)
  /-- After some of the runs, the next one reaches the end of the tokens with a bracket open. -/
  | unmatched {name : Token} {command : Command} {blanks tokens run : List Token}
      {runs : List (List Token)} {bracket : Bracket} :
    name.namesCommand = true → registry.find? name.commandName = some command →
    AllBlank blanks → Runs tokens runs run → runs.length < command.arity.toNat →
    IsUnclosed run bracket →
    Stuck registry (name :: (blanks ++ tokens)) (.unmatchedToken [bracket.opening])
  /-- The tokens end after fewer runs than the command takes arguments. -/
  | short {name : Token} {command : Command} {blanks tokens : List Token}
      {runs : List (List Token)} :
    name.namesCommand = true → registry.find? name.commandName = some command →
    AllBlank blanks → Runs tokens runs [] → runs.length < command.arity.toNat →
    Stuck registry (name :: (blanks ++ tokens))
      (.arity name.commandName command.arity runs.length)

/-- No blank token names a command. -/
def BlanksNameless (tokens : List Token) : Prop :=
  ∀ token ∈ tokens, token.isBlank = true → token.namesCommand = false

/-- What holds of all tokens holds of those at their end. -/
theorem BlanksNameless.of_suffix (h : BlanksNameless tokens) (hsuffix : rest <:+ tokens) :
    BlanksNameless rest :=
  fun token htoken => h token (hsuffix.subset htoken)

/-- A token that names no command is passed over. -/
theorem parseTokens_ignored {token : Token} (h : token.namesCommand = false) :
    parseTokens registry (token :: tokens) = parseTokens registry (skipBlanks tokens) := by
  rw [parseTokens, if_neg (by simp [h])]

/-- A name that is not registered is an error. -/
theorem parseTokens_unknown {name : Token} (hname : name.namesCommand = true)
    (hfind : registry.find? name.commandName = none) :
    parseTokens registry (name :: tokens) =
      ⟨[], some (.invalidCommand name.commandName)⟩ := by
  rw [parseTokens, if_pos hname]
  split
  · rfl
  · next hsome =>
    rw [hfind] at hsome
    cases hsome

/-- What becomes of a registered command depends on how its arguments are read. -/
theorem parseTokens_registered {name : Token} {command : Command}
    (hname : name.namesCommand = true)
    (hfind : registry.find? name.commandName = some command) :
    parseTokens registry (name :: tokens) =
      match readArguments command.arity.toNat (skipBlanks tokens) with
      | .error bracket => ⟨[], some (.unmatchedToken [bracket.opening])⟩
      | .ok (args, rest) =>
        if args.length < command.arity then
          ⟨[], some (.arity name.commandName command.arity args.length)⟩
        else (parseTokens registry (skipBlanks rest)).push ⟨command, args⟩ := by
  rw [parseTokens, if_pos hname]
  split
  · next hnone =>
    rw [hfind] at hnone
    cases hnone
  · next found hfound =>
    obtain rfl : found = command := Option.some.inj (hfound.symm.trans hfind)
    split <;> next hread => simp only [hread]

/-- Blanks in front make no difference to what is parsed. -/
theorem parseTokens_skipBlanks (h : BlanksNameless tokens) :
    parseTokens registry (skipBlanks tokens) = parseTokens registry tokens := by
  cases tokens with
  | nil => rfl
  | cons token tokens =>
    cases hblank : token.isBlank with
    | true =>
      rw [parseTokens_ignored (h token List.mem_cons_self hblank), skipBlanks_cons_of_blank hblank]
    | false => rw [skipBlanks_cons_of_not_blank hblank]

/-- Where a first item cannot be completed, parsing ends with the reason. -/
theorem Stuck.parseTokens_eq {cause : Cause} (h : Stuck registry tokens cause) :
    parseTokens registry tokens = ⟨[], some cause⟩ := by
  cases h with
  | unknown hname hfind => exact parseTokens_unknown hname hfind
  | @unmatched name command blanks tokens run runs bracket hname hfind hblanks hruns hlength
      hunclosed =>
    obtain ⟨count, harity⟩ : ∃ count, command.arity.toNat = runs.length + (count + 1) :=
      ⟨command.arity.toNat - runs.length - 1, by omega⟩
    obtain ⟨first, others, hfirst, -⟩ := hunclosed.starts
    have hskip : skipBlanks run = run := by
      simpa using hunclosed.skipBlanks_append []
    have hread : readArguments (count + 1) run = .error bracket := by
      have := hunclosed.read_eq
      subst hfirst
      rw [readArguments, this]
    rw [parseTokens_registered hname hfind, skipBlanks_append hblanks, harity,
      hruns.readArguments_eq, hskip, hread]
    rfl
  | @short name command blanks tokens runs hname hfind hblanks hruns hlength =>
    obtain ⟨count, harity⟩ : ∃ count, command.arity.toNat = runs.length + (count + 1) :=
      ⟨command.arity.toNat - runs.length - 1, by omega⟩
    have hread : readArguments (count + 1) (skipBlanks []) = .ok ([], []) := rfl
    have hfewer : (runs.length : Int) < command.arity := by omega
    rw [parseTokens_registered hname hfind, skipBlanks_append hblanks, harity,
      hruns.readArguments_eq, hread]
    simp [Except.map, hfewer]

/-- Items are parsed to their calls, in front of what is parsed after them. -/
theorem Splits.parseTokens_eq {items : List Item} (h : Splits registry tokens items rest)
    (hblanks : BlanksNameless tokens) :
    parseTokens registry tokens =
      ⟨items.filterMap Item.invocation? ++ (parseTokens registry rest).invocations,
        (parseTokens registry rest).error⟩ := by
  induction h with
  | done => rfl
  | @ignored token tokens rest items hname _ ih =>
    have hlater : BlanksNameless tokens := hblanks.of_suffix (List.suffix_cons token tokens)
    rw [parseTokens_ignored hname, parseTokens_skipBlanks hlater, ih hlater]
    rfl
  | @call name command blanks tokens after rest runs items hname hfind hgap hruns hlength _ ih =>
    have hlater : BlanksNameless after := by
      refine hblanks.of_suffix (hruns.suffix.trans ?_)
      exact (List.suffix_append blanks tokens).trans (List.suffix_cons name _)
    have hread := hruns.readArguments_eq 0
    have henough : ¬ (runs.length : Int) < command.arity := by omega
    rw [Nat.add_zero, hlength] at hread
    rw [parseTokens_registered hname hfind, skipBlanks_append hgap, hread]
    simp [Except.map, readArguments, henough, skipBlanks_skipBlanks, parseTokens_skipBlanks hlater,
      ih hlater, Parse.push, Item.invocation?]

/-- Blanks in front of items are ignored. -/
theorem Splits.append_blanks {blanks : List Token} {items : List Item} (hblank : AllBlank blanks)
    (hnameless : BlanksNameless blanks) (h : Splits registry tokens items rest) :
    Splits registry (blanks ++ tokens) (blanks.map .ignored ++ items) rest := by
  induction blanks with
  | nil => exact h
  | cons blank blanks ih =>
    refine .ignored (hnameless blank List.mem_cons_self (hblank blank List.mem_cons_self)) ?_
    exact ih (fun token htoken => hblank token (List.mem_cons_of_mem _ htoken))
      (fun token htoken => hnameless token (List.mem_cons_of_mem _ htoken))

/-- Tokens are split if they are after the blanks in front are skipped. -/
theorem Splits.of_skipBlanks {items : List Item} (hnameless : BlanksNameless tokens)
    (h : Splits registry (skipBlanks tokens) items rest) :
    ∃ items', Splits registry tokens items' rest := by
  obtain ⟨blanks, hblanks, htokens⟩ := exists_blanks_append_skipBlanks tokens
  rw [htokens] at hnameless ⊢
  refine ⟨_, h.append_blanks hblanks fun token htoken => ?_⟩
  exact hnameless token (List.mem_append_left _ htoken)

/-- Where parsing ends: at the end of the tokens, or at an item that cannot be completed. -/
def HaltsAt (registry : Registry) (rest : List Token) : Option Cause → Prop
  | none => rest = []
  | some cause => Stuck registry rest cause

/-- Parsing splits the tokens into items, up to where it ends. -/
theorem splits_of_parseTokens (registry : Registry) (tokens : List Token)
    (hnameless : BlanksNameless tokens) :
    ∃ items rest, Splits registry tokens items rest ∧
      HaltsAt registry rest (parseTokens registry tokens).error := by
  fun_induction parseTokens registry tokens with
  | case1 => exact ⟨[], [], .done, rfl⟩
  | case2 token tokens hname hfind => exact ⟨[], _, .done, .unknown hname hfind⟩
  | case3 token tokens hname command hfind bracket hread =>
    obtain ⟨runs, run, hruns, hlength, hunclosed⟩ :=
      isUnclosed_of_readArguments (skipBlanks_skipBlanks tokens) hread
    obtain ⟨blanks, hblanks, htokens⟩ := exists_blanks_append_skipBlanks tokens
    refine ⟨[], _, .done, ?_⟩
    rw [htokens]
    exact .unmatched hname hfind hblanks hruns hlength hunclosed
  | case4 token tokens hname command hfind args rest hread harity =>
    obtain ⟨runs, hruns, rfl, hlength⟩ :=
      runs_of_readArguments (skipBlanks_skipBlanks tokens) hread
    obtain ⟨blanks, hblanks, htokens⟩ := exists_blanks_append_skipBlanks tokens
    rw [List.length_map] at harity ⊢
    rcases hlength with hall | ⟨hfewer, rfl⟩
    · omega
    · refine ⟨[], _, .done, ?_⟩
      rw [htokens]
      exact .short hname hfind hblanks hruns hfewer
  | case5 token tokens hname command hfind args rest hread harity h₁ h₂ h₃ ih =>
    obtain ⟨runs, hruns, rfl, hlength⟩ :=
      runs_of_readArguments (skipBlanks_skipBlanks tokens) hread
    obtain ⟨blanks, hblanks, htokens⟩ := exists_blanks_append_skipBlanks tokens
    rw [List.length_map] at harity
    have hall : runs.length = command.arity.toNat := by
      rcases hlength with hall | ⟨hfewer, -⟩
      · exact hall
      · omega
    have hafter : rest <:+ token :: tokens := by
      refine (hruns.suffix.trans ?_).trans (List.suffix_cons token tokens)
      exact List.dropWhile_suffix _
    have hskipped : skipBlanks rest <:+ rest := List.dropWhile_suffix _
    obtain ⟨items, final, hsplits, hhalts⟩ :=
      ih (hnameless.of_suffix (hskipped.trans hafter))
    obtain ⟨items', hsplits'⟩ := hsplits.of_skipBlanks (hnameless.of_suffix hafter)
    refine ⟨.call token command runs :: items', final, ?_, hhalts⟩
    rw [htokens]
    exact .call hname hfind hblanks hruns hall hsplits'
  | case6 token tokens hname hlength ih =>
    have hlater : BlanksNameless tokens := hnameless.of_suffix (List.suffix_cons token tokens)
    obtain ⟨items, final, hsplits, hhalts⟩ := ih (hlater.of_suffix (List.dropWhile_suffix _))
    obtain ⟨items', hsplits'⟩ := hsplits.of_skipBlanks hlater
    exact ⟨_, final, .ignored (by simpa using hname) hsplits', hhalts⟩

end TextMacro
