import TextMacro.Proofs.TokenBoundary
import TextMacro.Proofs.UniqueSplit

/-!
# Bodies one after another

A blank ends every argument at which no bracket is open. So items that are complete stay what they
are when a blank and further tokens follow, and a body that is parsed can be continued on the next
line: what is parsed of both is what is parsed of each. A name that is not registered is an error
whatever follows it. In contrast, a missing argument or a missing bracket may be found on the next
line.
-/

namespace TextMacro

/-- The token with its offset counted from further ahead. -/
def PlacedToken.shift (count : Nat) (token : PlacedToken) : PlacedToken :=
  { token with position := token.position + count }

/-- Tokens that start further on have their offsets shifted. -/
theorem placeFrom_add (position count : Nat) (tokens : List Token) :
    placeFrom (position + count) tokens =
      (placeFrom position tokens).map (PlacedToken.shift count) := by
  induction tokens generalizing position with
  | nil => rfl
  | cons token tokens ih =>
    rw [placeFrom, placeFrom, List.map_cons, Nat.add_right_comm, ih]
    rfl

/-- Tokens after others start where those end. -/
theorem placeFrom_append (position : Nat) (front back : List Token) :
    placeFrom position (front ++ back) =
      placeFrom position front ++
        placeFrom (position + (front.flatMap Token.value).length) back := by
  induction front generalizing position with
  | nil => rfl
  | cons token front ih =>
    rw [List.cons_append, placeFrom, placeFrom, ih, List.flatMap_cons, List.length_append,
      Nat.add_assoc]
    rfl

/-- The tokens of two texts with a line feed between them are those of the first one, the line feed,
and those of the second one at their new offsets. -/
theorem tokenizePlaced_append_lineFeed (first second : Text) :
    tokenizePlaced (first ++ '\n' :: second) =
      tokenizePlaced first ++ ⟨⟨.char, ['\n']⟩, first.length⟩ ::
        (tokenizePlaced second).map (PlacedToken.shift (first.length + 1)) := by
  have hshift := placeFrom_add 0 (first.length + 1) (tokenize second)
  rw [Nat.zero_add] at hshift
  rw [tokenizePlaced, tokenize_append_blank rfl (Or.inl rfl), placeFrom_append,
    flatMap_value_tokenize, Nat.zero_add, placeFrom, List.length_singleton, hshift]
  rfl

open Argument

variable {registry : Registry} {tokens rest run more : List Token}

/-- A run is one also if further tokens follow those after it, which begin with a blank. -/
theorem Argument.IsRun.append (h : IsRun run rest)
    (hmore : ∀ token, more.head? = some token → token.isBlank = true) :
    IsRun run (rest ++ more) where
  toUnbroken := h.toUnbroken
  closed := h.closed
  stops := by
    intro token htoken
    cases rest with
    | nil => exact hmore token htoken
    | cons first rest => exact h.stops token htoken

/-- Runs stay runs if further tokens follow, which begin with a blank. -/
theorem Runs.append {runs : List (List Token)} (h : Runs tokens runs rest)
    (hmore : ∀ token, more.head? = some token → token.isBlank = true) :
    Runs (tokens ++ more) runs (rest ++ more) := by
  induction h with
  | done => exact .done
  | run hrun hblanks _ ih =>
    have hlonger := hrun.append hmore
    rw [List.append_assoc] at hlonger
    rw [List.append_assoc, List.append_assoc]
    exact .run hlonger hblanks ih

/-- Items stay items if further tokens follow, which begin with a blank. -/
theorem Splits.append {items : List Item} (h : Splits registry tokens items rest)
    (hmore : ∀ token, more.head? = some token → token.isBlank = true) :
    Splits registry (tokens ++ more) items (rest ++ more) := by
  induction h with
  | done => exact .done
  | ignored hname _ ih => exact .ignored hname ih
  | call hname hfind hblanks hruns hlength _ ih =>
    rw [List.cons_append, List.append_assoc]
    exact .call hname hfind hblanks (hruns.append hmore) hlength ih

/-- A name that is not registered is an error whatever follows. -/
theorem Stuck.append_of_invalidCommand {name : Text}
    (h : Stuck registry tokens (.invalidCommand name)) (more : List Token) :
    Stuck registry (tokens ++ more) (.invalidCommand name) := by
  cases h with
  | unknown hname hfind => exact .unknown hname hfind

section LineFeed

variable (registry) (first second : Text)

/-- The line feed between two bodies and the tokens of the second one. -/
def lineFeedBefore (second : Text) : List Token :=
  ⟨.char, ['\n']⟩ :: tokenize second

/-- The first of these tokens is a blank. -/
theorem isBlank_of_head?_lineFeedBefore {token : Token}
    (h : (lineFeedBefore second).head? = some token) : token.isBlank = true := by
  obtain rfl := Option.some.inj h
  rfl

/-- The tokens of two bodies with a line feed between them. -/
theorem tokenize_append_lineFeed :
    tokenize (first ++ '\n' :: second) = tokenize first ++ lineFeedBefore second :=
  tokenize_append_blank rfl (Or.inl rfl) second

/-- A line feed in front makes no difference to what is parsed. -/
theorem parseTokens_lineFeedBefore :
    parseTokens registry (lineFeedBefore second) = parse registry second := by
  rw [lineFeedBefore, parseTokens_ignored rfl, parseTokens_skipBlanks (blanksNameless_tokenize _),
    parse]

/-- What is split off the first body is split off both bodies. -/
theorem parse_append_lineFeed_of_splits {items : List Item}
    (h : Splits registry (tokenize first) items rest) :
    parse registry (first ++ '\n' :: second) =
      ⟨items.filterMap Item.invocation? ++
        (parseTokens registry (rest ++ lineFeedBefore second)).invocations,
        (parseTokens registry (rest ++ lineFeedBefore second)).error⟩ := by
  have hnameless := blanksNameless_tokenize (first ++ '\n' :: second)
  have hlonger := h.append fun _ => isBlank_of_head?_lineFeedBefore second
  rw [tokenize_append_lineFeed] at hnameless
  rw [parse, tokenize_append_lineFeed, hlonger.parseTokens_eq hnameless]

/-- A body that is parsed can be continued after a line feed. -/
theorem parse_append_lineFeed_of_error_eq_none (h : (parse registry first).error = none) :
    parse registry (first ++ '\n' :: second) =
      ⟨(parse registry first).invocations ++ (parse registry second).invocations,
        (parse registry second).error⟩ := by
  have hnameless := blanksNameless_tokenize first
  obtain ⟨items, rest, hsplits, hhalts⟩ := splits_of_parseTokens registry _ hnameless
  rw [parse] at h
  rw [h] at hhalts
  obtain rfl : rest = [] := hhalts
  have hfirst : (parse registry first).invocations = items.filterMap Item.invocation? := by
    rw [parse, hsplits.parseTokens_eq hnameless, parseTokens]
    exact List.append_nil _
  rw [parse_append_lineFeed_of_splits registry first second hsplits, List.nil_append,
    parseTokens_lineFeedBefore, hfirst]

/-- A name that is not registered ends the parsing before a line feed as well. -/
theorem parse_append_lineFeed_of_invalidCommand {name : Text}
    (h : (parse registry first).error = some (.invalidCommand name)) :
    (parse registry (first ++ '\n' :: second)).error = some (.invalidCommand name) := by
  obtain ⟨items, rest, hsplits, hhalts⟩ :=
    splits_of_parseTokens registry _ (blanksNameless_tokenize first)
  rw [parse] at h
  rw [h] at hhalts
  have hstuck := Stuck.append_of_invalidCommand hhalts (lineFeedBefore second)
  rw [parse_append_lineFeed_of_splits registry first second hsplits, hstuck.parseTokens_eq]

end LineFeed

/-- A line feed separates two bodies: they have the tokens that each has on its own, at their
offsets. If the first body is parsed, both together are parsed to what each is parsed to, or have
the error of the second one; a name of the first body that is not registered is an error of both. -/
theorem lineFeed_separates_bodies (first second : Text) :
    tokenizePlaced (first ++ '\n' :: second) =
      tokenizePlaced first ++ ⟨⟨.char, ['\n']⟩, first.length⟩ ::
        (tokenizePlaced second).map (PlacedToken.shift (first.length + 1)) ∧
    Token.isBlank ⟨.char, ['\n']⟩ = true ∧
    ∀ registry : Registry,
      (∀ invocations, (parse registry first).result = .ok invocations →
        (parse registry (first ++ '\n' :: second)).result =
          (parse registry second).result.map (invocations ++ ·)) ∧
      ∀ name, (parse registry first).result = .error (.invalidCommand name) →
        (parse registry (first ++ '\n' :: second)).result = .error (.invalidCommand name) := by
  refine ⟨tokenizePlaced_append_lineFeed first second, rfl, fun registry => ⟨?_, ?_⟩⟩
  · intro invocations hfirst
    obtain ⟨herror, rfl⟩ := (Parse.result_eq_ok_iff _ _).mp hfirst
    rw [parse_append_lineFeed_of_error_eq_none registry first second herror]
    generalize parse registry second = parsed
    obtain ⟨others, error⟩ := parsed
    cases error <;> rfl
  · intro name hfirst
    rw [Parse.result_eq_error_iff] at hfirst ⊢
    exact parse_append_lineFeed_of_invalidCommand registry first second hfirst

/-- A quote that stands alone on the first line does not pair up with those on the second one, and a
bracket that is closed too often does not count there; an unknown name is reported although a
bracket is open after it. -/
theorem loneQuote_separated :
    (parse .builtin ("@def k a) \"".toList ++ '\n' :: "@inc \"(\"".toList)).result =
        .ok [.defining "k".toList "a)".toList, .including "\"(\"".toList] ∧
      (parse .builtin ("@bogus (".toList ++ '\n' :: "@inc b)".toList)).result =
        .error (.invalidCommand "bogus".toList) := by
  obtain ⟨-, -, hparsed⟩ := lineFeed_separates_bodies "@def k a) \"".toList "@inc \"(\"".toList
  obtain ⟨-, -, hunknown⟩ := lineFeed_separates_bodies "@bogus (".toList "@inc b)".toList
  have hsecond : (parse .builtin "@inc \"(\"".toList).result =
      .ok [.including "\"(\"".toList] := by
    cbv
  constructor
  · rw [(hparsed .builtin).1 [.defining "k".toList "a)".toList] (by cbv), hsecond]
    rfl
  · exact (hunknown .builtin).2 "bogus".toList (by cbv)

end TextMacro
