import TextMacro.Proofs.CleanArgument
import TextMacro.Proofs.RefilledString

/-!
# What is inside a string

A string is not blank, names no command and counts for no bracket, whatever is inside it. So a body
with another text inside one of its strings is split into the same items, and the string is either
ignored, or stands at the same place in the same argument. Where a body is not parsed, the reason is
the same.
-/

namespace TextMacro

/-- A member of a list that is made up of two lists is in the first or in the second of them. -/
theorem append_eq_append_cons_cases {α : Type} {xs ys front back : List α} {a : α}
    (h : xs ++ ys = front ++ a :: back) :
    (∃ gap, xs = front ++ a :: gap ∧ back = gap ++ ys) ∨
      ∃ gap, front = xs ++ gap ∧ ys = gap ++ a :: back := by
  rcases List.append_eq_append_iff.mp h with hsecond | ⟨gap, rfl, hback⟩
  · exact Or.inr hsecond
  · cases gap with
    | nil => exact Or.inr ⟨[], by simp, by simpa using hback.symm⟩
    | cons b gap =>
      obtain ⟨rfl, rfl⟩ := List.cons.inj hback
      exact Or.inl ⟨gap, rfl, rfl⟩

/-- A token that makes no difference to where items and arguments begin and end. -/
structure Token.IsInert (token : Token) : Prop where
  notBlank : token.isBlank = false
  notName : token.namesCommand = false
  weightless : ∀ bracket : Bracket, bracket.weight token = 0

/-- Strings make no difference. -/
theorem isInert_quotedBy {quote : Char} (hquote : quote = '"' ∨ quote = '\'') (inside : Text) :
    Token.IsInert ⟨.string, Text.quotedBy quote inside⟩ where
  notBlank := by
    have hvisible : Text.isBlank quote = false := by
      rcases hquote with rfl | rfl <;> rfl
    simp [Token.isBlank, Text.quotedBy, hvisible]
  notName := by simp [Token.namesCommand, Text.quotedBy]
  weightless := by
    intro bracket
    simp [Bracket.weight, Text.quotedBy]

section Swap

open Argument

variable {registry : Registry} {front back rest : List Token} {token : Token}

/-- A token that makes no difference leaves the levels as they are. -/
theorem Levels.add_of_isInert (levels : Levels) (h : token.IsInert) :
    levels.add token = levels := by
  simp [Levels.add, h.weightless]

/-- The levels are the same with another token in the place of one that makes no difference. -/
theorem Levels.ofTokens_swap {other : Token} (htoken : token.IsInert) (hother : other.IsInert)
    (front back : List Token) :
    Levels.ofTokens (front ++ token :: back) = Levels.ofTokens (front ++ other :: back) := by
  rw [ofTokens, ofTokens, List.foldl_append, List.foldl_append, List.foldl_cons, List.foldl_cons,
    add_of_isInert _ htoken, add_of_isInert _ hother]

/-- Tokens go on without a break also with another token in the place of one that makes no
difference. -/
theorem Argument.Unbroken.swap {other : Token} (h : Unbroken (front ++ token :: back))
    (htoken : token.IsInert) (hother : other.IsInert) : Unbroken (front ++ other :: back) where
  starts := by
    obtain ⟨first, others, hfirst, hvisible⟩ := h.starts
    cases front with
    | nil => exact ⟨other, back, rfl, hother.notBlank⟩
    | cons head front =>
      obtain ⟨rfl, -⟩ := List.cons.inj hfirst
      exact ⟨head, _, rfl, hvisible⟩
  holds := by
    intro before blank after heq hblank
    rcases append_eq_append_cons_cases heq with ⟨gap, rfl, -⟩ | ⟨gap, rfl, hback⟩
    · exact h.holds before blank (gap ++ token :: back) (by simp) hblank
    · cases gap with
      | nil =>
        obtain ⟨rfl, -⟩ := List.cons.inj hback
        rw [hother.notBlank] at hblank
        cases hblank
      | cons head gap =>
        obtain ⟨rfl, rfl⟩ := List.cons.inj hback
        have hopen := h.holds (front ++ token :: gap) blank after (by simp) hblank
        rwa [Levels.ofTokens_swap htoken hother] at hopen

/-- A run is one also with another token in the place of one that makes no difference. -/
theorem Argument.IsRun.swap {other : Token} (h : IsRun (front ++ token :: back) rest)
    (htoken : token.IsInert) (hother : other.IsInert) : IsRun (front ++ other :: back) rest where
  toUnbroken := h.toUnbroken.swap htoken hother
  closed := by
    intro bracket
    rw [← Levels.ofTokens_swap htoken hother]
    exact h.closed bracket
  stops := h.stops

/-- A run ends at the same place if a token after it that is not blank is another one. -/
theorem Argument.IsRun.swap_after {run : List Token} (h : IsRun run (front ++ token :: back))
    (htoken : token.IsInert) (other : Token) : IsRun run (front ++ other :: back) where
  toUnbroken := h.toUnbroken
  closed := h.closed
  stops := by
    cases front with
    | nil =>
      have hblank := h.stops token rfl
      rw [htoken.notBlank] at hblank
      cases hblank
    | cons head front => exact h.stops

/-- A run that is not closed is not closed with another token in the place of one that makes no
difference. -/
theorem Argument.IsUnclosed.swap {bracket : Bracket} {other : Token}
    (h : IsUnclosed (front ++ token :: back) bracket) (htoken : token.IsInert)
    (hother : other.IsInert) : IsUnclosed (front ++ other :: back) bracket where
  toUnbroken := h.toUnbroken.swap htoken hother
  leftOpen := by
    rw [← Levels.ofTokens_swap htoken hother]
    exact h.leftOpen

/-- A token that is not blank is not one of the blanks before other tokens. -/
theorem AllBlank.exists_gap {blanks tokens : List Token} (h : AllBlank blanks)
    (htoken : token.IsInert) (heq : blanks ++ tokens = front ++ token :: back) :
    ∃ gap, front = blanks ++ gap ∧ tokens = gap ++ token :: back := by
  rcases append_eq_append_cons_cases heq with ⟨gap, rfl, -⟩ | hlater
  · have hblank := h token (by simp)
    rw [htoken.notBlank] at hblank
    cases hblank
  · exact hlater

/-- Where a token that makes no difference stands among runs and the tokens after them. There are
the same runs with another such token in its place. -/
inductive RunsAround (front : List Token) (token : Token) (back : List Token)
    (runs : List (List Token)) (rest : List Token) : Prop
  /-- The token is after the runs. -/
  | after (passed middle : List Token) : front = passed ++ middle → InOrder runs passed →
    rest = middle ++ token :: back →
    (∀ other : Token, other.IsInert →
      Runs (front ++ other :: back) runs (middle ++ other :: back)) →
    RunsAround front token back runs rest
  /-- The token is in one of the runs. -/
  | inside (before later : List (List Token)) (left right passed followed : List Token) :
    runs = before ++ (left ++ token :: right) :: later →
    front = passed ++ left → InOrder before passed → back = right ++ followed →
    (∀ others, InOrder others rest → InOrder (later ++ others) followed) →
    (∀ other : Token, other.IsInert →
      Runs (front ++ other :: back) (before ++ (left ++ other :: right) :: later) rest) →
    RunsAround front token back runs rest

/-- A token that makes no difference is after runs, or in one of them. -/
theorem Runs.around {tokens : List Token} {runs : List (List Token)} (h : Runs tokens runs rest)
    (htoken : token.IsInert) (htokens : tokens = front ++ token :: back) :
    RunsAround front token back runs rest := by
  induction h generalizing front with
  | done => exact .after [] front rfl .nil htokens fun other _ => .done
  | @run run blanks tokens rest runs hrun hblanks hruns ih =>
    rcases append_eq_append_cons_cases htokens with ⟨gap, rfl, rfl⟩ | ⟨gap, rfl, hafter⟩
    · -- the token is in the first run
      refine .inside [] runs front gap [] (blanks ++ tokens) rfl rfl .nil rfl
        (fun others hothers => (hruns.inOrder hothers).append_left blanks) fun other hother => ?_
      have hnew := Runs.run (hrun.swap htoken hother) hblanks hruns
      rwa [List.append_assoc] at hnew
    · -- the token is after the first run, which still ends at the blank where it did
      obtain ⟨gap, rfl, rfl⟩ := hblanks.exists_gap htoken hafter
      have hfirst (other : Token) : IsRun run (blanks ++ (gap ++ other :: back)) := by
        rw [← List.append_assoc] at hrun ⊢
        exact hrun.swap_after htoken other
      have hwhole (rest : List Token) :
          run ++ (blanks ++ gap) ++ rest = run ++ (blanks ++ (gap ++ rest)) := by
        simp only [List.append_assoc]
      cases ih rfl with
      | after passed middle hgap horder hrest hswap =>
        refine .after (run ++ (blanks ++ passed)) middle ?_ (horder.cons_gap run blanks) hrest
          fun other hother => ?_
        · simp only [hgap, List.append_assoc]
        · rw [hwhole]
          exact .run (hfirst other) hblanks (hswap other hother)
      | inside before later left right passed followed hinside hgap horder hback hlater hswap =>
        refine .inside (run :: before) later left right (run ++ (blanks ++ passed)) followed
          (congrArg (run :: ·) hinside) ?_ (horder.cons_gap run blanks) hback hlater
          fun other hother => ?_
        · simp only [hgap, List.append_assoc]
        · rw [hwhole]
          exact .run (hfirst other) hblanks (hswap other hother)

/-- What names a command is before a token that makes no difference. -/
theorem exists_gap_of_name {name : Token} {tokens : List Token} (hname : name.namesCommand = true)
    (htoken : token.IsInert) (heq : name :: tokens = front ++ token :: back) :
    ∃ gap, front = name :: gap ∧ tokens = gap ++ token :: back := by
  cases front with
  | nil =>
    obtain ⟨rfl, -⟩ := List.cons.inj heq
    rw [htoken.notName] at hname
    cases hname
  | cons head front =>
    obtain ⟨rfl, hlater⟩ := List.cons.inj heq
    exact ⟨front, rfl, hlater⟩

/-- An item cannot be completed for the same reason with another token in the place of one that
makes no difference. -/
theorem Stuck.swap {other : Token} {cause : Cause}
    (h : Stuck registry (front ++ token :: back) cause) (htoken : token.IsInert)
    (hother : other.IsInert) : Stuck registry (front ++ other :: back) cause := by
  generalize htokens : front ++ token :: back = tokens at h
  cases h with
  | @unknown name tokens hname hfind =>
    obtain ⟨gap, rfl, -⟩ := exists_gap_of_name hname htoken htokens.symm
    exact .unknown hname hfind
  | @unmatched name command blanks tokens run runs bracket hname hfind hblanks hruns hlength
      hunclosed =>
    obtain ⟨gap, rfl, hlater⟩ := exists_gap_of_name hname htoken htokens.symm
    obtain ⟨gap, rfl, rfl⟩ := hblanks.exists_gap htoken hlater
    rw [List.cons_append, List.append_assoc]
    cases hruns.around htoken rfl with
    | after passed middle _ _ hrun hswap =>
      rw [hrun] at hunclosed
      exact .unmatched hname hfind hblanks (hswap other hother) hlength
        (hunclosed.swap htoken hother)
    | inside before later left right passed followed hinside _ _ _ _ hswap =>
      refine .unmatched hname hfind hblanks (hswap other hother) ?_ hunclosed
      simpa [hinside] using hlength
  | @short name command blanks tokens runs hname hfind hblanks hruns hlength =>
    obtain ⟨gap, rfl, hlater⟩ := exists_gap_of_name hname htoken htokens.symm
    obtain ⟨gap, rfl, rfl⟩ := hblanks.exists_gap htoken hlater
    rw [List.cons_append, List.append_assoc]
    cases hruns.around htoken rfl with
    | after passed middle _ _ hend => simp at hend
    | inside before later left right passed followed hinside _ _ _ _ hswap =>
      have hsame : runs.length = (before ++ (left ++ other :: right) :: later).length := by
        simp [hinside]
      rw [hsame] at hlength ⊢
      exact .short hname hfind hblanks (hswap other hother) hlength

end Swap

/-- The invocations of a body with a place for a string. -/
inductive Outline where
  /-- The place is in no argument. -/
  | ignored (earlier later : List Invocation)
  /-- The place is in an argument, between two texts. -/
  | argument (earlier : List Invocation) (command : Command) (before : List Text)
    (left right : Text) (after : List Text) (later : List Invocation)

namespace Outline

/-- The invocations with a string at the place for it. -/
def fill (string : Text) : Outline → List Invocation
  | ignored earlier later => earlier ++ later
  | argument earlier command before left right after later =>
    earlier ++ ⟨command, before ++ (left ++ (string ++ right)) :: after⟩ :: later

/-- The place for a string is between two texts: the arguments before it stand in the first text and
those after it in the second one, and the argument that it is in goes on from the end of the first
text to the beginning of the second one. -/
def IsBetween (front back : Text) : Outline → Prop
  | ignored earlier later =>
    InOrder (earlier.flatMap Invocation.args) front ∧
      InOrder (later.flatMap Invocation.args) back
  | argument earlier _ before left right after later =>
    (∃ passed, front = passed ++ left ∧
      InOrder (earlier.flatMap Invocation.args ++ before) passed) ∧
    ∃ followed, back = right ++ followed ∧
      InOrder (after ++ later.flatMap Invocation.args) followed

/-- The outline with an invocation in front. -/
def push (invocation : Invocation) : Outline → Outline
  | ignored earlier later => ignored (invocation :: earlier) later
  | argument earlier command before left right after later =>
    argument (invocation :: earlier) command before left right after later

/-- An invocation in front stays there. -/
@[simp]
theorem fill_push (invocation : Invocation) (outline : Outline) (string : Text) :
    (outline.push invocation).fill string = invocation :: outline.fill string := by
  cases outline <;> rfl

/-- More text may stand in front. -/
theorem IsBetween.append_left {front back : Text} {outline : Outline}
    (h : outline.IsBetween front back) (text : Text) : outline.IsBetween (text ++ front) back := by
  cases outline with
  | ignored earlier later => exact ⟨h.1.append_left text, h.2⟩
  | argument earlier command before left right after later =>
    obtain ⟨⟨passed, rfl, horder⟩, hback⟩ := h
    exact ⟨⟨text ++ passed, (List.append_assoc _ _ _).symm, horder.append_left text⟩, hback⟩

/-- An invocation in front has its arguments there. -/
theorem IsBetween.push {front back text : Text} {outline : Outline}
    (h : outline.IsBetween front back) (invocation : Invocation)
    (hargs : InOrder invocation.args text) :
    (outline.push invocation).IsBetween (text ++ front) back := by
  cases outline with
  | ignored earlier later => exact ⟨hargs.append h.1, h.2⟩
  | argument earlier command before left right after later =>
    obtain ⟨⟨passed, rfl, horder⟩, hback⟩ := h
    refine ⟨⟨text ++ passed, (List.append_assoc _ _ _).symm, ?_⟩, hback⟩
    rw [List.flatMap_cons, List.append_assoc]
    exact hargs.append horder

end Outline

section Body

variable {registry : Registry} {front back rest : List Token} {token : Token}

/-- A token that makes no difference is after items, or it is one that is ignored, or it is in an
argument; in each case there are the same items if it is another one. -/
theorem Splits.swap {tokens : List Token} {items : List Item}
    (h : Splits registry tokens items rest) (htoken : token.IsInert)
    (htokens : tokens = front ++ token :: back) :
    (∃ middle, rest = middle ++ token :: back ∧
      ∀ other : Token, other.IsInert →
        Splits registry (front ++ other :: back) items (middle ++ other :: back)) ∨
    ∃ outline : Outline,
      outline.IsBetween (front.flatMap Token.value) (back.flatMap Token.value) ∧
      ∀ other : Token, other.IsInert →
        ∃ items, Splits registry (front ++ other :: back) items rest ∧
          items.filterMap Item.invocation? = outline.fill other.value := by
  induction h generalizing front with
  | done => exact Or.inl ⟨front, htokens, fun other _ => .done⟩
  | @ignored first tokens rest items hname hsplits ih =>
    cases front with
    | nil =>
      obtain ⟨rfl, rfl⟩ := List.cons.inj htokens
      refine Or.inr ⟨.ignored [] (items.filterMap Item.invocation?), ⟨.nil, ?_⟩,
        fun other hother => ⟨_, .ignored hother.notName hsplits, rfl⟩⟩
      rw [flatMap_args_invocations]
      exact hsplits.inOrder.flatMap Token.value
    | cons head front =>
      obtain ⟨rfl, rfl⟩ := List.cons.inj htokens
      rcases ih rfl with ⟨middle, hrest, hswap⟩ | ⟨outline, hbetween, hswap⟩
      · exact Or.inl ⟨middle, hrest, fun other hother => .ignored hname (hswap other hother)⟩
      · refine Or.inr ⟨outline, hbetween.append_left first.value, fun other hother => ?_⟩
        obtain ⟨items, hsplits, hcalls⟩ := hswap other hother
        exact ⟨_, .ignored hname hsplits, hcalls⟩
  | @call name command blanks tokens after rest runs items hname hfind hblanks hruns hlength
      hsplits ih =>
    obtain ⟨gap, rfl, hafter⟩ := exists_gap_of_name hname htoken htokens
    obtain ⟨gap, rfl, rfl⟩ := hblanks.exists_gap htoken hafter
    have hwhole (other : Token) : name :: (blanks ++ gap) ++ other :: back =
        name :: (blanks ++ (gap ++ other :: back)) := by
      rw [List.cons_append, List.append_assoc]
    cases hruns.around htoken rfl with
    | after passed middle hgap horder hrest hswap =>
      rcases ih hrest with ⟨middle', hend, hswap'⟩ | ⟨outline, hbetween, hswap'⟩
      · refine Or.inl ⟨middle', hend, fun other hother => ?_⟩
        rw [hwhole]
        exact .call hname hfind hblanks (hswap other hother) hlength (hswap' other hother)
      · refine Or.inr ⟨outline.push ⟨command, runs.map (·.flatMap Token.value)⟩, ?_,
          fun other hother => ?_⟩
        · rw [hgap, ← List.cons_append, List.flatMap_append, List.flatMap_append]
          exact (hbetween.push _ (horder.flatMap Token.value)).append_left _
        · obtain ⟨items, hsplits, hcalls⟩ := hswap' other hother
          rw [hwhole]
          refine ⟨_, .call hname hfind hblanks (hswap other hother) hlength hsplits, ?_⟩
          rw [Outline.fill_push, ← hcalls]
          rfl
    | inside before later left right passed followed hinside hgap horder hback hlater hswap =>
      refine Or.inr ⟨.argument [] command (before.map (·.flatMap Token.value))
        (left.flatMap Token.value) (right.flatMap Token.value)
        (later.map (·.flatMap Token.value)) (items.filterMap Item.invocation?), ⟨?_, ?_⟩,
        fun other hother => ?_⟩
      · refine ⟨(name :: (blanks ++ passed)).flatMap Token.value, ?_, ?_⟩
        · rw [hgap, ← List.flatMap_append, List.cons_append, List.append_assoc]
        · exact (horder.append_left (name :: blanks)).flatMap Token.value
      · refine ⟨followed.flatMap Token.value, ?_, ?_⟩
        · rw [hback, List.flatMap_append]
        · rw [flatMap_args_invocations, ← List.map_append]
          exact (hlater _ hsplits.inOrder).flatMap Token.value
      · rw [hwhole]
        refine ⟨_, .call hname hfind hblanks (hswap other hother) ?_ hsplits, ?_⟩
        · simpa [hinside] using hlength
        · simp [Item.invocation?, Outline.fill]

/-- A body that is split into items up to one that cannot be completed is not parsed. -/
theorem Splits.result_parse_of_stuck {body : Text} {items : List Item} {cause : Cause}
    (h : Splits registry (tokenize body) items rest) (hstuck : Stuck registry rest cause) :
    (parse registry body).result = .error cause := by
  rw [Parse.result_eq_error_iff, parse, h.parseTokens_eq (blanksNameless_tokenize body),
    hstuck.parseTokens_eq]

/-- A body that is split into items is parsed to their calls. -/
theorem Splits.result_parse {body : Text} {items : List Item}
    (h : Splits registry (tokenize body) items []) :
    (parse registry body).result = .ok (items.filterMap Item.invocation?) := by
  rw [Parse.result_eq_ok_iff, parse, h.parseTokens_eq (blanksNameless_tokenize body), parseTokens]
  exact ⟨rfl, List.append_nil _⟩

/-- Bodies whose tokens differ only in one that makes no difference fail to be parsed, all for one
reason, or are parsed to the same invocations but for that token. -/
theorem parse_of_isInert (registry : Registry) {body : Text} (htoken : token.IsInert)
    (h : tokenize body = front ++ token :: back) :
    (∃ cause, ∀ (body : Text) (other : Token), other.IsInert →
      tokenize body = front ++ other :: back → (parse registry body).result = .error cause) ∨
    ∃ outline : Outline,
      outline.IsBetween (front.flatMap Token.value) (back.flatMap Token.value) ∧
      ∀ (body : Text) (other : Token), other.IsInert → tokenize body = front ++ other :: back →
        (parse registry body).result = .ok (outline.fill other.value) := by
  obtain ⟨items, rest, hsplits, hhalts⟩ :=
    splits_of_parseTokens registry _ (blanksNameless_tokenize body)
  cases herror : (parseTokens registry (tokenize body)).error with
  | none =>
    rw [herror] at hhalts
    obtain rfl : rest = [] := hhalts
    rcases hsplits.swap htoken h with ⟨middle, hend, -⟩ | ⟨outline, hbetween, hswap⟩
    · simp at hend
    · refine Or.inr ⟨outline, hbetween, fun body other hother hbody => ?_⟩
      obtain ⟨items, hsplits, hcalls⟩ := hswap other hother
      rw [← hbody] at hsplits
      rw [hsplits.result_parse, hcalls]
  | some cause =>
    -- the token may be in an item before the one that is not completed, or in that one, or after it
    rw [herror] at hhalts
    have hstuck : Stuck registry rest cause := hhalts
    refine Or.inl ⟨cause, fun body other hother hbody => ?_⟩
    rcases hsplits.swap htoken h with ⟨middle, rfl, hswap⟩ | ⟨outline, -, hswap⟩
    · have hsplits := hswap other hother
      rw [← hbody] at hsplits
      exact hsplits.result_parse_of_stuck (hstuck.swap htoken hother)
    · obtain ⟨items, hsplits, -⟩ := hswap other hother
      rw [← hbody] at hsplits
      exact hsplits.result_parse_of_stuck hstuck

end Body

/-- What is inside a string makes no difference to how a body is parsed. With any other text without
quotes and line feeds between its quotes, the body fails to be parsed for the reason that it did, or
it is parsed to the same commands with the same arguments, except that the argument that the string
is in, if there is one, has the new string in its place. -/
theorem parse_refill_string {body : Text} {token : PlacedToken}
    (htoken : token ∈ tokenizePlaced body) (hkind : token.kind = .string) :
    ∃ quote inside, (quote = '"' ∨ quote = '\'') ∧ token.value = Text.quotedBy quote inside ∧
      ∀ registry,
        (∃ cause, (parse registry body).result = .error cause ∧
          ∀ content, Text.IsQuotable content →
            (parse registry (token.refill content body)).result = .error cause) ∨
        ∃ outline : Outline,
          outline.IsBetween (body.take token.position)
            (body.drop (token.position + token.value.length)) ∧
          (parse registry body).result = .ok (outline.fill token.value) ∧
          ∀ content, Text.IsQuotable content →
            (parse registry (token.refill content body)).result =
              .ok (outline.fill (Text.quotedBy quote content)) := by
  obtain ⟨quote, inside, front, back, hquote, hstring, htokens, hfront, hback, hrefill⟩ :=
    exists_tokenize_refill htoken hkind
  have hinert (content : Text) := isInert_quotedBy hquote content
  rw [hstring] at htokens
  rw [hfront, hback]
  refine ⟨quote, inside, hquote, congrArg Token.value hstring, fun registry => ?_⟩
  rcases parse_of_isInert registry (hinert inside) htokens with
    ⟨cause, hfails⟩ | ⟨outline, hbetween, hfills⟩
  · refine Or.inl ⟨cause, hfails body _ (hinert inside) htokens, fun content hcontent => ?_⟩
    exact hfails _ _ (hinert content) (hrefill content hcontent)
  · refine Or.inr ⟨outline, hbetween, ?_, fun content hcontent => ?_⟩
    · rw [hstring]
      exact hfills body _ (hinert inside) htokens
    · exact hfills _ _ (hinert content) (hrefill content hcontent)

/-- A string with a bracket, blanks and a name in it is parsed as the string without them is, in an
argument between brackets and after a quote that has no partner. -/
theorem bracketsInString_parsed :
    (⟨⟨.string, "\"a\"".toList⟩, 9⟩ : PlacedToken) ∈ tokenizePlaced "'@def k (\"a\" b)".toList ∧
    Text.IsQuotable ") @x [ ".toList ∧
    ∃ outline : Outline, outline.IsBetween "'@def k (".toList " b)".toList ∧
      (parse .builtin "'@def k (\"a\" b)".toList).result = .ok (outline.fill "\"a\"".toList) ∧
      (parse .builtin "'@def k (\") @x [ \" b)".toList).result =
        .ok (outline.fill "\") @x [ \"".toList) := by
  have htoken : (⟨⟨.string, "\"a\"".toList⟩, 9⟩ : PlacedToken) ∈
      tokenizePlaced "'@def k (\"a\" b)".toList := by decide +kernel
  have hcontent : Text.IsQuotable ") @x [ ".toList := by constructor <;> decide
  obtain ⟨quote, inside, -, hvalue, hparse⟩ := parse_refill_string htoken rfl
  obtain rfl : '"' = quote := List.head_eq_of_cons_eq hvalue
  refine ⟨htoken, hcontent, ?_⟩
  rcases hparse .builtin with ⟨cause, hfails, -⟩ | ⟨outline, hbetween, hparsed, hrefilled⟩
  · have hok : (parse .builtin "'@def k (\"a\" b)".toList).result =
        .ok [Invocation.defining "k".toList "(\"a\" b)".toList] := by cbv
    rw [hok] at hfails
    cases hfails
  · exact ⟨outline, hbetween, hparsed, hrefilled _ hcontent⟩

end TextMacro
