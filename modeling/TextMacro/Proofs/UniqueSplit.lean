import Mathlib
import TextMacro.Proofs.Grammar
import TextMacro.Proofs.Outcome

/-!
# Bodies split in one way

A body can be split into items in one way only, but for blanks, which may be counted to a call or be
ignored. So the grammar says of every body what it is parsed to, or why it is not parsed.
-/

namespace TextMacro

variable {registry : Registry} {tokens rest : List Token}

/-- The items of a body other than blanks. -/
def significant (items : List Item) : List Item :=
  items.filter (!·.isBlank)

/-- A blank that is ignored is not significant. -/
theorem significant_cons_of_blank {token : Token} (h : token.isBlank = true) (items : List Item) :
    significant (.ignored token :: items) = significant items :=
  List.filter_cons_of_neg (by simp [Item.isBlank, h])

/-- Other ignored tokens are significant. -/
theorem significant_cons_of_not_blank {token : Token} (h : token.isBlank = false)
    (items : List Item) :
    significant (.ignored token :: items) = .ignored token :: significant items :=
  List.filter_cons_of_pos (by simp [Item.isBlank, h])

/-- Calls are significant. -/
theorem significant_cons_call (name : Token) (command : Command) (runs : List (List Token))
    (items : List Item) :
    significant (.call name command runs :: items) =
      .call name command runs :: significant items := rfl

/-- A first token that names no command is an ignored item. -/
theorem Splits.of_nameless {token : Token} {items : List Item}
    (h : Splits registry (token :: tokens) items []) (hname : token.namesCommand = false) :
    ∃ items', items = .ignored token :: items' ∧ Splits registry tokens items' [] := by
  cases h with
  | ignored _ hsplits => exact ⟨_, rfl, hsplits⟩
  | call hnames =>
    rw [hname] at hnames
    cases hnames

/-- A first token that names a command begins a call. -/
theorem Splits.of_name {name : Token} {items : List Item}
    (h : Splits registry (name :: tokens) items []) (hname : name.namesCommand = true) :
    ∃ command blanks arguments after runs items', tokens = blanks ++ arguments ∧
      items = .call name command runs :: items' ∧
      registry.find? name.commandName = some command ∧ AllBlank blanks ∧
      Runs arguments runs after ∧ runs.length = command.arity.toNat ∧
      Splits registry after items' [] := by
  cases h with
  | ignored hnameless =>
    rw [hname] at hnameless
    cases hnameless
  | call _ hfind hblanks hruns hlength hsplits =>
    exact ⟨_, _, _, _, _, _, rfl, rfl, hfind, hblanks, hruns, hlength, hsplits⟩

/-- Blanks in front contribute no significant item. -/
theorem Splits.significant_skipBlanks {items : List Item} (h : Splits registry tokens items [])
    (hnameless : BlanksNameless tokens) :
    ∃ items', Splits registry (skipBlanks tokens) items' [] ∧
      significant items' = significant items := by
  induction tokens generalizing items with
  | nil => exact ⟨items, h, rfl⟩
  | cons token tokens ih =>
    cases hblank : token.isBlank with
    | true =>
      obtain ⟨items', rfl, hsplits⟩ := h.of_nameless (hnameless token List.mem_cons_self hblank)
      rw [skipBlanks_cons_of_blank hblank, significant_cons_of_blank hblank]
      exact ih hsplits (hnameless.of_suffix (List.suffix_cons token tokens))
    | false =>
      rw [skipBlanks_cons_of_not_blank hblank]
      exact ⟨items, h, rfl⟩

/-- Tokens are split into items in one way only, but for blanks. -/
theorem Splits.significant_eq {tokens' : List Token} {items items' : List Item}
    (h : Splits registry tokens items rest) (hrest : rest = [])
    (h' : Splits registry tokens' items' []) (hnameless : BlanksNameless tokens)
    (hnameless' : BlanksNameless tokens') (hskip : skipBlanks tokens = skipBlanks tokens') :
    significant items = significant items' := by
  induction h generalizing tokens' items' with
  | done =>
    subst hrest
    obtain ⟨items'', hsplits, hsame⟩ := h'.significant_skipBlanks hnameless'
    rw [← hskip] at hsplits
    rw [← hsame]
    cases hsplits with
    | done => rfl
  | @ignored token tokens rest items hname _ ih =>
    have hlater : BlanksNameless tokens := hnameless.of_suffix (List.suffix_cons token tokens)
    cases hblank : token.isBlank with
    | true =>
      rw [skipBlanks_cons_of_blank hblank] at hskip
      rw [significant_cons_of_blank hblank]
      exact ih hrest h' hlater hnameless' hskip
    | false =>
      obtain ⟨items'', hsplits, hsame⟩ := h'.significant_skipBlanks hnameless'
      rw [← hskip, skipBlanks_cons_of_not_blank hblank] at hsplits
      obtain ⟨others, rfl, hothers⟩ := hsplits.of_nameless hname
      rw [← hsame, significant_cons_of_not_blank hblank, significant_cons_of_not_blank hblank,
        ih hrest hothers hlater hlater rfl]
  | @call name command blanks tokens after rest runs items hname hfind hblanks hruns hlength _ ih =>
    have hvisible : name.isBlank = false := by
      apply Bool.eq_false_iff.mpr
      intro hblank
      rw [hnameless name List.mem_cons_self hblank] at hname
      cases hname
    obtain ⟨items'', hsplits, hsame⟩ := h'.significant_skipBlanks hnameless'
    rw [← hskip, skipBlanks_cons_of_not_blank hvisible] at hsplits
    obtain ⟨command', blanks', arguments, after', runs', others, htokens, rfl, hfind', hblanks',
      hruns', hlength', hothers⟩ := hsplits.of_name hname
    obtain rfl : command = command' := Option.some.inj (hfind.symm.trans hfind')
    have hskip' : skipBlanks tokens = skipBlanks arguments := by
      rw [← skipBlanks_append hblanks, htokens, skipBlanks_append hblanks']
    obtain ⟨rfl, hafter⟩ := hruns.unique hruns' hskip' (hlength.trans hlength'.symm)
    have hsuffix : after <:+ name :: (blanks ++ tokens) :=
      (hruns.suffix.trans (List.suffix_append blanks tokens)).trans (List.suffix_cons name _)
    have hsuffix' : after' <:+ name :: (blanks ++ tokens) := by
      rw [htokens]
      exact (hruns'.suffix.trans (List.suffix_append blanks' arguments)).trans
        (List.suffix_cons name _)
    rw [← hsame, significant_cons_call, significant_cons_call, ih hrest hothers
      (hnameless.of_suffix hsuffix) (hnameless.of_suffix hsuffix') hafter]

/-- A token begins with the first character of the text. -/
theorem Token.head?_value_first (c : Char) (rest : Text) :
    (first c rest).1.value.head? = some c := by
  have happend := first_append c rest
  cases hvalue : (first c rest).1.value with
  | nil => exact absurd hvalue (first_value_ne_nil c rest)
  | cons d value =>
    rw [hvalue, List.cons_append, List.cons.injEq] at happend
    rw [happend.1, List.head?_cons]

/-- Only an at sign begins a directive. -/
theorem Token.eq_at_of_kind_first {c : Char} {rest : Text}
    (h : (first c rest).1.kind = .directive) : c = '@' := by
  unfold first at h
  split at h
  · next hat => exact hat.1
  · split at h
    · cases h
    · split at h <;> cases h

/-- A first token that is blank names no command, as an at sign is not blank. -/
theorem Token.namesCommand_first_of_isBlank {c : Char} {rest : Text}
    (h : (first c rest).1.isBlank = true) : (first c rest).1.namesCommand = false := by
  have hhead := head?_value_first c rest
  have hblank : Text.isBlank c = true := by
    rw [isBlank, Bool.and_eq_true, List.all_eq_true] at h
    exact h.2 c (List.mem_of_head? hhead)
  apply Bool.eq_false_iff.mpr
  intro hname
  have hat : c = '@' := by
    rw [namesCommand, Bool.or_eq_true, beq_iff_eq, beq_iff_eq] at hname
    rcases hname with hkind | hvalue
    · exact eq_at_of_kind_first hkind
    · rw [hvalue] at hhead
      exact (Option.some.inj hhead).symm
  rw [hat] at hblank
  cases hblank

/-- No blank token of a text names a command. -/
theorem blanksNameless_tokenize (text : Text) : BlanksNameless (tokenize text) := by
  induction text using tokenize.induct with
  | case1 =>
    intro token htoken
    simp at htoken
  | case2 c rest ih =>
    intro token htoken
    rw [tokenize_cons, List.mem_cons] at htoken
    rcases htoken with rfl | hlater
    · exact Token.namesCommand_first_of_isBlank
    · exact ih token hlater

/-- The error of a parse is its result. -/
theorem Parse.result_eq_error_iff (parse : Parse) (cause : Cause) :
    parse.result = .error cause ↔ parse.error = some cause := by
  obtain ⟨parsed, error⟩ := parse
  cases error <;> simp [result]

/-- A body is parsed exactly if it can be split into items, and to the calls among them; it can be
split in one way only, but for blanks. Otherwise it can be split up to an item that cannot be
completed, which is the reason that is given. -/
theorem parse_iff_splits (registry : Registry) (body : Text) :
    (∀ invocations, (parse registry body).result = .ok invocations ↔
      ∃ items, Splits registry (tokenize body) items [] ∧
        invocations = items.filterMap Item.invocation?) ∧
    (∀ items items', Splits registry (tokenize body) items [] →
      Splits registry (tokenize body) items' [] → significant items = significant items') ∧
    (∀ cause, (parse registry body).result = .error cause ↔
      ∃ items rest, Splits registry (tokenize body) items rest ∧ Stuck registry rest cause) := by
  have hnameless := blanksNameless_tokenize body
  refine ⟨fun invocations => ?_, fun items items' h h' => ?_, fun cause => ?_⟩
  · rw [Parse.result_eq_ok_iff, parse]
    constructor
    · rintro ⟨herror, rfl⟩
      obtain ⟨items, rest, hsplits, hhalts⟩ := splits_of_parseTokens registry _ hnameless
      rw [herror] at hhalts
      obtain rfl : rest = [] := hhalts
      refine ⟨items, hsplits, ?_⟩
      rw [hsplits.parseTokens_eq hnameless, parseTokens]
      exact List.append_nil _
    · rintro ⟨items, hsplits, rfl⟩
      rw [hsplits.parseTokens_eq hnameless, parseTokens]
      exact ⟨rfl, List.append_nil _⟩
  · exact h.significant_eq rfl h' hnameless hnameless rfl
  · rw [Parse.result_eq_error_iff, parse]
    constructor
    · intro herror
      obtain ⟨items, rest, hsplits, hhalts⟩ := splits_of_parseTokens registry _ hnameless
      rw [herror] at hhalts
      exact ⟨items, rest, hsplits, hhalts⟩
    · rintro ⟨items, rest, hsplits, hstuck⟩
      rw [hsplits.parseTokens_eq hnameless, hstuck.parseTokens_eq]

/-- A body of an ignored word and a definition has one split; with an inclusion that lacks its
argument after them, it can be split up to there. -/
theorem bracketedDefinition_splits :
    (∃ items, Splits .builtin (tokenize "x @def k (a b)".toList) items [] ∧
      [Invocation.defining "k".toList "(a b)".toList] = items.filterMap Item.invocation? ∧
      ∀ items', Splits .builtin (tokenize "x @def k (a b)".toList) items' [] →
        significant items' = significant items) ∧
    ∃ items rest, Splits .builtin (tokenize "x @def k (a b) @inc".toList) items rest ∧
      Stuck .builtin rest (.arity "inc".toList 1 0) := by
  obtain ⟨haccepts, hunique, -⟩ := parse_iff_splits .builtin "x @def k (a b)".toList
  obtain ⟨-, -, hrejects⟩ := parse_iff_splits .builtin "x @def k (a b) @inc".toList
  constructor
  · obtain ⟨items, hsplits, hcalls⟩ :=
      (haccepts [Invocation.defining "k".toList "(a b)".toList]).mp (by cbv)
    exact ⟨items, hsplits, hcalls, fun items' hsplits' => hunique items' items hsplits' hsplits⟩
  · exact (hrejects (.arity "inc".toList 1 0)).mp (by cbv)

end TextMacro
