import TextMacro.Proofs.OpaqueString
import TextMacro.Proofs.Printing

/-!
# Paths with and without quotes

The path of an inclusion can be written between double quotes. There are three places where the
quotes have a meaning: a quote that recurs on its line makes a string of what is between, a string
is one token of an argument whatever is inside it, and the quotes around an argument are taken off
before a file is asked for. For a path without double quotes and line feeds the three agree: the
argument is the string, and what is asked for is the path.

So a path that can also be written as it is, because it is read as one argument, includes the same
file in both ways. A single quote without a partner does no harm there, since only a blank follows.
-/

namespace TextMacro

open Argument

variable {path argument : Text} {registry : Registry}

/-- Double quotes around a path are taken off, and the path is kept. -/
theorem unquote_quotedBy (hline : '\n' ∉ path) : unquote (Text.quotedBy '"' path) = path := by
  have hlast : (Text.quotedBy '"' path).getLast? = some '"' := by
    rw [Text.quotedBy, ← List.cons_append, List.getLast?_concat]
  have hinside : '\n' ∉ Text.quotedBy '"' path := by
    simp [Text.mem_quotedBy_iff, hline]
  rw [unquote, if_pos ⟨by simp [Text.quotedBy], rfl, hlast, hinside⟩, Text.quotedBy,
    List.tail_cons, List.dropLast_concat]

/-- A path without double quotes is kept as it is. -/
theorem unquote_of_notMem (h : '"' ∉ path) : unquote path = path := by
  rw [unquote, if_neg]
  rintro ⟨-, hhead, -⟩
  exact h (List.mem_of_head? hhead)

/-- A token that makes no difference is a run of its own. -/
theorem Token.IsInert.isRun {token : Token} (h : token.IsInert) : IsRun [token] [] where
  starts := ⟨token, [], rfl, h.notBlank⟩
  holds := by
    intro before blank after hwhole hblank
    have hmem : blank ∈ [token] := by
      rw [hwhole]
      exact List.mem_append_right before List.mem_cons_self
    rw [List.mem_singleton.mp hmem, h.notBlank] at hblank
    cases hblank
  closed := by
    intro bracket
    rw [Levels.ofTokens, List.foldl_cons, List.foldl_nil, Levels.add_of_isInert _ h]
    cases bracket <;> exact Int.le_refl 0
  stops := nofun

/-- A string is a run of its own. -/
theorem isRun_quotedBy {quote : Char} (hquote : quote = '"' ∨ quote = '\'')
    (hnone : quote ∉ path) (hline : '\n' ∉ path) :
    IsRun (tokenize (Text.quotedBy quote path)) [] := by
  have htokens := tokenize_quotedBy_append hquote hnone hline []
  rw [List.append_nil, tokenize_nil] at htokens
  rw [htokens]
  exact (isInert_quotedBy hquote path).isRun

/-- A blank at the end of a text is a token of its own, also where a quote before it has no
partner: there is nothing after the blank in which the quote could find one. -/
theorem tokenize_concat_blank {blank : Char} (hblank : Text.isBlank blank = true) (text : Text) :
    tokenize (text ++ [blank]) = tokenize text ++ [⟨.char, [blank]⟩] := by
  -- a blank at the end is as good as a line feed, at which every quote stops to look
  have hreplaces : Text.Replaces ['\n'] [blank] := by
    refine ⟨⟨'\n', [], rfl, rfl⟩, ⟨blank, [], rfl, Text.isNamePart_of_isBlank hblank⟩, ?_⟩
    intro quote front hquote hopen
    rw [Text.closeQuote?_append_eq_none_iff] at hopen ⊢
    refine ⟨hopen.1, Or.inr (Text.closeQuote?_eq_none_of_notMem ?_)⟩
    rw [List.mem_singleton]
    rintro rfl
    rcases hquote with rfl | rfl <;> cases hblank
  have hline : tokenize ((tokenize text).flatMap Token.value ++ ['\n']) =
      tokenize text ++ lineFeedBefore [] := by
    rw [flatMap_value_tokenize]
    exact tokenize_append_lineFeed text []
  have hlast := tokenize_append_of_replaces hreplaces hline
  rwa [flatMap_value_tokenize, tokenize_cons_of_isBlank hblank, tokenize_nil] at hlast

/-- The body of a block that includes what an argument names, with a blank around each word. -/
def includeBody (argument : Text) : Text :=
  " @inc ".toList ++ (argument ++ " ".toList)

/-- The tokens of such a body are those of its words and the blanks around them. -/
theorem tokenize_includeBody (argument : Text) :
    tokenize (includeBody argument) =
      ⟨.char, [' ']⟩ :: ⟨.directive, "@inc".toList⟩ ::
        ([⟨.char, [' ']⟩] ++ (tokenize argument ++ [⟨.char, [' ']⟩])) := by
  have hname : tokenize "@inc".toList = [⟨.directive, "@inc".toList⟩] :=
    @tokenize_name "inc".toList rfl
  have hpaired : ∀ token ∈ tokenize "@inc".toList, token.isLoneQuote = false := by
    rw [hname, List.forall_mem_singleton]
    rfl
  have hbody : includeBody argument = ' ' :: ("@inc".toList ++ ' ' :: (argument ++ [' '])) := rfl
  rw [hbody, tokenize_cons_of_isBlank rfl, tokenize_append_blank rfl (Or.inr hpaired), hname,
    tokenize_concat_blank rfl]
  rfl

/-- An argument that makes up a run is the argument of the one inclusion in such a body. -/
theorem parse_includeBody (hfind : registry.find? "inc".toList = some .inclusion)
    (hrun : IsRun (tokenize argument) []) :
    (parse registry (includeBody argument)).result = .ok [.including argument] := by
  have hblank : AllBlank [(⟨.char, [' ']⟩ : Token)] := List.forall_mem_singleton.mpr rfl
  have hbefore : IsRun (tokenize argument) ([⟨.char, [' ']⟩] ++ []) :=
    hrun.append fun token htoken => hblank token (List.mem_of_head? htoken)
  have hsplits : Splits registry (tokenize (includeBody argument))
      [.ignored ⟨.char, [' ']⟩, .call ⟨.directive, "@inc".toList⟩ .inclusion [tokenize argument]]
      [] := by
    rw [tokenize_includeBody]
    exact .ignored rfl (.call rfl hfind hblank (.run hbefore hblank .done) rfl .done)
  have hcall : Item.invocation? (.call ⟨.directive, "@inc".toList⟩ .inclusion [tokenize argument]) =
      some (.including argument) := by
    rw [Item.invocation?, List.map_singleton, flatMap_value_tokenize]
    rfl
  rw [hsplits.result_parse, List.filterMap_cons_none rfl, List.filterMap_cons_some hcall,
    List.filterMap_nil]

namespace Context

/-- A body that is parsed does to a text what its invocations do. -/
theorem executeBody_outcome_of_parse {context : Context} {body : Text}
    {invocations : List Invocation}
    (h : (parse context.registry body).result = .ok invocations) (steps : Nat) (frame : Frame)
    (text : Text) (index : Int) :
    (context.executeBody steps body frame text index).outcome =
      (execute (context.expand steps) frame index invocations text).outcome :=
  Run.andThen_outcome_of_done ((context.parseBody_outcome_eq_done_iff body invocations).mpr h) _

/-- A path between double quotes is the argument of the one inclusion in a body, and the file that
is asked for is the path, whatever it holds besides double quotes and line feeds. If the path is
also read as one argument where it is written as it is, a body with the bare path does the same to a
text, at every place and in every frame. -/
theorem quoted_path_included_as_bare (context : Context)
    (hfind : context.registry.find? "inc".toList = some .inclusion) (path : Text)
    (hquote : '"' ∉ path) (hline : '\n' ∉ path) :
    let quoted := Text.quotedBy '"' path
    (parse context.registry (includeBody quoted)).result = .ok [⟨.inclusion, [quoted]⟩] ∧
    (∀ frame text index, Command.inclusion.handler ⟨[quoted], frame, text, index⟩ =
      .expand ⟨path, some frame.directory, frame.active⟩ fun included =>
        .done (Text.insertAt text index included)) ∧
    (path ≠ [] → ∀ argument, readAt (tokenize path) 0 = .ok (argument, (tokenize path).length) →
      (parse context.registry (includeBody path)).result = .ok [⟨.inclusion, [path]⟩] ∧
      ∀ steps frame text index,
        (context.executeBody steps (includeBody path) frame text index).outcome =
          (context.executeBody steps (includeBody quoted) frame text index).outcome) := by
  intro quoted
  have hunquoted : unquote quoted = path := unquote_quotedBy hline
  have hquoted := parse_includeBody hfind (isRun_quotedBy (Or.inl rfl) hquote hline)
  refine ⟨hquoted, fun frame text index => ?_, fun hne argument hread => ?_⟩
  · rw [← hunquoted]
    rfl
  · have hbare := parse_includeBody hfind (isRun_of_readAt (tokenize_ne_nil hne) hread)
    refine ⟨hbare, fun steps frame text index => ?_⟩
    rw [executeBody_outcome_of_parse hbare, executeBody_outcome_of_parse hquoted, execute, execute,
      Invocation.including, Invocation.including, run_inclusion, run_inclusion,
      unquote_of_notMem hquote, hunquoted]

/-- A file whose name has a single quote, blanks between brackets and an at sign in it. -/
def oddlyNamed : Context :=
  .ofTexts [("it's(a b)@x", "X")]

/-- The oddly named file is included in both ways. -/
theorem oddlyNamed_included :
    (parse oddlyNamed.registry " @inc \"it's(a b)@x\" ".toList).result =
      .ok [⟨.inclusion, ["\"it's(a b)@x\"".toList]⟩] ∧
    (parse oddlyNamed.registry " @inc it's(a b)@x ".toList).result =
      .ok [⟨.inclusion, ["it's(a b)@x".toList]⟩] ∧
    (oddlyNamed.executeBody 2 " @inc \"it's(a b)@x\" ".toList ⟨.ofText "m".toList, none, []⟩
      "ab".toList 1).outcome = .done "aXb".toList ∧
    (oddlyNamed.executeBody 2 " @inc it's(a b)@x ".toList ⟨.ofText "m".toList, none, []⟩
      "ab".toList 1).outcome = .done "aXb".toList := by
  obtain ⟨hquoted, -, hsame⟩ := quoted_path_included_as_bare oddlyNamed rfl "it's(a b)@x".toList
    (by decide) (by decide)
  obtain ⟨hbare, hbody⟩ := hsame (by decide) "it's(a b)@x".toList (by decide +kernel)
  have hdone : (oddlyNamed.executeBody 2 " @inc \"it's(a b)@x\" ".toList
      ⟨.ofText "m".toList, none, []⟩ "ab".toList 1).outcome = .done "aXb".toList := by
    refine (executeBody_outcome_of_parse hquoted 2 _ _ _).trans ?_
    decide +kernel
  exact ⟨hquoted, hbare, hdone, (hbody 2 _ _ _).trans hdone⟩

end Context

end TextMacro
