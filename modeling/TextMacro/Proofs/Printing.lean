import TextMacro.Proofs.BodyJoin

/-!
# Written calls

A call is written as its name after an at sign and its arguments, with blanks between them. The
words of several calls are written one after another in the same way, so nothing but the number of
arguments tells where a call ends. An argument can be written as it is if it makes up a run of its
own, and if no quote in it is left to look for a partner in what is written after it.

Parsing undoes writing: each word has its own tokens again, each argument is read as the run that it
is, and the calls are the items of the body.
-/

namespace TextMacro

open Argument

/-- Words one after another with blanks after each, and at least one blank where another word
follows. -/
inductive Spaced : List Text → Text → Prop
  | nil : Spaced [] []
  | cons {word gap body : Text} {words : List Text} :
    gap.all Text.isBlank = true → (words ≠ [] → gap ≠ []) → Spaced words body →
    Spaced (word :: words) (word ++ (gap ++ body))

/-- A text that can be written as an argument: it is read as one argument, and no quote in it stands
alone. -/
structure Argument.IsPlain (argument : Text) : Prop where
  nonempty : argument ≠ []
  paired : ∀ token ∈ tokenize argument, token.isLoneQuote = false
  whole : readAt (tokenize argument) 0 = .ok (argument, (tokenize argument).length)

namespace Invocation

/-- The words of a call: its name after an at sign, and its arguments. -/
def words (call : Invocation) : List Text :=
  ('@' :: call.command.name) :: call.args

/-- A call that can be written: its command is registered under a name of word characters, and it
has as many arguments as the command takes, each of which can be written. -/
structure IsWritable (registry : Registry) (call : Invocation) : Prop where
  name : call.command.name.all Text.isWord = true
  registered : registry.find? call.command.name = some call.command
  arity : call.command.arity = call.args.length
  args : ∀ argument ∈ call.args, IsPlain argument

end Invocation

/-- Blanks in front of a text are tokens of their own. -/
theorem tokenize_blanks_append {blanks : Text} (h : blanks.all Text.isBlank = true)
    (after : Text) : tokenize (blanks ++ after) = tokenize blanks ++ tokenize after := by
  induction blanks with
  | nil => rw [tokenize_nil, List.nil_append, List.nil_append]
  | cons blank blanks ih =>
    rw [List.all_cons, Bool.and_eq_true] at h
    rw [List.cons_append, tokenize_cons_of_isBlank h.1, tokenize_cons_of_isBlank h.1, ih h.2,
      List.cons_append]

/-- The tokens of blanks are blank. -/
theorem allBlank_tokenize {blanks : Text} (h : blanks.all Text.isBlank = true) :
    AllBlank (tokenize blanks) := by
  induction blanks with
  | nil => simp [AllBlank]
  | cons blank blanks ih =>
    rw [List.all_cons, Bool.and_eq_true] at h
    rw [tokenize_cons_of_isBlank h.1]
    intro token htoken
    rcases List.mem_cons.mp htoken with rfl | hlater
    · simp [Token.isBlank, h.1]
    · exact ih h.2 token hlater

/-- A word that is written before others, or at the end, has its own tokens. -/
theorem tokenize_word_append {word gap body : Text} {words : List Text}
    (hpaired : ∀ token ∈ tokenize word, token.isLoneQuote = false)
    (hgap : gap.all Text.isBlank = true) (hnext : words ≠ [] → gap ≠ [])
    (hbody : Spaced words body) :
    tokenize (word ++ (gap ++ body)) = tokenize word ++ (tokenize gap ++ tokenize body) := by
  cases gap with
  | nil =>
    -- only the last word has no blank after it
    cases hbody with
    | nil => simp
    | cons => simp at hnext
  | cons blank gap =>
    rw [List.all_cons, Bool.and_eq_true] at hgap
    rw [List.cons_append, tokenize_append_blank hgap.1 (Or.inr hpaired),
      tokenize_blanks_append hgap.2, tokenize_cons_of_isBlank hgap.1, List.cons_append]

/-- What is written after a word begins with a blank, if it is not empty. -/
theorem isBlank_of_head?_gap {gap body : Text} {words : List Text}
    (hgap : gap.all Text.isBlank = true) (hnext : words ≠ [] → gap ≠ [])
    (hbody : Spaced words body) (token : Token)
    (htoken : (tokenize gap ++ tokenize body).head? = some token) : token.isBlank = true := by
  cases gap with
  | nil =>
    cases hbody with
    | nil => simp at htoken
    | cons => simp at hnext
  | cons blank gap =>
    have hblanks := allBlank_tokenize hgap
    rw [List.all_cons, Bool.and_eq_true] at hgap
    rw [tokenize_cons_of_isBlank hgap.1] at hblanks htoken
    exact hblanks token (List.mem_of_head? htoken)

/-- Tokens that are read as one argument, up to the last one, make up a run. -/
theorem Argument.isRun_of_readAt {tokens : List Token} {text : Text} (hne : tokens ≠ [])
    (h : readAt tokens 0 = .ok (text, tokens.length)) : IsRun tokens [] := by
  obtain ⟨first, others, htokens⟩ := List.exists_cons_of_ne_nil hne
  rw [readAt, List.drop_zero] at h
  split at h
  · cases h
  · next read rest hread =>
    simp only [Except.ok.injEq, Prod.mk.injEq, Nat.zero_add] at h
    have happend := span_append .zero tokens
    -- all tokens are taken, so the first one is not blank and none is left
    have hnone : (span .zero tokens).2 = [] := by
      have hlength := congrArg List.length happend
      rw [List.length_append, h.2] at hlength
      exact List.length_eq_zero_iff.mp (by omega)
    have hfirst : first.isBlank = false := by
      apply Bool.eq_false_iff.mpr
      intro hblank
      rw [htokens, span, if_pos (by simp [hblank, Levels.zero, Levels.open?])] at hnone
      cases hnone
    have hrest : rest = [] := by
      rw [← hnone]
      rw [Argument.read] at hread
      dsimp only at hread
      split at hread
      · cases hread
      · exact (Prod.mk.inj (Except.ok.inj hread)).2.symm
    rw [htokens] at hread ⊢
    obtain ⟨run, hrun, hisRun, -⟩ := isRun_of_read hfirst hread
    rw [hrest] at hrun hisRun
    rw [hrun, List.append_nil]
    exact hisRun

/-- A text that is not empty has tokens. -/
theorem tokenize_ne_nil {text : Text} (h : text ≠ []) : tokenize text ≠ [] := by
  obtain ⟨c, rest, rfl⟩ := List.exists_cons_of_ne_nil h
  rw [tokenize_cons]
  exact List.cons_ne_nil _ _

/-- An argument that can be written makes up a run. -/
theorem Argument.IsPlain.isRun {argument : Text} (h : IsPlain argument) :
    IsRun (tokenize argument) [] :=
  isRun_of_readAt (tokenize_ne_nil h.nonempty) h.whole

/-- A name of word characters after an at sign is one token. -/
theorem tokenize_name {name : Text} (h : name.all Text.isWord = true) :
    tokenize ('@' :: name) = [⟨if name = [] then .char else .directive, '@' :: name⟩] := by
  rw [List.all_eq_true] at h
  have htake : name.takeWhile Text.isWord = name := List.takeWhile_eq_self_iff.mpr h
  have hdrop : name.dropWhile Text.isWord = [] := List.dropWhile_eq_nil_iff.mpr h
  rw [tokenize_cons, Token.first, htake, hdrop]
  by_cases hname : name = []
  · subst hname
    simp [Text.quoted?, show Text.isNamePart '@' = false by decide]
  · simp [hname]

variable {registry : Registry} {args later : List Text} {body : Text}

/-- Written arguments are read as runs, and what follows them is written as well. -/
theorem Spaced.exists_runs (h : Spaced (args ++ later) body)
    (hargs : ∀ argument ∈ args, IsPlain argument) :
    ∃ after, Runs (tokenize body) (args.map tokenize) (tokenize after) ∧ Spaced later after := by
  induction args generalizing body with
  | nil => exact ⟨body, .done, h⟩
  | cons argument args ih =>
    have hargument := hargs argument List.mem_cons_self
    cases h with
    | @cons _ gap body _ hgap hnext hbody =>
      obtain ⟨after, hruns, hafter⟩ :=
        ih hbody fun other hother => hargs other (List.mem_cons_of_mem _ hother)
      have hrun := hargument.isRun.append (isBlank_of_head?_gap hgap hnext hbody)
      rw [tokenize_word_append hargument.paired hgap hnext hbody]
      exact ⟨after, .run hrun (allBlank_tokenize hgap) hruns, hafter⟩

/-- Written calls are the items of a body. -/
theorem Spaced.exists_splits {calls : List Invocation}
    (h : Spaced (calls.flatMap Invocation.words) body)
    (hcalls : ∀ call ∈ calls, call.IsWritable registry) :
    ∃ items, Splits registry (tokenize body) items [] ∧
      items.filterMap Item.invocation? = calls := by
  induction calls generalizing body with
  | nil =>
    cases h with
    | nil => exact ⟨[], by rw [tokenize_nil]; exact .done, rfl⟩
  | cons call calls ih =>
    have hcall := hcalls call List.mem_cons_self
    have hname := tokenize_name hcall.name
    rw [List.flatMap_cons, Invocation.words, List.cons_append] at h
    cases h with
    | @cons _ gap body _ hgap hnext hbody =>
      obtain ⟨after, hruns, hafter⟩ := hbody.exists_runs hcall.args
      obtain ⟨items, hsplits, hitems⟩ :=
        ih hafter fun other hother => hcalls other (List.mem_cons_of_mem _ hother)
      have hpaired : ∀ token ∈ tokenize ('@' :: call.command.name), token.isLoneQuote = false := by
        rw [hname]
        simp [Token.isLoneQuote]
      have hlength : (call.args.map tokenize).length = call.command.arity.toNat := by
        rw [List.length_map, hcall.arity, Int.toNat_natCast]
      have hinvocation (name : Token) :
          Item.invocation? (.call name call.command (call.args.map tokenize)) = some call := by
        simp [Item.invocation?, Function.comp_def, flatMap_value_tokenize]
      rw [tokenize_word_append hpaired hgap hnext hbody, hname, List.singleton_append]
      refine ⟨_, .call ?_ hcall.registered (allBlank_tokenize hgap) hruns hlength hsplits, ?_⟩
      · by_cases hempty : call.command.name = [] <;> simp [Token.namesCommand, hempty]
      · rw [List.filterMap_cons_some (hinvocation _), hitems]

/-- Calls that are written one after another, with blanks between all their words and any blanks at
both ends, are what is parsed. -/
theorem parse_spaced (registry : Registry) (calls : List Invocation)
    (hcalls : ∀ call ∈ calls, call.IsWritable registry) {lead body : Text}
    (hlead : lead.all Text.isBlank = true)
    (hbody : Spaced (calls.flatMap Invocation.words) body) :
    (parse registry (lead ++ body)).result = .ok calls := by
  obtain ⟨items, hsplits, hitems⟩ := hbody.exists_splits hcalls
  have hnameless := blanksNameless_tokenize (lead ++ body)
  rw [tokenize_blanks_append hlead] at hnameless
  have hwhole := hsplits.append_blanks (allBlank_tokenize hlead) fun token htoken =>
    hnameless token (List.mem_append_left _ htoken)
  rw [Parse.result_eq_ok_iff, parse, tokenize_blanks_append hlead, hwhole.parseTokens_eq hnameless,
    parseTokens]
  refine ⟨rfl, ?_⟩
  have hblanks : ((tokenize lead).map Item.ignored).filterMap Item.invocation? = [] := by
    simp [List.filterMap_map, Function.comp_def, Item.invocation?]
  rw [List.filterMap_append, hblanks, hitems, List.nil_append, List.append_nil]

/-- The built-in commands, and one without a name and without arguments. -/
def namelessRegistry : Registry :=
  ⟨Registry.builtin.commands ++ [⟨[], 0, fun call => .done call.text, [], []⟩]⟩

/-- A definition, the value of which holds a blank, and a call without a name are written on two
lines and parsed. -/
theorem namelessCall_parsed :
    ∃ command, namelessRegistry.find? [] = some command ∧
      (parse namelessRegistry ("\r".toList ++ "@def k\n\t(a b)  @".toList)).result =
        .ok [.defining "k".toList "(a b)".toList, ⟨command, []⟩] := by
  have hplain (argument : Text) (h : argument = "k".toList ∨ argument = "(a b)".toList) :
      IsPlain argument := by
    rcases h with rfl | rfl <;> exact ⟨by decide, by decide +kernel, by decide +kernel⟩
  refine ⟨_, rfl, ?_⟩
  refine parse_spaced namelessRegistry _ ?_ rfl ?_
  · intro call hcall
    rcases List.mem_pair.mp hcall with rfl | rfl
    · exact ⟨rfl, rfl, rfl, fun argument h => hplain argument (List.mem_pair.mp h)⟩
    · exact ⟨rfl, rfl, rfl, nofun⟩
  · have hbody : Spaced ["@def".toList, "k".toList, "(a b)".toList, "@".toList]
        ("@def".toList ++ (" ".toList ++ ("k".toList ++ ("\n\t".toList ++
          ("(a b)".toList ++ ("  ".toList ++ ("@".toList ++ ([] ++ [])))))))) :=
      .cons rfl (by simp) (.cons rfl (by simp) (.cons rfl (by simp) (.cons rfl (by simp) .nil)))
    exact hbody

end TextMacro
