import TextMacro.Invocation

/-!
# Runs of tokens

An argument is a run of tokens: it begins with a token that is not blank and goes on to the first
blank at which none of its brackets is open, or to the end of the tokens if none is open there. What
is read as arguments are runs with blanks between them, and it is an error to reach the end of the
tokens in a run with an open bracket. Runs are determined by the tokens that they begin.
-/

namespace TextMacro

namespace Levels

/-- No bracket is reported as open exactly when no level is above zero. -/
theorem open?_eq_none_iff (levels : Levels) :
    levels.open? = none ↔ ∀ bracket, levels.get bracket ≤ 0 := by
  constructor
  · intro h bracket
    unfold open? at h
    split at h
    · simp at h
    · split at h
      · simp at h
      · split at h
        · simp at h
        · cases bracket <;> simp only [get] <;> omega
  · intro h
    have hround : ¬ 0 < levels.round := Int.not_lt.mpr (h .round)
    have hsquare : ¬ 0 < levels.square := Int.not_lt.mpr (h .square)
    have hcurly : ¬ 0 < levels.curly := Int.not_lt.mpr (h .curly)
    rw [open?, if_neg hround, if_neg hsquare, if_neg hcurly]

/-- A bracket is reported as open exactly when a level is above zero. -/
theorem open?_ne_none_iff (levels : Levels) :
    levels.open? ≠ none ↔ ∃ bracket, 0 < levels.get bracket := by
  simp only [Ne, open?_eq_none_iff, Classical.not_forall, Int.not_le]

end Levels

namespace Argument

variable {levels : Levels} {tokens run rest : List Token}

/-- Tokens that begin with one that is not blank, and each of whose blanks has a bracket open. -/
structure Unbroken (run : List Token) : Prop where
  starts : ∃ first others, run = first :: others ∧ first.isBlank = false
  holds : ∀ before blank after, run = before ++ blank :: after → blank.isBlank = true →
    ∃ bracket, 0 < (Levels.ofTokens before).get bracket

/-- A run of tokens, and the tokens after it: no bracket is open at its end, where a blank follows
or nothing. -/
structure IsRun (run rest : List Token) : Prop extends Unbroken run where
  closed : ∀ bracket, (Levels.ofTokens run).get bracket ≤ 0
  stops : ∀ token, rest.head? = some token → token.isBlank = true

/-- A run that reaches the end of the tokens with a bracket open, the first kind of which is
given. -/
structure IsUnclosed (run : List Token) (bracket : Bracket) : Prop extends Unbroken run where
  leftOpen : (Levels.ofTokens run).open? = some bracket

/-- At each blank that is taken a bracket is open. -/
theorem open?_ne_none_of_span {before after : List Token} {blank : Token}
    (h : (span levels tokens).1 = before ++ blank :: after) (hblank : blank.isBlank = true) :
    (before.foldl Levels.add levels).open? ≠ none := by
  induction tokens generalizing levels before with
  | nil => simp [span] at h
  | cons token tokens ih =>
    rw [span] at h
    split at h
    · simp at h
    · next hgoes =>
      cases before with
      | nil =>
        obtain rfl : token = blank := List.head_eq_of_cons_eq h
        intro hnone
        simp only [List.foldl_nil] at hnone
        simp [hblank, hnone] at hgoes
      | cons head before =>
        rw [List.cons_append, List.cons.injEq] at h
        rw [List.foldl_cons, ← h.1]
        exact ih h.2

/-- What is not taken begins with a blank at which no bracket is open. -/
theorem span_stops {token : Token} (h : (span levels tokens).2.head? = some token) :
    token.isBlank = true ∧ ((span levels tokens).1.foldl Levels.add levels).open? = none := by
  induction tokens generalizing levels with
  | nil => simp [span] at h
  | cons first tokens ih =>
    rw [span] at h ⊢
    split at h
    · next hstops =>
      rw [if_pos hstops]
      obtain rfl : first = token := Option.some.inj h
      simpa using hstops
    · next hgoes =>
      rw [if_neg hgoes]
      exact ih h

/-- Tokens are taken as long as each blank has a bracket open, up to a blank that has none. -/
theorem span_append_of_holds
    (hholds : ∀ before blank after, run = before ++ blank :: after → blank.isBlank = true →
      (before.foldl Levels.add levels).open? ≠ none)
    (hstops : ∀ token, rest.head? = some token →
      token.isBlank = true ∧ (run.foldl Levels.add levels).open? = none) :
    span levels (run ++ rest) = (run, rest) := by
  induction run generalizing levels with
  | nil =>
    cases rest with
    | nil => rfl
    | cons token rest =>
      obtain ⟨hblank, hnone⟩ := hstops token rfl
      rw [List.nil_append, span, if_pos (by simpa [hblank] using hnone)]
  | cons token run ih =>
    have hgoes : ¬ (token.isBlank && levels.open?.isNone) = true := by
      intro hstop
      rw [Bool.and_eq_true, Option.isNone_iff_eq_none] at hstop
      exact hholds [] token run rfl hstop.1 hstop.2
    rw [List.cons_append, span, if_neg hgoes, ih]
    · intro before blank after hrun
      exact hholds (token :: before) blank after (congrArg (token :: ·) hrun)
    · exact hstops

/-- A run is what is taken from the tokens that it begins. -/
theorem IsRun.span_eq (h : IsRun run rest) : span .zero (run ++ rest) = (run, rest) := by
  apply span_append_of_holds
  · intro before blank after hrun hblank
    exact (Levels.open?_ne_none_iff _).mpr (h.holds before blank after hrun hblank)
  · intro token htoken
    exact ⟨h.stops token htoken, (Levels.open?_eq_none_iff _).mpr h.closed⟩

/-- All tokens are taken by a run that is not closed. -/
theorem IsUnclosed.span_eq {bracket : Bracket} (h : IsUnclosed run bracket) :
    span .zero run = (run, []) := by
  have hspan : span .zero (run ++ []) = (run, []) := by
    apply span_append_of_holds
    · intro before blank after hrun hblank
      exact (Levels.open?_ne_none_iff _).mpr (h.holds before blank after hrun hblank)
    · intro token htoken
      simp at htoken
  rwa [List.append_nil] at hspan

/-- What is taken from tokens of which the first is not blank. -/
theorem unbroken_span {first : Token} (hfirst : first.isBlank = false) (tokens : List Token) :
    Unbroken (span .zero (first :: tokens)).1 where
  starts := by
    rw [span, hfirst]
    exact ⟨first, _, rfl, hfirst⟩
  holds := by
    intro before blank after hrun hblank
    exact (Levels.open?_ne_none_iff _).mp (open?_ne_none_of_span hrun hblank)

/-- A run is read as an argument. -/
theorem IsRun.read_eq (h : IsRun run rest) :
    read (run ++ rest) = .ok (run.flatMap Token.value, rest) := by
  have hnone : (Levels.ofTokens run).open? = none := (Levels.open?_eq_none_iff _).mpr h.closed
  rw [read, h.span_eq]
  dsimp only
  rw [hnone]

/-- A run that is not closed is no argument. -/
theorem IsUnclosed.read_eq {bracket : Bracket} (h : IsUnclosed run bracket) :
    read run = .error bracket := by
  rw [read, h.span_eq]
  dsimp only
  rw [h.leftOpen]

/-- What is read as an argument is a run. -/
theorem isRun_of_read {first : Token} (hfirst : first.isBlank = false) {text : Text}
    (h : read (first :: tokens) = .ok (text, rest)) :
    ∃ run, first :: tokens = run ++ rest ∧ IsRun run rest ∧ text = run.flatMap Token.value := by
  have happend := span_append .zero (first :: tokens)
  have hunbroken := unbroken_span hfirst tokens
  rw [read] at h
  dsimp only at h
  split at h
  · simp at h
  · next hnone =>
    simp only [Except.ok.injEq, Prod.mk.injEq] at h
    obtain ⟨htext, hrest⟩ := h
    refine ⟨_, by rw [← hrest, happend], ⟨hunbroken, ?_, ?_⟩, htext.symm⟩
    · exact (Levels.open?_eq_none_iff _).mp hnone
    · intro token htoken
      rw [← hrest] at htoken
      exact (span_stops htoken).1

/-- Where no argument is read, all tokens are a run that is not closed. -/
theorem isUnclosed_of_read {first : Token} (hfirst : first.isBlank = false) {bracket : Bracket}
    (h : read (first :: tokens) = .error bracket) : IsUnclosed (first :: tokens) bracket := by
  have happend := span_append .zero (first :: tokens)
  have hunbroken := unbroken_span hfirst tokens
  rw [read] at h
  dsimp only at h
  split at h
  · next other hopen =>
    obtain rfl : other = bracket := Except.error.inj h
    -- a bracket is open, so there is nothing at which the run could have stopped
    have hall : (span .zero (first :: tokens)).2 = [] := by
      rw [← List.head?_eq_none_iff]
      apply Option.eq_none_iff_forall_ne_some.mpr
      intro token htoken
      have hnone : (Levels.ofTokens (span .zero (first :: tokens)).1).open? = none :=
        (span_stops htoken).2
      rw [hopen] at hnone
      cases hnone
    rw [hall, List.append_nil] at happend
    rw [← happend]
    exact ⟨hunbroken, hopen⟩
  · simp at h

/-- A run and the tokens after it are determined by the tokens that they make up. -/
theorem IsRun.unique {run' rest' : List Token} (h : IsRun run rest)
    (h' : IsRun run' rest') (heq : run ++ rest = run' ++ rest') : run = run' ∧ rest = rest' := by
  have hspan : (run, rest) = (run', rest') := by
    rw [← h.span_eq, ← h'.span_eq, heq]
  exact Prod.mk.inj hspan

end Argument

open Argument

variable {tokens rest : List Token}

/-- All tokens are blank. -/
def AllBlank (tokens : List Token) : Prop :=
  ∀ token ∈ tokens, token.isBlank = true

/-- Blanks in front make no difference where blanks are skipped. -/
theorem skipBlanks_append {blanks : List Token} (h : AllBlank blanks) (tokens : List Token) :
    skipBlanks (blanks ++ tokens) = skipBlanks tokens :=
  List.dropWhile_append_of_pos h

/-- A blank token in front is skipped. -/
theorem skipBlanks_cons_of_blank {token : Token} (h : token.isBlank = true) (tokens : List Token) :
    skipBlanks (token :: tokens) = skipBlanks tokens :=
  List.dropWhile_cons_of_pos h

/-- Nothing is skipped where the first token is not blank. -/
theorem skipBlanks_cons_of_not_blank {token : Token} (h : token.isBlank = false)
    (tokens : List Token) : skipBlanks (token :: tokens) = token :: tokens :=
  List.dropWhile_cons_of_neg (by simp [h])

/-- There is nothing to skip before a run. -/
theorem Argument.Unbroken.skipBlanks_append {run : List Token} (h : Unbroken run)
    (rest : List Token) : skipBlanks (run ++ rest) = run ++ rest := by
  obtain ⟨first, others, rfl, hfirst⟩ := h.starts
  exact skipBlanks_cons_of_not_blank hfirst _

/-- What is skipped are blanks. -/
theorem exists_blanks_append_skipBlanks (tokens : List Token) :
    ∃ blanks, AllBlank blanks ∧ tokens = blanks ++ skipBlanks tokens := by
  refine ⟨tokens.takeWhile Token.isBlank, ?_, List.takeWhile_append_dropWhile.symm⟩
  exact List.all_eq_true.mp List.all_takeWhile

/-- There is nothing more to skip where blanks were skipped. -/
theorem skipBlanks_skipBlanks (tokens : List Token) :
    skipBlanks (skipBlanks tokens) = skipBlanks tokens := by
  obtain ⟨blanks, hblanks, htokens⟩ := exists_blanks_append_skipBlanks tokens
  rw [← skipBlanks_append hblanks, ← htokens]

/-- Where nothing is skipped, the first token is not blank. -/
theorem isBlank_eq_false_of_skipBlanks {token : Token} {tokens : List Token}
    (h : skipBlanks (token :: tokens) = token :: tokens) : token.isBlank = false := by
  apply Bool.eq_false_iff.mpr
  intro hblank
  rw [skipBlanks_cons_of_blank hblank] at h
  have hlength := congrArg List.length h
  have hle := length_skipBlanks_le tokens
  rw [List.length_cons] at hlength
  omega

/-- Runs with blanks after each, and the tokens after them. -/
inductive Runs : List Token → List (List Token) → List Token → Prop
  /-- There is no further run. -/
  | done {rest : List Token} : Runs rest [] rest
  /-- A run is followed by blanks, which separate it from the next one. -/
  | run {run blanks tokens rest : List Token} {runs : List (List Token)} :
    IsRun run (blanks ++ tokens) → AllBlank blanks → Runs tokens runs rest →
    Runs (run ++ (blanks ++ tokens)) (run :: runs) rest

/-- The tokens after runs are at the end of all tokens. -/
theorem Runs.suffix {runs : List (List Token)} (h : Runs tokens runs rest) : rest <:+ tokens := by
  induction h with
  | done => exact List.suffix_rfl
  | run _ _ _ ih =>
    exact ih.trans ((List.suffix_append _ _).trans (List.suffix_append _ _))

/-- Runs are read as arguments, in front of what is read after them. -/
theorem Runs.readArguments_eq {runs : List (List Token)} (h : Runs tokens runs rest) (count : Nat) :
    readArguments (runs.length + count) (skipBlanks tokens) =
      (readArguments count (skipBlanks rest)).map fun read =>
        (runs.map (·.flatMap Token.value) ++ read.1, read.2) := by
  induction h with
  | done =>
    rw [List.length_nil, Nat.zero_add]
    cases readArguments count (skipBlanks _) <;> rfl
  | @run run blanks tokens rest runs hrun hblanks _ ih =>
    obtain ⟨first, others, hfirst, -⟩ := hrun.starts
    have hread := hrun.read_eq
    rw [List.length_cons, Nat.add_right_comm, hrun.skipBlanks_append]
    subst hfirst
    rw [List.cons_append] at hread ⊢
    rw [readArguments, hread]
    dsimp only
    rw [skipBlanks_append hblanks, ih]
    cases readArguments count (skipBlanks rest) <;> rfl

/-- An argument that is read is a run in front of those after it. -/
theorem Runs.of_read {first : Token} {after : List Token} {text : Text} {runs : List (List Token)}
    (h : Runs (skipBlanks after) runs rest) (hfirst : first.isBlank = false)
    (hread : read (first :: tokens) = .ok (text, after)) :
    ∃ run, Runs (first :: tokens) (run :: runs) rest ∧ text = run.flatMap Token.value := by
  obtain ⟨run, hrun, hisRun, htext⟩ := isRun_of_read hfirst hread
  obtain ⟨blanks, hblanks, hafter⟩ := exists_blanks_append_skipBlanks after
  rw [hafter] at hrun hisRun
  refine ⟨run, ?_, htext⟩
  rw [hrun]
  exact .run hisRun hblanks h

/-- What is read as arguments are runs, and fewer are read only where the tokens end. -/
theorem runs_of_readArguments {count : Nat} {texts : List Text}
    (hstart : skipBlanks tokens = tokens) (h : readArguments count tokens = .ok (texts, rest)) :
    ∃ runs, Runs tokens runs rest ∧ texts = runs.map (·.flatMap Token.value) ∧
      (runs.length = count ∨ runs.length < count ∧ rest = []) := by
  induction count generalizing tokens texts with
  | zero =>
    simp only [readArguments, Except.ok.injEq, Prod.mk.injEq] at h
    obtain ⟨rfl, rfl⟩ := h
    exact ⟨[], .done, rfl, Or.inl rfl⟩
  | succ count ih =>
    cases tokens with
    | nil =>
      simp only [readArguments, Except.ok.injEq, Prod.mk.injEq] at h
      obtain ⟨rfl, rfl⟩ := h
      exact ⟨[], .done, rfl, Or.inr ⟨Nat.succ_pos count, rfl⟩⟩
    | cons token tokens =>
      rw [readArguments] at h
      split at h
      · simp at h
      · next text after hread =>
        split at h
        · simp at h
        · next others final hothers =>
          simp only [Except.ok.injEq, Prod.mk.injEq] at h
          obtain ⟨rfl, rfl⟩ := h
          obtain ⟨runs, hruns, rfl, hlength⟩ := ih (skipBlanks_skipBlanks after) hothers
          obtain ⟨run, hwhole, rfl⟩ := hruns.of_read (isBlank_eq_false_of_skipBlanks hstart) hread
          refine ⟨run :: runs, hwhole, rfl, ?_⟩
          rcases hlength with hall | ⟨hfewer, hend⟩
          · exact Or.inl (congrArg (· + 1) hall)
          · exact Or.inr ⟨Nat.succ_lt_succ hfewer, hend⟩

/-- Where no arguments are read, some runs are followed by one that is not closed. -/
theorem isUnclosed_of_readArguments {count : Nat} {bracket : Bracket}
    (hstart : skipBlanks tokens = tokens) (h : readArguments count tokens = .error bracket) :
    ∃ runs run, Runs tokens runs run ∧ runs.length < count ∧ IsUnclosed run bracket := by
  induction count generalizing tokens with
  | zero => simp [readArguments] at h
  | succ count ih =>
    cases tokens with
    | nil => simp [readArguments] at h
    | cons token tokens =>
      have hfirst := isBlank_eq_false_of_skipBlanks hstart
      rw [readArguments] at h
      split at h
      · next other hread =>
        obtain rfl : other = bracket := Except.error.inj h
        exact ⟨[], _, .done, Nat.succ_pos count, isUnclosed_of_read hfirst hread⟩
      · next text after hread =>
        split at h
        · next other hothers =>
          obtain rfl : other = bracket := Except.error.inj h
          obtain ⟨runs, last, hruns, hlength, hunclosed⟩ :=
            ih (skipBlanks_skipBlanks after) hothers
          obtain ⟨run, hwhole, -⟩ := hruns.of_read hfirst hread
          exact ⟨run :: runs, last, hwhole, Nat.succ_lt_succ hlength, hunclosed⟩
        · simp at h

/-- Tokens that differ only in blanks in front begin with the same runs, after which they differ at
most in such blanks. -/
theorem Runs.unique {tokens' rest' : List Token} {runs runs' : List (List Token)}
    (h : Runs tokens runs rest) (h' : Runs tokens' runs' rest')
    (hskip : skipBlanks tokens = skipBlanks tokens') (hlength : runs.length = runs'.length) :
    runs = runs' ∧ skipBlanks rest = skipBlanks rest' := by
  induction h generalizing tokens' runs' with
  | done =>
    obtain rfl := List.length_eq_zero_iff.mp hlength.symm
    cases h' with
    | done => exact ⟨rfl, hskip⟩
  | @run run blanks tokens rest runs hrun hblanks _ ih =>
    cases h' with
    | done => simp at hlength
    | @run run' blanks' tokens' _ runs' hrun' hblanks' hruns' =>
      rw [hrun.skipBlanks_append, hrun'.skipBlanks_append] at hskip
      obtain ⟨rfl, hafter⟩ := hrun.unique hrun' hskip
      have hlater : skipBlanks tokens = skipBlanks tokens' := by
        rw [← skipBlanks_append hblanks, hafter, skipBlanks_append hblanks']
      obtain ⟨rfl, hrest⟩ := ih hruns' hlater (Nat.succ.inj hlength)
      exact ⟨rfl, hrest⟩

end TextMacro
