import TextMacro.Expansion

/-!
# How composed runs end

A run that is put together from others ends with a value when all its parts do, and it runs out of
steps when the first part that does not end with a value does. Recording and parsing never run out
of steps, so what a body is parsed to depends on the registry alone.
-/

namespace TextMacro

variable {α β : Type}

/-- The tree with files of the given names and texts in its root, where one works. -/
def FileTree.ofTexts (files : List (String × String)) : FileTree :=
  ⟨files.filterMap fun file => (Component.ofText? file.1.toList).map fun name =>
    ([name], .file file.2.toUTF8.toList), []⟩

/-- The context of the usual settings and the built-in commands on such a tree. -/
def Context.ofTexts (files : List (String × String)) : Context :=
  ⟨.ofTexts files, .default, .builtin, 0⟩

namespace Run

/-- Two runs in order end with a value when both of them do. -/
theorem andThen_outcome_eq_done_iff (run : Run α) (next : α → Run β) (b : β) :
    (run.andThen next).outcome = .done b ↔
      ∃ a, run.outcome = .done a ∧ (next a).outcome = .done b := by
  obtain ⟨events, outcome⟩ := run
  cases outcome <;> simp [andThen]

/-- Two runs in order run out of steps in the first one, or in the second one after a value. -/
theorem andThen_outcome_eq_exhausted_iff (run : Run α) (next : α → Run β) :
    (run.andThen next).outcome = .exhausted ↔
      run.outcome = .exhausted ∨ ∃ a, run.outcome = .done a ∧ (next a).outcome = .exhausted := by
  obtain ⟨events, outcome⟩ := run
  cases outcome <;> simp [andThen]

/-- After a value, two runs in order end as the second one does. -/
theorem andThen_outcome_of_done {run : Run α} {a : α} (h : run.outcome = .done a)
    (next : α → Run β) : (run.andThen next).outcome = (next a).outcome := by
  obtain ⟨events, outcome⟩ := run
  obtain rfl : outcome = .done a := h
  rfl

/-- Two runs in order only depend on what comes after the value that the first one ends with. -/
theorem andThen_congr (run : Run α) {next after : α → Run β}
    (h : ∀ a, run.outcome = .done a → next a = after a) : run.andThen next = run.andThen after := by
  obtain ⟨events, outcome⟩ := run
  cases outcome with
  | done a => simp only [andThen, h a rfl]
  | failed failure => rfl
  | exhausted => rfl

/-- A change of failures adds and takes away no value. -/
theorem mapFailure_outcome_eq_done_iff (change : Failure → Failure) (run : Run α) (a : α) :
    (run.mapFailure change).outcome = .done a ↔ run.outcome = .done a := by
  obtain ⟨events, outcome⟩ := run
  cases outcome <;> simp [mapFailure]

/-- A change of failures does not bear on running out of steps. -/
theorem mapFailure_outcome_eq_exhausted_iff (change : Failure → Failure) (run : Run α) :
    (run.mapFailure change).outcome = .exhausted ↔ run.outcome = .exhausted := by
  obtain ⟨events, outcome⟩ := run
  cases outcome <;> simp [mapFailure]

/-- A computation that may fail ends with the value that it has. -/
theorem ofExcept_outcome_eq_done_iff (result : Except Cause α) (a : α) :
    (ofExcept result).outcome = .done a ↔ result = .ok a := by
  cases result <;> simp [ofExcept, value, fail]

/-- A computation that may fail does not run out of steps. -/
theorem ofExcept_outcome_ne_exhausted (result : Except Cause α) :
    (ofExcept result).outcome ≠ .exhausted := by
  cases result <;> simp [ofExcept, value, fail]

end Run

open Run

namespace Context

/-- A request is entered when a file stands at its path, unless cycles are detected and the file is
being expanded already. -/
theorem enter_eq_ok_iff (context : Context) (request : Request) (key : SourcePath)
    (bytes : List UInt8) :
    context.enter request = .ok (key, bytes) ↔
      context.tree.status request.frame.resolved = .ok (some (.file bytes)) ∧
        context.key request.frame.resolved = key ∧
        ¬ (context.settings.detectCycles ∧ key ∈ request.active) := by
  unfold enter
  split
  · next hstatus => simp [hstatus]
  · next content hstatus =>
    dsimp only
    rw [hstatus]
    constructor
    · intro h
      split at h
      · simp at h
      · next hfree =>
        simp only [Except.ok.injEq, Prod.mk.injEq] at h
        obtain ⟨rfl, rfl⟩ := h
        exact ⟨rfl, rfl, hfree⟩
    · rintro ⟨hcontent, rfl, hfree⟩
      simp only [Except.ok.injEq, Option.some.injEq, Node.file.injEq] at hcontent
      rw [if_neg hfree, hcontent]
  · next hfile hstatus =>
    constructor
    · intro h
      simp at h
    · rintro ⟨hcontent, -⟩
      rw [hstatus] at hcontent
      exact absurd (Except.ok.inj hcontent) (hfile bytes)

/-- Recording an event succeeds. -/
@[simp]
theorem record_outcome (context : Context) (event : Event) :
    (context.record event).outcome = .done () := rfl

/-- Recording invocations succeeds. -/
@[simp]
theorem recordAll_outcome (context : Context) (invocations : List Invocation) :
    (context.recordAll invocations).outcome = .done () := by
  induction invocations with
  | nil => rfl
  | cons invocation invocations ih =>
    rw [recordAll, andThen_outcome_of_done (context.record_outcome _)]
    exact ih

/-- A body is parsed to what the registry makes of it. -/
theorem parseBody_outcome_eq_done_iff (context : Context) (body : Text)
    (invocations : List Invocation) :
    (context.parseBody body).outcome = .done invocations ↔
      (parse context.registry body).result = .ok invocations := by
  rw [parseBody, andThen_outcome_of_done (context.recordAll_outcome _)]
  exact ofExcept_outcome_eq_done_iff _ _

/-- Parsing does not run out of steps. -/
theorem parseBody_outcome_ne_exhausted (context : Context) (body : Text) :
    (context.parseBody body).outcome ≠ .exhausted := by
  rw [parseBody, andThen_outcome_of_done (context.recordAll_outcome _)]
  exact ofExcept_outcome_ne_exhausted _

/-- A block is processed to a text when it parses and its invocations are executed to that text. -/
theorem processBlock_outcome_eq_done_iff (context : Context) (answer : Request → Run Text)
    (frame : Frame) (text : Text) (block : Block) (result : Text) :
    (context.processBlock answer frame text block).outcome = .done result ↔
      ∃ invocations, (parse context.registry block.body).result = .ok invocations ∧
        (execute answer frame block.start invocations text).outcome = .done result := by
  rw [processBlock, andThen_outcome_of_done (context.record_outcome _),
    andThen_outcome_eq_done_iff]
  simp only [parseBody_outcome_eq_done_iff]

/-- A block runs out of steps when it parses and its invocations run out of steps. -/
theorem processBlock_outcome_eq_exhausted_iff (context : Context) (answer : Request → Run Text)
    (frame : Frame) (text : Text) (block : Block) :
    (context.processBlock answer frame text block).outcome = .exhausted ↔
      ∃ invocations, (parse context.registry block.body).result = .ok invocations ∧
        (execute answer frame block.start invocations text).outcome = .exhausted := by
  rw [processBlock, andThen_outcome_of_done (context.record_outcome _),
    andThen_outcome_eq_exhausted_iff]
  simp only [parseBody_outcome_eq_done_iff, context.parseBody_outcome_ne_exhausted, false_or]

end Context

/-- The invocation that replaces a name by a value. -/
def Invocation.defining (name value : Text) : Invocation := ⟨.definition, [name, value]⟩

/-- The invocation that includes a file. -/
def Invocation.including (path : Text) : Invocation := ⟨.inclusion, [path]⟩

/-- A definition replaces its name in the whole text. -/
theorem run_definition (answer : Request → Run Text) (name replacement : Text) (frame : Frame)
    (text : Text) (index : Int) :
    (Command.definition.handler ⟨[name, replacement], frame, text, index⟩).run answer =
      .value (Text.replaceAll name replacement text) := rfl

/-- An inclusion asks for the expansion of its file and puts the text in. -/
theorem run_inclusion (answer : Request → Run Text) (path : Text) (frame : Frame) (text : Text)
    (index : Int) :
    (Command.inclusion.handler ⟨[path], frame, text, index⟩).run answer =
      (answer ⟨unquote path, some frame.directory, frame.active⟩).andThen fun included =>
        .value (Text.insertAt text index included) := rfl

/-- The invocations of a parse without error are all that was parsed. -/
theorem Parse.result_eq_ok_iff (parse : Parse) (invocations : List Invocation) :
    parse.result = .ok invocations ↔ parse.error = none ∧ parse.invocations = invocations := by
  obtain ⟨parsed, error⟩ := parse
  cases error <;> simp [result]

/-- Every parsed invocation is of a registered command. -/
theorem command_mem_of_mem_parseTokens (registry : Registry) (tokens : List Token)
    {invocation : Invocation} (h : invocation ∈ (parseTokens registry tokens).invocations) :
    invocation.command ∈ registry.commands := by
  fun_induction parseTokens registry tokens with
  | case1 => simp at h
  | case2 => simp at h
  | case3 => simp at h
  | case4 => simp at h
  | case5 token tokens hname command hfind args rest hread harity h₁ h₂ h₃ ih =>
    rcases List.mem_cons.mp h with rfl | hrest
    · exact List.mem_of_find?_eq_some hfind
    · exact ih hrest
  | case6 token tokens hname hlength ih => exact ih h

end TextMacro
