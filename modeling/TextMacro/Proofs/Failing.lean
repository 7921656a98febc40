import TextMacro.Proofs.ArgumentRun
import TextMacro.Proofs.Nesting

/-!
# How an expansion fails

An expansion fails because the requested file is refused, or because a block that its scan has come
to fails. A file is refused that is missing, that is being expanded already, or whose bytes are no
text. A block fails because it is malformed, or because a file that it includes fails to be
expanded; the scan adds the place of the block to the failure. What fails with some number of steps
does so with more of them.
-/

namespace TextMacro

open Run Relation

variable {α β : Type}

namespace Run

/-- Two runs in order fail in the first one, or in the second one after a value. -/
theorem andThen_outcome_eq_failed_iff (run : Run α) (next : α → Run β) (failure : Failure) :
    (run.andThen next).outcome = .failed failure ↔
      run.outcome = .failed failure ∨
        ∃ a, run.outcome = .done a ∧ (next a).outcome = .failed failure := by
  obtain ⟨events, outcome⟩ := run
  cases outcome <;> simp [andThen]

/-- A change of failures is seen where there is a failure. -/
theorem mapFailure_outcome_eq_failed_iff (change : Failure → Failure) (run : Run α)
    (failure : Failure) :
    (run.mapFailure change).outcome = .failed failure ↔
      ∃ inner, run.outcome = .failed inner ∧ failure = change inner := by
  obtain ⟨events, outcome⟩ := run
  cases outcome <;> simp [mapFailure, eq_comm]

/-- A computation that may fail does so with its cause. -/
theorem ofExcept_outcome_eq_failed_iff (result : Except Cause α) (failure : Failure) :
    (ofExcept result).outcome = .failed failure ↔
      ∃ cause, result = .error cause ∧ failure = .plain cause := by
  cases result <;> simp [ofExcept, value, fail, eq_comm]

/-- A run that persists, failures included, keeps its failure. -/
theorem Persists.outcome_failed {run other : Run α} {failure : Failure}
    (hrun : Persists True run other) (h : run.outcome = .failed failure) :
    other.outcome = .failed failure := by
  rw [hrun (by rw [h]; trivial), h]

end Run

/-- A failure of a changed kind comes from one of the first kind. -/
theorem mapError_eq_error {ε ε' : Type} {change : ε → ε'} {result : Except ε α} {error' : ε'}
    (h : result.mapError change = .error error') :
    ∃ error, result = .error error ∧ error' = change error := by
  cases result with
  | ok a => nomatch h
  | error error => exact ⟨error, rfl, (Except.error.inj h).symm⟩

/-- Every parsed invocation has as many arguments as its command takes. -/
theorem length_args_of_mem_parseTokens (registry : Registry) (tokens : List Token)
    {invocation : Invocation} (h : invocation ∈ (parseTokens registry tokens).invocations) :
    invocation.args.length = invocation.command.arity.toNat := by
  fun_induction parseTokens registry tokens with
  | case1 => simp at h
  | case2 => simp at h
  | case3 => simp at h
  | case4 => simp at h
  | case5 token tokens hname command hfind args rest hread harity h₁ h₂ h₃ ih =>
    rcases List.mem_cons.mp h with rfl | hrest
    · obtain ⟨runs, -, rfl, hlength⟩ :=
        runs_of_readArguments (skipBlanks_skipBlanks tokens) hread
      rw [List.length_map] at harity ⊢
      rcases hlength with hall | ⟨hfewer, -⟩
      · exact hall
      · omega
    · exact ih hrest
  | case6 token tokens hname hlength ih => exact ih h

/-- The built-in commands make definitions and inclusions. -/
theorem defining_or_including {body : Text} {invocations : List Invocation}
    (h : (parse .builtin body).result = .ok invocations) {invocation : Invocation}
    (hmem : invocation ∈ invocations) :
    (∃ name replacement, invocation = .defining name replacement) ∨
      ∃ path, invocation = .including path := by
  obtain ⟨-, rfl⟩ := (Parse.result_eq_ok_iff _ _).mp h
  have hcommand := command_mem_of_mem_parseTokens _ _ hmem
  have hlength := length_args_of_mem_parseTokens _ _ hmem
  obtain ⟨command, args⟩ := invocation
  simp only [Registry.builtin, List.mem_cons, List.not_mem_nil, or_false] at hcommand
  rcases hcommand with rfl | rfl
  · obtain ⟨name, replacement, rfl⟩ := List.length_eq_two.mp hlength
    exact Or.inl ⟨name, replacement, rfl⟩
  · obtain ⟨path, rfl⟩ := List.length_eq_one_iff.mp hlength
    exact Or.inr ⟨path, rfl⟩

namespace Context

variable {context : Context} {frame : Frame} {request inner : Request} {failure : Failure}

/-- A block fails if it is malformed, or if one of its invocations fails. -/
theorem processBlock_outcome_eq_failed_iff (context : Context) (answer : Request → Run Text)
    (frame : Frame) (text : Text) (block : Block) (failure : Failure) :
    (context.processBlock answer frame text block).outcome = .failed failure ↔
      (∃ cause, (parse context.registry block.body).result = .error cause ∧
        failure = .plain cause) ∨
      ∃ invocations, (parse context.registry block.body).result = .ok invocations ∧
        (execute answer frame block.start invocations text).outcome = .failed failure := by
  rw [processBlock, andThen_outcome_of_done (context.record_outcome _),
    andThen_outcome_eq_failed_iff]
  simp only [parseBody_outcome_eq_done_iff]
  rw [parseBody, andThen_outcome_of_done (context.recordAll_outcome _),
    ofExcept_outcome_eq_failed_iff]

/-- A scan that fails has come to a block that fails, whose place it adds to the failure. -/
theorem exists_block_of_scan_failed {steps limit : Nat} {text : Text} {position : Nat}
    (h : (context.scan (context.expand steps) frame limit text position).outcome =
      .failed failure) :
    ∃ cursor block inner, context.Leads frame ⟨text, position⟩ cursor ∧
      context.settings.markers.find? cursor.text cursor.position = some block ∧
      (context.processBlock (context.expand steps) frame (block.remove cursor.text)
        block).outcome = .failed inner ∧
      failure = inner.within (placeOf frame (block.remove cursor.text) block) := by
  induction limit generalizing text position with
  | zero => cases h
  | succ limit ih =>
    rw [scan] at h
    split at h
    · cases h
    · next block hfind =>
      rcases (andThen_outcome_eq_failed_iff _ _ _).mp h with hblock | ⟨next, hnext, hrest⟩
      · obtain ⟨inner, hinner, hfailure⟩ := (mapFailure_outcome_eq_failed_iff _ _ _).mp hblock
        exact ⟨⟨text, position⟩, block, inner, .refl, hfind, hinner, hfailure⟩
      · rw [mapFailure_outcome_eq_done_iff] at hnext
        obtain ⟨cursor, last, inner, hleads, hlast⟩ := ih hrest
        exact ⟨cursor, last, inner, .head ⟨block, hfind, ⟨steps, hnext⟩, rfl⟩ hleads, hlast⟩

/-- The expansion of a request fails. -/
def Fails (context : Context) (request : Request) (failure : Failure) : Prop :=
  ∃ steps, (context.expand steps request).outcome = .failed failure

/-- A request is refused: its file is not entered, or its bytes are not decoded. -/
def Refuses (context : Context) (request : Request) (cause : Cause) : Prop :=
  context.enter request = .error cause ∨
    ∃ key bytes, context.enter request = .ok (key, bytes) ∧ context.decode bytes = .error cause

/-- What is not decoded has no known encoding, or bytes that the encoding does not have. -/
theorem decode_eq_error {bytes : List UInt8} {cause : Cause}
    (h : context.decode bytes = .error cause) :
    (∃ fault name, cause = .encodingName fault name) ∨
      (∃ form, cause = .misfit (.asEncoding form)) ∨ ∃ error, cause = .undecodable error := by
  unfold decode at h
  split at h
  · next fault hfind =>
    obtain rfl := Except.error.inj h
    unfold EncodingSetting.find at hfind
    split at hfind
    · next name _ =>
      obtain ⟨error, -, hcause⟩ := mapError_eq_error hfind
      exact Or.inl ⟨error, name, hcause⟩
    · next form _ => exact Or.inr (Or.inl ⟨form, (Except.error.inj hfind).symm⟩)
  · obtain ⟨error, -, hcause⟩ := mapError_eq_error h
    exact Or.inr (Or.inr ⟨error, hcause⟩)

/-- A request is refused, or it opens a file. -/
theorem refuses_or_opens (context : Context) (request : Request) :
    (∃ cause, context.Refuses request cause) ∨ ∃ key text, context.Opens request key text := by
  cases henter : context.enter request with
  | error cause => exact Or.inl ⟨cause, Or.inl henter⟩
  | ok entered =>
    obtain ⟨key, bytes⟩ := entered
    cases hdecode : context.decode bytes with
    | error cause => exact Or.inl ⟨cause, Or.inr ⟨key, bytes, henter, hdecode⟩⟩
    | ok text => exact Or.inr ⟨key, text, bytes, henter, hdecode⟩

/-- A refused request fails with the cause alone. -/
theorem expand_outcome_of_refuses {cause : Cause} (h : context.Refuses request cause)
    (steps : Nat) : (context.expand (steps + 1) request).outcome = .failed (.plain cause) := by
  rw [expand, andThen_outcome_eq_failed_iff]
  rcases h with henter | ⟨key, bytes, henter, hdecode⟩
  · exact Or.inl ((ofExcept_outcome_eq_failed_iff _ _).mpr ⟨cause, henter, rfl⟩)
  · refine Or.inr ⟨(key, bytes), (ofExcept_outcome_eq_done_iff _ _).mpr henter, ?_⟩
    dsimp only
    rw [andThen_outcome_of_done (context.record_outcome _), andThen_outcome_eq_failed_iff]
    exact Or.inl ((ofExcept_outcome_eq_failed_iff _ _).mpr ⟨cause, hdecode, rfl⟩)

/-- An expansion that fails is of a refused request, or its scan fails. -/
theorem refuses_or_scan_failed {steps : Nat}
    (h : (context.expand (steps + 1) request).outcome = .failed failure) :
    (∃ cause, context.Refuses request cause ∧ failure = .plain cause) ∨
      ∃ key text, context.Opens request key text ∧
        (context.scan (context.expand steps) (frameOf request key) steps text 0).outcome =
          .failed failure := by
  rcases context.refuses_or_opens request with ⟨cause, hrefuses⟩ | ⟨key, text, hopens⟩
  · rw [expand_outcome_of_refuses hrefuses] at h
    exact Or.inl ⟨cause, hrefuses, (Outcome.failed.inj h).symm⟩
  · rw [expand_outcome_of_opens hopens] at h
    exact Or.inr ⟨key, text, hopens, h⟩

/-- Built-in invocations fail if a file that they ask for does. -/
theorem exists_asks_of_execute_failed {invocations : List Invocation} {steps : Nat} {index : Int}
    {text : Text}
    (hbuiltin : ∀ invocation ∈ invocations,
      (∃ name replacement, invocation = .defining name replacement) ∨
        ∃ path, invocation = .including path)
    (h : (execute (context.expand steps) frame index invocations text).outcome =
      .failed failure) :
    ∃ inner, context.Asks frame index invocations text inner ∧
      (context.expand steps inner).outcome = .failed failure := by
  induction invocations generalizing text with
  | nil => cases h
  | cons invocation invocations ih =>
    rw [execute, andThen_outcome_eq_failed_iff] at h
    rcases h with hfirst | ⟨next, hnext, hrest⟩
    · rcases hbuiltin invocation List.mem_cons_self with ⟨name, replacement, rfl⟩ | ⟨path, rfl⟩
      · cases hfirst
      · rw [Invocation.including, run_inclusion, andThen_outcome_eq_failed_iff] at hfirst
        rcases hfirst with hinner | ⟨included, -, hvalue⟩
        · exact ⟨_, .here, hinner⟩
        · cases hvalue
    · obtain ⟨inner, hasks, hinner⟩ :=
        ih (fun i hi => hbuiltin i (List.mem_cons_of_mem _ hi)) hrest
      exact ⟨inner, .later hnext hasks, hinner⟩

/-- Invocations fail with a file that they ask for. -/
theorem Asks.execute_failed {index : Int} {invocations : List Invocation} {text : Text}
    (h : context.Asks frame index invocations text inner) (hfails : context.Fails inner failure) :
    ∃ steps, (execute (context.expand steps) frame index invocations text).outcome =
      .failed failure := by
  induction h with
  | here =>
    obtain ⟨steps, hinner⟩ := hfails
    refine ⟨steps, ?_⟩
    rw [execute, Invocation.including, run_inclusion, andThen_outcome_eq_failed_iff,
      andThen_outcome_eq_failed_iff]
    exact Or.inl (Or.inl hinner)
  | @later invocation invocations text next inner first hdone _ ih =>
    obtain ⟨others, hothers⟩ := ih hfails
    refine ⟨max first others, ?_⟩
    have hnext := (context.task_persists (Nat.le_max_left first others) _).outcome_eq hdone
    rw [execute, andThen_outcome_of_done hnext]
    exact (context.execute_expand_persists (Nat.le_max_right first others) frame index
      invocations next).outcome_failed hothers

/-- A scan that leads to a block that fails does so as well. -/
theorem scan_failed_of_leads {cursor last : Cursor} {block : Block} {inner : Failure}
    (h : context.Leads frame cursor last)
    (hfind : context.settings.markers.find? last.text last.position = some block)
    (hblock : ∃ steps, (context.processBlock (context.expand steps) frame
      (block.remove last.text) block).outcome = .failed inner) :
    ∃ enough, ∀ steps limit, enough ≤ steps → enough ≤ limit →
      (context.scan (context.expand steps) frame limit cursor.text cursor.position).outcome =
        .failed (inner.within (placeOf frame (block.remove last.text) block)) := by
  induction h using ReflTransGen.head_induction_on with
  | refl =>
    obtain ⟨needed, hfailed⟩ := hblock
    refine ⟨needed + 1, fun steps limit hsteps hlimit => ?_⟩
    obtain ⟨count, rfl⟩ : ∃ count, limit = count + 1 := ⟨limit - 1, by omega⟩
    rw [scan, hfind, andThen_outcome_eq_failed_iff, mapFailure_outcome_eq_failed_iff]
    refine Or.inl ⟨inner, ?_, rfl⟩
    exact (context.processBlock_persists (Nat.le_of_succ_le hsteps) frame _ block).outcome_failed
      hfailed
  | head hstep _ ih =>
    obtain ⟨passed, hpassed, ⟨needed, hdone⟩, hposition⟩ := hstep
    obtain ⟨enough, hrest⟩ := ih
    refine ⟨max needed (enough + 1), fun steps limit hsteps hlimit => ?_⟩
    obtain ⟨count, rfl⟩ : ∃ count, limit = count + 1 := ⟨limit - 1, by omega⟩
    have hnext := (context.processBlock_persists (Nat.le_trans (Nat.le_max_left _ _) hsteps) frame _
      passed).outcome_eq hdone
    rw [scan_outcome_of_processBlock hpassed hnext, ← hposition]
    exact hrest steps count (by omega) (by omega)

end Context

end TextMacro
