import TextMacro.Proofs.Correspondence

/-!
# Runs that persist

A run persists in another when the other repeats it, events and all, wherever the first one has an
end. Which ends count is a parameter: with failures it says that granting more steps changes
nothing, without them that a success under one context is a success under another.

Persistence passes through every way in which runs are put together. So it is enough to say for two
contexts how they treat related requests on entry and in the handlers of commands; the expansion of
related requests then persists, whatever the texts, blocks and depths of inclusion are.
-/

namespace TextMacro

variable {α β : Type} {failures : Prop}

/-- Whether an outcome counts as an end; failures count where they are asked for. -/
def Outcome.IsEnd (failures : Prop) : Outcome α → Prop
  | .done _ => True
  | .failed _ => failures
  | .exhausted => False

/-- Only running out of steps is no end. -/
theorem Outcome.isEnd_true_iff (outcome : Outcome α) :
    outcome.IsEnd True ↔ outcome ≠ .exhausted := by
  cases outcome <;> simp [IsEnd]

namespace Run

/-- Wherever the first run has an end, the second one is the same. -/
def Persists (failures : Prop) (run other : Run α) : Prop :=
  run.outcome.IsEnd failures → other = run

/-- A run persists in itself. -/
theorem Persists.refl (run : Run α) : Persists failures run run := fun _ => rfl

/-- A run without steps persists in every run. -/
theorem persists_exhausted (other : Run α) : Persists failures exhausted other := False.elim

/-- Where failures do not count, a failed run persists in every run. -/
theorem persists_fail (failure : Failure) (other : Run α) :
    Persists False (fail failure) other := False.elim

/-- Persistence of two runs in order, the second one being looked at only for the value that the
first one ends with. -/
theorem Persists.andThen {run other : Run α} {next after : α → Run β}
    (hrun : Persists failures run other)
    (hnext : ∀ a, run.outcome = .done a → Persists failures (next a) (after a)) :
    Persists failures (run.andThen next) (other.andThen after) := by
  intro hend
  obtain ⟨events, outcome⟩ := run
  cases outcome with
  | done a =>
    rw [hrun trivial]
    have hsame : after a = next a := hnext a rfl hend
    simp only [Run.andThen, hsame]
  | failed failure =>
    rw [hrun hend]
    rfl
  | exhausted => exact False.elim hend

/-- A change of failures keeps persistence. -/
theorem Persists.mapFailure {run other : Run α} (change : Failure → Failure)
    (hrun : Persists failures run other) :
    Persists failures (run.mapFailure change) (other.mapFailure change) := by
  intro hend
  obtain ⟨events, outcome⟩ := run
  cases outcome with
  | done a => rw [hrun trivial]
  | failed failure => rw [hrun hend]
  | exhausted => exact False.elim hend

/-- The end of a run that persists is the end of the other one. -/
theorem Persists.outcome_eq {run other : Run α} {text : α} (hrun : Persists failures run other)
    (hdone : run.outcome = .done text) : other.outcome = .done text := by
  rw [hrun (by rw [hdone]; trivial), hdone]

/-- A run that persists, failures included, has an end only if the other one has. -/
theorem Persists.outcome_ne_exhausted {run other : Run α} (hrun : Persists True run other)
    (hend : run.outcome ≠ .exhausted) : other.outcome ≠ .exhausted := by
  rw [hrun ((Outcome.isEnd_true_iff _).mpr hend)]
  exact hend

/-- Of runs that persist as steps are added, all that have an end have the same one. -/
theorem outcome_eq_of_persists {run : Nat → Run α}
    (hrun : ∀ {steps more : Nat}, steps ≤ more → Persists True (run steps) (run more))
    {steps enough : Nat} {a : α} (hdone : (run enough).outcome = .done a)
    (hend : (run steps).outcome ≠ .exhausted) : (run steps).outcome = .done a := by
  rcases Nat.le_total enough steps with hle | hle
  · exact (hrun hle).outcome_eq hdone
  · rw [← hrun hle ((Outcome.isEnd_true_iff _).mpr hend), hdone]

end Run

open Run

/-- Persistence as a way to compare runs. -/
def persistence (failures : Prop) : Correspondence where
  Holds := Persists failures
  value _ := .refl _
  fail _ := .refl _
  exhausted := persists_exhausted _
  andThen := Persists.andThen
  mapFailure := Persists.mapFailure

/-- Nothing is asked of a run in which one without steps persists, so more steps do no harm. -/
theorem persistence_grants {steps more : Nat} (h : steps ≤ more) :
    (persistence failures).Grants steps more := Or.inr ⟨h, persists_exhausted⟩

/-- A task persists when all answers to its requests do. -/
theorem Task.run_persists {answer reply : Request → Run Text}
    (h : ∀ request, Persists failures (answer request) (reply request)) (task : Task) :
    Persists failures (task.run answer) (task.run reply) :=
  (persistence failures).run_task h task

namespace Context

/-- Execution persists when every handler does. -/
theorem execute_persists {answer reply : Request → Run Text} {frame other : Frame} {index : Int}
    (invocations : List Invocation)
    (h : ∀ invocation ∈ invocations, ∀ text,
      Persists failures
        ((invocation.command.handler ⟨invocation.args, frame, text, index⟩).run answer)
        ((invocation.command.handler ⟨invocation.args, other, text, index⟩).run reply))
    (text : Text) :
    Persists failures (execute answer frame index invocations text)
      (execute reply other index invocations text) :=
  (persistence failures).execute invocations h text

/-- Two contexts that differ at most in their trees and in the detection of cycles: they find, read,
parse and record alike. -/
structure Alike (context other : Context) : Prop where
  markers : other.settings.markers = context.settings.markers
  encoding : other.settings.encoding = context.settings.encoding
  registry : other.registry = context.registry
  verbosity : other.verbosity = context.verbosity

namespace Alike

variable {context other : Context}

/-- A context is like itself. -/
theorem refl (context : Context) : Alike context context := ⟨rfl, rfl, rfl, rfl⟩

/-- What one of them records, the other one does. -/
theorem corresponds (h : Alike context other) :
    Corresponds (persistence failures) context other where
  markers := h.markers
  encoding := h.encoding
  registry := h.registry
  record event := by
    rw [Context.record, Context.record, h.verbosity]
    exact Persists.refl _

/-- The handlers of a registry persist from one frame, with its answers, to another. -/
def HandlersPersist (failures : Prop) (registry : Registry) (answer reply : Request → Run Text)
    (frame frame' : Frame) : Prop :=
  ∀ command ∈ registry.commands, ∀ args text index,
    Persists failures ((command.handler ⟨args, frame, text, index⟩).run answer)
      ((command.handler ⟨args, frame', text, index⟩).run reply)

/-- A block persists when the handlers do. -/
theorem processBlock (h : Alike context other) {frame frame' : Frame}
    (hresolved : frame'.resolved = frame.resolved) {answer reply : Request → Run Text}
    (hhandlers : HandlersPersist failures context.registry answer reply frame frame')
    (text : Text) (block : Block) :
    Persists failures (context.processBlock answer frame text block)
      (other.processBlock reply frame' text block) :=
  h.corresponds.processBlock hresolved hhandlers text block

/-- A scan persists when the handlers do, and more steps do no harm. -/
theorem scan (h : Alike context other) {frame frame' : Frame}
    (hresolved : frame'.resolved = frame.resolved) {answer reply : Request → Run Text}
    (hhandlers : HandlersPersist failures context.registry answer reply frame frame')
    {steps more : Nat} (hsteps : steps ≤ more) (text : Text) (position : Nat) :
    Persists failures (context.scan answer frame steps text position)
      (other.scan reply frame' more text position) :=
  h.corresponds.scan hresolved hhandlers (persistence_grants hsteps) text position

end Alike

/-- Persistent answers make all handlers persist in one frame. -/
theorem handlersPersist_of_answers {answer reply : Request → Run Text}
    (h : ∀ request, Persists failures (answer request) (reply request)) (registry : Registry)
    (frame : Frame) : Alike.HandlersPersist failures registry answer reply frame frame :=
  fun _ _ _ _ _ => Task.run_persists h _

/-- Requests that stand for each other under two contexts. -/
structure Simulation (failures : Prop) (context other : Context)
    (related : Request → Request → Prop) : Prop extends Alike context other where
  /-- Related requests name one path. -/
  resolved : ∀ request request', related request request' →
    request'.frame.resolved = request.frame.resolved
  /-- What is found on entry is found under both, and refused under both if failures count. -/
  enter : ∀ request request', related request request' →
    Persists failures (Run.ofExcept (context.enter request)) (Run.ofExcept (other.enter request'))
  /-- Handlers whose answers to related requests persist do so in the frames of related requests. -/
  handlers : ∀ request request' key bytes, related request request' →
    context.enter request = .ok (key, bytes) →
    ∀ answer reply : Request → Run Text,
      (∀ inner inner', related inner inner' → Persists failures (answer inner) (reply inner')) →
    Alike.HandlersPersist failures context.registry answer reply (frameOf request key)
      (frameOf request' key)

/-- Related requests of a simulation are opened, and handled, persistently. -/
theorem Simulation.relates {context other : Context} {related : Request → Request → Prop}
    (h : Simulation failures context other related) :
    Relates (persistence failures) context other related where
  toCorresponds := h.toAlike.corresponds
  resolved := h.resolved
  opening := by
    intro request request' hrelated
    rw [opening, opening, Context.record, Context.record, h.verbosity, h.resolved _ _ hrelated]
    exact (h.enter _ _ hrelated).andThen fun _ _ => .refl _
  handlers := h.handlers

/-- The expansions of related requests persist, and more steps do no harm. -/
theorem Simulation.expand {context other : Context} {related : Request → Request → Prop}
    (h : Simulation failures context other related) {steps more : Nat}
    (hsteps : steps ≤ more) {request request' : Request} (hrelated : related request request') :
    Persists failures (context.expand steps request) (other.expand more request') :=
  h.relates.expand (persistence_grants hsteps) hrelated

/-- Every context simulates itself. -/
theorem Simulation.refl (context : Context) : Simulation failures context context Eq where
  toAlike := .refl context
  resolved := by
    rintro request _ rfl
    rfl
  enter := by
    rintro request _ rfl
    exact .refl _
  handlers := by
    rintro request _ key bytes rfl - answer reply hanswer
    exact handlersPersist_of_answers (fun inner => hanswer inner inner rfl) _ _

/-- An expansion that has an end keeps it when more steps are granted. -/
theorem expand_persists (context : Context) {steps more : Nat} (h : steps ≤ more)
    (request : Request) :
    Persists True (context.expand steps request) (context.expand more request) :=
  (Simulation.refl context).expand h rfl

/-- A task keeps its end when its requests are granted more steps. -/
theorem task_persists (context : Context) {steps more : Nat} (h : steps ≤ more) (task : Task) :
    Persists True (task.run (context.expand steps)) (task.run (context.expand more)) :=
  Task.run_persists (context.expand_persists h) task

/-- Executed invocations keep their end when the inclusions in them are granted more steps. -/
theorem execute_expand_persists (context : Context) {steps more : Nat} (h : steps ≤ more)
    (frame : Frame) (index : Int) (invocations : List Invocation) (text : Text) :
    Persists True (execute (context.expand steps) frame index invocations text)
      (execute (context.expand more) frame index invocations text) :=
  execute_persists invocations (fun _ _ _ => context.task_persists h _) text

/-- A block that is processed keeps its end when the inclusions in it are granted more steps. -/
theorem processBlock_persists (context : Context) {steps more : Nat} (h : steps ≤ more)
    (frame : Frame) (text : Text) (block : Block) :
    Persists True (context.processBlock (context.expand steps) frame text block)
      (context.processBlock (context.expand more) frame text block) :=
  (Alike.refl context).processBlock rfl
    (handlersPersist_of_answers (context.expand_persists h) _ _) text block

/-- A scan keeps its end when it and the inclusions in it are granted more steps. -/
theorem scan_persists (context : Context) {steps more count limit : Nat} (h : steps ≤ more)
    (hcount : count ≤ limit) (frame : Frame) (text : Text) (position : Nat) :
    Persists True (context.scan (context.expand steps) frame count text position)
      (context.scan (context.expand more) frame limit text position) :=
  (Alike.refl context).scan rfl
    (handlersPersist_of_answers (context.expand_persists h) _ _) hcount text position

end Context

end TextMacro
