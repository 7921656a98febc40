import TextMacro.Failure
import TextMacro.Journal

/-!
# Runs

A run records events and ends in one of three ways: with a value, with a failure, or because the
steps it was granted did not suffice. Running out of steps is no failure of the program and can not
be caught. Runs are put together in order: the events of the first come before those of the second,
and what does not end with a value ends the whole.
-/

namespace TextMacro

/-- How a run ends. -/
inductive Outcome (α : Type) where
  | done (value : α)
  | failed (failure : Failure)
  | exhausted
deriving DecidableEq

/-- The events of a run and how it ends. -/
structure Run (α : Type) where
  events : List Event
  outcome : Outcome α
deriving DecidableEq

namespace Run

variable {α β : Type}

/-- The run that does nothing but give a value. -/
def value (a : α) : Run α := ⟨[], .done a⟩

/-- The run that fails at once. -/
def fail (failure : Failure) : Run α := ⟨[], .failed failure⟩

/-- The run that has no steps left. -/
def exhausted : Run α := ⟨[], .exhausted⟩

/-- One run after another. -/
def andThen (run : Run α) (next : α → Run β) : Run β :=
  match run.outcome with
  | .done a => ⟨run.events ++ (next a).events, (next a).outcome⟩
  | .failed failure => ⟨run.events, .failed failure⟩
  | .exhausted => ⟨run.events, .exhausted⟩

instance : Monad Run where
  pure := value
  bind := andThen

/-- The run of a computation that may have a cause to fail. -/
def ofExcept : Except Cause α → Run α
  | .ok a => value a
  | .error cause => fail (.plain cause)

/-- The run that records an event if the verbosity asks for it. -/
def record (verbosity : Int) (event : Event) : Run Unit :=
  ⟨if isRecorded verbosity event.level then [event] else [], .done ()⟩

/-- The same run with its failure, if there is one, changed. -/
def mapFailure (change : Failure → Failure) (run : Run α) : Run α :=
  match run.outcome with
  | .failed failure => ⟨run.events, .failed (change failure)⟩
  | _ => run

/-- A run after one that only gives a value is the run on that value. -/
@[simp]
theorem value_andThen (a : α) (next : α → Run β) : (value a).andThen next = next a := by
  simp [andThen, value]

/-- To give the value that there is changes nothing. -/
@[simp]
theorem andThen_value (run : Run α) : run.andThen value = run := by
  obtain ⟨events, outcome⟩ := run
  cases outcome with
  | done a => simp [andThen, value]
  | failed failure => rfl
  | exhausted => rfl

/-- Three runs in order can be put together in either way. -/
theorem andThen_assoc {γ : Type} (run : Run α) (next : α → Run β) (last : β → Run γ) :
    (run.andThen next).andThen last = run.andThen fun a => (next a).andThen last := by
  obtain ⟨events, outcome⟩ := run
  cases outcome with
  | done a =>
    simp only [andThen]
    split <;> simp_all
  | failed failure => rfl
  | exhausted => rfl

/-- Nothing comes after a failure. -/
@[simp]
theorem fail_andThen (failure : Failure) (next : α → Run β) :
    (fail failure).andThen next = fail failure := rfl

/-- Nothing comes after the steps have run out. -/
@[simp]
theorem exhausted_andThen (next : α → Run β) : exhausted.andThen next = exhausted := rfl

end Run

end TextMacro
