import TextMacro.Proofs.Outcome

/-!
# Corresponding runs

Two runs can be compared in several ways: the second one may repeat the first one, or it may be the
first one with fewer events. What such a comparison needs in order to pass from parts to wholes is
the same every time: it has to pass through each of the ways in which runs are put together. Then it
passes through tasks, executed invocations, blocks, scans and expansions, whatever the texts, blocks
and depths of inclusion are. All that is left to say about two contexts is how they record events,
how they open related requests, and what their handlers make of related frames.
-/

namespace TextMacro

/-- A way to compare runs that passes through all the ways in which runs are put together. -/
structure Correspondence where
  /-- The first run corresponds to the second one. -/
  Holds : ∀ {α : Type}, Run α → Run α → Prop
  value : ∀ {α : Type} (a : α), Holds (.value a) (.value a)
  fail : ∀ {α : Type} (failure : Failure), Holds (.fail failure : Run α) (.fail failure)
  exhausted : ∀ {α : Type}, Holds (.exhausted : Run α) .exhausted
  /-- The second parts are only looked at for the value that the first run ends with. -/
  andThen : ∀ {α β : Type} {run other : Run α} {next after : α → Run β}, Holds run other →
    (∀ a, run.outcome = .done a → Holds (next a) (after a)) →
    Holds (run.andThen next) (other.andThen after)
  mapFailure : ∀ {α : Type} {run other : Run α} (change : Failure → Failure), Holds run other →
    Holds (run.mapFailure change) (other.mapFailure change)

namespace Correspondence

variable {link : Correspondence} {steps more : Nat}

/-- The outcome of a computation that may fail corresponds to itself. -/
theorem ofExcept {α : Type} (link : Correspondence) (result : Except Cause α) :
    link.Holds (Run.ofExcept result) (Run.ofExcept result) := by
  cases result with
  | ok a => exact link.value a
  | error cause => exact link.fail _

/-- A second number of steps will do in the place of a first one: it is the same, or it is larger
and nothing is asked of the second run where the first one runs out of steps. -/
def Grants (link : Correspondence) (steps more : Nat) : Prop :=
  steps = more ∨ steps ≤ more ∧ ∀ {α : Type} (other : Run α), link.Holds .exhausted other

/-- The same number of steps will do. -/
theorem Grants.refl (link : Correspondence) (steps : Nat) : link.Grants steps steps := Or.inl rfl

/-- Without steps, running out of them corresponds to whatever the second number gives. -/
theorem Grants.holds_exhausted {α : Type} (h : link.Grants 0 more) (other : Nat → Run α)
    (hother : other 0 = .exhausted) : link.Holds .exhausted (other more) := by
  rcases h with rfl | ⟨-, hlenient⟩
  · rw [hother]
    exact link.exhausted
  · exact hlenient _

/-- A step is taken on both sides. -/
theorem Grants.exists_succ (h : link.Grants (steps + 1) more) :
    ∃ count, more = count + 1 ∧ link.Grants steps count := by
  rcases h with rfl | ⟨hle, hlenient⟩
  · exact ⟨steps, rfl, Or.inl rfl⟩
  · exact ⟨more - 1, by omega, Or.inr ⟨by omega, hlenient⟩⟩

/-- Tasks correspond when the answers to their requests do. -/
theorem run_task (link : Correspondence) {answer reply : Request → Run Text}
    (h : ∀ request, link.Holds (answer request) (reply request)) (task : Task) :
    link.Holds (task.run answer) (task.run reply) := by
  induction task with
  | done text => exact link.value text
  | fail failure => exact link.fail failure
  | expand request next ih => exact link.andThen (h request) fun text _ => ih text
  | build path basedir next ih =>
    exact link.andThen (link.mapFailure _ (h ⟨path, basedir, []⟩)) fun text _ => ih text

/-- Executed invocations correspond when their handlers do. -/
theorem execute (link : Correspondence) {answer reply : Request → Run Text}
    {frame frame' : Frame} {index : Int} (invocations : List Invocation)
    (h : ∀ invocation ∈ invocations, ∀ text, link.Holds
      ((invocation.command.handler ⟨invocation.args, frame, text, index⟩).run answer)
      ((invocation.command.handler ⟨invocation.args, frame', text, index⟩).run reply))
    (text : Text) :
    link.Holds (Context.execute answer frame index invocations text)
      (Context.execute reply frame' index invocations text) := by
  induction invocations generalizing text with
  | nil => exact link.value text
  | cons invocation invocations ih =>
    refine link.andThen (h invocation List.mem_cons_self text) fun next _ => ?_
    exact ih (fun i hi => h i (List.mem_cons_of_mem _ hi)) next

/-- The handlers of a registry correspond in two frames, each with its own answers. -/
def Handlers (link : Correspondence) (registry : Registry) (answer reply : Request → Run Text)
    (frame frame' : Frame) : Prop :=
  ∀ command ∈ registry.commands, ∀ args text index,
    link.Holds ((command.handler ⟨args, frame, text, index⟩).run answer)
      ((command.handler ⟨args, frame', text, index⟩).run reply)

/-- In one frame, handlers correspond when their answers do. -/
theorem handlers_of_answers (link : Correspondence) {answer reply : Request → Run Text}
    (h : ∀ request, link.Holds (answer request) (reply request)) (registry : Registry)
    (frame : Frame) : link.Handlers registry answer reply frame frame :=
  fun _ _ _ _ _ => link.run_task h _

end Correspondence

namespace Context

/-- The frame in which a request is carried out, once the key of its file is known. -/
def frameOf (request : Request) (key : SourcePath) : Frame :=
  { request.frame with active := request.active ++ [key] }

/-- Entering a request does not change the path of its file. -/
@[simp]
theorem frameOf_resolved (request : Request) (key : SourcePath) :
    (frameOf request key).resolved = request.frame.resolved := rfl

/-- Enter a request and record that its file is expanded. -/
def opening (context : Context) (request : Request) : Run (SourcePath × List UInt8) :=
  (Run.ofExcept (context.enter request)).andThen fun entered =>
    (context.record (.expanding request.frame.resolved)).andThen fun _ => .value entered

/-- A file is opened before it is decoded and scanned. -/
theorem expand_succ (context : Context) (steps : Nat) (request : Request) :
    context.expand (steps + 1) request =
      (context.opening request).andThen fun (key, bytes) =>
        (Run.ofExcept (context.decode bytes)).andThen fun text =>
          (context.scan (context.expand steps) (frameOf request key) steps text 0).andThen
            fun text => (context.record (.expanded request.frame.resolved text.length)).andThen
              fun _ => .value text := by
  simp only [expand, opening, Run.andThen_assoc, Run.value_andThen]
  rfl

/-- A request is opened to what is entered. -/
theorem enter_of_opening {context : Context} {request : Request}
    {entered : SourcePath × List UInt8} (h : (context.opening request).outcome = .done entered) :
    context.enter request = .ok entered := by
  obtain ⟨found, hfound, h⟩ := (Run.andThen_outcome_eq_done_iff _ _ _).mp h
  rw [Run.andThen_outcome_of_done (context.record_outcome _)] at h
  obtain rfl := Outcome.done.inj h
  exact (Run.ofExcept_outcome_eq_done_iff _ _).mp hfound

/-- Two contexts that find, read and parse alike, and whose records correspond. -/
structure Corresponds (link : Correspondence) (context other : Context) : Prop where
  markers : other.settings.markers = context.settings.markers
  encoding : other.settings.encoding = context.settings.encoding
  registry : other.registry = context.registry
  record : ∀ event, link.Holds (context.record event) (other.record event)

namespace Corresponds

variable {link : Correspondence} {context other : Context}

/-- Texts are decoded alike. -/
theorem decode (h : Corresponds link context other) (bytes : List UInt8) :
    other.decode bytes = context.decode bytes := by
  unfold Context.decode
  rw [h.encoding]

/-- Recorded invocations correspond. -/
theorem recordAll (h : Corresponds link context other) (invocations : List Invocation) :
    link.Holds (context.recordAll invocations) (other.recordAll invocations) := by
  induction invocations with
  | nil => exact link.value ()
  | cons invocation invocations ih => exact link.andThen (h.record _) fun _ _ => ih

/-- Parsed bodies correspond. -/
theorem parseBody (h : Corresponds link context other) (body : Text) :
    link.Holds (context.parseBody body) (other.parseBody body) := by
  simp only [Context.parseBody, h.registry]
  exact link.andThen (h.recordAll _) fun _ _ => link.ofExcept _

/-- Blocks correspond when the handlers do. -/
theorem processBlock (h : Corresponds link context other) {frame frame' : Frame}
    (hresolved : frame'.resolved = frame.resolved) {answer reply : Request → Run Text}
    (hhandlers : link.Handlers context.registry answer reply frame frame') (text : Text)
    (block : Block) :
    link.Holds (context.processBlock answer frame text block)
      (other.processBlock reply frame' text block) := by
  simp only [Context.processBlock, hresolved]
  refine link.andThen (h.record _) fun _ _ => link.andThen (h.parseBody _) ?_
  intro invocations hparse
  rw [parseBody_outcome_eq_done_iff, Parse.result_eq_ok_iff] at hparse
  obtain ⟨-, rfl⟩ := hparse
  refine link.execute _ (fun invocation hmem text => ?_) text
  exact hhandlers _ (command_mem_of_mem_parseTokens _ _ hmem) _ _ _

/-- Scans correspond when the handlers do. -/
theorem scan (h : Corresponds link context other) {frame frame' : Frame}
    (hresolved : frame'.resolved = frame.resolved) {answer reply : Request → Run Text}
    (hhandlers : link.Handlers context.registry answer reply frame frame') {steps more : Nat}
    (hsteps : link.Grants steps more) (text : Text) (position : Nat) :
    link.Holds (context.scan answer frame steps text position)
      (other.scan reply frame' more text position) := by
  induction steps generalizing more text position with
  | zero =>
    exact hsteps.holds_exhausted (fun count => other.scan reply frame' count text position) rfl
  | succ steps ih =>
    obtain ⟨more, rfl, hgrants⟩ := hsteps.exists_succ
    rw [Context.scan, Context.scan, h.markers]
    cases hfind : context.settings.markers.find? text position with
    | none => exact link.value text
    | some block =>
      simp only [placeOf, hresolved]
      refine link.andThen (link.mapFailure _ (h.processBlock hresolved hhandlers _ _)) ?_
      intro next _
      exact ih hgrants next block.start

end Corresponds

/-- Requests that stand for each other in two contexts. -/
structure Relates (link : Correspondence) (context other : Context)
    (related : Request → Request → Prop) : Prop extends Corresponds link context other where
  /-- Related requests name one path. -/
  resolved : ∀ request request', related request request' →
    request'.frame.resolved = request.frame.resolved
  opening : ∀ request request', related request request' →
    link.Holds (context.opening request) (other.opening request')
  /-- Handlers whose answers to related requests correspond do so in the frames of related
  requests. -/
  handlers : ∀ request request' key bytes, related request request' →
    context.enter request = .ok (key, bytes) →
    ∀ answer reply : Request → Run Text,
      (∀ inner inner', related inner inner' → link.Holds (answer inner) (reply inner')) →
    link.Handlers context.registry answer reply (frameOf request key) (frameOf request' key)

namespace Relates

variable {link : Correspondence} {context other : Context}
  {related : Request → Request → Prop} {request request' : Request} {steps more : Nat}

/-- Every request can stand for itself where it is opened to the same. -/
theorem of_eq (h : Corresponds link context other)
    (hopening : ∀ request, link.Holds (context.opening request) (other.opening request)) :
    Relates link context other Eq where
  toCorresponds := h
  resolved := by
    rintro request _ rfl
    rfl
  opening := by
    rintro request _ rfl
    exact hopening request
  handlers := by
    rintro request _ key bytes rfl - answer reply hanswer
    exact link.handlers_of_answers (fun inner => hanswer inner inner rfl) _ _

/-- The expansions of related requests correspond. -/
theorem expand (h : Relates link context other related) (hsteps : link.Grants steps more)
    (hrelated : related request request') :
    link.Holds (context.expand steps request) (other.expand more request') := by
  induction steps generalizing more request request' with
  | zero => exact hsteps.holds_exhausted (fun count => other.expand count request') rfl
  | succ steps ih =>
    obtain ⟨more, rfl, hgrants⟩ := hsteps.exists_succ
    rw [expand_succ, expand_succ, h.resolved _ _ hrelated]
    refine link.andThen (h.opening _ _ hrelated) fun (key, bytes) hopening => ?_
    dsimp only
    rw [h.decode]
    refine link.andThen (link.ofExcept _) fun text _ => ?_
    have hhandlers := h.handlers _ _ _ _ hrelated (enter_of_opening hopening)
      (context.expand steps) (other.expand more) fun inner inner' hinner => ih hgrants hinner
    have hresolved : (frameOf request' key).resolved = (frameOf request key).resolved :=
      h.resolved _ _ hrelated
    refine link.andThen (h.scan hresolved hhandlers hgrants text 0) fun result _ => ?_
    exact link.andThen (h.record _) fun _ _ => link.value result

/-- The builds of a file correspond. -/
theorem build (h : Relates link context other Eq) (steps : Nat) (path : Text)
    (basedir : Option SourcePath) :
    link.Holds (context.build steps path basedir) (other.build steps path basedir) :=
  link.mapFailure _ (h.expand (.refl link steps) rfl)

/-- The builds of several files correspond. -/
theorem buildAll (h : Relates link context other Eq) (steps : Nat) (basedir : Option SourcePath)
    (paths : List Text) :
    link.Holds (context.buildAll steps basedir paths) (other.buildAll steps basedir paths) := by
  induction paths with
  | nil => exact link.value []
  | cons path paths ih =>
    refine link.andThen (h.build steps path basedir) fun text _ => ?_
    exact link.andThen ih fun others _ => link.value (text ++ others)

end Relates

end Context

end TextMacro
