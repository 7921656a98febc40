import TextMacro.Proofs.Simulation

/-!
# The chain of files around an expansion

The files around an expansion are looked at in one place only: when a file is entered. So a shorter
chain, or none, gives the same text wherever a longer one gives a text, and it does so with the same
number of steps; and a build that succeeds while cycles are detected is the same build without
detection. In particular, what an inclusion puts into a text is what the included file gives when it
is built on its own, whatever the text around it is and whatever was defined in it before.
-/

namespace TextMacro

open Run

namespace Context

/-- The context in which cycles are detected, or not. -/
def detecting (context : Context) (detect : Bool) : Context :=
  { context with settings := { context.settings with detectCycles := detect } }

/-- Two requests for one file, the second of which has no file around it that the first one has
not. -/
def ChainShrinks (request request' : Request) : Prop :=
  request'.path = request.path ∧ request'.basedir = request.basedir ∧
    request'.active ⊆ request.active

/-- Requests that differ in their chains alone. -/
theorem chainShrinks_of_subset (path : Text) (basedir : Option SourcePath)
    {chain longer : List SourcePath} (h : chain ⊆ longer) :
    ChainShrinks ⟨path, basedir, longer⟩ ⟨path, basedir, chain⟩ := ⟨rfl, rfl, h⟩

/-- The chain has no part in the path of a file. -/
theorem ChainShrinks.resolved {request request' : Request} (h : ChainShrinks request request') :
    request'.frame.resolved = request.frame.resolved := by
  unfold Request.frame Frame.resolved
  rw [h.1, h.2.1]

/-- A file that can be entered can be entered from a shorter chain, and with less detection. -/
theorem ChainShrinks.enter {context : Context} {detect : Bool} {request request' : Request}
    (h : ChainShrinks request request')
    (hdetect : detect = true → context.settings.detectCycles = true)
    {key : SourcePath} {bytes : List UInt8} (henter : context.enter request = .ok (key, bytes)) :
    (context.detecting detect).enter request' = .ok (key, bytes) := by
  rw [enter_eq_ok_iff] at henter ⊢
  rw [h.resolved]
  obtain ⟨hstatus, hkey, hfree⟩ := henter
  refine ⟨hstatus, hkey, ?_⟩
  intro hcycle
  exact hfree ⟨hdetect hcycle.1, h.2.2 hcycle.2⟩

/-- The built-in handlers ask for the same files whatever the chain is, and pass the chain on. -/
theorem handlersPersist_of_chainShrinks {request request' : Request} (key : SourcePath)
    (h : ChainShrinks request request') {answer reply : Request → Run Text}
    (hanswer : ∀ inner inner', ChainShrinks inner inner' →
      Persists False (answer inner) (reply inner')) :
    Alike.HandlersPersist False .builtin answer reply (frameOf request key)
      (frameOf request' key) := by
  intro command hcommand args text index
  simp only [Registry.builtin, List.mem_cons, List.not_mem_nil, or_false] at hcommand
  obtain rfl | rfl := hcommand
  · -- a definition makes no request
    unfold Command.definition Command.replaceHandler
    dsimp only
    split <;> exact .refl _
  · unfold Command.inclusion Command.includeHandler
    dsimp only
    split
    · next path =>
      have hdirectory : (frameOf request' key).directory = (frameOf request key).directory := by
        unfold Frame.directory
        rw [frameOf_resolved, frameOf_resolved, h.resolved]
      rw [hdirectory]
      have hactive : (frameOf request' key).active ⊆ (frameOf request key).active := by
        intro file hfile
        exact (List.mem_append.mp hfile).elim (fun hold => List.mem_append_left _ (h.2.2 hold))
          fun hnew => List.mem_append_right _ hnew
      unfold Task.run
      exact (hanswer _ _ (chainShrinks_of_subset _ _ hactive)).andThen fun included _ => .refl _
    · exact .refl _

/-- Shrinking the chain, and detecting less, is a simulation of successful expansions. -/
theorem simulation_of_chainShrinks {context : Context} (hbuiltin : context.registry = .builtin)
    {detect : Bool} (hdetect : detect = true → context.settings.detectCycles = true) :
    Simulation False context (context.detecting detect) ChainShrinks where
  markers := rfl
  encoding := rfl
  registry := rfl
  verbosity := rfl
  resolved := fun _ _ h => h.resolved
  enter := by
    intro request request' h
    cases henter : context.enter request with
    | error cause => exact persists_fail _ _
    | ok entered => rw [h.enter hdetect henter]; exact .refl _
  handlers := by
    intro request request' key bytes h _ answer reply hanswer
    rw [hbuiltin]
    exact handlersPersist_of_chainShrinks key h hanswer

/-- An expansion that succeeds does so with the same text, in as many steps, when the chain is
shorter and when cycles are no longer detected. -/
theorem expand_outcome_of_chainShrinks {context : Context}
    (hbuiltin : context.registry = .builtin) {detect : Bool}
    (hdetect : detect = true → context.settings.detectCycles = true) {request request' : Request}
    (h : ChainShrinks request request') {steps : Nat} {text : Text}
    (hdone : (context.expand steps request).outcome = .done text) :
    ((context.detecting detect).expand steps request').outcome = .done text :=
  ((simulation_of_chainShrinks hbuiltin hdetect).expand (Nat.le_refl steps) h).outcome_eq hdone

/-- An expansion that succeeds does so with the same text when the chain is shorter. -/
theorem expand_outcome_of_subset {context : Context} (hbuiltin : context.registry = .builtin)
    {chain longer : List SourcePath} (h : chain ⊆ longer) {steps : Nat} {path text : Text}
    {basedir : Option SourcePath}
    (hdone : (context.expand steps ⟨path, basedir, longer⟩).outcome = .done text) :
    (context.expand steps ⟨path, basedir, chain⟩).outcome = .done text := by
  have hself : context.detecting context.settings.detectCycles = context := rfl
  rw [← hself]
  exact expand_outcome_of_chainShrinks hbuiltin id (chainShrinks_of_subset path basedir h) hdone

/-- The chain of files around an expansion, and the detection of cycles, have no part in the text of
an expansion that succeeds; so what an inclusion puts in is what its file gives when it is built on
its own. -/
theorem expansion_independent_of_chain (context : Context)
    (hbuiltin : context.registry = .builtin) (steps : Nat) (path : Text)
    (basedir : Option SourcePath) (text : Text) :
    (∀ chain longer : List SourcePath, chain ⊆ longer →
      (context.expand steps ⟨path, basedir, longer⟩).outcome = .done text →
        (context.expand steps ⟨path, basedir, chain⟩).outcome = .done text) ∧
    (∀ (frame : Frame) (current : Text) (index : Int) (result : Text),
      (context.perform steps .inclusion ⟨[path], frame, current, index⟩).outcome = .done result →
        ∃ included,
          (context.build steps (unquote path) (some frame.directory)).outcome = .done included ∧
          result = Text.insertAt current index included) ∧
    ((context.build steps path basedir).outcome = .done text →
      ((context.detecting false).build steps path basedir).outcome = .done text) := by
  refine ⟨?_, ?_, ?_⟩
  · intro chain longer hsubset hdone
    exact expand_outcome_of_subset hbuiltin hsubset hdone
  · intro frame current index result hdone
    rw [perform, run_inclusion] at hdone
    obtain ⟨included, hincluded, hresult⟩ := (andThen_outcome_eq_done_iff _ _ _).mp hdone
    refine ⟨included, ?_, (Outcome.done.inj hresult).symm⟩
    rw [build, mapFailure_outcome_eq_done_iff]
    exact expand_outcome_of_subset hbuiltin (List.nil_subset _) hincluded
  · intro hdone
    rw [build, mapFailure_outcome_eq_done_iff] at hdone ⊢
    exact expand_outcome_of_chainShrinks hbuiltin Bool.noConfusion
      (chainShrinks_of_subset path basedir (List.Subset.refl _)) hdone

/-- A file that includes another one, in which a name is defined that stands in both. -/
def definedInside : Context :=
  .ofTexts [("a", "k/*buildjs @inc b */k"), ("b", "/*buildjs @def k m */k")]

/-- The included file is expanded as it is on its own, and its definition stays in it. -/
theorem definedInside_included :
    (definedInside.expand 4 ⟨"b".toList, some .here, []⟩).outcome = .done "m".toList ∧
      (∃ included, (definedInside.build 4 "b".toList (some .here)).outcome = .done included ∧
        "kmk".toList = Text.insertAt "kk".toList 1 included) ∧
      ((definedInside.detecting false).build 4 "b".toList (some .here)).outcome =
        .done "m".toList := by
  obtain ⟨hchain, hinclusion, hdetect⟩ := expansion_independent_of_chain definedInside rfl 4
    "b".toList (some .here) "m".toList
  refine ⟨hchain [] [.ofText "/a".toList] (List.nil_subset _) (by decide +kernel), ?_,
    hdetect (by decide +kernel)⟩
  exact hinclusion ⟨.ofText "a".toList, none, [.ofText "/a".toList]⟩ "kk".toList 1 "kmk".toList
    (by decide +kernel)

end Context

end TextMacro
