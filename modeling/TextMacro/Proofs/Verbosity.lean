import TextMacro.CommandLine.Program
import TextMacro.Proofs.Correspondence

/-!
# Verbosity

The verbosity decides which events are recorded, and nothing else. To run something with a lower
verbosity is to run it with a higher one and then to leave out the events that the lower one does
not ask for: this passes through all the ways in which runs are put together, so that it holds of
builds, of the stages of the pipeline, and of whole runs of the program, also of those that fail.
-/

namespace TextMacro

/-- The events among those given that a verbosity asks for. -/
def Event.select (verbosity : Int) (events : List Event) : List Event :=
  events.filter fun event => event.level ≤ verbosity

namespace Event

/-- Events are selected in two lists one after the other. -/
@[simp]
theorem select_append (verbosity : Int) (first second : List Event) :
    select verbosity (first ++ second) = select verbosity first ++ select verbosity second :=
  List.filter_append ..

/-- What a lower verbosity asks for, a higher one does. -/
theorem select_select {low high : Int} (h : low ≤ high) (events : List Event) :
    select low (select high events) = select low events := by
  rw [select, select, select, List.filter_filter]
  refine List.filter_congr fun event _ => ?_
  have hlevel : event.level ≤ low → event.level ≤ high := fun hlow => Int.le_trans hlow h
  grind

end Event

namespace Run

variable {α β : Type} {low high : Int}

/-- The run with only those events that a verbosity asks for. -/
def shown (verbosity : Int) (run : Run α) : Run α :=
  ⟨Event.select verbosity run.events, run.outcome⟩

/-- Leaving out events passes through two runs in order. -/
theorem shown_andThen (verbosity : Int) (run : Run α) (next : α → Run β) :
    (run.andThen next).shown verbosity =
      (run.shown verbosity).andThen fun a => (next a).shown verbosity := by
  obtain ⟨events, outcome⟩ := run
  cases outcome <;> simp [andThen, shown]

/-- Leaving out events does not bear on failures. -/
theorem shown_mapFailure (verbosity : Int) (run : Run α) (change : Failure → Failure) :
    (run.mapFailure change).shown verbosity = (run.shown verbosity).mapFailure change := by
  obtain ⟨events, outcome⟩ := run
  cases outcome <;> rfl

/-- What is recorded with a lower verbosity is what is left of what is recorded with a higher
one. -/
theorem record_eq_shown (h : low ≤ high) (event : Event) :
    record low event = (record high event).shown low := by
  have hlevel : event.level ≤ low → event.level ≤ high := fun hlow => Int.le_trans hlow h
  by_cases hlow : event.level ≤ low
  · simp [record, shown, isRecorded, Event.select, hlow, hlevel hlow]
  · by_cases hhigh : event.level ≤ high <;>
      simp [record, shown, isRecorded, Event.select, hlow, hhigh]

/-- That a run is another one with fewer events, as a way to compare runs. -/
def filtering (verbosity : Int) : Correspondence where
  Holds run other := other = run.shown verbosity
  value _ := rfl
  fail _ := rfl
  exhausted := rfl
  andThen := by
    rintro α β run _ next after rfl hnext
    rw [shown_andThen]
    exact andThen_congr _ hnext
  mapFailure := by
    rintro α run _ change rfl
    exact (shown_mapFailure verbosity run change).symm

end Run

namespace Context

variable {low high : Int}

/-- The context with another verbosity. -/
def withVerbosity (context : Context) (verbosity : Int) : Context :=
  { context with verbosity }

/-- The tree stays as it is with another verbosity. -/
@[simp]
theorem withVerbosity_tree (context : Context) (verbosity : Int) :
    (context.withVerbosity verbosity).tree = context.tree := rfl

/-- A context records less with a lower verbosity, and is otherwise the same. -/
theorem corresponds_withVerbosity (context : Context) (h : low ≤ high) :
    Corresponds (Run.filtering low) (context.withVerbosity high) (context.withVerbosity low) where
  markers := rfl
  encoding := rfl
  registry := rfl
  record := Run.record_eq_shown h

/-- A request is opened with every verbosity alike, but for the record of it. -/
theorem relates_withVerbosity (context : Context) (h : low ≤ high) :
    Relates (Run.filtering low) (context.withVerbosity high) (context.withVerbosity low) Eq := by
  have hrecords := context.corresponds_withVerbosity h
  refine .of_eq hrecords fun request => ?_
  refine (Run.filtering low).andThen ((Run.filtering low).ofExcept _) fun entered _ => ?_
  exact (Run.filtering low).andThen (hrecords.record _) fun _ _ => rfl

/-- A build with a lower verbosity shows less of the same. -/
theorem build_withVerbosity (context : Context) (h : low ≤ high) (steps : Nat) (path : Text)
    (basedir : Option SourcePath) :
    (context.withVerbosity low).build steps path basedir =
      ((context.withVerbosity high).build steps path basedir).shown low :=
  (context.relates_withVerbosity h).build steps path basedir

/-- The build of several files with a lower verbosity shows less of the same. -/
theorem buildNamed_withVerbosity (context : Context) (h : low ≤ high) (steps : Nat)
    (basedir : Option SourcePath) (names : List Text) (misfit : Option Misfit) :
    (context.withVerbosity low).buildNamed steps basedir names misfit =
      ((context.withVerbosity high).buildNamed steps basedir names misfit).shown low := by
  refine (Run.filtering low).andThen ((context.relates_withVerbosity h).buildAll steps basedir
    names) fun text _ => ?_
  cases misfit <;> rfl

end Context

/-- The change with only those events that a verbosity asks for. -/
def Change.shown {α : Type} (verbosity : Int) (change : Change α) : Change α :=
  ⟨change.tree, change.run.shown verbosity⟩

namespace Context

variable {low high : Int}

/-- A text that is written with a lower verbosity shows less of the same. -/
theorem writeTo_withVerbosity (context : Context) (h : low ≤ high) (text : Text)
    (target : SourcePath) :
    (context.withVerbosity low).writeTo text target =
      ((context.withVerbosity high).writeTo text target).shown low := by
  have hopen (verbosity : Int) :
      (context.withVerbosity verbosity).openTarget target = context.openTarget target := rfl
  rw [writeTo, writeTo, hopen, hopen]
  generalize context.openTarget target = opened
  obtain ⟨tree, cause | ⟨location, encoding⟩⟩ := opened
  · rfl
  · dsimp only
    cases encoding.encode text with
    | error error => rfl
    | ok bytes =>
      rw [Change.shown, Run.shown_andThen, record, record, withVerbosity, Run.record_eq_shown h]
      rfl

/-- Nothing is recorded of what cannot be written. -/
theorem shown_writeMisfit (context : Context) (verbosity : Int) (content : Form)
    (target : SourcePath) :
    (context.writeMisfit content target).shown verbosity = context.writeMisfit content target := by
  unfold writeMisfit
  split <;> rfl

/-- A value that is written with a lower verbosity shows less of the same. -/
theorem writeValue_withVerbosity (context : Context) (h : low ≤ high) (content outfile : Value)
    (basedir : Option SourcePath) :
    (context.withVerbosity low).writeValue content outfile basedir =
      ((context.withVerbosity high).writeValue content outfile basedir).shown low := by
  have htarget (verbosity : Int) (name : Text) :
      (context.withVerbosity verbosity).target? (some name) basedir =
        context.target? (some name) basedir := rfl
  cases outfile with
  | text name =>
    cases content with
    | text text =>
      rw [writeValue_text, writeValue_text, writeText, writeText, htarget, htarget]
      cases context.target? (some name) basedir with
      | none => rfl
      | some target => exact context.writeTo_withVerbosity h text target
    | _ =>
      simp only [writeValue, htarget]
      cases context.target? (some name) basedir with
      | none => rfl
      | some target => exact (shown_writeMisfit _ low _ target).symm
  | _ => rfl

end Context

/-- How something ends, with its value changed. -/
def Ending.map {α β : Type} (change : α → β) : Ending α → Ending β
  | .continued value => .continued (change value)
  | .exited code => .exited code
  | .failed failure => .failed failure
  | .exhausted => .exhausted

/-- The state with another verbosity. -/
def PipelineState.withVerbosity (state : PipelineState) (verbosity : Int) : PipelineState :=
  { state with verbosity := .expected verbosity }

/-- The result of a stage with only those events that a verbosity asks for, and with that verbosity
in its state. -/
def StageResult.shown (verbosity : Int) (result : StageResult PipelineState) :
    StageResult PipelineState where
  tree := result.tree
  events := Event.select verbosity result.events
  diagnostics := result.diagnostics
  ending := result.ending.map (·.withVerbosity verbosity)

namespace Stage

variable {low high : Int} (context : Context) (state : PipelineState)

/-- The verbosity of the context is asked for by what it records. -/
theorem recorded_withVerbosity (h : low ≤ high) (events : List Event) :
    recorded (context.withVerbosity low) events =
      Event.select low (recorded (context.withVerbosity high) events) :=
  (Event.select_select h events).symm

/-- The directory of the output is made with every verbosity alike. -/
theorem prepare_withVerbosity (h : low ≤ high) (begun : List Event) (sources : List SourcePath)
    (target : SourcePath) :
    prepare (context.withVerbosity low) (state.withVerbosity low) (Event.select low begun) sources
        target =
      (prepare (context.withVerbosity high) (state.withVerbosity high) begun sources target).shown
        low := by
  simp only [prepare, Context.withVerbosity_tree, recorded_withVerbosity context h,
    ← Event.select_append]
  by_cases hnull : FileTree.hasNull target.parent = true
  · rw [if_pos hnull, if_pos hnull]
    rfl
  · rw [if_neg hnull, if_neg hnull]
    obtain ⟨tree, ⟨error, path⟩ | ⟨⟩⟩ := context.tree.makeDirectories target.parent <;> rfl

/-- The environment is checked with every verbosity alike. -/
theorem runCheck_withVerbosity (h : low ≤ high) :
    runCheck (context.withVerbosity low) (state.withVerbosity low) =
      (runCheck (context.withVerbosity high) (state.withVerbosity high)).shown low := by
  have hsources (verbosity : Int) : (state.withVerbosity verbosity).sources = state.sources := rfl
  have htarget (verbosity : Int) : (state.withVerbosity verbosity).target = state.target := rfl
  simp only [runCheck, hsources, htarget, recorded_withVerbosity context h, ← Event.select_append]
  cases state.sources with
  | error misfit => rfl
  | ok sources =>
    cases state.target with
    | error misfit => rfl
    | ok target => exact prepare_withVerbosity context state h _ sources target

/-- The sources are built with every verbosity alike. -/
theorem runBuild_withVerbosity (h : low ≤ high) (steps : Nat) :
    runBuild (context.withVerbosity low) steps (state.withVerbosity low) =
      (runBuild (context.withVerbosity high) steps (state.withVerbosity high)).shown low := by
  have hinput (verbosity : Int) : (state.withVerbosity verbosity).inputValue = state.inputValue :=
    rfl
  have hdirectory (verbosity : Int) : (state.withVerbosity verbosity).inputdir = state.inputdir :=
    rfl
  simp only [runBuild, hinput, hdirectory, recorded_withVerbosity context h]
  cases state.inputValue.names with
  | error misfit => rfl
  | ok names =>
    obtain ⟨files, misfit⟩ := names
    cases state.inputValue.items with
    | error misfit => rfl
    | ok items =>
      dsimp only
      rw [context.buildNamed_withVerbosity h]
      generalize (context.withVerbosity high).buildNamed steps state.inputdir files misfit = built
      obtain ⟨events, text | (cause | failure) | _⟩ := built <;>
        simp [Run.shown, StageResult.shown, abort, Ending.map, PipelineState.withVerbosity]

/-- The output is written with every verbosity alike. -/
theorem runWrite_withVerbosity (h : low ≤ high) :
    runWrite (context.withVerbosity low) (state.withVerbosity low) =
      (runWrite (context.withVerbosity high) (state.withVerbosity high)).shown low := by
  have hbuilt (verbosity : Int) : (state.withVerbosity verbosity).builtValue = state.builtValue :=
    rfl
  have houtput (verbosity : Int) :
      (state.withVerbosity verbosity).outputValue = state.outputValue := rfl
  have hdirectory (verbosity : Int) :
      (state.withVerbosity verbosity).outputdir = state.outputdir := rfl
  simp only [runWrite, hbuilt, houtput, hdirectory, context.writeValue_withVerbosity h]
  generalize state.builtValue = built
  cases built with
  | null => rfl
  | _ =>
    dsimp only
    obtain ⟨tree, events, target | failure | _⟩ :=
      (context.withVerbosity high).writeValue _ state.outputValue state.outputdir
    · rfl
    · by_cases hfault : isWriteFault failure = true <;>
        simp [Change.shown, Run.shown, StageResult.shown, abort, Ending.map, hfault]
    · rfl

/-- The result is reported with every verbosity alike. -/
theorem runReport_withVerbosity (h : low ≤ high) :
    runReport (context.withVerbosity low) (state.withVerbosity low) =
      (runReport (context.withVerbosity high) (state.withVerbosity high)).shown low := by
  have hreport (verbosity : Int) :
    (state.withVerbosity verbosity).reportValue = state.reportValue := rfl
  simp only [runReport, hreport, recorded_withVerbosity context h]
  by_cases hholds : state.reportValue.holds = true
  · simp only [hholds, Bool.not_true, Bool.false_eq_true, if_false]
    cases state.reportValue with
    | table report =>
      dsimp only
      obtain ⟨events, missing⟩ := showReport report shownEntries
      cases missing <;> rfl
    | _ => rfl
  · simp only [hholds, Bool.not_false, if_true]
    rfl

/-- An obstacle is met with every verbosity alike. -/
theorem obstructed_withVerbosity (h : low ≤ high) (result : StageResult PipelineState)
    (obstacle : Misfit) (stage : Stage) :
    obstructed (context.withVerbosity low) (state.withVerbosity low) (result.shown low) obstacle
        stage =
      (obstructed (context.withVerbosity high) (state.withVerbosity high) result obstacle
        stage).shown low := by
  have hbuilt (verbosity : Int) : (state.withVerbosity verbosity).builtValue = state.builtValue :=
    rfl
  simp only [obstructed, hbuilt, recorded_withVerbosity context h]
  cases stage with
  | writeOutput => cases state.builtValue <;> rfl
  | _ => rfl

/-- A stage with a lower verbosity shows less of the same. -/
theorem run_withVerbosity (h : low ≤ high) (steps : Nat) (stage : Stage)
    (obstacle : Option Misfit) :
    stage.run (context.withVerbosity low) steps (state.withVerbosity low) obstacle =
      (stage.run (context.withVerbosity high) steps (state.withVerbosity high) obstacle).shown
        low := by
  have hnumber (verbosity : Int) :
      (state.withVerbosity verbosity).verbosityValue.number?.isSome = true := rfl
  have hverbose : stage.runVerbose (context.withVerbosity low) steps (state.withVerbosity low) =
      (stage.runVerbose (context.withVerbosity high) steps (state.withVerbosity high)).shown
        low := by
    cases stage with
    | checkEnvironment => exact runCheck_withVerbosity context state h
    | buildSources => exact runBuild_withVerbosity context state h steps
    | writeOutput => exact runWrite_withVerbosity context state h
    | reportResult => exact runReport_withVerbosity context state h
  simp only [run, hnumber, if_true, hverbose]
  cases obstacle with
  | none => rfl
  | some obstacle => exact obstructed_withVerbosity context state h _ obstacle stage

end Stage

/-- A pipeline with a lower verbosity shows less of the same. -/
theorem Pipeline.run_withVerbosity {low high : Int} (h : low ≤ high) (context : Context)
    (steps : Nat) (state : PipelineState) (stages : List Stage) (obstacle : Option Misfit) :
    run (context.withVerbosity low) steps (state.withVerbosity low) stages obstacle =
      (run (context.withVerbosity high) steps (state.withVerbosity high) stages obstacle).shown
        low := by
  induction stages generalizing context state with
  | nil => rfl
  | cons stage stages ih =>
    have hkept := Stage.run_withVerbosity context state (Int.le_refl high) steps stage obstacle
    rw [run, run, Stage.run_withVerbosity context state h]
    generalize stage.run (context.withVerbosity high) steps (state.withVerbosity high) obstacle =
      result at hkept
    obtain ⟨tree, events, diagnostics, next | code | failure | _⟩ := result
    · -- a stage keeps the verbosity of its state, with which the next one starts
      have hnext : next = next.withVerbosity high :=
        Ending.continued.inj (congrArg StageResult.ending hkept)
      have hcontext (verbosity : Int) : { context.withVerbosity verbosity with tree } =
          ({ context with tree } : Context).withVerbosity verbosity := rfl
      have hrest := ih { context with tree } next
      rw [← hnext] at hrest
      simp only [StageResult.shown, Ending.map, hcontext, hrest, Event.select_append]
    · rfl
    · rfl
    · rfl

namespace Program

/-- The result of the program with only those events that a verbosity asks for. -/
def Result.shown (verbosity : Int) (result : Result) : Result :=
  { result with events := Event.select verbosity result.events }

/-- What the program leaves when it comes to run the pipeline. -/
def Result.ofPipeline (result : StageResult PipelineState) : Result where
  tree := result.tree
  events := result.events
  diagnostics := result.diagnostics
  ending := result.ending.map fun _ => ()

/-- The final state of the pipeline is not among what the program leaves. -/
theorem Result.ofPipeline_shown (verbosity : Int) (result : StageResult PipelineState) :
    ofPipeline (result.shown verbosity) = (ofPipeline result).shown verbosity := by
  obtain ⟨tree, events, diagnostics, final | code | failure | _⟩ := result <;> rfl

variable {low high : Int} (tree : FileTree) (settings : Settings) (steps : Nat)
  (command : CommandLine.Command) (inputdir outputdir : SourcePath) (obstacle : Option Misfit)

/-- Where the input directory is one, the program runs the pipeline. -/
theorem runPipeline_of_directory (h : tree.status inputdir = .ok (some .directory)) :
    runPipeline tree settings steps command inputdir outputdir obstacle =
      .ofPipeline (Pipeline.run ⟨tree, settings, .builtin, command.verbosity⟩ steps
        (initialState command inputdir outputdir) Stage.all obstacle) := by
  simp only [runPipeline, h]
  generalize Pipeline.run ⟨tree, settings, .builtin, command.verbosity⟩ steps
    (initialState command inputdir outputdir) Stage.all obstacle = result
  obtain ⟨left, events, diagnostics, final | code | failure | _⟩ := result <;> rfl

/-- The pipeline of the program with a lower verbosity shows less of the same. -/
theorem runPipeline_withVerbosity (h : low ≤ high) :
    runPipeline tree settings steps { command with verbosity := low } inputdir outputdir obstacle =
      (runPipeline tree settings steps { command with verbosity := high } inputdir outputdir
        obstacle).shown low := by
  by_cases hdirectory : tree.status inputdir = .ok (some .directory)
  · rw [runPipeline_of_directory _ _ _ _ _ _ _ hdirectory,
      runPipeline_of_directory _ _ _ _ _ _ _ hdirectory, ← Result.ofPipeline_shown]
    exact congrArg Result.ofPipeline (Pipeline.run_withVerbosity h ⟨tree, settings, .builtin, 0⟩
      steps (initialState command inputdir outputdir) Stage.all obstacle)
  · unfold runPipeline
    split
    · rfl
    · contradiction
    · rfl

/-- The program with a lower verbosity shows less of the same. -/
theorem runCommand_withVerbosity (h : low ≤ high) :
    runCommand tree settings steps { command with verbosity := low } inputdir outputdir obstacle =
      (runCommand tree settings steps { command with verbosity := high } inputdir outputdir
        obstacle).shown low := by
  have hrun (tree : FileTree) := runPipeline_withVerbosity tree settings steps command inputdir
    outputdir obstacle h
  unfold runCommand
  split
  · rfl
  · exact hrun tree
  · rfl
  · split
    · rfl
    · split
      · rfl
      · exact hrun _

end Program

/-- With a lower verbosity a build, a pipeline and a run of the program end as they do with a higher
one, in a text or in the same failure, exit code and diagnostics, and leave the same tree; and they
record exactly those events, in order, whose level is at most the lower verbosity. -/
theorem verbosity_only_filters {low high : Int} (h : low ≤ high) :
    (∀ (context : Context) (steps : Nat) (path : Text) (basedir : Option SourcePath),
      let quiet := (context.withVerbosity low).build steps path basedir
      let loud := (context.withVerbosity high).build steps path basedir
      quiet.outcome = loud.outcome ∧
        quiet.events = loud.events.filter fun event => event.level ≤ low) ∧
    (∀ (context : Context) (steps : Nat) (state : PipelineState) (stages : List Stage)
      (obstacle : Option Misfit),
      let quiet := Pipeline.run (context.withVerbosity low) steps (state.withVerbosity low) stages
        obstacle
      let loud := Pipeline.run (context.withVerbosity high) steps (state.withVerbosity high) stages
        obstacle
      quiet.ending = loud.ending.map (·.withVerbosity low) ∧
        quiet.diagnostics = loud.diagnostics ∧ quiet.tree = loud.tree ∧
        quiet.events = loud.events.filter fun event => event.level ≤ low) ∧
    ∀ (tree : FileTree) (settings : Settings) (steps : Nat) (command : CommandLine.Command)
      (inputdir outputdir : SourcePath) (obstacle : Option Misfit),
      let quiet := Program.runCommand tree settings steps { command with verbosity := low }
        inputdir outputdir obstacle
      let loud := Program.runCommand tree settings steps { command with verbosity := high }
        inputdir outputdir obstacle
      quiet.ending = loud.ending ∧ quiet.output = loud.output ∧
        quiet.diagnostics = loud.diagnostics ∧ quiet.tree = loud.tree ∧
        quiet.events = loud.events.filter fun event => event.level ≤ low := by
  refine ⟨?_, ?_, ?_⟩
  · intro context steps path basedir quiet loud
    have hshown : quiet = loud.shown low := context.build_withVerbosity h steps path basedir
    rw [hshown]
    exact ⟨rfl, rfl⟩
  · intro context steps state stages obstacle quiet loud
    have hshown : quiet = loud.shown low :=
      Pipeline.run_withVerbosity h context steps state stages obstacle
    rw [hshown]
    exact ⟨rfl, rfl, rfl, rfl⟩
  · intro tree settings steps command inputdir outputdir obstacle quiet loud
    have hshown : quiet = loud.shown low :=
      Program.runCommand_withVerbosity tree settings steps command inputdir outputdir obstacle h
    rw [hshown]
    exact ⟨rfl, rfl, rfl, rfl, rfl⟩

/-- A file that includes one that is missing. -/
def missingInclusion : Context := .ofTexts [("a", "/*buildjs @inc b */")]

/-- The build fails with both verbosities alike; the lower one leaves out the block and the
invocation. -/
theorem missingInclusion_filtered :
    (∃ failure, ((missingInclusion.withVerbosity 2).build 4 "a".toList none).outcome =
      .failed failure ∧ failure.message = "File not found 'b'\n    at a:0") ∧
      ((missingInclusion.withVerbosity 3).build 4 "a".toList none).events.length = 3 ∧
      ((missingInclusion.withVerbosity 2).build 4 "a".toList none).events =
        [.expanding (.ofText "a".toList)] := by
  obtain ⟨hbuild, -, -⟩ := verbosity_only_filters (show (2 : Int) ≤ 3 by decide)
  obtain ⟨houtcome, hevents⟩ := hbuild missingInclusion 4 "a".toList none
  refine ⟨?_, by decide +kernel, ?_⟩
  · rw [houtcome]
    exact ⟨.build ⟨.caused (.missingFile "b".toList), some "a".toList, some 0, [⟨"a".toList, 0⟩]⟩,
      by decide +kernel, by decide +kernel⟩
  · rw [hevents]
    decide +kernel

end TextMacro
