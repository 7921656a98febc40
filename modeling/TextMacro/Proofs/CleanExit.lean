import TextMacro.Proofs.PipelineOutput
import TextMacro.Proofs.Reporting

/-!
# How the pipeline stops

The pipeline runs through, or one of its stages stops it. A stage can report what is wrong and end
the program with an exit code, or something comes through that it does not report. Each stage is
described once more, by the ways in which it stops; together they say what can come through the
whole pipeline. Whatever is wrong with the contents of the input files is reported. A directory that
cannot be made comes through, as do a missing encoding when the first input file is there, and null
characters in the path of the output file. Settings that name an encoding which is not supported are
left out.
-/

namespace TextMacro

open Run

namespace StageResult

/-- A result does not continue. It ends in some other way, with diagnostics. -/
def Stops (result : StageResult PipelineState) (ending : Ending PipelineState)
    (diagnostics : String) : Prop :=
  (∀ next, result.ending ≠ .continued next) ∧ ending = result.ending ∧
    diagnostics = result.diagnostics

/-- A result stops or continues. -/
theorem stops_or_leaves (result : StageResult PipelineState) :
    (∃ ending diagnostics, result.Stops ending diagnostics) ∨
      ∃ tree next, result.Leaves tree next := by
  obtain ⟨tree, events, diagnostics, next | code | failure | _⟩ := result
  · exact .inr ⟨tree, next, rfl, rfl⟩
  · exact .inl ⟨.exited code, diagnostics, by simp [Stops]⟩
  · exact .inl ⟨.failed failure, diagnostics, by simp [Stops]⟩
  · exact .inl ⟨.exhausted, diagnostics, by simp [Stops]⟩

/-- A result that continues has no diagnostics. -/
def Quiet (result : StageResult PipelineState) : Prop :=
  ∀ next, result.ending = .continued next → result.diagnostics = ""

end StageResult

namespace Context

/-- Files fail to be built with a cause alone exactly when the first of them is there and there is
no encoding to read it with. -/
theorem buildAll_failed_plain_iff (context : Context) (basedir : Option SourcePath) (first : Text)
    (others : List Text) (cause : Cause) :
    (∃ steps, (context.buildAll steps basedir (first :: others)).outcome =
        .failed (.plain cause)) ↔
      (∃ bytes, context.tree.status (Request.frame ⟨first, basedir, []⟩).resolved =
        .ok (some (.file bytes))) ∧ context.settings.encoding.find = .error cause := by
  rw [← exists_enter_iff, ← refuses_unreported_iff, ← build_failed_plain_iff_refuses]
  simp only [buildAll, andThen_outcome_eq_failed_iff]
  constructor
  · rintro ⟨steps, hfirst | ⟨text, htext, hothers | ⟨_, _, hvalue⟩⟩⟩
    · exact ⟨steps, hfirst⟩
    · -- a later file fails for want of an encoding, without which the first one is not built
      obtain ⟨path, -, hfailed⟩ := exists_build_failed_of_buildAll hothers
      obtain ⟨-, hfind⟩ := refuses_unreported_iff.mp
        ((context.build_failed_plain_iff_refuses path basedir cause).mp ⟨steps, hfailed⟩)
      obtain ⟨encoding, hencoding⟩ := Builds.exists_encoding ⟨steps, htext⟩
      cases hfind.symm.trans hencoding
    · cases hvalue
  · rintro ⟨steps, hfirst⟩
    exact ⟨steps, .inl hfirst⟩

end Context

namespace Stage

variable {context : Context} {steps : Nat} {state next : PipelineState} {order : BuildOrder}
  {obstacle : Option Misfit} {tree : FileTree} {text : Text} {ending : Ending PipelineState}
  {diagnostics : String}

/-- Only stages that stop have diagnostics. -/
theorem quiet_runVerbose (stage : Stage) : (stage.runVerbose context steps state).Quiet := by
  intro next hnext
  cases stage with
  | checkEnvironment =>
    simp only [runVerbose, runCheck, prepare, baffled] at hnext ⊢
    repeat' split
    all_goals rfl
  | buildSources =>
    simp only [runVerbose, runBuild, baffled, abort] at hnext ⊢
    split
    · split <;> simp_all
    · rfl
    · rfl
  | writeOutput =>
    simp only [runVerbose, runWrite, abort] at hnext ⊢
    split
    · simp_all
    · split
      · rfl
      · split <;> simp_all
      · rfl
  | reportResult =>
    simp only [runVerbose, runReport, abort, baffled] at hnext ⊢
    split
    · simp_all
    · split <;> rfl

/-- An obstacle adds no diagnostics to a stage. -/
theorem quiet_run (h : state.Asks order) (stage : Stage) :
    (stage.run context steps state obstacle).Quiet := by
  rw [run_of_asks h]
  cases obstacle with
  | none => exact quiet_runVerbose stage
  | some misfit =>
    dsimp only
    unfold obstructed
    split
    · exact fun _ _ => rfl
    · exact quiet_runVerbose _
    · exact fun _ _ => rfl
    · exact quiet_runVerbose _

/-- The first stage stops when the directory of the output file cannot be made. It does not report
this. -/
theorem checkEnvironment_stops_iff (h : state.Asks order) :
    (checkEnvironment.run context steps state obstacle).Stops ending diagnostics ↔
      diagnostics = "" ∧ ∃ cause, ending = .failed (.plain cause) ∧
        (FileTree.hasNull order.target.parent = true ∧ cause = .nullInPath ∨
          FileTree.hasNull order.target.parent = false ∧ ∃ error path,
            (context.tree.makeDirectories order.target.parent).2 = .error (error, path) ∧
              cause = .system error path) := by
  have hrun : checkEnvironment.run context steps state obstacle = runCheck context state := by
    rw [run_of_asks h]
    cases obstacle <;> rfl
  rw [hrun, runCheck, h.sources_eq, h.target_eq]
  dsimp only
  rw [prepare]
  cases FileTree.hasNull order.target.parent with
  | true => simp [StageResult.Stops, and_comm]
  | false =>
    obtain ⟨made, ⟨error, path⟩ | ⟨⟩⟩ := context.tree.makeDirectories order.target.parent
    · simp [StageResult.Stops, and_comm]
    · simp [StageResult.Stops]

/-- The second stage stops when it meets an obstacle, or when a file is not built. It reports build
failures. -/
theorem buildSources_stops_iff (h : state.Asks order) :
    (buildSources.run context steps state obstacle).Stops ending diagnostics ↔
      let built := (context.buildAll steps (some order.inputdir) order.inputFiles).outcome
      (∃ misfit, obstacle = some misfit ∧ ending = .failed (.plain (.misfit misfit)) ∧
        diagnostics = "") ∨
      obstacle = none ∧
        ((∃ failure, built = .failed (.build failure) ∧ ending = .exited 1 ∧
            diagnostics = "Build error: " ++ failure.render ++ "\n") ∨
          (∃ cause, built = .failed (.plain cause) ∧ ending = .failed (.plain cause) ∧
            diagnostics = "") ∨
          built = .exhausted ∧ ending = .exhausted ∧ diagnostics = "") := by
  rw [run_of_asks h]
  cases obstacle with
  | some misfit => simp [StageResult.Stops, obstructed, baffled]
  | none =>
    have hitems : (Value.list (order.inputFiles.map .text)).items =
      .ok (order.inputFiles.map .text) := rfl
    simp only [runVerbose, runBuild, h.inputValue_eq, h.inputdir, hitems, Value.names_list_text,
      Context.buildNamed_none]
    cases (context.buildAll steps (some order.inputdir) order.inputFiles).outcome with
    | done text => simp [StageResult.Stops]
    | failed failure => cases failure <;> simp [StageResult.Stops, abort]
    | exhausted => simp [StageResult.Stops]

/-- The third stage stops when the output file has no name or cannot be written. It reports this,
unless there is a null character in the path of the file. -/
theorem writeOutput_stops_iff (h : state.Asks order) {encoding : Encoding} {bytes : List UInt8}
    (hbuilt : state.builtSource = .expected (some text))
    (hfind : context.settings.encoding.find = .ok encoding)
    (hencode : encoding.encode text = .ok bytes) :
    (writeOutput.run context steps state none).Stops ending diagnostics ↔
      (order.outputFile = [] ∧ ending = .exited 1 ∧
        diagnostics = "Write error: " ++ Cause.noOutputPath.message ++ "\n") ∨
      order.outputFile ≠ [] ∧
        (FileTree.hasNull order.target = true ∧ ending = .failed (.plain .nullInPath) ∧
            diagnostics = "" ∨
          FileTree.hasNull order.target = false ∧ ∃ error,
            context.tree.fileSlot order.target = .error error ∧ ending = .exited 1 ∧
              diagnostics = "Write error: " ++ (Cause.system error order.target).message ++
                "\n") := by
  have hvalue : state.builtValue = .text text := by
    rw [PipelineState.builtValue, hbuilt]
    rfl
  rw [run_of_asks h]
  simp only [runVerbose, runWrite, hvalue, h.outputValue_eq, h.outputdir, Context.writeValue_text]
  by_cases hname : order.outputFile = []
  · have hwritten : context.writeText text (some []) (some order.outputdir) =
      ⟨context.tree, .fail (.plain .noOutputPath)⟩ := rfl
    simp [StageResult.Stops, hname, hwritten, fail, isWriteFault, Cause.isExpansionFault, abort,
      Failure.message]
  · have htext : context.writeText text (some order.outputFile) (some order.outputdir) =
        context.writeTo text order.target := Context.writeText_of_name hname text _
    rw [htext, Context.writeTo_of_encode hfind hencode]
    cases FileTree.hasNull order.target with
    | true =>
      simp [StageResult.Stops, hname, fail, isWriteFault, Cause.isExpansionFault,
        Cause.isSystemFault]
    | false =>
      cases context.tree.fileSlot order.target with
      | error error =>
        simp [StageResult.Stops, hname, fail, isWriteFault, Cause.isSystemFault, abort,
          Failure.message]
      | ok place =>
        simp [StageResult.Stops, hname, andThen_outcome_of_done (context.record_outcome _), value]

end Stage

/-- The directory of the output file is there, or it is made; this leaves another tree. -/
def BuildOrder.Prepares (order : BuildOrder) (tree prepared : FileTree) : Prop :=
  FileTree.hasNull order.target.parent = false ∧
    tree.makeDirectories order.target.parent = (prepared, .ok ())

/-- The state that asks for an order and holds nothing else. -/
def BuildOrder.state (order : BuildOrder) : PipelineState where
  inputdir := some order.inputdir
  outputdir := some order.outputdir
  verbosity := .expected order.verbosity
  inputFiles := .expected order.inputFiles
  outputFile := .expected order.outputFile

/-- The state asks for the order. -/
theorem BuildOrder.state_asks (order : BuildOrder) : order.state.Asks order :=
  ⟨rfl, rfl, rfl, rfl, rfl⟩

namespace Pipeline

variable {context : Context} {steps : Nat} {state : PipelineState} {order : BuildOrder}
  {obstacle : Option Misfit} {ending : Ending PipelineState} {diagnostics : String}

/-- Stages stop with the first one. -/
theorem run_cons_of_stops {stage : Stage} {stages : List Stage}
    (h : (stage.run context steps state obstacle).Stops ending diagnostics) :
    (run context steps state (stage :: stages) obstacle).Stops ending diagnostics := by
  have hending := h.1
  rw [run]
  generalize stage.run context steps state obstacle = result at h hending ⊢
  obtain ⟨left, events, shown, next | code | failure | _⟩ := result
  · exact absurd rfl (hending next)
  all_goals exact h

/-- Stages stop when the first one continues and the others stop from what it left. -/
theorem run_cons_of_leaves (h : state.Asks order) {stage : Stage} {stages : List Stage}
    {left : FileTree} {next : PipelineState}
    (hfirst : (stage.run context steps state obstacle).Leaves left next)
    (hothers : (run { context with tree := left } steps next stages obstacle).Stops ending
      diagnostics) :
    (run context steps state (stage :: stages) obstacle).Stops ending diagnostics := by
  have hquiet := Stage.quiet_run h stage next hfirst.1
  rw [run]
  generalize stage.run context steps state obstacle = result at hfirst hquiet ⊢
  obtain ⟨left, events, shown, _⟩ := result
  obtain ⟨rfl, rfl⟩ := hfirst
  obtain rfl : shown = "" := hquiet
  simpa [StageResult.Stops] using hothers

/-- What comes through the pipeline for an order, without being reported. -/
inductive Escapes (context : Context) (order : BuildOrder) (obstacle : Option Misfit) :
    Cause → Prop
  /-- The path of the directory of the output file has a null character. -/
  | nullInDirectory :
    FileTree.hasNull order.target.parent = true → Escapes context order obstacle .nullInPath
  /-- The directory of the output file cannot be made. -/
  | noDirectory {error : SystemError} {path : SourcePath} :
    FileTree.hasNull order.target.parent = false →
    (context.tree.makeDirectories order.target.parent).2 = .error (error, path) →
    Escapes context order obstacle (.system error path)
  /-- Something keeps all files from being built. -/
  | obstructed {prepared : FileTree} {misfit : Misfit} :
    order.Prepares context.tree prepared → obstacle = some misfit →
    Escapes context order obstacle (.misfit misfit)
  /-- There is no encoding to read the first input file with. -/
  | noEncoding {prepared : FileTree} {first : Text} {others : List Text} {bytes : List UInt8}
      {cause : Cause} :
    order.Prepares context.tree prepared → obstacle = none →
    order.inputFiles = first :: others →
    prepared.status (order.inputdir.join (.ofText first)) = .ok (some (.file bytes)) →
    context.settings.encoding.Lacks cause →
    Escapes context order obstacle cause
  /-- The output file has a null character in its name, and there is something to write. -/
  | nullInTarget {prepared : FileTree} {texts : List Text} :
    order.Prepares context.tree prepared → obstacle = none →
    List.Forall₂ (({ context with tree := prepared } : Context).Builds · (some order.inputdir) ·)
      order.inputFiles texts →
    order.outputFile ≠ [] → FileTree.hasNull order.target = true →
    Escapes context order obstacle .nullInPath

/-- What the pipeline reports for an order when it exits. -/
inductive Reports (context : Context) (order : BuildOrder) (steps : Nat) : String → Prop
  /-- An input file is not built. -/
  | notBuilt {prepared : FileTree} {failure : BuildFailure} :
    order.Prepares context.tree prepared →
    (({ context with tree := prepared } : Context).buildAll steps (some order.inputdir)
      order.inputFiles).outcome = .failed (.build failure) →
    Reports context order steps ("Build error: " ++ failure.render ++ "\n")
  /-- The output file has no name. -/
  | unnamed :
    order.outputFile = [] →
    Reports context order steps ("Write error: " ++ Cause.noOutputPath.message ++ "\n")
  /-- The output file cannot be written. -/
  | unwritable {prepared : FileTree} {error : SystemError} :
    order.Prepares context.tree prepared → prepared.fileSlot order.target = .error error →
    Reports context order steps
      ("Write error: " ++ (Cause.system error order.target).message ++ "\n")

/-- The state that the first stage continues with. -/
def checked (state : PipelineState) (order : BuildOrder) : PipelineState :=
  { state with
    sourceFiles := order.sources.map SourcePath.toText
    outputTarget := order.target.toText
    environmentReady := .expected true }

/-- The state that the second stage continues with. -/
def built (state : PipelineState) (order : BuildOrder) (text : Text) : PipelineState :=
  { checked state order with builtSource := .expected (some text) }

/-- With the directory of the output file, the pipeline stops where the second stage does. -/
theorem run_all_of_build_stops (h : state.Asks order) {prepared : FileTree}
    (hprepares : order.Prepares context.tree prepared)
    (hstops : (Stage.buildSources.run { context with tree := prepared } steps (checked state order)
      obstacle).Stops ending diagnostics) :
    (run context steps state Stage.all obstacle).Stops ending diagnostics :=
  run_cons_of_leaves h
    ((Stage.checkEnvironment_leaves_iff h).mpr ⟨hprepares.1, hprepares.2, rfl⟩)
    (run_cons_of_stops hstops)

/-- With a text to write, the pipeline stops where the third stage does. -/
theorem run_all_of_write_stops (h : state.Asks order) {prepared : FileTree} {text : Text}
    (hprepares : order.Prepares context.tree prepared)
    (hbuilt : (({ context with tree := prepared } : Context).buildAll steps (some order.inputdir)
      order.inputFiles).outcome = .done text)
    (hstops : (Stage.writeOutput.run { context with tree := prepared } steps
      (built state order text) none).Stops ending diagnostics) :
    (run context steps state Stage.all none).Stops ending diagnostics :=
  run_cons_of_leaves h
    ((Stage.checkEnvironment_leaves_iff h).mpr ⟨hprepares.1, hprepares.2, rfl⟩)
    (run_cons_of_leaves h.noting
      ((Stage.buildSources_leaves_iff h.noting).mpr ⟨rfl, rfl, text, hbuilt, rfl⟩)
      (run_cons_of_stops hstops))

/-- How a result of the pipeline for an order ends. -/
inductive Concludes (context : Context) (order : BuildOrder) (obstacle : Option Misfit)
    (steps : Nat) (result : StageResult PipelineState) : Prop
  /-- The output file has what was built. -/
  | written {final : PipelineState} {text : Text} {encoding : Encoding} {bytes : List UInt8}
      {place : Location} :
    result.ending = .continued final → final.builtSource = .expected (some text) →
    context.settings.encoding.find = .ok encoding → encoding.encode text = .ok bytes →
    result.tree.findFile order.target = .ok (place, bytes) →
    Concludes context order obstacle steps result
  /-- There is a report. -/
  | reported :
    result.ending = .exited 1 → Reports context order steps result.diagnostics →
    Concludes context order obstacle steps result
  /-- Something escapes. -/
  | escaped {cause : Cause} :
    result.ending = .failed (.plain cause) → Escapes context order obstacle cause →
    Concludes context order obstacle steps result
  /-- The build of the input files needs more steps. -/
  | unfinished {prepared : FileTree} :
    result.ending = .exhausted → order.Prepares context.tree prepared →
    (({ context with tree := prepared } : Context).buildAll steps (some order.inputdir)
      order.inputFiles).outcome = .exhausted →
    Concludes context order obstacle steps result

/-- A result that stops in the first stage lets the cause escape. -/
theorem concludes_of_check_stops (h : state.Asks order) {result : StageResult PipelineState}
    (hstops : (Stage.checkEnvironment.run context steps state obstacle).Stops ending diagnostics)
    (hresult : result.Stops ending diagnostics) :
    Concludes context order obstacle steps result := by
  obtain ⟨-, cause, rfl, hcause⟩ := (Stage.checkEnvironment_stops_iff h).mp hstops
  refine .escaped hresult.2.1.symm ?_
  rcases hcause with ⟨hnull, rfl⟩ | ⟨hnull, error, path, hmake, rfl⟩
  · exact .nullInDirectory hnull
  · exact .noDirectory hnull hmake

/-- A result that stops in the second stage reports a build failure. Only an obstacle and a missing
encoding escape. -/
theorem concludes_of_build_stops (hsupported : context.settings.encoding.isSupported = true)
    (h : state.Asks order) (hinputs : order.inputFiles ≠ []) {prepared : FileTree}
    (hprepares : order.Prepares context.tree prepared) {result : StageResult PipelineState}
    (hstops : (Stage.buildSources.run { context with tree := prepared } steps state
      obstacle).Stops ending diagnostics)
    (hresult : result.Stops ending diagnostics) :
    Concludes context order obstacle steps result := by
  obtain ⟨-, hending, hdiagnostics⟩ := hresult
  rcases (Stage.buildSources_stops_iff h).mp hstops with
    ⟨misfit, rfl, rfl, -⟩ | ⟨rfl, ⟨failure, hfailed, rfl, rfl⟩ | ⟨cause, hfailed, rfl, -⟩ |
      ⟨hexhausted, rfl, -⟩⟩
  · exact .escaped hending.symm (.obstructed hprepares rfl)
  · exact .reported hending.symm (hdiagnostics ▸ .notBuilt hprepares hfailed)
  · obtain ⟨first, others, hfiles⟩ := List.exists_cons_of_ne_nil hinputs
    rw [hfiles] at hfailed
    obtain ⟨⟨bytes, hfile⟩, hfind⟩ :=
      (Context.buildAll_failed_plain_iff _ _ first others cause).mp ⟨steps, hfailed⟩
    have hlacks := (EncodingSetting.find_eq_error_iff hsupported).mp hfind
    exact .escaped hending.symm (.noEncoding hprepares rfl hfiles hfile hlacks)
  · exact .unfinished hending.symm hprepares hexhausted

/-- A result that stops in the third stage reports that the output file is not written. Only a null
character in its path escapes. -/
theorem concludes_of_write_stops (hbuiltin : context.registry = .builtin) (h : state.Asks order)
    (hinputs : order.inputFiles ≠ []) {prepared : FileTree}
    (hprepares : order.Prepares context.tree prepared) {text : Text}
    (hbuilt : (({ context with tree := prepared } : Context).buildAll steps (some order.inputdir)
      order.inputFiles).outcome = .done text)
    (htext : state.builtSource = .expected (some text)) {result : StageResult PipelineState}
    (hstops : (Stage.writeOutput.run { context with tree := prepared } steps state none).Stops
      ending diagnostics)
    (hresult : result.Stops ending diagnostics) :
    Concludes context order none steps result := by
  obtain ⟨-, hending, hdiagnostics⟩ := hresult
  have hcommands : ({ context with tree := prepared } : Context).registry = .builtin := hbuiltin
  obtain ⟨encoding, bytes, hfind, hencode⟩ :=
    Context.exists_encode_of_buildAll hcommands hinputs hbuilt
  rcases (Stage.writeOutput_stops_iff h htext hfind hencode).mp hstops with
    ⟨hname, rfl, rfl⟩ | ⟨hname, ⟨hnull, rfl, -⟩ | ⟨-, error, hslot, rfl, rfl⟩⟩
  · exact .reported hending.symm (hdiagnostics ▸ .unnamed hname)
  · obtain ⟨texts, hall, -⟩ := (Context.buildAll_outcome_eq_done_iff _ _ _ _ _).mp hbuilt
    have hbuilds := hall.imp fun path text hfile => (⟨steps, hfile⟩ :
      ({ context with tree := prepared } : Context).Builds path (some order.inputdir) text)
    exact .escaped hending.symm (.nullInTarget hprepares rfl hbuilds hname hnull)
  · exact .reported hending.symm (hdiagnostics ▸ .unwritable hprepares hslot)

/-- At every number of steps the pipeline ends in one of these ways. -/
theorem run_all_concludes (hbuiltin : context.registry = .builtin)
    (hsupported : context.settings.encoding.isSupported = true) (h : state.Asks order)
    (hinputs : order.inputFiles ≠ []) (obstacle : Option Misfit) (steps : Nat) :
    Concludes context order obstacle steps (run context steps state Stage.all obstacle) := by
  rcases (Stage.checkEnvironment.run context steps state obstacle).stops_or_leaves with
    ⟨ending, diagnostics, hstops⟩ | ⟨prepared, _, hcheck⟩
  · exact concludes_of_check_stops h hstops (run_cons_of_stops hstops)
  obtain ⟨hnull, hmake, -⟩ := (Stage.checkEnvironment_leaves_iff h).mp hcheck
  have hprepares : order.Prepares context.tree prepared := ⟨hnull, hmake⟩
  rcases (Stage.buildSources.run { context with tree := prepared } steps (checked state order)
      obstacle).stops_or_leaves with ⟨ending, diagnostics, hstops⟩ | ⟨_, _, hbuild⟩
  · exact concludes_of_build_stops hsupported h.noting hinputs hprepares hstops
      (run_all_of_build_stops h hprepares hstops)
  obtain ⟨rfl, -, text, hbuilt, -⟩ := (Stage.buildSources_leaves_iff h.noting).mp hbuild
  rcases (Stage.writeOutput.run { context with tree := prepared } steps (built state order text)
      none).stops_or_leaves with ⟨ending, diagnostics, hstops⟩ | ⟨_, _, hwrite⟩
  · exact concludes_of_write_stops hbuiltin h.noting hinputs hprepares hbuilt rfl hstops
      (run_all_of_write_stops h hprepares hbuilt hstops)
  -- the last stage has nothing to stop for
  obtain ⟨-, hname, hwritten, -, -⟩ := (Stage.writeOutput_leaves_iff h.noting rfl).mp hwrite
  obtain ⟨hending, htree⟩ := (run_all_leaves_iff h).mpr
    ⟨rfl, hname, hnull, prepared, text, hmake, hbuilt, hwritten, rfl, rfl⟩
  obtain ⟨-, -, encoding, bytes, place, hfind, hencode, hplace, hput⟩ :=
    Context.exists_of_writeTo_done hwritten
  have hfile := FileTree.findFile_put hplace bytes
  rw [← hput, ← htree] at hfile
  exact .written hending rfl hfind hencode hfile

/-- What escapes from the pipeline does so at some number of steps. -/
theorem Escapes.run_all_failed (hbuiltin : context.registry = .builtin) (h : state.Asks order)
    (hinputs : order.inputFiles ≠ []) {cause : Cause}
    (hescapes : Escapes context order obstacle cause) :
    ∃ steps, (run context steps state Stage.all obstacle).ending = .failed (.plain cause) := by
  suffices hstops : ∃ steps, (run context steps state Stage.all obstacle).Stops
      (.failed (.plain cause)) "" by
    obtain ⟨steps, -, hending, -⟩ := hstops
    exact ⟨steps, hending.symm⟩
  cases hescapes with
  | nullInDirectory hnull =>
    exact ⟨0, run_cons_of_stops ((Stage.checkEnvironment_stops_iff h).mpr
      ⟨rfl, _, rfl, .inl ⟨hnull, rfl⟩⟩)⟩
  | noDirectory hnull hmake =>
    exact ⟨0, run_cons_of_stops ((Stage.checkEnvironment_stops_iff h).mpr
      ⟨rfl, _, rfl, .inr ⟨hnull, _, _, hmake, rfl⟩⟩)⟩
  | obstructed hprepares hobstacle =>
    exact ⟨0, run_all_of_build_stops h hprepares ((Stage.buildSources_stops_iff h.noting).mpr
      (.inl ⟨_, hobstacle, rfl, rfl⟩))⟩
  | @noEncoding prepared first others bytes cause hprepares hnone hfiles hfile hlacks =>
    obtain ⟨steps, hfailed⟩ := (({ context with tree := prepared } :
      Context).buildAll_failed_plain_iff (some order.inputdir) first others cause).mpr
        ⟨⟨bytes, hfile⟩, hlacks.find_eq_error⟩
    rw [← hfiles] at hfailed
    exact ⟨steps, run_all_of_build_stops h hprepares ((Stage.buildSources_stops_iff h.noting).mpr
      (.inr ⟨hnone, .inr (.inl ⟨cause, hfailed, rfl, rfl⟩)⟩))⟩
  | @nullInTarget prepared texts hprepares hnone hbuilds hname hnull =>
    subst hnone
    obtain ⟨steps, hsteps⟩ := Context.buildAll_eventually hbuilds
    have hbuilt := hsteps steps (Nat.le_refl _)
    have hcommands : ({ context with tree := prepared } : Context).registry = .builtin := hbuiltin
    obtain ⟨encoding, bytes, hfind, hencode⟩ :=
      Context.exists_encode_of_buildAll hcommands hinputs hbuilt
    exact ⟨steps, run_all_of_write_stops h hprepares hbuilt
      ((Stage.writeOutput_stops_iff h.noting rfl hfind hencode).mpr
        (.inr ⟨hname, .inl ⟨hnull, rfl, rfl⟩⟩))⟩

/-- With the built-in commands and at least one input file, the pipeline fails without a report for
exactly the causes that escape from it. If none does, then the pipeline runs through and the output
file has what was built, or it exits with code 1 and a report, as far as the steps suffice for the
build of the input files. The encodings that are not supported are left out. -/
theorem ends_cleanly_unless_escapes (context : Context) (hbuiltin : context.registry = .builtin)
    (hsupported : context.settings.encoding.isSupported = true) {state : PipelineState}
    {order : BuildOrder} (h : state.Asks order) (hinputs : order.inputFiles ≠ [])
    (obstacle : Option Misfit) :
    let result steps := run context steps state Stage.all obstacle
    (∀ failure, (∃ steps, (result steps).ending = .failed failure) ↔
      ∃ cause, failure = .plain cause ∧ Escapes context order obstacle cause) ∧
    ((∀ cause, ¬ Escapes context order obstacle cause) → ∀ steps,
      (∃ final, (result steps).ending = .continued final ∧ ∃ text encoding bytes place,
        final.builtSource = .expected (some text) ∧
        context.settings.encoding.find = .ok encoding ∧ encoding.encode text = .ok bytes ∧
        (result steps).tree.findFile order.target = .ok (place, bytes)) ∨
      ((result steps).ending = .exited 1 ∧
        Reports context order steps (result steps).diagnostics) ∨
      ((result steps).ending = .exhausted ∧ ∃ prepared, order.Prepares context.tree prepared ∧
        (({ context with tree := prepared } : Context).buildAll steps (some order.inputdir)
          order.inputFiles).outcome = .exhausted)) := by
  intro result
  have hconcludes (steps : Nat) := run_all_concludes hbuiltin hsupported h hinputs obstacle steps
  constructor
  · intro failure
    constructor
    · rintro ⟨steps, hfailed⟩
      cases hconcludes steps with
      | written hending _ _ _ _ => nomatch hfailed.symm.trans hending
      | reported hending _ => nomatch hfailed.symm.trans hending
      | @escaped cause hending hescapes =>
        exact ⟨cause, Ending.failed.inj (hfailed.symm.trans hending), hescapes⟩
      | unfinished hending _ _ => nomatch hfailed.symm.trans hending
    · rintro ⟨cause, rfl, hescapes⟩
      exact hescapes.run_all_failed hbuiltin h hinputs
  · intro hnone steps
    cases hconcludes steps with
    | written hending htext hfind hencode hfile =>
      exact .inl ⟨_, hending, _, _, _, _, htext, hfind, hencode, hfile⟩
    | reported hending hreports => exact .inr (.inl ⟨hending, hreports⟩)
    | escaped _ hescapes => exact absurd hescapes (hnone _)
    | unfinished hending hprepares hexhausted =>
      exact .inr (.inr ⟨hending, _, hprepares, hexhausted⟩)

/-- An order to write into a directory where a file stands. -/
def occupiedOrder : BuildOrder :=
  ⟨.ofText "/".toList, .ofText "/a".toList, 1, ["a".toList], "c".toList⟩

/-- The directory cannot be made. This escapes, and nothing is reported. -/
theorem occupiedOrder_escapes :
    let context := Context.ofTexts [("a", "x")]
    let result := run context 2 occupiedOrder.state Stage.all
    context.registry = .builtin ∧ occupiedOrder.inputFiles ≠ [] ∧
      result.ending = .failed (.plain (.system .alreadyExists (.ofText "/a".toList))) ∧
      result.diagnostics = "" := by
  intro context result
  have hstops : result.Stops
      (.failed (.plain (.system .alreadyExists (.ofText "/a".toList)))) "" := by
    refine run_cons_of_stops ((Stage.checkEnvironment_stops_iff occupiedOrder.state_asks).mpr
      ⟨rfl, _, rfl, .inr ⟨?_, _, _, ?_, rfl⟩⟩)
    · decide +kernel
    · decide +kernel
  exact ⟨rfl, by decide, hstops.2.1.symm, hstops.2.2.symm⟩

/-- For an occupied directory something escapes. For an input file that is missing, nothing does. -/
theorem copyOrder_ends_cleanly :
    let missing steps := run (.ofTexts []) steps copyOrder.state Stage.all
    (∃ steps, (run (.ofTexts [("a", "x")]) steps occupiedOrder.state Stage.all).ending =
      .failed (.plain (.system .alreadyExists (.ofText "/a".toList)))) ∧
    (∀ steps failure, (missing steps).ending ≠ .failed failure) ∧
    ∀ steps, (∃ final, (missing steps).ending = .continued final) ∨
      ((missing steps).ending = .exited 1 ∧
        Reports (.ofTexts []) copyOrder steps (missing steps).diagnostics) ∨
      (missing steps).ending = .exhausted := by
  intro missing
  have husual : Settings.default.encoding.isSupported = true := by decide +kernel
  obtain ⟨hoccupied, -⟩ := ends_cleanly_unless_escapes (.ofTexts [("a", "x")]) rfl husual
    occupiedOrder.state_asks (List.cons_ne_nil _ _) none
  obtain ⟨hfailed, hclean⟩ := ends_cleanly_unless_escapes (.ofTexts []) rfl husual
    copyOrder.state_asks (List.cons_ne_nil _ _) none
  have hnone (cause : Cause) : ¬ Escapes (.ofTexts []) copyOrder none cause := by
    intro hescapes
    have hparent : FileTree.hasNull copyOrder.target.parent = false := by decide +kernel
    have hmade : ((FileTree.ofTexts []).makeDirectories copyOrder.target.parent).2 = .ok () := by
      decide +kernel
    have htarget : FileTree.hasNull copyOrder.target = false := by decide +kernel
    have hutf8 : Settings.default.encoding.find = .ok .utf8 := by decide +kernel
    cases hescapes with
    | nullInDirectory hnull => nomatch hparent.symm.trans hnull
    | noDirectory _ hmake => nomatch hmade.symm.trans hmake
    | obstructed _ hobstacle => nomatch hobstacle
    | noEncoding _ _ _ _ hlacks => nomatch hutf8.symm.trans hlacks.find_eq_error
    | nullInTarget _ _ _ _ hnull => nomatch htarget.symm.trans hnull
  refine ⟨?_, ?_, ?_⟩
  · refine (hoccupied _).mpr ⟨_, rfl, .noDirectory ?_ ?_⟩
    · decide +kernel
    · decide +kernel
  · intro steps failure hfailure
    obtain ⟨cause, -, hescapes⟩ := (hfailed failure).mp ⟨steps, hfailure⟩
    exact hnone cause hescapes
  · intro steps
    rcases hclean hnone steps with ⟨final, hfinal, -⟩ | hexited | ⟨hexhausted, -⟩
    · exact .inl ⟨final, hfinal⟩
    · exact .inr (.inl hexited)
    · exact .inr (.inr hexhausted)

end Pipeline

end TextMacro
