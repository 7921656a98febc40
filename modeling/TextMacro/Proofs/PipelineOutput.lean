import TextMacro.Pipeline
import TextMacro.Proofs.OutputFile
import TextMacro.Proofs.PathText

/-!
# The pipeline writes what the library writes

Writing output builds the input files and writes their texts. The pipeline does the same in stages,
and before it builds anything it makes the directory of the output file, so that it may build on
another tree. Each stage is described once, by what it leaves when it continues; together they say
what the whole pipeline leaves. Where output can be written the directory is there already and is
not made again, so that both work on one tree and leave one tree.
-/

namespace TextMacro

namespace FileTree

variable {tree : FileTree} {start place last : Location} {path : SourcePath}
  {components more : List Component}

/-- Components that lead to a place lead there part by part. -/
theorem exists_walk_of_append (h : tree.walk start (components ++ more) = .ok last) :
    ∃ mid, tree.walk start components = .ok mid ∧ tree.walk mid more = .ok last := by
  induction components generalizing start with
  | nil => exact ⟨start, rfl, h⟩
  | cons component components ih =>
    obtain ⟨hstart, hsize, hnext, hrest⟩ := walk_cons_eq_ok_iff.mp h
    obtain ⟨mid, hmid, hmore⟩ := ih hrest
    exact ⟨mid, walk_cons_eq_ok_iff.mpr ⟨hstart, hsize, hnext, hmid⟩, hmore⟩

/-- A path leads where its components do, unless it is too long. -/
theorem locate_eq_ok_iff :
    tree.locate path = .ok place ↔
      isOverlong path = false ∧ tree.walk (tree.origin path) path.components = .ok place := by
  unfold locate
  cases isOverlong path <;> simp

end FileTree

/-- A path in an absolute directory is absolute. -/
theorem SourcePath.join_isAbsolute {base : SourcePath} (h : base.isAbsolute = true)
    (path : SourcePath) : (base.join path).isAbsolute = true := by
  unfold join
  split
  · assumption
  · exact h

namespace Context

variable {context : Context} {text : Text} {target path : SourcePath} {steps : Nat}

/-- A text that is written has an encoding, and is put in the place of its target. -/
theorem exists_of_writeTo_done (h : (context.writeTo text target).run.outcome = .done path) :
    path = target ∧ FileTree.hasNull target = false ∧
      ∃ encoding bytes place, context.settings.encoding.find = .ok encoding ∧
        encoding.encode text = .ok bytes ∧ context.tree.fileSlot target = .ok place ∧
        (context.writeTo text target).tree = context.tree.put place (.file bytes) := by
  obtain ⟨encoding, bytes, hfind, hencode⟩ : ∃ encoding bytes,
      context.settings.encoding.find = .ok encoding ∧ encoding.encode text = .ok bytes := by
    unfold writeTo at h
    split at h
    · nomatch h
    · next encoding hopen =>
      have hfind := find_of_openTarget (congrArg Prod.snd hopen)
      split at h
      · nomatch h
      · next bytes hencode => exact ⟨encoding, bytes, hfind, hencode⟩
  rw [writeTo_of_encode hfind hencode] at h ⊢
  cases hnull : FileTree.hasNull target with
  | true =>
    rw [hnull] at h
    nomatch h
  | false =>
    cases hplace : context.tree.fileSlot target with
    | error error =>
      rw [hnull, hplace] at h
      nomatch h
    | ok place =>
      rw [hnull, hplace] at h
      exact ⟨(Outcome.done.inj h).symm, rfl, encoding, bytes, place, hfind, hencode, rfl, rfl⟩

/-- A text for an output file with a name is written to the path of the name. -/
theorem writeText_of_name {name : Text} (hname : name ≠ []) (text : Text)
    (basedir : Option SourcePath) :
    context.writeText text (some name) basedir =
      context.writeTo text ((basedir.getD context.workingDirectory).join (.ofText name)) := by
  rw [writeText, target?_eq_some_iff.mpr ⟨name, rfl, hname, rfl⟩]

/-- Output that is written is built before. -/
theorem exists_of_writeOutput_done {paths : List Text} {outfile : Option Text}
    {basedir : Option SourcePath}
    (h : (context.writeOutput steps paths outfile basedir).run.outcome = .done path) :
    ∃ target text, context.target? outfile basedir = some target ∧
      (context.buildAll steps (some (basedir.getD context.workingDirectory)) paths).outcome =
        .done text ∧
      (context.writeTo text target).run.outcome = .done path ∧
      (context.writeOutput steps paths outfile basedir).tree =
        (context.writeTo text target).tree := by
  cases htarget : context.target? outfile basedir with
  | none =>
    simp only [writeOutput, htarget] at h
    cases h
  | some target =>
    cases hbuilt : (context.buildAll steps (some (basedir.getD context.workingDirectory))
        paths).outcome with
    | failed failure => simp [writeOutput, htarget, hbuilt] at h
    | exhausted => simp [writeOutput, htarget, hbuilt] at h
    | done text =>
      obtain ⟨htree, houtcome⟩ := writeOutput_of_built htarget hbuilt
      exact ⟨target, text, rfl, rfl, houtcome.symm.trans h, htree⟩

end Context

/-- What a build from the command line is asked for. -/
structure BuildOrder where
  inputdir : SourcePath
  outputdir : SourcePath
  verbosity : Int
  inputFiles : List Text
  outputFile : Text

namespace BuildOrder

/-- The paths of the input files. -/
def sources (order : BuildOrder) : List SourcePath :=
  order.inputFiles.map fun name => order.inputdir.join (.ofText name)

/-- The path of the output file. -/
def target (order : BuildOrder) : SourcePath :=
  order.outputdir.join (.ofText order.outputFile)

end BuildOrder

namespace PipelineState

/-- The state asks for what is ordered, whatever it holds besides. -/
structure Asks (state : PipelineState) (order : BuildOrder) : Prop where
  inputdir : state.inputdir = some order.inputdir
  outputdir : state.outputdir = some order.outputdir
  verbosity : state.verbosity = .expected order.verbosity
  inputFiles : state.inputFiles = .expected order.inputFiles
  outputFile : state.outputFile = .expected order.outputFile

variable {state : PipelineState} {order : BuildOrder}

/-- What the stages note down leaves the order as it is. -/
theorem Asks.noting (h : state.Asks order) {environmentReady : Given Bool}
    {sourceFiles : List Text} {outputTarget : Text} {builtSource : Given (Option Text)}
    {report : Given (Option BuildReport)} :
    Asks { state with environmentReady, sourceFiles, outputTarget, builtSource, report } order :=
  ⟨h.inputdir, h.outputdir, h.verbosity, h.inputFiles, h.outputFile⟩

/-- The input files of a state are a list of names. -/
theorem Asks.inputValue_eq (h : state.Asks order) :
    state.inputValue = .list (order.inputFiles.map .text) := by
  rw [inputValue, h.inputFiles]
  rfl

/-- The output file of a state is a name. -/
theorem Asks.outputValue_eq (h : state.Asks order) :
    state.outputValue = .text order.outputFile := by
  rw [outputValue, h.outputFile]
  rfl

/-- The sources of a state are those of its order. -/
theorem Asks.sources_eq (h : state.Asks order) : state.sources = .ok order.sources := by
  have hjoin : joinName (some order.inputdir) ∘ Value.text =
      fun name => pure (order.inputdir.join (.ofText name)) := rfl
  rw [sources, h.inputValue_eq, h.inputdir]
  change (order.inputFiles.map Value.text).mapM (joinName (some order.inputdir)) = _
  rw [List.mapM_map, hjoin]
  exact List.mapM_pure

/-- The target of a state is that of its order. -/
theorem Asks.target_eq (h : state.Asks order) : state.target = .ok order.target := by
  rw [target, h.outputValue_eq, h.outputdir]
  rfl

end PipelineState

/-- A result continues with a state and leaves a tree. -/
def StageResult.Leaves (result : StageResult PipelineState) (tree : FileTree)
    (state : PipelineState) : Prop :=
  result.ending = .continued state ∧ result.tree = tree

namespace Stage

variable {context : Context} {steps : Nat} {state next : PipelineState} {order : BuildOrder}
  {obstacle : Option Misfit} {tree : FileTree} {text : Text}

/-- With a number for the verbosity, only an obstacle keeps a stage from what it does. -/
theorem run_of_asks (h : state.Asks order) (stage : Stage) :
    stage.run context steps state obstacle =
      match obstacle with
      | none => stage.runVerbose context steps state
      | some misfit =>
        obstructed context state (stage.runVerbose context steps state) misfit stage := by
  have hnumber : state.verbosityValue.number?.isSome = true := by
    rw [PipelineState.verbosityValue, h.verbosity]
    rfl
  cases obstacle <;> simp only [run, hnumber, if_true]

/-- The first stage continues when it has made the directory of the output file, and then notes the
paths. -/
theorem checkEnvironment_leaves_iff (h : state.Asks order) :
    (checkEnvironment.run context steps state obstacle).Leaves tree next ↔
      FileTree.hasNull order.target.parent = false ∧
        context.tree.makeDirectories order.target.parent = (tree, .ok ()) ∧
        next = { state with
          sourceFiles := order.sources.map SourcePath.toText
          outputTarget := order.target.toText
          environmentReady := .expected true } := by
  have hrun : checkEnvironment.run context steps state obstacle = runCheck context state := by
    rw [run_of_asks h]
    cases obstacle <;> rfl
  rw [hrun, runCheck, h.sources_eq, h.target_eq]
  dsimp only
  rw [prepare]
  cases FileTree.hasNull order.target.parent with
  | true => simp [StageResult.Leaves]
  | false =>
    obtain ⟨made, ⟨error, path⟩ | ⟨⟩⟩ := context.tree.makeDirectories order.target.parent
    · simp [StageResult.Leaves]
    · simp [StageResult.Leaves, eq_comm, and_comm]

/-- The second stage continues when all input files are built, and then holds their text. -/
theorem buildSources_leaves_iff (h : state.Asks order) :
    (buildSources.run context steps state obstacle).Leaves tree next ↔
      obstacle = none ∧ tree = context.tree ∧
        ∃ text, (context.buildAll steps (some order.inputdir) order.inputFiles).outcome =
            .done text ∧
          next = { state with builtSource := .expected (some text) } := by
  rw [run_of_asks h]
  cases obstacle with
  | some misfit => simp [obstructed, baffled, StageResult.Leaves]
  | none =>
    have hitems : (Value.list (order.inputFiles.map .text)).items =
      .ok (order.inputFiles.map .text) := rfl
    simp only [runVerbose, runBuild, h.inputValue_eq, h.inputdir, hitems, Value.names_list_text,
      Context.buildNamed_none]
    cases (context.buildAll steps (some order.inputdir) order.inputFiles).outcome with
    | done text => simp [StageResult.Leaves, eq_comm, and_comm]
    | failed failure => cases failure <;> simp [StageResult.Leaves, abort]
    | exhausted => simp [StageResult.Leaves]

/-- The third stage continues when the text that was built can be written to the target, and then
holds a report of it. -/
theorem writeOutput_leaves_iff (h : state.Asks order)
    (hbuilt : state.builtSource = .expected (some text)) :
    (writeOutput.run context steps state obstacle).Leaves tree next ↔
      obstacle = none ∧ order.outputFile ≠ [] ∧
        (context.writeTo text order.target).run.outcome = .done order.target ∧
        tree = (context.writeTo text order.target).tree ∧
        next = { state with
          outputTarget := order.target.toText
          report := .expected (some (.written order.target.toText state.sourceFiles.length
            text.length)) } := by
  have hvalue : state.builtValue = .text text := by
    rw [PipelineState.builtValue, hbuilt]
    rfl
  rw [run_of_asks h]
  cases obstacle with
  | some misfit => simp [obstructed, hvalue, baffled, StageResult.Leaves]
  | none =>
    simp only [runVerbose, runWrite, hvalue, h.outputValue_eq, h.outputdir,
      Context.writeValue_text]
    by_cases hname : order.outputFile = []
    · have hwritten : context.writeText text (some []) (some order.outputdir) =
        ⟨context.tree, .fail (.plain .noOutputPath)⟩ := rfl
      simp [hname, hwritten, Run.fail, isWriteFault, Cause.isExpansionFault, abort,
        StageResult.Leaves]
    · have htext : context.writeText text (some order.outputFile) (some order.outputdir) =
          context.writeTo text order.target := Context.writeText_of_name hname text _
      rw [htext]
      cases hwritten : (context.writeTo text order.target).run.outcome with
      | done path =>
        obtain ⟨rfl, -⟩ := Context.exists_of_writeTo_done hwritten
        simp [hname, StageResult.Leaves, eq_comm, and_comm, Value.text?]
      | failed failure =>
        cases hfault : isWriteFault failure <;> simp [StageResult.Leaves, abort, hfault]
      | exhausted => simp [StageResult.Leaves]

/-- The last stage continues with what it was given, when there is a report of something that was
written. -/
theorem reportResult_leaves_iff (h : state.Asks order) {file : Text} {sources characters : Nat}
    (hreport : state.report = .expected (some (.written file sources characters))) :
    (reportResult.run context steps state obstacle).Leaves tree next ↔
      tree = context.tree ∧ next = state := by
  have hrun : reportResult.run context steps state obstacle = runReport context state := by
    rw [run_of_asks h]
    cases obstacle <;> rfl
  have hvalue : state.reportValue = .table (BuildReport.written file sources characters) := by
    rw [PipelineState.reportValue, hreport]
    rfl
  have hresult : (runReport context state).ending = .continued state ∧
      (runReport context state).tree = context.tree := by
    rw [runReport, hvalue]
    exact ⟨rfl, rfl⟩
  rw [hrun, StageResult.Leaves, hresult.1, hresult.2]
  simp [eq_comm, and_comm]

end Stage

namespace Pipeline

variable {context : Context} {steps : Nat} {state final : PipelineState} {order : BuildOrder}
  {obstacle : Option Misfit} {tree : FileTree}

/-- Stages continue when the first one does, and the others do so from what it left. -/
theorem run_cons_leaves_iff {stage : Stage} {stages : List Stage} :
    (run context steps state (stage :: stages) obstacle).Leaves tree final ↔
      ∃ left next, (stage.run context steps state obstacle).Leaves left next ∧
        (run { context with tree := left } steps next stages obstacle).Leaves tree final := by
  rw [run]
  generalize stage.run context steps state obstacle = result
  obtain ⟨left, events, diagnostics, next | code | failure | _⟩ := result <;>
    simp [StageResult.Leaves]

/-- Without stages, what there is is left. -/
theorem run_nil_leaves_iff :
    (run context steps state [] obstacle).Leaves tree final ↔
      tree = context.tree ∧ final = state := by
  simp [run, StageResult.Leaves, eq_comm, and_comm]

/-- The pipeline continues to its end when the directory of the output file is there or can be made,
the input files are built on the tree with that directory, and their text is written. -/
theorem run_all_leaves_iff (h : state.Asks order) :
    (run context steps state Stage.all obstacle).Leaves tree final ↔
      obstacle = none ∧ order.outputFile ≠ [] ∧ FileTree.hasNull order.target.parent = false ∧
      ∃ prepared text,
        context.tree.makeDirectories order.target.parent = (prepared, .ok ()) ∧
        (({ context with tree := prepared } : Context).buildAll steps (some order.inputdir)
          order.inputFiles).outcome = .done text ∧
        (({ context with tree := prepared } : Context).writeTo text order.target).run.outcome =
          .done order.target ∧
        tree = (({ context with tree := prepared } : Context).writeTo text order.target).tree ∧
        final = { state with
          environmentReady := .expected true
          sourceFiles := order.sources.map SourcePath.toText
          outputTarget := order.target.toText
          builtSource := .expected (some text)
          report := .expected (some (.written order.target.toText order.inputFiles.length
            text.length)) } := by
  have hcount : (order.sources.map SourcePath.toText).length = order.inputFiles.length := by
    simp [BuildOrder.sources]
  rw [← hcount]
  constructor
  · intro hrun
    obtain ⟨_, _, hcheck, hrun⟩ := run_cons_leaves_iff.mp hrun
    obtain ⟨hnull, hmake, rfl⟩ := (Stage.checkEnvironment_leaves_iff h).mp hcheck
    obtain ⟨_, _, hbuild, hrun⟩ := run_cons_leaves_iff.mp hrun
    obtain ⟨hobstacle, rfl, text, hbuilt, rfl⟩ := (Stage.buildSources_leaves_iff h.noting).mp hbuild
    obtain ⟨_, _, hwrite, hrun⟩ := run_cons_leaves_iff.mp hrun
    obtain ⟨-, hname, hwritten, rfl, rfl⟩ := (Stage.writeOutput_leaves_iff h.noting rfl).mp hwrite
    obtain ⟨_, _, hreport, hrun⟩ := run_cons_leaves_iff.mp hrun
    obtain ⟨rfl, rfl⟩ := (Stage.reportResult_leaves_iff h.noting rfl).mp hreport
    obtain ⟨rfl, rfl⟩ := run_nil_leaves_iff.mp hrun
    exact ⟨hobstacle, hname, hnull, _, text, hmake, hbuilt, hwritten, rfl, rfl⟩
  · rintro ⟨rfl, hname, hnull, prepared, text, hmake, hbuilt, hwritten, rfl, rfl⟩
    refine run_cons_leaves_iff.mpr ⟨prepared, _,
      (Stage.checkEnvironment_leaves_iff h).mpr ⟨hnull, hmake, rfl⟩, ?_⟩
    refine run_cons_leaves_iff.mpr ⟨_, _,
      (Stage.buildSources_leaves_iff h.noting).mpr ⟨rfl, rfl, text, hbuilt, rfl⟩, ?_⟩
    refine run_cons_leaves_iff.mpr ⟨_, _,
      (Stage.writeOutput_leaves_iff h.noting rfl).mpr ⟨rfl, hname, hwritten, rfl, rfl⟩, ?_⟩
    refine run_cons_leaves_iff.mpr ⟨_, _,
      (Stage.reportResult_leaves_iff h.noting rfl).mpr ⟨rfl, rfl⟩, ?_⟩
    exact run_nil_leaves_iff.mpr ⟨rfl, rfl⟩

/-- An order to put a file of the root directory, with what it includes, into another one. -/
def copyOrder : BuildOrder :=
  ⟨.ofText "/".toList, .ofText "/".toList, 1, ["a".toList], "c".toList⟩

end Pipeline

end TextMacro
