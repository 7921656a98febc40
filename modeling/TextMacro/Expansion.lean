import TextMacro.Command.LooseCall
import TextMacro.Invocation
import TextMacro.Run
import TextMacro.Settings.Basic

/-!
# Expansion

A file is expanded block by block. The first block is taken out of the text and its invocations are
executed on what remains; then the search goes on from where the block stood, so that what a block
produced is searched as well. Expanding a file may ask for the expansion of others, which is granted
one step less: every definition here is given a number of steps and says so when it does not
suffice.
-/

namespace TextMacro

/-- What an expansion depends on. -/
structure Context where
  tree : FileTree
  settings : Settings
  registry : Registry
  verbosity : Int

/-- Carry out a task, given the way in which requests are answered. -/
def Task.run (answer : Request → Run Text) : Task → Run Text
  | .done text => .value text
  | .fail failure => .fail failure
  | .expand request next => (answer request).andThen fun text => (next text).run answer
  | .build path basedir next =>
    ((answer ⟨path, basedir, []⟩).mapFailure (·.ofBuild path)).andThen fun text =>
      (next text).run answer

namespace Context

/-- Record an event. -/
def record (context : Context) (event : Event) : Run Unit :=
  .record context.verbosity event

/-- The absolute path by which a file is known among those being expanded. -/
def key (context : Context) (path : SourcePath) : SourcePath :=
  (path.resolve context.tree.cwd).toPath

/-- The key and the bytes of a requested file, unless it is missing or is being expanded already. -/
def enter (context : Context) (request : Request) : Except Cause (SourcePath × List UInt8) :=
  match context.tree.status request.frame.resolved with
  | .error error => .error (.system error request.frame.resolved)
  | .ok (some (.file bytes)) =>
    let key := context.key request.frame.resolved
    if context.settings.detectCycles ∧ key ∈ request.active then
      .error (.includeCycle ((request.active ++ [key]).map SourcePath.toText))
    else .ok (key, bytes)
  | .ok _ => .error (.missingFile request.path)

/-- The text of a file. -/
def decode (context : Context) (bytes : List UInt8) : Except Cause Text :=
  match context.settings.encoding.find with
  | .error cause => .error cause
  | .ok encoding => (encoding.decode bytes).mapError .undecodable

/-- Record invocations. -/
def recordAll (context : Context) : List Invocation → Run Unit
  | [] => .value ()
  | invocation :: invocations =>
    (context.record (.parsed invocation.command.name invocation.args)).andThen fun _ =>
      context.recordAll invocations

/-- Parse a block body, recording every invocation. -/
def parseBody (context : Context) (body : Text) : Run (List Invocation) :=
  let parse := TextMacro.parse context.registry body
  (context.recordAll parse.invocations).andThen fun _ => .ofExcept parse.result

/-- Execute invocations in order, each on the text that the one before it left. -/
def execute (answer : Request → Run Text) (frame : Frame) (index : Int) :
    List Invocation → Text → Run Text
  | [], text => .value text
  | invocation :: invocations, text =>
    ((invocation.command.handler ⟨invocation.args, frame, text, index⟩).run answer).andThen
      (execute answer frame index invocations)

/-- Execute a block on the text from which it was taken out. -/
def processBlock (context : Context) (answer : Request → Run Text) (frame : Frame) (text : Text)
    (block : Block) : Run Text :=
  (context.record (.block frame.resolved block.body)).andThen fun _ =>
    (context.parseBody block.body).andThen fun invocations =>
      execute answer frame block.start invocations text

/-- The place of a block in the file of a frame. -/
def placeOf (frame : Frame) (text : Text) (block : Block) : Place :=
  ⟨frame.resolved.toText, Text.lineFeedsBefore text block.start⟩

/-- Process the blocks of a text from an offset on, as many as steps are granted. -/
def scan (context : Context) (answer : Request → Run Text) (frame : Frame) :
    Nat → Text → Nat → Run Text
  | 0, _, _ => .exhausted
  | steps + 1, text, position =>
    match context.settings.markers.find? text position with
    | none => .value text
    | some block =>
      let remaining := block.remove text
      ((context.processBlock answer frame remaining block).mapFailure fun failure =>
        failure.within (placeOf frame remaining block)).andThen
          fun text => context.scan answer frame steps text block.start

/-- Expand a requested file. -/
def expand (context : Context) : Nat → Request → Run Text
  | 0, _ => .exhausted
  | steps + 1, request =>
    let file := request.frame.resolved
    (Run.ofExcept (context.enter request)).andThen fun (key, bytes) =>
      (context.record (.expanding file)).andThen fun _ =>
        (Run.ofExcept (context.decode bytes)).andThen fun text =>
          let frame := { request.frame with active := request.active ++ [key] }
          (context.scan (context.expand steps) frame steps text 0).andThen fun text =>
            (context.record (.expanded file text.length)).andThen fun _ => .value text

/-- Carry out what a command wants done with a call. -/
def perform (context : Context) (steps : Nat) (command : Command) (call : Call) : Run Text :=
  (command.handler call).run (context.expand steps)

/-- Carry out what a command wants done with a loose call. -/
def performLoose (context : Context) (steps : Nat) (command : Command) (call : LooseCall) :
    Run Text :=
  (call.task command).run (context.expand steps)

/-- An ordinary call is carried out as such. -/
@[simp]
theorem performLoose_ofCall (context : Context) (steps : Nat) (command : Command) (call : Call) :
    context.performLoose steps command (.ofCall call) = context.perform steps command call := by
  simp [performLoose, perform]

/-- Execute invocations in order on a value, at an index of any form. -/
def executeLoose (answer : Request → Run Text) (frame : Frame) (index : Value) :
    List Invocation → Value → Run Value
  | [], text => .value text
  | invocation :: invocations, text =>
    let call : LooseCall := ⟨invocation.args.map .text, frame, text, index⟩
    ((call.task invocation.command).run answer).andThen fun text =>
      executeLoose answer frame index invocations (.text text)

/-- Parse a block body and execute it on a text. -/
def executeBody (context : Context) (steps : Nat) (body : Text) (frame : Frame) (text : Text)
    (index : Int) : Run Text :=
  (context.parseBody body).andThen fun invocations =>
    execute (context.expand steps) frame index invocations text

/-- Parse a block body and execute it on a value. -/
def executeBodyLoose (context : Context) (steps : Nat) (body : Text) (frame : Frame)
    (text index : Value) : Run Value :=
  (context.parseBody body).andThen fun invocations =>
    executeLoose (context.expand steps) frame index invocations text

/-- On a text, and at an index that is a number, invocations are executed as in a block. -/
theorem executeLoose_text (answer : Request → Run Text) (frame : Frame) (index : Int)
    (invocations : List Invocation) (text : Text) :
    executeLoose answer frame (.number index) invocations (.text text) =
      (execute answer frame index invocations text).andThen fun text => .value (.text text) := by
  induction invocations generalizing text with
  | nil => simp [executeLoose, execute]
  | cons invocation invocations ih =>
    have htask : (⟨invocation.args.map .text, frame, .text text, .number index⟩ : LooseCall).task
        invocation.command = invocation.command.handler ⟨invocation.args, frame, text, index⟩ :=
      LooseCall.task_ofCall ⟨invocation.args, frame, text, index⟩ invocation.command
    simp only [executeLoose, execute, htask, ih, Run.andThen_assoc]

/-- Build a file: expand it on its own. -/
def build (context : Context) (steps : Nat) (path : Text) (basedir : Option SourcePath) :
    Run Text :=
  (context.expand steps ⟨path, basedir, []⟩).mapFailure (·.ofBuild path)

/-- Build files one after another and put their texts together. -/
def buildAll (context : Context) (steps : Nat) (basedir : Option SourcePath) :
    List Text → Run Text
  | [] => .value []
  | path :: paths =>
    (context.build steps path basedir).andThen fun text =>
      (context.buildAll steps basedir paths).andThen fun others => .value (text ++ others)

/-- Build the file that a request names. -/
def buildRequested (context : Context) (steps : Nat) (request : Except Misfit Request) :
    Run Text :=
  match request with
  | .error misfit => .fail (.plain (.misfit misfit))
  | .ok request => context.build steps request.path request.basedir

/-- Expand the file that a request names. -/
def expandRequested (context : Context) (steps : Nat) (request : Except Misfit Request) :
    Run Text :=
  match request with
  | .error misfit => .fail (.plain (.misfit misfit))
  | .ok request => context.expand steps request

/-- Build files one after another, up to one whose name does not fit. -/
def buildNamed (context : Context) (steps : Nat) (basedir : Option SourcePath)
    (names : List Text) (misfit : Option Misfit) : Run Text :=
  (context.buildAll steps basedir names).andThen fun text =>
    match misfit with
    | none => .value text
    | some misfit => .fail (.plain (.misfit misfit))

/-- Where all names fit, all files are built. -/
@[simp]
theorem buildNamed_none (context : Context) (steps : Nat) (basedir : Option SourcePath)
    (names : List Text) :
    context.buildNamed steps basedir names none = context.buildAll steps basedir names :=
  Run.andThen_value _

/-- Build the files that a value names in the directory that a value is. The directory is only
looked at where there is a file to build. -/
def buildOf (context : Context) (steps : Nat) (paths basedir : Value) : Run Text :=
  match paths.names, basedir.path? with
  | .error misfit, _ => .fail (.plain (.misfit misfit))
  | .ok (names, misfit), .ok basedir => context.buildNamed steps basedir names misfit
  | .ok ([], misfit), .error _ => context.buildNamed steps none [] misfit
  | .ok (_ :: _, _), .error misfit => .fail (.plain (.misfit misfit))

end Context

end TextMacro
