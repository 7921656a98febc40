import TextMacro.Proofs.PathText
import TextMacro.Proofs.Verbosity

/-!
# What a build depends on

A build looks at the file tree only to enter a file, and every file that is entered is recorded. So
the files that are recorded as being expanded are all that a build which succeeds depends on: on any
tree that has these files, at these paths and with these bytes, it is repeated step by step. The
argument is made with a verbosity that records the files, and then carried over to every other one.
-/

namespace TextMacro

/-- Another tree has the file that stands at a path, if one does. -/
def FileTree.SharesFile (tree other : FileTree) (path : SourcePath) : Prop :=
  ∀ bytes, tree.status path = .ok (some (.file bytes)) →
    other.status path = .ok (some (.file bytes))

/-- Another tree has the file of an event that records one as being expanded. -/
def FileTree.SharesExpanded (tree other : FileTree) (event : Event) : Prop :=
  ∀ file, event = .expanding file → tree.SharesFile other file

namespace Run

variable {α β : Type}

/-- A run is repeated by another one, provided that it ends with a value and that all its events are
accepted. -/
def RepeatedBy (accepted : Event → Prop) (run other : Run α) : Prop :=
  (∀ event ∈ run.events, accepted event) → ∀ a, run.outcome = .done a → other = run

/-- Two runs in order are repeated when both of them are. -/
theorem RepeatedBy.andThen {accepted : Event → Prop} {run other : Run α} {next after : α → Run β}
    (h : run.RepeatedBy accepted other)
    (hnext : ∀ a, run.outcome = .done a → (next a).RepeatedBy accepted (after a)) :
    (run.andThen next).RepeatedBy accepted (other.andThen after) := by
  intro haccepted b hdone
  obtain ⟨a, hrun, hlast⟩ := (andThen_outcome_eq_done_iff _ _ _).mp hdone
  have hevents : (run.andThen next).events = run.events ++ (next a).events := by
    simp only [Run.andThen, hrun]
  rw [hevents, List.forall_mem_append] at haccepted
  rw [h haccepted.1 a hrun]
  refine andThen_congr run fun value hvalue => ?_
  obtain rfl := Outcome.done.inj (hrun.symm.trans hvalue)
  exact hnext a hrun haccepted.2 b hlast

/-- That a run is repeated, as a way to compare runs. -/
def repetition (accepted : Event → Prop) : Correspondence where
  Holds := RepeatedBy accepted
  value _ := fun _ _ _ => rfl
  fail _ := fun _ _ _ => rfl
  exhausted := fun _ _ _ => rfl
  andThen := RepeatedBy.andThen
  mapFailure := by
    rintro α ⟨events, outcome⟩ other change h haccepted a hdone
    obtain rfl : outcome = .done a := (mapFailure_outcome_eq_done_iff _ _ _).mp hdone
    rw [h haccepted a rfl]

end Run

namespace Context

variable {context : Context} {other : FileTree}

/-- The context on another tree. -/
def onTree (context : Context) (tree : FileTree) : Context :=
  { context with tree }

/-- A request is entered on another tree that has its file and the same working directory. -/
theorem enter_onTree (hcwd : other.cwd = context.tree.cwd) {request : Request}
    {entered : SourcePath × List UInt8} (henter : context.enter request = .ok entered)
    (hfile : context.tree.SharesFile other request.frame.resolved) :
    (context.onTree other).enter request = .ok entered := by
  obtain ⟨key, bytes⟩ := entered
  obtain ⟨hstatus, hkey, hfree⟩ := (context.enter_eq_ok_iff _ _ _).mp henter
  refine ((context.onTree other).enter_eq_ok_iff _ _ _).mpr ⟨hfile bytes hstatus, ?_, hfree⟩
  rw [← hkey, Context.key, Context.key, onTree, hcwd]

/-- Where entered files are recorded, a request is opened alike on a tree that has the recorded
files. -/
theorem opening_onTree (hcwd : other.cwd = context.tree.cwd) (hverbosity : 2 ≤ context.verbosity)
    (request : Request) :
    (context.opening request).RepeatedBy (context.tree.SharesExpanded other)
      ((context.onTree other).opening request) := by
  intro haccepted entered hdone
  have henter := enter_of_opening hdone
  have hrecorded : .expanding request.frame.resolved ∈ (context.opening request).events := by
    rw [opening, henter]
    simp [Run.ofExcept, Run.andThen, Run.value, record, Run.record, isRecorded, Event.level,
      hverbosity]
  rw [opening, opening, henter, enter_onTree hcwd henter (haccepted _ hrecorded _ rfl)]
  rfl

/-- Where entered files are recorded, a build is repeated on a tree that has the recorded files. -/
theorem build_onTree (context : Context) (hcwd : other.cwd = context.tree.cwd)
    (hverbosity : 2 ≤ context.verbosity) (steps : Nat) (path : Text)
    (basedir : Option SourcePath) :
    (context.build steps path basedir).RepeatedBy (context.tree.SharesExpanded other)
      ((context.onTree other).build steps path basedir) := by
  let link := Run.repetition (context.tree.SharesExpanded other)
  have hrecords : Corresponds link context (context.onTree other) :=
    ⟨rfl, rfl, rfl, fun event _ _ _ => rfl⟩
  exact (Relates.of_eq hrecords (opening_onTree hcwd hverbosity)).build steps path basedir

/-- What is recorded with one verbosity as being expanded is so with every other one that asks for
it. -/
theorem expanding_mem_withVerbosity {low high : Int} (hlow : 2 ≤ low) (h : low ≤ high)
    {steps : Nat} {path : Text} {basedir : Option SourcePath} {file : SourcePath}
    (hmem : .expanding file ∈ ((context.withVerbosity high).build steps path basedir).events) :
    .expanding file ∈ ((context.withVerbosity low).build steps path basedir).events := by
  rw [context.build_withVerbosity h]
  exact List.mem_filter.mpr ⟨hmem, decide_eq_true hlow⟩

/-- The files that a build names as being expanded are all that it depends on: if it succeeds, and
another tree with the same working directory has these files, with the same bytes, then it succeeds
there with the same text, and records the same events. -/
theorem build_depends_on_expanded_files (context : Context) (other : FileTree)
    (hcwd : other.cwd = context.tree.cwd) (steps : Nat) (path : Text)
    (basedir : Option SourcePath) {text : Text}
    (hdone : (context.build steps path basedir).outcome = .done text)
    (hfiles : ∀ name, "Expanding " ++ String.ofList name ∈
        ((context.withVerbosity 2).build steps path basedir).events.map Event.message →
      ∀ bytes, context.tree.status (.ofText name) = .ok (some (.file bytes)) →
        other.status (.ofText name) = .ok (some (.file bytes))) :
    ((context.onTree other).build steps path basedir).outcome = .done text ∧
      ((context.onTree other).build steps path basedir).events =
        (context.build steps path basedir).events := by
  let high := max 2 context.verbosity
  let loud := (context.withVerbosity high).build steps path basedir
  -- the build at hand shows a part of the one in which every entered file is recorded
  have hshown : context.build steps path basedir = loud.shown context.verbosity :=
    context.build_withVerbosity (Int.le_max_right 2 _) steps path basedir
  have hshared : ∀ event ∈ loud.events, context.tree.SharesExpanded other event := by
    rintro _ hmem file rfl
    have hrecorded := expanding_mem_withVerbosity (Int.le_refl 2) (Int.le_max_left 2 _) hmem
    have hshares := hfiles file.toText (List.mem_map.mpr ⟨_, hrecorded, rfl⟩)
    rwa [SourcePath.ofText_toText] at hshares
  have hloud : loud.outcome = .done text := by
    rw [hshown] at hdone
    exact hdone
  have hrepeated : ((context.withVerbosity high).onTree other).build steps path basedir = loud :=
    (context.withVerbosity high).build_onTree hcwd (Int.le_max_left 2 _) steps path basedir hshared
      text hloud
  have hother : (context.onTree other).build steps path basedir = loud.shown context.verbosity := by
    rw [← hrepeated]
    exact (context.onTree other).build_withVerbosity (Int.le_max_right 2 _) steps path basedir
  rw [hother, hshown]
  exact ⟨hloud, rfl⟩

/-- A file that includes another one, and a third that neither of them includes. -/
def unusedNeighbour : Context :=
  ofTexts [("a", "/*buildjs @inc b */!"), ("b", "B"), ("c", "C")]

/-- The files of which the first includes the second, and one that is not even well formed. -/
def changedNeighbour : FileTree :=
  .ofTexts [("d", "/*buildjs @inc c"), ("b", "B"), ("a", "/*buildjs @inc b */!")]

/-- A build is repeated where a file that it does not name is gone and another one has come. -/
theorem changedNeighbour_repeats :
    unusedNeighbour.tree.get? [⟨"c".toList, by decide⟩] ≠
        changedNeighbour.get? [⟨"c".toList, by decide⟩] ∧
      ((unusedNeighbour.onTree changedNeighbour).build 4 "a".toList none).outcome =
        .done "B!".toList ∧
      ((unusedNeighbour.onTree changedNeighbour).build 4 "a".toList none).events =
        (unusedNeighbour.build 4 "a".toList none).events := by
  refine ⟨by decide +kernel, build_depends_on_expanded_files unusedNeighbour changedNeighbour rfl 4
    "a".toList none (by decide +kernel) ?_⟩
  have hmessages : ((unusedNeighbour.withVerbosity 2).build 4 "a".toList none).events.map
      Event.message = ["Expanding a", "Expanding b", "Expanded b (1 characters)",
        "Expanded a (2 characters)"] := by decide +kernel
  intro name hname
  have hnames : name = "a".toList ∨ name = "b".toList := by
    rw [hmessages] at hname
    simpa [← String.toList_inj] using hname
  have hstatus : changedNeighbour.status (.ofText name) =
      unusedNeighbour.tree.status (.ofText name) := by
    rcases hnames with rfl | rfl <;> rfl
  intro bytes hbytes
  rw [hstatus, hbytes]

end Context

end TextMacro
