import Mathlib.Data.Finset.Card
import Mathlib.Data.Finset.SDiff
import TextMacro.Proofs.Scanning

/-!
# Expansions within expansions

The scan of a file comes to blocks, the execution of a block comes to inclusions, and an inclusion
asks for the expansion of another file. An expansion comes to an end only if those that it comes to
do, and the execution of a block does if those do. When cycles are detected, each of them has one
file less that it may still enter: the key of an entered file is the path of a file of the tree, and
it has not been in the chain before.
-/

namespace TextMacro

open Run Relation

namespace FileTree

/-- Following a path through a tree leads where the path says without looking at the tree. -/
theorem follow_of_walk {tree : FileTree} {location place : Location}
    {components : List Component} (h : tree.walk location components = .ok place) :
    location.follow components = place := by
  induction components generalizing location with
  | nil =>
    rw [walk, Except.ok.injEq] at h
    exact h
  | cons component components ih =>
    rw [walk] at h
    split at h
    · simp at h
    · simp at h
    · split at h
      · simp at h
      · split at h
        · simp at h
        · exact ih h

/-- A file that is found by a path stands at the place that the path denotes. -/
theorem get?_of_status {tree : FileTree} {path : SourcePath} {bytes : List UInt8}
    (h : tree.status path = .ok (some (.file bytes))) :
    tree.get? (path.resolve tree.cwd) = some (.file bytes) := by
  unfold status at h
  split at h
  · simp at h
  · split at h
    · next location hlocate =>
      unfold locate at hlocate
      split at hlocate
      · simp at hlocate
      · rw [Except.ok.injEq] at h
        rw [← h, ← follow_of_walk hlocate]
        rfl
    · simp at h
    · simp at h
    · simp at h

/-- Whether a file stands at a place. -/
def isFile (tree : FileTree) (location : Location) : Bool :=
  match tree.get? location with
  | some (.file _) => true
  | _ => false

/-- The absolute paths of the files of a tree. -/
def filePaths (tree : FileTree) : Finset SourcePath :=
  (((tree.entries.map Prod.fst).filter tree.isFile).map Location.toPath).toFinset

/-- A file that stands at a place is among the files of the tree. -/
theorem toPath_mem_filePaths {tree : FileTree} {location : Location} {bytes : List UInt8}
    (h : tree.get? location = some (.file bytes)) : location.toPath ∈ tree.filePaths := by
  have hfile : tree.isFile location = true := by
    rw [isFile, h]
  have hentry : location ∈ tree.entries.map Prod.fst := by
    unfold get? at h
    split at h
    · simp at h
    · obtain ⟨before, after, hentries, -⟩ := List.lookup_eq_some_iff.mp h
      rw [hentries]
      simp
  rw [filePaths, List.mem_toFinset]
  exact List.mem_map_of_mem (List.mem_filter.mpr ⟨hentry, hfile⟩)

end FileTree

namespace Context

variable {context : Context} {frame : Frame} {request inner : Request}

/-- The expansion of a request comes to an end, with a text or with a failure. -/
def Ends (context : Context) (request : Request) : Prop :=
  ∃ steps, (context.expand steps request).outcome ≠ .exhausted

/-- The files that a request may still enter when cycles are detected. -/
def unentered (context : Context) (request : Request) : Finset SourcePath :=
  context.tree.filePaths \ request.active.toFinset

/-- The requests that the execution of invocations comes to. -/
inductive Asks (context : Context) (frame : Frame) (index : Int) :
    List Invocation → Text → Request → Prop
  /-- The first invocation is an inclusion. -/
  | here {path : Text} {invocations : List Invocation} {text : Text} :
    Asks context frame index (.including path :: invocations) text
      ⟨unquote path, some frame.directory, frame.active⟩
  /-- The first invocation is carried out, and a later one asks. -/
  | later {invocation : Invocation} {invocations : List Invocation} {text next : Text}
      {inner : Request} {steps : Nat} :
    ((invocation.command.handler ⟨invocation.args, frame, text, index⟩).run
      (context.expand steps)).outcome = .done next →
    Asks context frame index invocations next inner →
    Asks context frame index (invocation :: invocations) text inner

/-- From a cursor on, the next block is executed and comes to a request. -/
def AsksAt (context : Context) (frame : Frame) (cursor : Cursor) (inner : Request) : Prop :=
  ∃ block invocations, context.settings.markers.find? cursor.text cursor.position = some block ∧
    (parse context.registry block.body).result = .ok invocations ∧
    context.Asks frame block.start invocations (block.remove cursor.text) inner

/-- The expansion of one request comes to another. -/
def Nests (context : Context) (request inner : Request) : Prop :=
  ∃ key text cursor, context.Opens request key text ∧
    context.Leads (frameOf request key) ⟨text, 0⟩ cursor ∧
    context.AsksAt (frameOf request key) cursor inner

/-- What is asked for in a frame has the chain of the frame. -/
theorem Asks.active_eq {index : Int} {invocations : List Invocation} {text : Text}
    (h : context.Asks frame index invocations text inner) : inner.active = frame.active := by
  induction h with
  | here => rfl
  | later _ _ ih => exact ih

/-- When cycles are detected, a nested expansion has one file less that it may enter. -/
theorem Nests.card_unentered_lt (hdetect : context.settings.detectCycles = true)
    (h : context.Nests request inner) :
    (context.unentered inner).card < (context.unentered request).card := by
  obtain ⟨key, text, cursor, ⟨bytes, henter, -⟩, -, block, invocations, -, -, hasks⟩ := h
  obtain ⟨hstatus, hkey, hfree⟩ := (context.enter_eq_ok_iff _ _ _).mp henter
  have hactive : inner.active = request.active ++ [key] := hasks.active_eq
  have hfile : key ∈ context.tree.filePaths := by
    rw [← hkey]
    exact FileTree.toPath_mem_filePaths (FileTree.get?_of_status hstatus)
  have hnew : key ∉ request.active := fun hold => hfree ⟨hdetect, hold⟩
  apply Finset.card_lt_card
  refine (Finset.ssubset_iff_of_subset ?_).mpr ⟨key, ?_, ?_⟩
  · intro path hpath
    rw [unentered, Finset.mem_sdiff, List.mem_toFinset, hactive, List.mem_append, not_or] at hpath
    rw [unentered, Finset.mem_sdiff, List.mem_toFinset]
    exact ⟨hpath.1, hpath.2.1⟩
  · rw [unentered, Finset.mem_sdiff, List.mem_toFinset]
    exact ⟨hfile, hnew⟩
  · rw [unentered, Finset.mem_sdiff, List.mem_toFinset, hactive]
    simp

/-- When cycles are detected, expansions are nested no deeper than there are files. -/
theorem depth_le_of_nests (hdetect : context.settings.detectCycles = true)
    {requests : Nat → Request} {depth : Nat}
    (h : ∀ i < depth, context.Nests (requests i) (requests (i + 1))) :
    depth ≤ context.tree.filePaths.card := by
  -- at each depth there are as many files less to enter
  have hcount : ∀ i ≤ depth,
      (context.unentered (requests i)).card + i ≤ context.tree.filePaths.card := by
    intro i hi
    induction i with
    | zero =>
      rw [Nat.add_zero, unentered]
      exact Finset.card_le_card Finset.sdiff_subset
    | succ i ih =>
      have hless := (h i hi).card_unentered_lt hdetect
      have hbefore := ih (Nat.le_of_succ_le hi)
      omega
  have hall := hcount depth (Nat.le_refl _)
  omega

/-- What executed invocations come to has an end if they have one. -/
theorem Asks.outcome_ne_exhausted {index : Int} {invocations : List Invocation} {text : Text}
    (h : context.Asks frame index invocations text inner) {steps : Nat}
    (hend : (execute (context.expand steps) frame index invocations text).outcome ≠ .exhausted) :
    (context.expand steps inner).outcome ≠ .exhausted := by
  induction h with
  | here =>
    intro hinner
    apply hend
    rw [execute, Invocation.including, run_inclusion, andThen_outcome_eq_exhausted_iff,
      andThen_outcome_eq_exhausted_iff]
    exact Or.inl (Or.inl hinner)
  | @later invocation invocations text next inner enough hdone _ ih =>
    rw [execute] at hend
    have hfirst : ((invocation.command.handler ⟨invocation.args, frame, text, index⟩).run
        (context.expand steps)).outcome ≠ .exhausted := by
      intro hexhausted
      exact hend ((andThen_outcome_eq_exhausted_iff _ _).mpr (Or.inl hexhausted))
    have hnext := outcome_eq_of_persists (fun hle => context.task_persists hle _) hdone hfirst
    rw [andThen_outcome_of_done hnext] at hend
    exact ih hend

/-- A built-in command comes to an end if the expansion that it may ask for does. -/
theorem handler_ends {command : Command} (hcommand : command ∈ Registry.builtin.commands)
    {args : List Text} {text : Text} {index : Int}
    (h : ∀ path, (⟨command, args⟩ : Invocation) = .including path →
      context.Ends ⟨unquote path, some frame.directory, frame.active⟩) :
    ∃ steps, ((command.handler ⟨args, frame, text, index⟩).run (context.expand steps)).outcome ≠
      .exhausted := by
  simp only [Registry.builtin, List.mem_cons, List.not_mem_nil, or_false] at hcommand
  obtain rfl | rfl := hcommand
  · refine ⟨0, fun hexhausted => ?_⟩
    unfold Command.definition Command.replaceHandler at hexhausted
    dsimp only at hexhausted
    split at hexhausted <;> cases hexhausted
  · cases args with
    | nil => exact ⟨0, by rintro ⟨⟩⟩
    | cons path others =>
      cases others with
      | nil =>
        obtain ⟨steps, hend⟩ := h path rfl
        refine ⟨steps, ?_⟩
        rw [run_inclusion, Ne, andThen_outcome_eq_exhausted_iff, not_or]
        exact ⟨hend, by simp [value]⟩
      | cons _ _ => exact ⟨0, by rintro ⟨⟩⟩

/-- Invocations of built-in commands come to an end if all that they ask for does. -/
theorem execute_ends {index : Int} {invocations : List Invocation} {text : Text}
    (hbuiltin : ∀ invocation ∈ invocations, invocation.command ∈ Registry.builtin.commands)
    (h : ∀ inner, context.Asks frame index invocations text inner → context.Ends inner) :
    ∃ steps, (execute (context.expand steps) frame index invocations text).outcome ≠
      .exhausted := by
  induction invocations generalizing text with
  | nil => exact ⟨0, nofun⟩
  | cons invocation invocations ih =>
    obtain ⟨first, hfirst⟩ : ∃ steps, ((invocation.command.handler
        ⟨invocation.args, frame, text, index⟩).run (context.expand steps)).outcome ≠
          .exhausted := by
      apply handler_ends (hbuiltin invocation List.mem_cons_self)
      intro path hpath
      apply h
      rw [show invocation = .including path from hpath]
      exact .here
    -- the first invocation fails, or it leaves a text to the others
    cases hdone : ((invocation.command.handler
        ⟨invocation.args, frame, text, index⟩).run (context.expand first)).outcome with
    | exhausted => exact absurd hdone hfirst
    | failed failure =>
      refine ⟨first, ?_⟩
      rw [execute, Ne, andThen_outcome_eq_exhausted_iff, hdone]
      simp
    | done next =>
      obtain ⟨others, hothers⟩ := ih (fun i hi => hbuiltin i (List.mem_cons_of_mem _ hi))
        fun inner hinner => h inner (.later hdone hinner)
      refine ⟨max first others, ?_⟩
      have hnext := (context.task_persists (Nat.le_max_left first others) _).outcome_eq hdone
      rw [execute, andThen_outcome_of_done hnext]
      exact (context.execute_expand_persists (Nat.le_max_right first others) frame index
        invocations next).outcome_ne_exhausted hothers

/-- A scan that has an end has one, in fewer steps, from the cursor to which it advances. -/
theorem scan_ne_exhausted_of_advances {steps : Nat} {cursor next : Cursor}
    (h : context.Advances frame cursor next) {limit : Nat}
    (hend : (context.scan (context.expand steps) frame limit cursor.text
      cursor.position).outcome ≠ .exhausted) :
    ∃ count, limit = count + 1 ∧ (context.scan (context.expand steps) frame count next.text
      next.position).outcome ≠ .exhausted := by
  obtain ⟨block, hfind, hprocess, hposition⟩ := h
  cases limit with
  | zero => exact absurd rfl hend
  | succ limit =>
    refine ⟨limit, rfl, ?_⟩
    have hblock : (context.processBlock (context.expand steps) frame (block.remove cursor.text)
        block).outcome ≠ .exhausted := by
      intro hexhausted
      apply hend
      rw [scan, hfind]
      exact (andThen_outcome_eq_exhausted_iff _ _).mpr
        (Or.inl ((mapFailure_outcome_eq_exhausted_iff _ _).mpr hexhausted))
    rw [scan_outcome_of_processBlock hfind (hprocess.outcome_eq hblock)] at hend
    rw [hposition]
    exact hend

/-- A scan that has an end has one from every cursor to which it leads. -/
theorem scan_ne_exhausted_of_leads {steps : Nat} {cursor next : Cursor}
    (h : context.Leads frame cursor next) {limit : Nat}
    (hend : (context.scan (context.expand steps) frame limit cursor.text
      cursor.position).outcome ≠ .exhausted) :
    ∃ count, (context.scan (context.expand steps) frame count next.text
      next.position).outcome ≠ .exhausted := by
  induction h using ReflTransGen.head_induction_on generalizing limit with
  | refl => exact ⟨limit, hend⟩
  | head hadvances _ ih =>
    obtain ⟨count, -, hcount⟩ := scan_ne_exhausted_of_advances hadvances hend
    exact ih hcount

end Context

end TextMacro
