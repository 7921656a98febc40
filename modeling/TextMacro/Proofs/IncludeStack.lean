import Mathlib
import TextMacro.Proofs.Failing

/-!
# The stack of inclusions

While a file is expanded, the expansions around it wait, each at the block that it is processing.
They form a stack: the block of each asks for the request of the one above it. The chain of files
that a request carries names the files of this stack, outermost first.
-/

namespace TextMacro

open Run

/-- An expansion at a block: its request, the text as it is when the block is found, and the
block. -/
structure Activation where
  request : Request
  text : Text
  block : Block

namespace Activation

/-- The file of an activation and the line of its block in the current text. -/
def place (activation : Activation) : Place :=
  ⟨activation.request.frame.resolved.toText,
    ((activation.text.take activation.block.start).count '\n' : Nat)⟩

/-- The request opens a file, and its scan leads to the text in which the block is found. -/
def Reached (context : Context) (activation : Activation) (key : SourcePath) : Prop :=
  ∃ source position, context.Opens activation.request key source ∧
    context.Leads (Context.frameOf activation.request key) ⟨source, 0⟩
      ⟨activation.text, position⟩ ∧
    context.settings.markers.find? activation.text position = some activation.block

/-- The block is executed and asks for the expansion of a file. -/
def AsksFor (context : Context) (activation : Activation) (inner : Request) : Prop :=
  ∃ key invocations, activation.Reached context key ∧
    (parse context.registry activation.block.body).result = .ok invocations ∧
    context.Asks (Context.frameOf activation.request key) activation.block.start invocations
      (activation.block.remove activation.text) inner

/-- An activation has entered the file of its request, and what it asks for has that file at the end
of its chain. -/
theorem AsksFor.enter {context : Context} {activation : Activation} {inner : Request}
    (h : activation.AsksFor context inner) :
    ∃ key bytes, context.enter activation.request = .ok (key, bytes) ∧
      inner.active = activation.request.active ++ [key] := by
  obtain ⟨key, invocations, ⟨source, position, ⟨bytes, henter, -⟩, -, -⟩, -, hasks⟩ := h
  exact ⟨key, bytes, henter, hasks.active_eq⟩

end Activation

namespace Context

variable {context : Context} {bottom middle request inner : Request}
  {stack above : List Activation} {activation : Activation}

/-- Starting with the request at the bottom, the activations of a stack, the innermost one first,
and the request that is asked for at its top. -/
inductive Stack (context : Context) (bottom : Request) : List Activation → Request → Prop
  /-- The request at the bottom is made from outside. -/
  | bottom : Stack context bottom [] bottom
  /-- The request at the top is carried out up to a block that asks for another one. -/
  | push {stack : List Activation} {activation : Activation} {inner : Request} :
    Stack context bottom stack activation.request → activation.AsksFor context inner →
    Stack context bottom (activation :: stack) inner

/-- A stack on top of another one makes up one stack. -/
theorem Stack.append (h : context.Stack bottom stack middle)
    (habove : context.Stack middle above request) :
    context.Stack bottom (above ++ stack) request := by
  induction habove with
  | bottom => exact h
  | push _ hasks ih => exact .push ih hasks

/-- A request that is entered when cycles are detected adds a new file to its chain. -/
theorem nodup_of_enter (hdetect : context.settings.detectCycles = true) {key : SourcePath}
    {bytes : List UInt8} (henter : context.enter request = .ok (key, bytes))
    (h : request.active.Nodup) : (request.active ++ [key]).Nodup := by
  obtain ⟨-, -, hfree⟩ := (context.enter_eq_ok_iff _ _ _).mp henter
  have hnew : key ∉ request.active := fun hold => hfree ⟨hdetect, hold⟩
  refine List.nodup_append.mpr ⟨h, List.nodup_singleton key, ?_⟩
  rintro file hfile _ (_ | ⟨_, ⟨⟩⟩) rfl
  exact hnew hfile

/-- The chain of a request has the keys of the files of its stack, outermost first. -/
theorem Stack.active_eq (h : context.Stack bottom stack request) :
    request.active = bottom.active ++
      stack.reverse.map fun activation => context.key activation.request.frame.resolved := by
  induction h with
  | bottom => exact (List.append_nil _).symm
  | @push stack activation inner _ hasks ih =>
    obtain ⟨key, bytes, henter, hactive⟩ := hasks.enter
    obtain ⟨-, hkey, -⟩ := (context.enter_eq_ok_iff _ _ _).mp henter
    rw [hactive, ih, List.reverse_cons, List.map_append, ← List.append_assoc, ← hkey]
    rfl

/-- Every activation of a stack has a file. -/
theorem Stack.status_of_mem (h : context.Stack bottom stack request) (hmem : activation ∈ stack) :
    ∃ bytes, context.tree.status activation.request.frame.resolved = .ok (some (.file bytes)) := by
  induction h with
  | bottom => simp at hmem
  | @push stack top inner _ hasks ih =>
    rcases List.mem_cons.mp hmem with rfl | hbelow
    · obtain ⟨key, bytes, henter, -⟩ := hasks.enter
      exact ⟨bytes, ((context.enter_eq_ok_iff _ _ _).mp henter).1⟩
    · exact ih hbelow

/-- When cycles are detected, no file stands twice in the chain of a request. -/
theorem Stack.active_nodup (hdetect : context.settings.detectCycles = true)
    (h : context.Stack bottom stack request) (hbottom : bottom.active.Nodup) :
    request.active.Nodup := by
  induction h with
  | bottom => exact hbottom
  | push _ hasks ih =>
    obtain ⟨key, bytes, henter, hactive⟩ := hasks.enter
    rw [hactive]
    exact nodup_of_enter hdetect henter ih

end Context

namespace FileTree

variable {tree : FileTree} {path : SourcePath} {bytes : List UInt8}

/-- An absolute path of a file of the tree, without double dots. -/
structure IsFilePath (tree : FileTree) (path : SourcePath) : Prop where
  absolute : path.isAbsolute = true
  plain : Component.up ∉ path.components
  isFile : ∃ bytes, tree.get? path.components = some (.file bytes)

/-- A path under which a file is found leads to the place that it denotes. -/
theorem locate_of_status (h : tree.status path = .ok (some (.file bytes))) :
    tree.locate path = .ok (path.resolve tree.cwd) := by
  unfold status at h
  split at h
  · simp at h
  · split at h
    · next location hlocate =>
      have hwalk := hlocate
      unfold locate at hwalk
      split at hwalk
      · simp at hwalk
      · rw [hlocate, ← follow_of_walk hwalk]
        rfl
    · simp at h
    · simp at h
    · simp at h

end FileTree

namespace Context

variable {context : Context} {request : Request} {stack : List Activation} {chain : List Text}
  {path other : SourcePath} {bytes content : List UInt8}

/-- The key of a file is a path of it. -/
theorem isFilePath_key (h : context.tree.status path = .ok (some (.file bytes))) :
    context.tree.IsFilePath (context.key path) where
  absolute := rfl
  plain := path.up_not_mem_resolve context.tree.up_not_mem_cwd
  isFile := ⟨bytes, FileTree.get?_of_status h⟩

/-- The key of a file is among the paths of the files of the tree. -/
theorem key_mem_filePaths (h : context.tree.status path = .ok (some (.file bytes))) :
    context.key path ∈ context.tree.filePaths :=
  FileTree.toPath_mem_filePaths (FileTree.get?_of_status h)

/-- Two paths of files have one key exactly when they lead to one place. -/
theorem key_eq_iff_locate_eq (h : context.tree.status path = .ok (some (.file bytes)))
    (hother : context.tree.status other = .ok (some (.file content))) :
    context.key other = context.key path ↔
      context.tree.locate other = context.tree.locate path := by
  rw [FileTree.locate_of_status h, FileTree.locate_of_status hother, Except.ok.injEq]
  constructor
  · intro hkey
    exact congrArg SourcePath.components hkey
  · intro hplace
    exact congrArg Location.toPath hplace

/-- A cycle is reported for a file that stands in the chain, with the chain and the file. -/
theorem enter_eq_includeCycle_iff (context : Context) (request : Request) (chain : List Text) :
    context.enter request = .error (.includeCycle chain) ↔
      (∃ bytes, context.tree.status request.frame.resolved = .ok (some (.file bytes))) ∧
      context.settings.detectCycles = true ∧
      context.key request.frame.resolved ∈ request.active ∧
      chain = (request.active ++ [context.key request.frame.resolved]).map SourcePath.toText := by
  unfold enter
  split
  · next hstatus => simp [hstatus]
  · next bytes hstatus =>
    dsimp only
    split
    · next hcycle => simp [hstatus, hcycle.1, hcycle.2, eq_comm]
    · next hfree =>
      simp only [reduceCtorEq, false_iff]
      rintro ⟨-, hdetect, hmem, -⟩
      exact hfree ⟨hdetect, hmem⟩
  · next hfile hstatus =>
    simp only [Except.error.injEq, reduceCtorEq, false_iff]
    rintro ⟨⟨bytes, hbytes⟩, -⟩
    rw [hstatus] at hbytes
    exact hfile bytes (Except.ok.inj hbytes)

/-- An expansion reports a cycle of its own request when the request is entered. -/
theorem fails_includeCycle_iff (context : Context) (request : Request) (chain : List Text) :
    context.Fails request (.plain (.includeCycle chain)) ↔
      context.enter request = .error (.includeCycle chain) := by
  constructor
  · rintro ⟨steps, hfailed⟩
    cases steps with
    | zero => nomatch hfailed
    | succ steps =>
      rcases refuses_or_scan_failed hfailed with ⟨cause, hrefuses, hcause⟩ | ⟨key, text, -, hscan⟩
      · obtain rfl := Failure.plain.inj hcause
        rcases hrefuses with henter | ⟨key, bytes, -, hdecode⟩
        · exact henter
        · rcases decode_eq_error hdecode with ⟨_, _, h⟩ | ⟨_, h⟩ | ⟨_, h⟩ <;> nomatch h
      · -- a failure in a block comes with the place of the block
        obtain ⟨cursor, block, inner, -, -, -, hwithin⟩ := exists_block_of_scan_failed hscan
        cases inner <;> nomatch hwithin
  · intro henter
    exact ⟨1, expand_outcome_of_refuses (Or.inl henter) 0⟩

/-- The file of a request stands in the chain exactly when an activation of the stack has it. -/
theorem Stack.key_mem_iff {text : Text} {basedir : Option SourcePath}
    (h : context.Stack ⟨text, basedir, []⟩ stack request)
    (hfile : context.tree.status request.frame.resolved = .ok (some (.file bytes))) :
    context.key request.frame.resolved ∈ request.active ↔
      ∃ outer ∈ stack, context.tree.locate outer.request.frame.resolved =
        context.tree.locate request.frame.resolved := by
  rw [h.active_eq, List.nil_append, List.mem_map]
  constructor
  · rintro ⟨outer, houter, hkey⟩
    rw [List.mem_reverse] at houter
    obtain ⟨content, hcontent⟩ := h.status_of_mem houter
    exact ⟨outer, houter, (key_eq_iff_locate_eq hfile hcontent).mp hkey⟩
  · rintro ⟨outer, houter, hplace⟩
    obtain ⟨content, hcontent⟩ := h.status_of_mem houter
    exact ⟨outer, List.mem_reverse.mpr houter, (key_eq_iff_locate_eq hfile hcontent).mpr hplace⟩

/-- When cycles are detected, the chain in which a file is expanded has the files of the stack, each
includer before what it includes, and no file twice. A cycle is reported for a file exactly when an
activation of the stack has it, whatever the two paths look like, and then with the chain and that
file, which stands in the chain once. -/
theorem cycle_detection_exact (context : Context)
    (hdetect : context.settings.detectCycles = true) {text : Text} {basedir : Option SourcePath}
    (h : context.Stack ⟨text, basedir, []⟩ stack request) :
    (∀ key bytes, context.enter request = .ok (key, bytes) →
      (frameOf request key).active = ((stack.map Activation.request).reverse ++ [request]).map
        (fun activated => context.key activated.frame.resolved) ∧
      (frameOf request key).active.Nodup ∧
      (∀ entry ∈ (frameOf request key).active, context.tree.IsFilePath entry) ∧
      stack.length + 1 ≤ context.tree.filePaths.card) ∧
    (∀ bytes, context.tree.status request.frame.resolved = .ok (some (.file bytes)) →
      ((∃ chain, context.Fails request (.plain (.includeCycle chain))) ↔
        ∃ outer ∈ stack, context.tree.locate outer.request.frame.resolved =
          context.tree.locate request.frame.resolved) ∧
      ∀ chain, context.Fails request (.plain (.includeCycle chain)) →
        ∃ place, context.tree.locate request.frame.resolved = .ok place ∧
          chain = (request.active ++ [place.toPath]).map SourcePath.toText ∧
          request.active.count place.toPath = 1) := by
  have hnodup : request.active.Nodup := h.active_nodup hdetect List.nodup_nil
  constructor
  · intro key bytes henter
    obtain ⟨hstatus, hkey, -⟩ := (context.enter_eq_ok_iff _ _ _).mp henter
    have hchain : (frameOf request key).active =
        ((stack.map Activation.request).reverse ++ [request]).map
          fun activated => context.key activated.frame.resolved := by
      rw [frameOf, h.active_eq, ← hkey]
      simp [Function.comp_def]
    have hdistinct : (frameOf request key).active.Nodup := nodup_of_enter hdetect henter hnodup
    have hfiles : ∀ entry ∈ (frameOf request key).active, ∃ path bytes,
        context.tree.status path = .ok (some (.file bytes)) ∧ context.key path = entry := by
      intro entry hentry
      rw [hchain, List.mem_map] at hentry
      obtain ⟨activated, hactivated, rfl⟩ := hentry
      rw [List.mem_append, List.mem_reverse, List.mem_map, List.mem_singleton] at hactivated
      rcases hactivated with ⟨outer, houter, rfl⟩ | rfl
      · obtain ⟨content, hcontent⟩ := h.status_of_mem houter
        exact ⟨_, content, hcontent, rfl⟩
      · exact ⟨_, bytes, hstatus, rfl⟩
    refine ⟨hchain, hdistinct, ?_, ?_⟩
    · intro entry hentry
      obtain ⟨path, content, hcontent, rfl⟩ := hfiles entry hentry
      exact isFilePath_key hcontent
    · have hlength : (frameOf request key).active.length = stack.length + 1 := by
        simp [hchain]
      rw [← hlength, ← List.toFinset_card_of_nodup hdistinct]
      apply Finset.card_le_card
      intro entry hentry
      obtain ⟨path, content, hcontent, rfl⟩ := hfiles entry (List.mem_toFinset.mp hentry)
      exact key_mem_filePaths hcontent
  · intro bytes hfile
    simp only [fails_includeCycle_iff, enter_eq_includeCycle_iff]
    refine ⟨?_, ?_⟩
    · rw [← h.key_mem_iff hfile]
      constructor
      · rintro ⟨chain, -, -, hmem, -⟩
        exact hmem
      · intro hmem
        exact ⟨_, ⟨bytes, hfile⟩, hdetect, hmem, rfl⟩
    · rintro chain ⟨-, -, hmem, hchain⟩
      exact ⟨_, FileTree.locate_of_status hfile, hchain, List.count_eq_one_of_mem hnodup hmem⟩

/-- Two files that include each other, the second one by another spelling of the first one's
path. -/
def oddCycle : Context :=
  .ofTexts [("a", "/*buildjs @inc b */"), ("b", "/*buildjs @inc \".//../a\" */")]

/-- The first file at its block. -/
def oddCycleOuter : Activation :=
  ⟨⟨"a".toList, none, []⟩, "/*buildjs @inc b */".toList, ⟨0, 19, " @inc b ".toList⟩⟩

/-- The second file at its block, inside of the first one. -/
def oddCycleInner : Activation :=
  ⟨⟨"b".toList, some .here, [.ofText "/a".toList]⟩, "/*buildjs @inc \".//../a\" */".toList,
    ⟨0, 27, " @inc \".//../a\" ".toList⟩⟩

/-- The block of the first file asks for the second one. -/
theorem oddCycle_stack_outer :
    oddCycle.Stack ⟨"a".toList, none, []⟩ [oddCycleOuter] oddCycleInner.request := by
  have hopens : oddCycle.Opens oddCycleOuter.request (.ofText "/a".toList) oddCycleOuter.text :=
    ⟨"/*buildjs @inc b */".toUTF8.toList, by decide +kernel, by decide +kernel⟩
  have hreached : oddCycleOuter.Reached oddCycle (.ofText "/a".toList) :=
    ⟨oddCycleOuter.text, 0, hopens, .refl, by decide +kernel⟩
  have hparse : (parse oddCycle.registry oddCycleOuter.block.body).result =
      .ok [Invocation.including "b".toList] := by
    cbv
  exact .push .bottom ⟨_, _, hreached, hparse, .here⟩

/-- The block of the second file asks for the first one, under another path. -/
theorem oddCycle_stack_inner :
    oddCycle.Stack ⟨"a".toList, none, []⟩ [oddCycleInner, oddCycleOuter]
      ⟨".//../a".toList, some .here, [.ofText "/a".toList, .ofText "/b".toList]⟩ := by
  have hopens : oddCycle.Opens oddCycleInner.request (.ofText "/b".toList) oddCycleInner.text :=
    ⟨"/*buildjs @inc \".//../a\" */".toUTF8.toList, by decide +kernel, by decide +kernel⟩
  have hreached : oddCycleInner.Reached oddCycle (.ofText "/b".toList) :=
    ⟨oddCycleInner.text, 0, hopens, .refl, by decide +kernel⟩
  have hparse : (parse oddCycle.registry oddCycleInner.block.body).result =
      .ok [Invocation.including "\".//../a\"".toList] := by
    cbv
  exact .push oddCycle_stack_outer ⟨_, _, hreached, hparse, .here⟩

/-- The second file is expanded with both files in its chain; the first one is then reported, and
stands in the chain once. -/
theorem oddCycle_reported :
    (frameOf oddCycleInner.request (.ofText "/b".toList)).active.Nodup ∧
      2 ≤ oddCycle.tree.filePaths.card ∧
      (∃ chain, oddCycle.Fails
        ⟨".//../a".toList, some .here, [.ofText "/a".toList, .ofText "/b".toList]⟩
        (.plain (.includeCycle chain))) ∧
      ∀ chain, oddCycle.Fails
        ⟨".//../a".toList, some .here, [.ofText "/a".toList, .ofText "/b".toList]⟩
        (.plain (.includeCycle chain)) → chain = ["/a".toList, "/b".toList, "/a".toList] := by
  obtain ⟨hentered, -⟩ := cycle_detection_exact oddCycle rfl oddCycle_stack_outer
  obtain ⟨-, hreported⟩ := cycle_detection_exact oddCycle rfl oddCycle_stack_inner
  obtain ⟨-, hnodup, -, hcard⟩ := hentered (.ofText "/b".toList)
    "/*buildjs @inc \".//../a\" */".toUTF8.toList (by decide +kernel)
  obtain ⟨hiff, hchain⟩ := hreported "/*buildjs @inc b */".toUTF8.toList (by decide +kernel)
  refine ⟨hnodup, hcard, hiff.mpr ⟨oddCycleOuter, by simp, by decide +kernel⟩, ?_⟩
  intro chain hfails
  obtain ⟨place, hplace, rfl, -⟩ := hchain chain hfails
  have hlocated : oddCycle.tree.locate (.ofText ".//../a".toList) =
      .ok (SourcePath.ofText "/a".toList).components := by
    decide +kernel
  obtain rfl := Except.ok.inj (hlocated.symm.trans hplace)
  decide +kernel

end Context

end TextMacro
