import TextMacro.Proofs.Substitution
import TextMacro.Proofs.Termination

/-!
# Blocks that let a scan end

The scan of a file searches again what a block has left behind, so it can go on forever: a block may
put together, from two files without a block, the very block that it is.

That cannot happen where every block is tame: where it leaves, from the offset at which it began, a
text without a block and after that no more than the text that followed the block. What a scan has
not passed yet then gets shorter with every block. Blocks that only include files are tame if what
they put in holds no block, and so are blocks whose definitions lengthen no name.
-/

namespace TextMacro

open Run Relation

/-- A block is tame if, when it is taken out of a text and executed, it leaves from its offset on a
text without a block, and after that no more than the text that followed the block. -/
def Block.Tame (markers : Markers) (text : Text) (block : Block) (next : Text) : Prop :=
  ∃ settled rest, next.drop block.start = settled ++ rest ∧ markers.first? settled = none ∧
    rest.length ≤ (text.drop block.stop).length

namespace Markers

variable {markers : Markers}

/-- A block in a text whose first part has no block reaches into the second part. -/
theorem length_lt_of_append_eq {settled rest gap body after : Text}
    (hsettled : markers.first? settled = none)
    (h : settled ++ rest = gap ++ (markers.opening ++ body ++ markers.closing ++ after)) :
    after.length < rest.length := by
  by_contra hle
  have hlength := congrArg List.length h
  simp only [List.length_append] at hlength
  have hbegin : gap ++ (markers.opening ++ body ++ markers.closing) <+: settled := by
    refine List.prefix_of_prefix_length_le ⟨after, ?_⟩ (List.prefix_append settled rest) ?_
    · rw [h]
      simp only [List.append_assoc]
    · simp only [List.length_append]
      omega
  obtain ⟨tail, htail⟩ := hbegin
  rw [first?_eq_none_iff] at hsettled
  refine hsettled gap.length ⟨gap, body, tail, rfl, ?_⟩
  rw [← htail]
  simp only [List.append_assoc]

end Markers

/-- Replacing a name by a value that is no longer does not lengthen a text. -/
theorem Text.length_replaceAll_le {name value : Text} (h : value.length ≤ name.length)
    (text : Text) : (Text.replaceAll name value text).length ≤ text.length := by
  unfold Text.replaceAll
  split
  · next hname =>
    subst hname
    obtain rfl := List.length_eq_zero_iff.mp (Nat.le_zero.mp h)
    simp
  · next hname =>
    fun_induction Text.replaceOccurrences name value hname text with
    | case1 text hcut => exact Nat.le_refl _
    | case2 text before after hcut hlt ih =>
      have hlength := congrArg List.length (Text.append_of_cut? hcut)
      simp only [List.length_append] at hlength ⊢
      omega

namespace Context

variable {context : Context} {frame : Frame} {request : Request}

/-- All blocks that the scan of a file comes to are tame. -/
def AllTame (context : Context) (request : Request) : Prop :=
  ∀ key text cursor block next, context.Opens request key text →
    context.Leads (frameOf request key) ⟨text, 0⟩ cursor →
    context.settings.markers.find? cursor.text cursor.position = some block →
    context.Processes (frameOf request key) cursor.text block next →
    block.Tame context.settings.markers cursor.text next

/-- A cursor has a tail: from its offset on, its text is one without a block and then the tail. -/
def HasTail (context : Context) (cursor : Cursor) (tail : Text) : Prop :=
  ∃ settled, cursor.text.drop cursor.position = settled ++ tail ∧
    context.settings.markers.first? settled = none

/-- A tame block leaves a shorter tail. -/
theorem HasTail.advances (hopening : context.settings.markers.opening ≠ []) {cursor next : Cursor}
    {tail : Text} (h : context.HasTail cursor tail)
    (hadvances : context.Advances frame cursor next)
    (htame : ∀ block, context.settings.markers.find? cursor.text cursor.position = some block →
      context.Processes frame cursor.text block next.text →
      block.Tame context.settings.markers cursor.text next.text) :
    ∃ shorter, context.HasTail next shorter ∧ shorter.length < tail.length := by
  obtain ⟨settled, hsplit, hsettled⟩ := h
  obtain ⟨block, hfind, hprocess, hposition⟩ := hadvances
  obtain ⟨fresh, shorter, hnext, hfresh, hle⟩ := htame block hfind hprocess
  refine ⟨shorter, ⟨fresh, by rw [hposition, hnext], hfresh⟩, ?_⟩
  obtain ⟨gap, after, htext, -, -, -, hafter, -⟩ :=
    Markers.find?_eq_some (Markers.le_length_of_find?_eq_some hopening hfind) hfind
  have hlt := Markers.length_lt_of_append_eq hsettled (hsplit.symm.trans htext)
  rw [hafter] at hle
  omega

/-- A scan whose blocks are all tame does not advance forever. -/
theorem AllTame.not_loopsForever (hopening : context.settings.markers.opening ≠ [])
    (h : context.AllTame request) : ¬ context.LoopsForever request := by
  rintro ⟨key, text, hopens, cursors, hzero, hadvances⟩
  have hleads (i : Nat) : context.Leads (frameOf request key) ⟨text, 0⟩ (cursors i) := by
    induction i with
    | zero => rw [hzero]
    | succ i ih => exact ih.tail (hadvances i)
  -- after `i` blocks, at most that much is left of the tail
  have htail (i : Nat) : ∃ tail, context.HasTail (cursors i) tail ∧
      tail.length + i ≤ text.length := by
    induction i with
    | zero =>
      refine ⟨text, ⟨[], ?_, Markers.first?_nil hopening⟩, Nat.le_refl _⟩
      rw [hzero]
      rfl
    | succ i ih =>
      obtain ⟨tail, hhas, hle⟩ := ih
      obtain ⟨shorter, hshorter, hlt⟩ := hhas.advances hopening (hadvances i) fun block hfind =>
        h key text (cursors i) block _ hopens (hleads i) hfind
      exact ⟨shorter, hshorter, by omega⟩
  obtain ⟨tail, -, hle⟩ := htail (text.length + 1)
  omega

/-- A block that only includes files is tame if what it puts in holds no block. -/
theorem tame_of_includes (hopening : context.settings.markers.opening ≠ []) {text next : Text}
    {position : Nat} {block : Block} {paths expansions : List Text}
    (hfind : context.settings.markers.find? text position = some block)
    (hparse : (parse context.registry block.body).result = .ok (paths.map Invocation.including))
    (hincludes : List.Forall₂ (context.Includes frame) paths expansions)
    (hfree : context.settings.markers.first? expansions.reverse.flatten = none)
    (hprocess : context.Processes frame text block next) :
    block.Tame context.settings.markers text next := by
  obtain ⟨gap, after, -, -, hle, hstop, hafter, -⟩ :=
    Markers.find?_eq_some (Markers.le_length_of_find?_eq_some hopening hfind) hfind
  have hlength : (text.take block.start).length = block.start := by
    rw [List.length_take]
    omega
  have hnext : next = text.take block.start ++ expansions.reverse.flatten ++ after := by
    refine hprocess.unique (processes_of_includes hlength.symm ?_ hparse hincludes)
    rw [Block.remove_eq hle, hafter]
  refine ⟨expansions.reverse.flatten, after, ?_, hfree, by rw [hafter]⟩
  rw [hnext, List.append_assoc]
  exact List.drop_left' hlength

/-- Definitions that lengthen no name do not lengthen the text. -/
theorem length_le_of_execute_definitions {answer : Request → Run Text} {index : Int}
    {definitions : List (Text × Text)}
    (hshort : ∀ definition ∈ definitions, definition.2.length ≤ definition.1.length)
    {text next : Text}
    (h : (execute answer frame index
      (definitions.map fun definition => Invocation.defining definition.1 definition.2)
        text).outcome = .done next) : next.length ≤ text.length := by
  induction definitions generalizing text with
  | nil => exact Nat.le_of_eq (congrArg List.length (Outcome.done.inj h)).symm
  | cons definition definitions ih =>
    rw [List.map_cons, execute, Invocation.defining, run_definition, value_andThen] at h
    have hrest := ih (fun d hd => hshort d (List.mem_cons_of_mem _ hd)) h
    have hfirst := Text.length_replaceAll_le (hshort definition List.mem_cons_self) text
    omega

/-- A block of definitions that lengthen no name is tame. -/
theorem tame_of_definitions (hopening : context.settings.markers.opening ≠ []) {text next : Text}
    {position : Nat} {block : Block} {definitions : List (Text × Text)}
    (hfind : context.settings.markers.find? text position = some block)
    (hparse : (parse context.registry block.body).result =
      .ok (definitions.map fun definition => Invocation.defining definition.1 definition.2))
    (hshort : ∀ definition ∈ definitions, definition.2.length ≤ definition.1.length)
    (hprocess : context.Processes frame text block next) :
    block.Tame context.settings.markers text next := by
  obtain ⟨gap, after, -, -, hle, hstop, -⟩ :=
    Markers.find?_eq_some (Markers.le_length_of_find?_eq_some hopening hfind) hfind
  obtain ⟨steps, hdone⟩ := hprocess
  obtain ⟨invocations, hsame, hexecute⟩ := (processBlock_outcome_eq_done_iff ..).mp hdone
  rw [hparse, Except.ok.injEq] at hsame
  rw [← hsame] at hexecute
  have hlength := length_le_of_execute_definitions hshort hexecute
  rw [Block.remove_eq hle, List.length_append, List.length_take] at hlength
  refine ⟨[], next.drop block.start, rfl, Markers.first?_nil hopening, ?_⟩
  rw [List.length_drop]
  omega

/-- No file is asked for by definitions. -/
theorem not_asks_of_definitions {index : Int} {definitions : List (Text × Text)} {text : Text}
    {inner : Request} : ¬ context.Asks frame index
      (definitions.map fun definition => Invocation.defining definition.1 definition.2)
        text inner := by
  intro h
  induction definitions generalizing text with
  | nil => cases h
  | cons definition definitions ih =>
    rw [List.map_cons] at h
    generalize hhead : Invocation.defining definition.1 definition.2 = head at h
    cases h with
    | here => cases congrArg (fun invocation => invocation.command.name) hhead
    | later _ hlater => exact ih hlater

/-- A block is plain if it only includes files whose expansions hold no block when they are put in,
or if it only makes definitions that lengthen no name. -/
def Plain (context : Context) (frame : Frame) (block : Block) : Prop :=
  (∃ paths expansions, (parse context.registry block.body).result =
      .ok (paths.map Invocation.including) ∧
    List.Forall₂ (context.Includes frame) paths expansions ∧
    context.settings.markers.first? expansions.reverse.flatten = none) ∨
  ∃ definitions : List (Text × Text), (parse context.registry block.body).result =
      .ok (definitions.map fun definition => Invocation.defining definition.1 definition.2) ∧
    ∀ definition ∈ definitions, definition.2.length ≤ definition.1.length

/-- All blocks that the scan of a file comes to are plain. -/
def AllPlain (context : Context) (request : Request) : Prop :=
  ∀ key text cursor block, context.Opens request key text →
    context.Leads (frameOf request key) ⟨text, 0⟩ cursor →
    context.settings.markers.find? cursor.text cursor.position = some block →
    context.Plain (frameOf request key) block

/-- Plain blocks are tame. -/
theorem AllPlain.allTame (hopening : context.settings.markers.opening ≠ [])
    (h : context.AllPlain request) : context.AllTame request := by
  intro key text cursor block next hopens hleads hfind hprocess
  rcases h key text cursor block hopens hleads hfind with
    ⟨paths, expansions, hparse, hincludes, hfree⟩ | ⟨definitions, hparse, hshort⟩
  · exact tame_of_includes hopening hfind hparse hincludes hfree hprocess
  · exact tame_of_definitions hopening hfind hparse hshort hprocess

/-- When cycles are detected, the expansions of a build are nested no deeper than there are files.
The build has an end exactly when none of their scans advances forever, and it has one if all their
blocks are plain. -/
theorem build_ends_iff_no_scan_loops (context : Context) (hbuiltin : context.registry = .builtin)
    (hdetect : context.settings.detectCycles = true)
    (hopening : context.settings.markers.opening ≠ []) (path : Text)
    (basedir : Option SourcePath) :
    (∀ (requests : Nat → Request) (depth : Nat), requests 0 = ⟨path, basedir, []⟩ →
      (∀ i < depth, context.Nests (requests i) (requests (i + 1))) →
        depth ≤ context.tree.filePaths.card) ∧
    ((∃ steps, (context.build steps path basedir).outcome ≠ .exhausted) ↔
      ∀ inner, ReflTransGen context.Nests ⟨path, basedir, []⟩ inner →
        ¬ context.LoopsForever inner) ∧
    ((∀ inner, ReflTransGen context.Nests ⟨path, basedir, []⟩ inner → context.AllPlain inner) →
      ∃ steps, (context.build steps path basedir).outcome ≠ .exhausted) := by
  have hbuild : (∃ steps, (context.build steps path basedir).outcome ≠ .exhausted) ↔
      context.Ends ⟨path, basedir, []⟩ := by
    simp only [build, Ends, Ne, mapFailure_outcome_eq_exhausted_iff]
  have hiff := ends_iff hbuiltin hdetect ⟨path, basedir, []⟩
  rw [hbuild]
  refine ⟨fun requests depth _ hnests => depth_le_of_nests hdetect hnests, hiff, ?_⟩
  intro hplain
  rw [hiff]
  intro inner hnested
  exact ((hplain inner hnested).allTame hopening).not_loopsForever hopening

/-- A file whose only block replaces a name by one of the same length. -/
def sameLength : Context := .ofTexts [("a", "k/*buildjs @def k m */k")]

/-- Its scan comes to no other block. -/
theorem sameLength_parse {key : SourcePath} {text : Text} {cursor : Cursor} {block : Block}
    (hopens : sameLength.Opens ⟨"a".toList, none, []⟩ key text)
    (hleads : sameLength.Leads (frameOf ⟨"a".toList, none, []⟩ key) ⟨text, 0⟩ cursor)
    (hfind : sameLength.settings.markers.find? cursor.text cursor.position = some block) :
    (parse sameLength.registry block.body).result =
      .ok ([("k".toList, "m".toList)].map fun definition =>
        Invocation.defining definition.1 definition.2) := by
  have hfile : sameLength.Opens ⟨"a".toList, none, []⟩ (.ofText "/a".toList)
      "k/*buildjs @def k m */k".toList :=
    ⟨"k/*buildjs @def k m */k".toUTF8.toList, by decide +kernel, by decide +kernel⟩
  obtain ⟨rfl, rfl⟩ := hfile.unique hopens
  have hblock : sameLength.settings.markers.find? "k/*buildjs @def k m */k".toList 0 =
      some ⟨1, 22, " @def k m ".toList⟩ := by decide +kernel
  have hadvances : sameLength.Advances (frameOf ⟨"a".toList, none, []⟩ (.ofText "/a".toList))
      ⟨"k/*buildjs @def k m */k".toList, 0⟩ ⟨"mm".toList, 1⟩ :=
    ⟨_, hblock, ⟨0, by decide +kernel⟩, rfl⟩
  have hlast : sameLength.settings.markers.find? "mm".toList 1 = none := by decide +kernel
  obtain rfl | rfl := Leads.eq_or_eq hleads hadvances hlast
  · rw [hblock] at hfind
    obtain rfl := Option.some.inj hfind
    cbv
  · rw [hlast] at hfind
    cases hfind

/-- So its build has an end, and no scan in it advances forever. -/
theorem sameLength_ends :
    (∃ steps, (sameLength.build steps "a".toList none).outcome ≠ .exhausted) ∧
      ∀ inner, ReflTransGen sameLength.Nests ⟨"a".toList, none, []⟩ inner →
        ¬ sameLength.LoopsForever inner := by
  obtain ⟨-, hiff, hplain⟩ :=
    build_ends_iff_no_scan_loops sameLength rfl rfl (by decide) "a".toList none
  have hends := hplain fun inner hnested => by
    rcases ReflTransGen.cases_head hnested with rfl |
      ⟨_, ⟨key, text, cursor, hopens, hleads, block, invocations, hfind, hparse, hasks⟩, -⟩
    · intro key text cursor block hopens hleads hfind
      exact Or.inr ⟨_, sameLength_parse hopens hleads hfind, by decide⟩
    · rw [sameLength_parse hopens hleads hfind, Except.ok.injEq] at hparse
      rw [← hparse] at hasks
      exact absurd hasks not_asks_of_definitions
  exact ⟨hends, hiff.mp hends⟩

/-- A file whose block includes the closing marker and, before it, the block up to that marker. -/
def selfRestoring : Context :=
  .ofTexts [("a", "/*buildjs @inc c @inc b */"), ("b", "/*buildjs @inc c @inc b "), ("c", "*/")]

/-- Its build has no end, although cycles are detected: the block leaves the text that it was found
in. -/
theorem selfRestoring_never_ends :
    selfRestoring.registry = .builtin ∧ selfRestoring.settings.detectCycles = true ∧
      selfRestoring.settings.markers.opening ≠ [] ∧ selfRestoring.settings.markers.closing ≠ [] ∧
      ∀ steps, (selfRestoring.build steps "a".toList none).outcome = .exhausted := by
  refine ⟨rfl, rfl, by decide, by decide, ?_⟩
  have hopens : selfRestoring.Opens ⟨"a".toList, none, []⟩ (.ofText "/a".toList)
      "/*buildjs @inc c @inc b */".toList :=
    ⟨"/*buildjs @inc c @inc b */".toUTF8.toList, by decide +kernel, by decide +kernel⟩
  have hadvances : selfRestoring.Advances (frameOf ⟨"a".toList, none, []⟩ (.ofText "/a".toList))
      ⟨"/*buildjs @inc c @inc b */".toList, 0⟩ ⟨"/*buildjs @inc c @inc b */".toList, 0⟩ :=
    ⟨⟨0, 26, " @inc c @inc b ".toList⟩, by decide +kernel, ⟨2, by decide +kernel⟩, rfl⟩
  have hloops : selfRestoring.LoopsForever ⟨"a".toList, none, []⟩ :=
    ⟨_, _, hopens, fun _ => ⟨"/*buildjs @inc c @inc b */".toList, 0⟩, rfl, fun _ => hadvances⟩
  intro steps
  by_contra hend
  rw [build, mapFailure_outcome_eq_exhausted_iff] at hend
  exact hloops.not_ends ⟨steps, hend⟩

end Context

end TextMacro
