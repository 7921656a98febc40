import TextMacro.Proofs.Encodable

/-!
# Output is written all or nothing

The target of output is emptied when it is opened, before the text is encoded. But the text is built
before that, from files that are read with the encoding in which it is written, so that neither the
encoding nor a character can be missing any more once the target is open. Hence output that fails
leaves the tree as it was. Output that succeeds changes the tree in one place: the file that the
target leads to has the encoded texts of the files, as they were built from the tree before.
-/

namespace TextMacro

open Run

namespace FileTree

variable {tree : FileTree} {place start mid last : Location} {path : SourcePath}
  {component : Component} {components : List Component}

/-- Entries with one put in have it at its place, and elsewhere what they had. -/
theorem lookup_putEntry (place other : Location) (node : Node) (entries : List (Location × Node)) :
    (putEntry place node entries).lookup other =
      if other = place then some node else entries.lookup other := by
  induction entries with
  | nil =>
    by_cases hother : other = place <;> simp [putEntry, List.lookup_cons, beq_eq_decide, hother]
  | cons entry entries ih =>
    obtain ⟨key, held⟩ := entry
    by_cases hkey : key = place
    · by_cases hother : other = place <;>
        simp [putEntry, List.lookup_cons, beq_eq_decide, hkey, hother]
    · by_cases hother : other = key <;>
        simp [putEntry, List.lookup_cons, beq_eq_decide, hkey, hother, ih]

/-- What is put at a place other than the root stands there. -/
theorem get?_put_self (tree : FileTree) (hplace : place ≠ []) (node : Node) :
    (tree.put place node).get? place = some node := by
  rw [get?, if_neg hplace, put, lookup_putEntry, if_pos rfl]

/-- What stands elsewhere is not changed. -/
theorem get?_put_of_ne (tree : FileTree) {other : Location} (hother : other ≠ place)
    (node : Node) : (tree.put place node).get? other = tree.get? other := by
  rw [get?, get?, put, lookup_putEntry, if_neg hother]

/-- What is put where no directory stands leaves the directories. -/
theorem get?_put_of_directory (hplace : tree.get? place ≠ some .directory)
    (h : tree.get? start = some .directory) (node : Node) :
    (tree.put place node).get? start = some .directory := by
  have hne : start ≠ place := by
    rintro rfl
    exact hplace h
  rw [get?_put_of_ne tree hne, h]

/-- A component is followed from a directory to what stands there under that name. -/
theorem walk_cons_eq_ok_iff :
    tree.walk start (component :: components) = .ok last ↔
      tree.get? start = some .directory ∧ Utf8.size component.text ≤ 255 ∧
        (tree.get? (start.step component)).isSome ∧
        tree.walk (start.step component) components = .ok last := by
  rw [walk]
  cases tree.get? start with
  | none => simp
  | some node =>
    cases node with
    | file bytes => simp
    | directory =>
      by_cases hsize : 255 < Utf8.size component.text
      · simp [hsize]
      · cases tree.get? (start.step component) <;> simp [hsize, Nat.not_lt.mp hsize]

/-- Components lead as far as they do one after another. -/
theorem walk_append (h : tree.walk start components = .ok mid) {more : List Component}
    (hmore : tree.walk mid more = .ok last) :
    tree.walk start (components ++ more) = .ok last := by
  induction components generalizing start with
  | nil =>
    obtain rfl := Except.ok.inj h
    exact hmore
  | cons component components ih =>
    obtain ⟨hstart, hsize, hnext, hrest⟩ := walk_cons_eq_ok_iff.mp h
    exact walk_cons_eq_ok_iff.mpr ⟨hstart, hsize, hnext, ih hrest⟩

/-- The way to a directory only passes directories, so that a change of anything else does not bear
on it. -/
theorem walk_put (hplace : tree.get? place ≠ some .directory)
    (h : tree.walk start components = .ok last) (hlast : tree.get? last = some .directory)
    (node : Node) : (tree.put place node).walk start components = .ok last := by
  have hfrom {start : Location} {components : List Component}
      (h : tree.walk start components = .ok last) : tree.get? start = some .directory := by
    cases components with
    | nil =>
      obtain rfl := Except.ok.inj h
      exact hlast
    | cons component components => exact (walk_cons_eq_ok_iff.mp h).1
  induction components generalizing start with
  | nil => exact h
  | cons component components ih =>
    obtain ⟨hstart, hsize, -, hrest⟩ := walk_cons_eq_ok_iff.mp h
    refine walk_cons_eq_ok_iff.mpr ⟨get?_put_of_directory hplace hstart node, hsize, ?_, ih hrest⟩
    rw [get?_put_of_directory hplace (hfrom hrest)]
    rfl

/-- The place of a path is below a directory that the components before the last one lead to; a path
without components stands where it starts. -/
theorem slot_eq_ok (h : tree.slot path = .ok place) :
    isOverlong path = false ∧
      (path.components = [] ∧ place = tree.origin path ∨
        ∃ components final above, path.components = components ++ [final] ∧
          tree.walk (tree.origin path) components = .ok above ∧
          tree.get? above = some .directory ∧ Utf8.size final.text ≤ 255 ∧
          place = above.step final) := by
  unfold slot at h
  split at h
  · nomatch h
  · next hlong =>
    refine ⟨Bool.eq_false_of_not_eq_true hlong, ?_⟩
    cases hlast : path.components.getLast? with
    | none =>
      rw [hlast] at h
      exact .inl ⟨List.getLast?_eq_none_iff.mp hlast, (Except.ok.inj h).symm⟩
    | some final =>
      obtain ⟨components, hcomponents⟩ := List.getLast?_eq_some_iff.mp hlast
      cases habove : tree.walk (tree.origin path) path.components.dropLast with
      | error error => simp [hlast, habove] at h
      | ok above =>
        simp only [hlast, habove] at h
        split at h
        · nomatch h
        · nomatch h
        · next hdir =>
          split at h
          · nomatch h
          · next hsize =>
            rw [hcomponents, List.dropLast_concat] at habove
            exact .inr ⟨components, final, above, hcomponents, habove, hdir, Nat.not_lt.mp hsize,
              (Except.ok.inj h).symm⟩

/-- A file can be written at the place of a path unless a directory stands there. -/
theorem fileSlot_eq_ok_iff :
    tree.fileSlot path = .ok place ↔
      tree.slot path = .ok place ∧ tree.get? place ≠ some .directory := by
  unfold fileSlot
  cases tree.slot path with
  | error error => simp
  | ok location =>
    by_cases hdir : tree.get? location = some .directory
    · simp only [hdir, if_true, Except.ok.injEq, reduceCtorEq, false_iff, not_and, not_not]
      rintro rfl
      exact hdir
    · simp only [hdir, if_false, Except.ok.injEq]
      constructor
      · rintro rfl
        exact ⟨rfl, hdir⟩
      · exact And.left

/-- What is written where a file can be written is the file at the path. -/
theorem findFile_put (h : tree.fileSlot path = .ok place) (bytes : List UInt8) :
    (tree.put place (.file bytes)).findFile path = .ok (place, bytes) := by
  obtain ⟨hslot, hplace⟩ := fileSlot_eq_ok_iff.mp h
  obtain ⟨hlong, hpath⟩ := slot_eq_ok hslot
  have hput : (tree.put place (.file bytes)).get? place = some (.file bytes) := by
    refine get?_put_self tree ?_ _
    rintro rfl
    exact hplace rfl
  have hwalk : (tree.put place (.file bytes)).walk (tree.origin path) path.components =
      .ok place := by
    rcases hpath with ⟨hnil, rfl⟩ | ⟨components, final, above, hsnoc, habove, hdir, hsize, rfl⟩
    · rw [hnil]
      rfl
    · rw [hsnoc]
      refine walk_append (walk_put hplace habove hdir _) ?_
      refine walk_cons_eq_ok_iff.mpr ⟨get?_put_of_directory hplace hdir _, hsize, ?_, rfl⟩
      rw [hput]
      rfl
  have hlocate : (tree.put place (.file bytes)).locate path = .ok place := by
    rw [locate, hlong]
    exact hwalk
  rw [findFile, hlocate]
  dsimp only
  rw [hput]

end FileTree

/-- Files can be opened with a setting for which there is an encoding. -/
theorem EncodingSetting.isUsable_of_find {setting : EncodingSetting} {encoding : Encoding}
    (h : setting.find = .ok encoding) : setting.isUsable = true := by
  cases setting with
  | misfit form => nomatch h
  | named name =>
    rw [find, Encoding.ofName] at h
    split at h
    · nomatch h
    · next hnull => rw [isUsable, Bool.eq_false_of_not_eq_true hnull, Bool.not_false]

namespace Context

variable {context : Context} {encoding : Encoding} {text : Text} {bytes : List UInt8}
  {paths : List Text} {basedir : Option SourcePath}

/-- Writing a text that has an encoding comes to putting its bytes in the place of the target, where
there is one. -/
theorem writeTo_of_encode (hfind : context.settings.encoding.find = .ok encoding)
    (hencode : encoding.encode text = .ok bytes) (target : SourcePath) :
    context.writeTo text target =
      if FileTree.hasNull target then ⟨context.tree, .fail (.plain .nullInPath)⟩
      else match context.tree.fileSlot target with
        | .error error => ⟨context.tree, .fail (.plain (.system error target))⟩
        | .ok place =>
          ⟨context.tree.put place (.file bytes),
            (context.record (.wrote target text.length)).andThen fun _ => .value target⟩ := by
  have husable := EncodingSetting.isUsable_of_find hfind
  by_cases hnull : FileTree.hasNull target = true
  · simp [writeTo, openTarget, husable, hnull]
  · cases hslot : context.tree.fileSlot target <;>
      simp [writeTo, openTarget, husable, hnull, hslot, hfind, hencode, Except.map]

/-- What is built from one file or more can be encoded in the encoding of the settings. -/
theorem exists_encode_of_buildAll (hbuiltin : context.registry = .builtin) (hpaths : paths ≠ [])
    {steps : Nat} (h : (context.buildAll steps basedir paths).outcome = .done text) :
    ∃ encoding bytes, context.settings.encoding.find = .ok encoding ∧
      encoding.encode text = .ok bytes := by
  obtain ⟨texts, hall, -⟩ := (context.buildAll_outcome_eq_done_iff _ _ _ _).mp h
  cases hall with
  | nil => exact absurd rfl hpaths
  | cons hbuilt _ =>
    obtain ⟨encoding, hfind⟩ := Builds.exists_encoding ⟨steps, hbuilt⟩
    obtain ⟨bytes, hencode⟩ :=
      (encoding.exists_encode_iff text).mpr (covers_of_buildAll hbuiltin hfind h)
    exact ⟨encoding, bytes, hfind, hencode⟩

/-- Files that are built one by one are built together, given enough steps. -/
theorem buildAll_eventually {texts : List Text}
    (h : List.Forall₂ (context.Builds · basedir ·) paths texts) :
    ∃ enough, ∀ steps, enough ≤ steps →
      (context.buildAll steps basedir paths).outcome = .done texts.flatten := by
  have hall : ∃ enough, ∀ steps, enough ≤ steps → List.Forall₂
      (fun path text => (context.build steps path basedir).outcome = .done text) paths texts := by
    induction h with
    | nil => exact ⟨0, fun steps _ => .nil⟩
    | cons hbuilds _ ih =>
      obtain ⟨first, hfirst⟩ := ((context.builds_iff _ _ _).mp hbuilds).eventually
      obtain ⟨others, hothers⟩ := ih
      refine ⟨max first others, fun steps hle => .cons ?_ (hothers steps (by omega))⟩
      exact (mapFailure_outcome_eq_done_iff _ _ _).mpr (hfirst steps (by omega))
  obtain ⟨enough, hall⟩ := hall
  exact ⟨enough, fun steps hle =>
    (context.buildAll_outcome_eq_done_iff _ _ _ _).mpr ⟨texts, hall steps hle, rfl⟩⟩

/-- The target of output is the path of its name, seen from the directory of the files. -/
theorem target?_eq_some_iff {outfile : Option Text} {target : SourcePath} :
    context.target? outfile basedir = some target ↔
      ∃ name, outfile = some name ∧ name ≠ [] ∧
        target = (basedir.getD context.workingDirectory).join (.ofText name) := by
  unfold target?
  split
  · simp
  · simp
  · next name hname =>
    have hne : name ≠ [] := by
      rintro rfl
      exact hname rfl
    simp [hne, eq_comm]

/-- Once it is built, output is a text that is written. -/
theorem writeOutput_of_built {steps : Nat} {outfile : Option Text} {target : SourcePath}
    (htarget : context.target? outfile basedir = some target)
    (hbuilt : (context.buildAll steps (some (basedir.getD context.workingDirectory))
      paths).outcome = .done text) :
    (context.writeOutput steps paths outfile basedir).tree = (context.writeTo text target).tree ∧
      (context.writeOutput steps paths outfile basedir).run.outcome =
        (context.writeTo text target).run.outcome := by
  simp only [writeOutput, htarget, hbuilt, and_self]

/-- Either output is not written, or it is built and encoded and then put in a place that is there
for it. -/
theorem writeOutput_cases (hbuiltin : context.registry = .builtin) (hpaths : paths ≠ [])
    (steps : Nat) (outfile : Option Text) (basedir : Option SourcePath) :
    ((context.writeOutput steps paths outfile basedir).tree = context.tree ∧
      ∀ target, (context.writeOutput steps paths outfile basedir).run.outcome ≠ .done target) ∨
    ∃ target text encoding bytes place,
      context.target? outfile basedir = some target ∧
      (context.buildAll steps (some (basedir.getD context.workingDirectory)) paths).outcome =
        .done text ∧
      context.settings.encoding.find = .ok encoding ∧ encoding.encode text = .ok bytes ∧
      context.tree.fileSlot target = .ok place ∧
      (context.writeOutput steps paths outfile basedir).tree =
        context.tree.put place (.file bytes) ∧
      (context.writeOutput steps paths outfile basedir).run.outcome = .done target := by
  cases htarget : context.target? outfile basedir with
  | none => simp [writeOutput, htarget, fail]
  | some target =>
    cases hbuilt : (context.buildAll steps (some (basedir.getD context.workingDirectory))
        paths).outcome with
    | failed failure => simp [writeOutput, htarget, hbuilt]
    | exhausted => simp [writeOutput, htarget, hbuilt]
    | done text =>
      obtain ⟨encoding, bytes, hfind, hencode⟩ := exists_encode_of_buildAll hbuiltin hpaths hbuilt
      obtain ⟨htree, houtcome⟩ := writeOutput_of_built htarget hbuilt
      rw [htree, houtcome, writeTo_of_encode hfind hencode]
      by_cases hnull : FileTree.hasNull target = true
      · left
        simp [hnull, fail]
      · cases hplace : context.tree.fileSlot target with
        | error error =>
          left
          simp [hnull, fail]
        | ok place =>
          right
          rw [if_neg hnull]
          exact ⟨target, text, encoding, bytes, place, rfl, rfl, hfind, hencode, hplace, rfl, rfl⟩

/-- Output is written, given enough steps, when every file is built and its target can be
written. -/
theorem writeOutput_eventually (hbuiltin : context.registry = .builtin) (hpaths : paths ≠ [])
    {outfile : Option Text} {target : SourcePath} {place : Location} {texts : List Text}
    (htarget : context.target? outfile basedir = some target)
    (hbuilds : List.Forall₂
      (context.Builds · (some (basedir.getD context.workingDirectory)) ·) paths texts)
    (hnull : FileTree.hasNull target = false)
    (hplace : context.tree.fileSlot target = .ok place) :
    ∃ enough, ∀ steps, enough ≤ steps →
      (context.writeOutput steps paths outfile basedir).run.outcome = .done target := by
  obtain ⟨enough, hbuilt⟩ := buildAll_eventually hbuilds
  refine ⟨enough, fun steps hle => ?_⟩
  have hdone := hbuilt steps hle
  obtain ⟨encoding, bytes, hfind, hencode⟩ := exists_encode_of_buildAll hbuiltin hpaths hdone
  rw [(writeOutput_of_built htarget hdone).2, writeTo_of_encode hfind hencode, hnull, hplace]
  rfl

/-- With the built-in commands and at least one file, output that fails leaves the tree as it was.
Output that succeeds is written to the path of its name, seen from the directory of the files: there
stand the encoded texts of the files, each as it is built from the tree before, and nothing else has
changed. And output succeeds when every file can be built and its path can be written. -/
theorem writeOutput_all_or_nothing (context : Context) (hbuiltin : context.registry = .builtin)
    {paths : List Text} (hpaths : paths ≠ []) (outfile : Option Text)
    (basedir : Option SourcePath) :
    let base := basedir.getD context.workingDirectory
    let written steps := context.writeOutput steps paths outfile basedir
    (∀ steps failure, (written steps).run.outcome = .failed failure →
      (written steps).tree = context.tree) ∧
    (∀ steps target, (written steps).run.outcome = .done target →
      ∃ name texts encoding bytes place,
        outfile = some name ∧ name ≠ [] ∧ target = base.join (.ofText name) ∧
        List.Forall₂ (context.Builds · (some base) ·) paths texts ∧
        context.settings.encoding.find = .ok encoding ∧
        encoding.encode texts.flatten = .ok bytes ∧
        (written steps).tree.findFile target = .ok (place, bytes) ∧
        (written steps).tree.cwd = context.tree.cwd ∧
        ∀ other, other ≠ place → (written steps).tree.get? other = context.tree.get? other) ∧
    ∀ name texts place, outfile = some name → name ≠ [] →
      List.Forall₂ (context.Builds · (some base) ·) paths texts →
      FileTree.hasNull (base.join (.ofText name)) = false →
      context.tree.fileSlot (base.join (.ofText name)) = .ok place →
      ∃ enough, ∀ steps, enough ≤ steps →
        (written steps).run.outcome = .done (base.join (.ofText name)) := by
  intro base written
  have hcases (steps : Nat) := writeOutput_cases hbuiltin hpaths steps outfile basedir
  refine ⟨?_, ?_, ?_⟩
  · intro steps failure hfailed
    rcases hcases steps with ⟨htree, -⟩ | ⟨target, -, -, -, -, -, -, -, -, -, -, hdone⟩
    · exact htree
    · nomatch hfailed.symm.trans hdone
  · intro steps target hdone
    rcases hcases steps with ⟨-, hnot⟩ |
      ⟨found, text, encoding, bytes, place, htarget, hbuilt, hfind, hencode, hplace, htree, hfound⟩
    · exact absurd hdone (hnot target)
    · obtain rfl := Outcome.done.inj (hfound.symm.trans hdone)
      obtain ⟨name, hname, hne, hjoin⟩ := target?_eq_some_iff.mp htarget
      obtain ⟨texts, hall, rfl⟩ := (context.buildAll_outcome_eq_done_iff _ _ _ _).mp hbuilt
      refine ⟨name, texts, encoding, bytes, place, hname, hne, hjoin,
        hall.imp fun _ _ hbuilds => ⟨steps, hbuilds⟩, hfind, hencode, ?_⟩
      -- the place was found in the tree before the change, and the target still leads to it
      have hput : (written steps).tree = context.tree.put place (.file bytes) := htree
      rw [hput]
      exact ⟨FileTree.findFile_put hplace bytes, rfl,
        fun other hother => context.tree.get?_put_of_ne hother _⟩
  · intro name texts place hname hne hbuilds hnull hplace
    have htarget : context.target? outfile basedir = some (base.join (.ofText name)) :=
      target?_eq_some_iff.mpr ⟨name, hname, hne, rfl⟩
    exact writeOutput_eventually hbuiltin hpaths htarget hbuilds hnull hplace

/-- Two files of which the first includes the second. -/
def includedTarget : Context :=
  ofTexts [("a", "A/*buildjs @inc b */"), ("b", "B")]

/-- A file that is built and included can be the target of the output: what it held before is in
what it holds then. An input that is missing leaves it alone. -/
theorem includedTarget_written :
    let written := includedTarget.writeOutput 4 ["a".toList, "b".toList] (some "b".toList) none
    let missed := includedTarget.writeOutput 4 ["a".toList, "c".toList] (some "b".toList) none
    written.tree.findFile (.ofText "/b".toList) =
        .ok ([⟨"b".toList, by decide⟩], "ABB".toUTF8.toList) ∧
      (∃ texts, List.Forall₂ (includedTarget.Builds · (some (.ofText "/".toList)) ·)
        ["a".toList, "b".toList] texts ∧
        Encoding.utf8.encode texts.flatten = .ok "ABB".toUTF8.toList) ∧
      written.tree.get? [⟨"a".toList, by decide⟩] =
        includedTarget.tree.get? [⟨"a".toList, by decide⟩] ∧
      missed.tree = includedTarget.tree := by
  have hdone : (includedTarget.writeOutput 4 ["a".toList, "b".toList]
      (some "b".toList) none).run.outcome = .done (.ofText "/b".toList) := by decide +kernel
  have hfile : (includedTarget.writeOutput 4 ["a".toList, "b".toList]
      (some "b".toList) none).tree.findFile (.ofText "/b".toList) =
        .ok ([⟨"b".toList, by decide⟩], "ABB".toUTF8.toList) := by decide +kernel
  have hfailed : (includedTarget.writeOutput 4 ["a".toList, "c".toList]
      (some "b".toList) none).run.outcome =
        .failed (.build ⟨.caused (.missingFile "c".toList), some "c".toList, none, []⟩) := by
    decide +kernel
  have hutf8 : includedTarget.settings.encoding.find = .ok .utf8 := by decide +kernel
  obtain ⟨-, hwritten, -⟩ := writeOutput_all_or_nothing includedTarget rfl
    (List.cons_ne_nil "a".toList ["b".toList]) (some "b".toList) none
  obtain ⟨hmissed, -⟩ := writeOutput_all_or_nothing includedTarget rfl
    (List.cons_ne_nil "a".toList ["c".toList]) (some "b".toList) none
  obtain ⟨name, texts, encoding, bytes, place, -, -, -, hbuilds, hfind, hencode, hfound, -,
    hrest⟩ := hwritten 4 _ hdone
  obtain ⟨rfl, rfl⟩ := Prod.mk.inj (Except.ok.inj (hfound.symm.trans hfile))
  obtain rfl := Except.ok.inj (hfind.symm.trans hutf8)
  exact ⟨hfile, ⟨texts, hbuilds, hencode⟩, hrest _ (by decide), hmissed 4 _ hfailed⟩

end Context

end TextMacro
