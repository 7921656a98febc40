import Mathlib
import TextMacro.Proofs.IncludeStack
import TextMacro.Proofs.PathText

/-!
# Paths along nested files

The path of an included file is seen from the directory of the file that includes it. Along a chain
of inclusions a relative path therefore adds its own directory to those before it, and an absolute
path puts an end to all of them. What is added are components: double dots are kept as they are, and
dots, repeated slashes and slashes at the end have no say, since a path is read before it is joined.

A relative path without components is left out where it stands between others. It denotes the base
directory itself, and the directory of that is the one above.
-/

namespace TextMacro

namespace SourcePath

variable {base absolute path : SourcePath} {before paths : List SourcePath}

/-- An absolute path is the same from every directory. -/
theorem join_of_isAbsolute (h : path.isAbsolute = true) : base.join path = path :=
  if_pos h

/-- A relative path adds its components to a directory. -/
theorem join_of_not_isAbsolute (h : path.isAbsolute = false) :
    base.join path = ⟨base.root, base.components ++ path.components⟩ :=
  if_neg (by simp [h])

/-- The directory of a file that a relative path names is the directory of the path, seen from the
same base. -/
theorem parent_join (h : path.isAbsolute = false) (hcomponents : path.components ≠ []) :
    (base.join path).parent = base.join path.parent := by
  have hparent : path.parent.isAbsolute = false := h
  rw [join_of_not_isAbsolute h, join_of_not_isAbsolute hparent, parent, parent,
    List.dropLast_append_of_ne_nil hcomponents]

/-- The directory of the innermost one of nested files, the outermost one seen from `base`. -/
def enclosing (base : SourcePath) (paths : List SourcePath) : SourcePath :=
  paths.foldl (fun directory path => (directory.join path).parent) base

/-- One more file inside of nested ones. -/
theorem enclosing_concat (base : SourcePath) (paths : List SourcePath) (path : SourcePath) :
    base.enclosing (paths ++ [path]) = ((base.enclosing paths).join path).parent :=
  List.foldl_concat _ _ _ _

/-- Relative paths add up their directories. -/
theorem enclosing_of_relative
    (h : ∀ path ∈ paths, path.isAbsolute = false ∧ path.components ≠ []) :
    base.enclosing paths = (paths.map parent).foldl join base := by
  induction paths generalizing base with
  | nil => rfl
  | cons path paths ih =>
    obtain ⟨hrelative, hcomponents⟩ := h path List.mem_cons_self
    rw [enclosing, List.foldl_cons, parent_join hrelative hcomponents, List.map_cons,
      List.foldl_cons]
    exact ih fun inner hinner => h inner (List.mem_cons_of_mem path hinner)

-- a path without components is not a file of the base directory: the directory above is left
example : (ofText "/w/src".toList).enclosing [ofText "./".toList] = ofText "/w".toList := by decide

/-- Nothing around an absolute path has a say in what is inside of it. -/
theorem enclosing_append_cons (h : absolute.isAbsolute = true) :
    base.enclosing (before ++ absolute :: paths) = absolute.parent.enclosing paths := by
  rw [enclosing, List.foldl_append, List.foldl_cons, join_of_isAbsolute h, enclosing]

end SourcePath

namespace Frame

variable {base other absolute path : SourcePath} {paths outer before : List SourcePath}
  {frame : Frame}

/-- Frames inside of one another: the first one is seen from `base`, and each other one from the
directory of the one around it. The paths are those of the frames, outermost first, and the frame is
the innermost one. -/
inductive Chain (base : SourcePath) : List SourcePath → Frame → Prop
  /-- A single frame. -/
  | single {path : SourcePath} {active : List SourcePath} :
    Chain base [path] ⟨path, some base, active⟩
  /-- A frame inside of the innermost one. -/
  | nest {paths : List SourcePath} {around : Frame} {path : SourcePath}
      {active : List SourcePath} :
    Chain base paths around → Chain base (paths ++ [path]) ⟨path, some around.directory, active⟩

/-- All paths, of which there is at least one, are those of a chain. -/
theorem exists_chain (base : SourcePath) (h : paths ≠ []) : ∃ frame, Chain base paths frame := by
  induction paths using List.reverseRecOn with
  | nil => exact absurd rfl h
  | append_singleton outer path ih =>
    by_cases houter : outer = []
    · subst houter
      exact ⟨⟨path, some base, []⟩, .single⟩
    · obtain ⟨around, haround⟩ := ih houter
      exact ⟨⟨path, some around.directory, []⟩, .nest haround⟩

/-- The directory of the innermost frame. -/
theorem Chain.directory_eq (h : Chain base paths frame) :
    frame.directory = base.enclosing paths := by
  induction h with
  | single => rfl
  | @nest paths around path active _ ih =>
    rw [SourcePath.enclosing_concat, ← ih]
    rfl

/-- The path of the innermost frame is seen from the directory of those around it. -/
theorem Chain.resolved_eq (h : Chain base (outer ++ [path]) frame) :
    frame.resolved = (base.enclosing outer).join path := by
  generalize hpaths : outer ++ [path] = paths at h
  cases h with
  | single =>
    obtain ⟨rfl, rfl⟩ := List.append_singleton_inj.mp (hpaths.trans (List.nil_append _).symm)
    rfl
  | nest houter =>
    obtain ⟨rfl, rfl⟩ := List.append_singleton_inj.mp hpaths
    rw [← houter.directory_eq]
    rfl

/-- The innermost frame of a chain of relative paths. -/
theorem Chain.resolved_of_relative (h : Chain base (outer ++ [path]) frame)
    (houter : ∀ path ∈ outer, path.isAbsolute = false ∧ path.components ≠ []) :
    frame.resolved = (outer.map SourcePath.parent ++ [path]).foldl SourcePath.join base := by
  rw [h.resolved_eq, SourcePath.enclosing_of_relative houter, List.foldl_concat]

/-- The innermost frame inside of an absolute path is that of a chain which starts there. -/
theorem Chain.resolved_of_absolute
    (h : Chain base (before ++ absolute :: (outer ++ [path])) frame)
    (habsolute : absolute.isAbsolute = true) :
    frame.resolved = (absolute.parent.enclosing outer).join path := by
  rw [← List.cons_append, ← List.append_assoc] at h
  rw [h.resolved_eq, SourcePath.enclosing_append_cons habsolute]

/-- The base directory and the paths around an absolute path have no say in what is inside of it. -/
theorem Chain.resolved_eq_resolved {inner : List SourcePath} {around : List SourcePath}
    {frame' : Frame} (h : Chain base (before ++ absolute :: inner) frame)
    (h' : Chain other (around ++ absolute :: inner) frame')
    (habsolute : absolute.isAbsolute = true) : frame.resolved = frame'.resolved := by
  rcases List.eq_nil_or_concat inner with rfl | ⟨outer, path, rfl⟩
  · rw [h.resolved_eq, h'.resolved_eq, SourcePath.join_of_isAbsolute habsolute,
      SourcePath.join_of_isAbsolute habsolute]
  · rw [List.concat_eq_append] at h h'
    rw [h.resolved_of_absolute habsolute, h'.resolved_of_absolute habsolute]

end Frame

namespace Context

variable {context : Context} {bottom request inner : Request} {stack : List Activation}

/-- What is asked for in a frame is seen from the directory of the frame. -/
theorem Asks.basedir_eq {frame : Frame} {index : Int} {invocations : List Invocation} {text : Text}
    (h : context.Asks frame index invocations text inner) :
    inner.basedir = some frame.directory := by
  induction h with
  | here => rfl
  | later _ _ ih => exact ih

/-- The frames of the expansions that wait for each other are inside of one another, so what holds
of such frames holds of the files that a run asks for. -/
theorem Stack.frame_chain {base : SourcePath} (h : context.Stack bottom stack request)
    (hbottom : bottom.basedir = some base) :
    Frame.Chain base
      ((stack.reverse.map Activation.request ++ [request]).map fun entered => .ofText entered.path)
      request.frame := by
  induction h with
  | bottom =>
    obtain ⟨path, basedir, active⟩ := bottom
    obtain rfl := hbottom
    exact .single
  | @push stack activation inner _ hasks ih =>
    obtain ⟨key, invocations, -, -, hasked⟩ := hasks
    have hbasedir : inner.basedir = some activation.request.frame.directory := hasked.basedir_eq
    obtain ⟨path, basedir, active⟩ := inner
    obtain rfl := hbasedir
    rw [List.map_append, List.reverse_cons, List.map_append]
    exact .nest ih

end Context

namespace Frame

variable {base : SourcePath} {paths : List SourcePath} {frame : Frame}

/-- Where frames are inside of one another and every relative path has a component, the path of the
innermost one is composed of the base directory, the directories of the paths around it and its own
path. From the last absolute path on, it is composed of the directory of that path and what follows
it, or is that path if nothing follows, whatever stands before. The paths of all frames and their
directories read back as themselves when they are written. -/
theorem Chain.paths_compose (h : Chain base paths frame)
    (hpaths : ∀ path ∈ paths, path.isAbsolute = false → path.components ≠ []) :
    (∀ outer path, paths = outer ++ [path] → (∀ path ∈ paths, path.isAbsolute = false) →
      frame.resolved =
        (outer.map SourcePath.parent ++ [path]).foldl SourcePath.join base) ∧
    (∀ before absolute inner, paths = before ++ absolute :: inner →
      absolute.isAbsolute = true → (∀ path ∈ inner, path.isAbsolute = false) →
      (inner = [] → frame.resolved = absolute) ∧
      (∀ outer path, inner = outer ++ [path] →
        frame.resolved =
          (outer.map SourcePath.parent ++ [path]).foldl SourcePath.join absolute.parent) ∧
      ∀ other around frame', Chain other (around ++ absolute :: inner) frame' →
        frame'.resolved = frame.resolved) ∧
    SourcePath.ofText frame.resolved.toText = frame.resolved ∧
    SourcePath.ofText frame.directory.toText = frame.directory := by
  refine ⟨?_, ?_, SourcePath.ofText_toText _, SourcePath.ofText_toText _⟩
  · rintro outer path rfl hrelative
    apply h.resolved_of_relative
    intro passed hpassed
    have hmem : passed ∈ outer ++ [path] := List.mem_append_left _ hpassed
    exact ⟨hrelative passed hmem, hpaths passed hmem (hrelative passed hmem)⟩
  · rintro before absolute inner rfl habsolute hrelative
    refine ⟨?_, ?_, fun other around frame' h' => h'.resolved_eq_resolved h habsolute⟩
    · rintro rfl
      rw [h.resolved_eq, SourcePath.join_of_isAbsolute habsolute]
    · rintro outer path rfl
      have houter : ∀ passed ∈ outer, passed.isAbsolute = false ∧ passed.components ≠ [] := by
        intro passed hpassed
        have hmem : passed ∈ outer ++ [path] := List.mem_append_left _ hpassed
        exact ⟨hrelative passed hmem, hpaths passed (by simp [hpassed]) (hrelative passed hmem)⟩
      rw [h.resolved_of_absolute habsolute, SourcePath.enclosing_of_relative houter,
        List.foldl_concat]

/-- Relative paths in odd spellings. -/
def relativePaths : List SourcePath :=
  ["lib//./a.js", "../x/b.js", "./c.js/"].map fun text => .ofText text.toList

/-- Paths with an absolute one between them, which starts with two slashes. -/
def mixedPaths : List SourcePath :=
  ["a.js", "//srv//lib/./b.js", "../x//c.js", ".//d.js"].map fun text => .ofText text.toList

/-- Relative paths add up from the base directory, and an absolute one between them starts anew. -/
theorem oddPaths_compose :
    ∃ relative mixed, Chain (.ofText "/w/src".toList) relativePaths relative ∧
      Chain (.ofText "/w/src".toList) mixedPaths mixed ∧
      relative.resolved = .ofText "/w/src/lib/../x/c.js".toList ∧
      mixed.resolved = .ofText "//srv/lib/../x/d.js".toList ∧
      SourcePath.ofText mixed.directory.toText = mixed.directory := by
  obtain ⟨relative, hrelative⟩ := exists_chain (.ofText "/w/src".toList)
    (show relativePaths ≠ [] by decide)
  obtain ⟨mixed, hmixed⟩ := exists_chain (.ofText "/w/src".toList) (show mixedPaths ≠ [] by decide)
  obtain ⟨hall, -⟩ := hrelative.paths_compose (by decide)
  obtain ⟨-, hlast, -, hdirectory⟩ := hmixed.paths_compose (by decide)
  obtain ⟨-, hinner, -⟩ := hlast [.ofText "a.js".toList] (.ofText "//srv/lib/b.js".toList)
    [.ofText "../x/c.js".toList, .ofText "d.js".toList] (by decide +kernel) (by decide) (by decide)
  refine ⟨relative, mixed, hrelative, hmixed, ?_, ?_, hdirectory⟩
  · rw [hall [.ofText "lib/a.js".toList, .ofText "../x/b.js".toList] (.ofText "c.js".toList)
      (by decide) (by decide)]
    decide
  · rw [hinner [.ofText "../x/c.js".toList] (.ofText "d.js".toList) rfl]
    decide

end Frame

end TextMacro
