import TextMacro.Text.Basic

/-!
# Paths

A path is a root and a list of components. Reading a path splits it at the slashes and drops empty
components and single dots, so two spellings that differ only in those give one path; double dots
are kept. Exactly two leading slashes are a root of their own; one, or three and more, are the usual
root. A component can hold neither a slash nor nothing at all, so a written path reads back as
itself.
-/

namespace TextMacro

/-- What a path starts from. -/
inductive PathRoot where
  | none
  | slash
  | doubleSlash
deriving DecidableEq, Repr

namespace PathRoot

/-- The slashes of a root. -/
def toText : PathRoot → Text
  | none => []
  | slash => ['/']
  | doubleSlash => ['/', '/']

/-- The root that a number of leading slashes denotes. -/
def ofSlashes : Nat → PathRoot
  | 0 => none
  | 2 => doubleSlash
  | _ => slash

end PathRoot

/-- What may stand between two slashes of a path: something other than a single dot. -/
def IsComponent (text : Text) : Prop :=
  text ≠ [] ∧ text ≠ ['.'] ∧ '/' ∉ text

instance (text : Text) : Decidable (IsComponent text) :=
  inferInstanceAs (Decidable (_ ∧ _ ∧ _))

/-- A component of a path. -/
structure Component where
  text : Text
  isComponent : IsComponent text
deriving DecidableEq

namespace Component

/-- The component that a piece of a path denotes, unless it is empty or a single dot. -/
def ofText? (text : Text) : Option Component :=
  if h : IsComponent text then some ⟨text, h⟩ else none

/-- The component that leads to the parent directory. -/
def up : Component := ⟨['.', '.'], by decide⟩

end Component

/-- A path: its root and its components. -/
structure SourcePath where
  root : PathRoot
  components : List Component
deriving DecidableEq

namespace SourcePath

/-- The path without root and components, which denotes the current directory. -/
def here : SourcePath := ⟨.none, []⟩

/-- Read a path. -/
def ofText (text : Text) : SourcePath :=
  ⟨.ofSlashes (text.takeWhile (· == '/')).length,
    (Text.pieces '/' text).filterMap Component.ofText?⟩

/-- Write a path; the path without root and components is written as a single dot. -/
def toText (path : SourcePath) : Text :=
  if path = here then ['.']
  else path.root.toText ++ Text.join ['/'] (path.components.map Component.text)

/-- Whether the path starts from a root. -/
def isAbsolute (path : SourcePath) : Bool :=
  path.root ≠ .none

/-- The path `path` seen from `base`: an absolute path stands for itself. -/
def join (base path : SourcePath) : SourcePath :=
  if path.isAbsolute then path else ⟨base.root, base.components ++ path.components⟩

/-- The path without its last component; a bare root, or the current directory, is kept. -/
def parent (path : SourcePath) : SourcePath :=
  ⟨path.root, path.components.dropLast⟩

end SourcePath

/-- A place in a file tree: the components on the way from the root. -/
abbrev Location := List Component

namespace Location

/-- Follow one component from a place; the root is its own parent. -/
def step (location : Location) (component : Component) : Location :=
  if component = .up then location.dropLast else location ++ [component]

/-- Follow components from a place without looking at what is there. -/
def follow (location : Location) (components : List Component) : Location :=
  components.foldl step location

/-- No double dots are left when a component is followed. -/
theorem up_not_mem_step {location : Location} (h : Component.up ∉ location)
    (component : Component) : Component.up ∉ location.step component := by
  rw [step]
  split
  · exact fun hmem => h ((List.dropLast_sublist location).mem hmem)
  · next hcomponent =>
    rw [List.mem_append, List.mem_singleton, not_or]
    exact ⟨h, Ne.symm hcomponent⟩

/-- No double dots are left when components are followed. -/
theorem up_not_mem_follow {location : Location} (h : Component.up ∉ location)
    (components : List Component) : Component.up ∉ location.follow components := by
  induction components generalizing location with
  | nil => exact h
  | cons component components ih => exact ih (up_not_mem_step h component)

/-- The absolute path of a place. -/
def toPath (location : Location) : SourcePath :=
  ⟨.slash, location⟩

end Location

/-- The place that a path denotes, seen from the working directory `cwd`. -/
def SourcePath.resolve (path : SourcePath) (cwd : Location) : Location :=
  Location.follow (if path.isAbsolute then [] else cwd) path.components

/-- There are no double dots in the place that a path denotes. -/
theorem SourcePath.up_not_mem_resolve (path : SourcePath) {cwd : Location}
    (h : Component.up ∉ cwd) : Component.up ∉ path.resolve cwd := by
  apply Location.up_not_mem_follow
  split
  · exact List.not_mem_nil
  · exact h

end TextMacro
