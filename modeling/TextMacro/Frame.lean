import TextMacro.Misfit

/-!
# Frames

Expanding a file means working in a frame: the path of the file as it was written, the directory
that path is seen from, and the files that are already being expanded around it, outermost first.
-/

namespace TextMacro

/-- One activation of file expansion. -/
structure Frame where
  path : SourcePath
  basedir : Option SourcePath
  active : List SourcePath
deriving DecidableEq

namespace Frame

/-- The path of the file, seen from the base directory if there is one. -/
def resolved (frame : Frame) : SourcePath :=
  match frame.basedir with
  | none => frame.path
  | some base => base.join frame.path

/-- The frame that values describe. -/
def ofValues (path basedir : Value) (active : List SourcePath) : Except Misfit Frame := do
  let path ← path.path
  let basedir ← basedir.path?
  return ⟨path, basedir, active⟩

/-- The directory that include paths in the file are seen from. -/
def directory (frame : Frame) : SourcePath :=
  frame.resolved.parent

end Frame

/-- A request to expand a file: its path as written, the base directory, and the files around it. -/
structure Request where
  path : Text
  basedir : Option SourcePath
  active : List SourcePath
deriving DecidableEq

namespace Request

/-- The frame that a request describes. -/
def frame (request : Request) : Frame :=
  ⟨.ofText request.path, request.basedir, request.active⟩

/-- The request that values describe. -/
def ofValues (path basedir : Value) (active : List SourcePath) : Except Misfit Request := do
  let path ← path.name
  let basedir ← basedir.path?
  return ⟨path, basedir, active⟩

end Request

end TextMacro
