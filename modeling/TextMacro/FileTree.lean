import TextMacro.Encoding.Utf8
import TextMacro.SourcePath

/-!
# File trees

A file tree says what stands at each place: a file with its bytes, or a directory. Paths are
followed one component at a time from the root or from the working directory; every component but
the last must lead to a directory that exists, also when double dots follow it. The operations that
change the tree are writing a file and making a directory; each says which error it ends in.
-/

namespace TextMacro

/-- What stands at a place of a file tree. -/
inductive Node where
  | file (bytes : List UInt8)
  | directory
deriving DecidableEq, Repr

/-- What can be wrong with a path that is to be used. -/
inductive SystemError where
  | notFound
  | alreadyExists
  | notDirectory
  | isDirectory
  | nameTooLong
deriving DecidableEq, Repr

/-- A file tree: the nodes by place, and the way from the root to the working directory.

The root is a directory without an entry of its own. -/
structure FileTree where
  entries : List (Location × Node)
  way : List Component
deriving DecidableEq

namespace FileTree

/-- The working directory: the place to which the way from the root leads. -/
def cwd (tree : FileTree) : Location :=
  Location.follow [] tree.way

/-- There are no double dots in the working directory. -/
theorem up_not_mem_cwd (tree : FileTree) : Component.up ∉ tree.cwd :=
  Location.up_not_mem_follow List.not_mem_nil _

/-- What stands at a place, if anything does. -/
def get? (tree : FileTree) (location : Location) : Option Node :=
  if location = [] then some .directory else tree.entries.lookup location

/-- The entries with one more, or with the node at its place changed. -/
def putEntry (location : Location) (node : Node) :
    List (Location × Node) → List (Location × Node)
  | [] => [(location, node)]
  | entry :: entries =>
    if entry.1 = location then (location, node) :: entries
    else entry :: putEntry location node entries

/-- The tree with the given node at a place. -/
def put (tree : FileTree) (location : Location) (node : Node) : FileTree :=
  { tree with entries := putEntry location node tree.entries }

/-- Follow components from a place to another that exists. -/
def walk (tree : FileTree) (location : Location) :
    List Component → Except SystemError Location
  | [] => .ok location
  | component :: components =>
    match tree.get? location with
    | none => .error .notFound
    | some (.file _) => .error .notDirectory
    | some .directory =>
      if 255 < Utf8.size component.text then .error .nameTooLong
      else match tree.get? (location.step component) with
        | none => .error .notFound
        | some _ => walk tree (location.step component) components

/-- The place from which a path is followed. -/
def origin (tree : FileTree) (path : SourcePath) : Location :=
  if path.isAbsolute then [] else tree.cwd

/-- Whether a path has too many bytes to be followed at all. -/
def isOverlong (path : SourcePath) : Bool :=
  4096 ≤ Utf8.size path.toText

/-- The existing place that a path leads to. -/
def locate (tree : FileTree) (path : SourcePath) : Except SystemError Location :=
  if isOverlong path then .error .nameTooLong
  else tree.walk (tree.origin path) path.components

/-- Whether a path holds the null character, which no name of a file can. -/
def hasNull (path : SourcePath) : Bool :=
  path.components.any fun component => component.text.contains '\x00'

/-- What stands at a path; a path that leads nowhere gives `none`. -/
def status (tree : FileTree) (path : SourcePath) : Except SystemError (Option Node) :=
  if hasNull path then .ok none
  else match tree.locate path with
    | .ok location => .ok (tree.get? location)
    | .error .notFound | .error .notDirectory => .ok none
    | .error error => .error error

/-- Whether a directory stands at a path. -/
def isDirectory (tree : FileTree) (path : SourcePath) : Bool :=
  match tree.status path with
  | .ok (some .directory) => true
  | _ => false

/-- The place where a new last component of a path would stand, in a directory that exists. -/
def slot (tree : FileTree) (path : SourcePath) : Except SystemError Location :=
  if isOverlong path then .error .nameTooLong
  else match path.components.getLast? with
    | none => .ok (tree.origin path)
    | some last =>
      match tree.walk (tree.origin path) path.components.dropLast with
      | .error error => .error error
      | .ok location =>
        match tree.get? location with
        | none => .error .notFound
        | some (.file _) => .error .notDirectory
        | some .directory =>
          if 255 < Utf8.size last.text then .error .nameTooLong
          else .ok (location.step last)

/-- The place at which a file can be written under a path. -/
def fileSlot (tree : FileTree) (path : SourcePath) : Except SystemError Location :=
  match tree.slot path with
  | .error error => .error error
  | .ok location =>
    if tree.get? location = some .directory then .error .isDirectory else .ok location

/-- Make a directory at a path under which nothing stands. -/
def makeDirectory (tree : FileTree) (path : SourcePath) : Except SystemError FileTree :=
  match tree.slot path with
  | .error error => .error error
  | .ok location =>
    if (tree.get? location).isSome then .error .alreadyExists
    else .ok (tree.put location .directory)

/-- Make a directory, with the directories above it that are missing.

A directory that exists is kept. The tree also shows the directories made before an error, and the
error comes with the path at which it arose. -/
def makeDirectories (tree : FileTree) (path : SourcePath) :
    FileTree × Except (SystemError × SourcePath) Unit :=
  match tree.makeDirectory path with
  | .ok tree => (tree, .ok ())
  | .error .notFound =>
    if h : path.components = [] then (tree, .error (.notFound, path))
    else
      have : path.parent.components.length < path.components.length := by
        have := List.length_pos_iff.mpr h
        simp only [SourcePath.parent, List.length_dropLast]
        omega
      match makeDirectories tree path.parent with
      | (tree, .error error) => (tree, .error error)
      | (tree, .ok ()) =>
        match tree.makeDirectory path with
        | .ok tree => (tree, .ok ())
        | .error error =>
          if error ≠ .notFound ∧ tree.isDirectory path then (tree, .ok ())
          else (tree, .error (error, path))
  | .error error =>
    if tree.isDirectory path then (tree, .ok ()) else (tree, .error (error, path))
termination_by path.components.length

/-- Make a directory that does not exist yet, with the directories above it that are missing. -/
def makeNewDirectory (tree : FileTree) (path : SourcePath) :
    FileTree × Except (SystemError × SourcePath) Unit :=
  let attempt (tree : FileTree) : FileTree × Except (SystemError × SourcePath) Unit :=
    match tree.makeDirectory path with
    | .ok tree => (tree, .ok ())
    | .error error => (tree, .error (error, path))
  match tree.makeDirectory path with
  | .error .notFound =>
    if path.components = [] then attempt tree
    else match makeDirectories tree path.parent with
      | (tree, .error error) => (tree, .error error)
      | (tree, .ok ()) => attempt tree
  | _ => attempt tree

/-- Put a file at a path, with the directories above it that are missing. -/
def install (tree : FileTree) (path : SourcePath) (bytes : List UInt8) :
    FileTree × Except (SystemError × SourcePath) Unit :=
  match tree.makeDirectories path.parent with
  | (tree, .error error) => (tree, .error error)
  | (tree, .ok ()) =>
    match tree.fileSlot path with
    | .error error => (tree, .error (error, path))
    | .ok location => (tree.put location (.file bytes), .ok ())

/-- The tree with a file at a place and directories on the way to it. -/
def plant (tree : FileTree) (location : Location) (node : Node) : FileTree :=
  let above := (List.range location.length).map location.take
  let tree := above.foldl (fun tree place =>
    if (tree.get? place).isSome then tree else tree.put place .directory) tree
  tree.put location node

/-- The tree without a place and all that stands below it. -/
def remove (tree : FileTree) (location : Location) : FileTree :=
  { tree with entries := tree.entries.filter fun entry => !location.isPrefixOf entry.1 }

/-- What stands directly in a directory. -/
def children (tree : FileTree) (location : Location) : List (Component × Node) :=
  tree.entries.filterMap fun entry =>
    match entry.1.getLast? with
    | some last => if entry.1.dropLast = location then some (last, entry.2) else none
    | none => none

/-- The place and the bytes of the file at a path. -/
def findFile (tree : FileTree) (path : SourcePath) : Except SystemError (Location × List UInt8) :=
  match tree.locate path with
  | .error error => .error error
  | .ok location =>
    match tree.get? location with
    | some (.file bytes) => .ok (location, bytes)
    | some .directory => .error .isDirectory
    | none => .error .notFound

/-- Whether nothing stands below a place. -/
def isLeaf (tree : FileTree) (location : Location) : Bool :=
  !tree.entries.any fun entry => location.isPrefixOf entry.1 && entry.1 ≠ location

/-- The files and the empty directories below a place, in the order of their relative paths.

An empty directory is shown with a slash at the end. -/
def listing (tree : FileTree) (base : Location) : List (Text × Option (List UInt8)) :=
  let shown := tree.entries.filterMap fun entry =>
    if base.isPrefixOf entry.1 && entry.1 ≠ base then
      let path := Text.join ['/'] ((entry.1.drop base.length).map Component.text)
      match entry.2 with
      | .file bytes => some (path, some bytes)
      | .directory => if tree.isLeaf entry.1 then some (path ++ ['/'], none) else none
    else none
  shown.mergeSort fun a b => a.1.isAtMost b.1

end FileTree

end TextMacro
