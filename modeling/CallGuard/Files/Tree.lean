import CallGuard.Text.Parts

namespace CallGuard

/-!
# File trees

The files below a working directory, each with its text. A path is followed part
by part; every part but the last must lead to a directory.
-/

/-- The parts of a path. -/
def pathParts (path : String) : List String :=
  textParts '/' path

/-- A place below the working directory, by the names that lead to it. -/
abbrev Place :=
  List String

/-- The files and directories below a working directory. -/
structure FileTree where
  files : List (Place × String)
  /-- Directories that no file has to show for. -/
  directories : List Place

/-- Why a path gives no text. -/
inductive FileFault where
  | notFound
  | isADirectory
  | notADirectory
  deriving DecidableEq, Repr

/-- The wording of a fault. -/
def FileFault.message : FileFault → String
  | .notFound => "No such file or directory (os error 2)"
  | .isADirectory => "Is a directory (os error 21)"
  | .notADirectory => "Not a directory (os error 20)"

namespace FileTree

/-- The tree of files given by their paths. -/
def ofFiles (files : List (String × String)) : FileTree where
  files := files.map fun file =>
    ((pathParts file.1).filter fun part => part != "" && part != ".", file.2)
  directories := []

/-- The text of the file at a place. -/
def file?
    (tree : FileTree)
    (place : Place) :
    Option String :=
  (tree.files.find? fun file => file.1 == place).map (·.2)

/-- Whether one place lies below another. -/
def isBelow
    (upper lower : Place) :
    Bool :=
  upper.isPrefixOf lower && decide (upper.length < lower.length)

/-- Whether there is a directory at a place. -/
def isDirectory
    (tree : FileTree)
    (place : Place) :
    Bool :=
  place.isEmpty
    || tree.directories.any (fun directory => directory == place || isBelow place directory)
    || tree.files.any (fun file => isBelow place file.1)

/-- Whether there is a file or a directory at a place. -/
def holds
    (tree : FileTree)
    (place : Place) :
    Bool :=
  (tree.file? place).isSome || tree.isDirectory place

/-- The names in a directory, each once. -/
def namesIn
    (tree : FileTree)
    (place : Place) :
    List String :=
  let places := tree.files.map (·.1) ++ tree.directories
  (places.filterMap fun lower =>
    if isBelow place lower then lower[place.length]? else none).eraseDups

/--
Follow a path. What lies above the working directory is known to be a directory
and nothing more; it has no place.
-/
def followParts
    (tree : FileTree) :
    Option Place →
    List String →
    Except FileFault (Option Place)
  | place, [] => .ok place
  | none, part :: rest =>
      if part == "" || part == "." || part == ".." then
        followParts tree none rest
      else
        .error .notFound
  | some place, part :: rest =>
      if !tree.isDirectory place then
        .error (if (tree.file? place).isSome then .notADirectory else .notFound)
      else if part == "" || part == "." then
        followParts tree (some place) rest
      else if part == ".." then
        followParts tree (if place.isEmpty then none else some place.dropLast) rest
      else
        followParts tree (some (place ++ [part])) rest

/-- The place that a path leads to, from the working directory or from the root. -/
def follow
    (tree : FileTree)
    (path : String) :
    Except FileFault (Option Place) :=
  match pathParts path with
  | [""] => .error .notFound
  | "" :: parts => followParts tree none parts
  | parts => followParts tree (some []) parts

/-- Whether a path leads to a file or a directory. -/
def hasPath
    (tree : FileTree)
    (path : String) :
    Bool :=
  match tree.follow path with
  | .ok (some place) => tree.holds place
  | .ok none => true
  | .error _ => false

/-- Whether a path leads to a directory. -/
def hasDirectory
    (tree : FileTree)
    (path : String) :
    Bool :=
  match tree.follow path with
  | .ok (some place) => tree.isDirectory place
  | .ok none => true
  | .error _ => false

/-- The names in the directory that a path leads to, each once. -/
def names
    (tree : FileTree)
    (path : String) :
    List String :=
  match tree.follow path with
  | .ok (some place) => tree.namesIn place
  | _ => []

/-- The text of the file that a path leads to. -/
def read
    (tree : FileTree)
    (path : String) :
    Except FileFault String :=
  match tree.follow path with
  | .error fault => .error fault
  | .ok none => .error .isADirectory
  | .ok (some place) =>
      match tree.file? place with
      | some text => .ok text
      | none => .error (if tree.isDirectory place then .isADirectory else .notFound)

end FileTree

end CallGuard
