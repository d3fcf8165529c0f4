import CallGuard.Command.Invocation

namespace CallGuard

/-!
# The program

The files below the working directory are read once; everything else is decided
by `Invocation.report`. Files that hold no text are passed over.
-/

/-- Read a file, if it holds text. -/
def readText (path : String) : IO (Option String) := do
  match ← (IO.FS.readFile path).toBaseIO with
  | .ok text => return some text
  | .error _ => return none

/-- The files and directories in a directory and below it, each with the names that lead to it. -/
partial def readTree
    (path : String)
    (place : Place) :
    IO FileTree := do
  let directory ← IO.FS.realPath path
  let mut tree : FileTree := ⟨[], []⟩
  for entry in ← directory.readDir do
    let below := place ++ [entry.fileName]
    let found ← entry.path.symlinkMetadata
    match found.type with
    | .dir =>
        let inside ← readTree entry.path.toString below
        tree := ⟨tree.files ++ inside.files, below :: tree.directories ++ inside.directories⟩
    | _ =>
        match ← readText entry.path.toString with
        | some text => tree := { tree with files := tree.files ++ [(below, text)] }
        | none => pure ()
  return tree

/-- Print a report and give its exit code. -/
def publish (report : Report) : IO UInt32 := do
  IO.print (linesText report.output)
  IO.eprint (linesText report.errors)
  return UInt32.ofNat report.verdict.exitCode

end CallGuard

/-- Run the program on the words of a command line. -/
def main (words : List String) : IO UInt32 := do
  let tree ← CallGuard.readTree "." []
  CallGuard.publish (CallGuard.Invocation.report words tree)
