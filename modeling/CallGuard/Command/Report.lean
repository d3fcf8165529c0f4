namespace CallGuard

/-!
# Reports of commands

What a command leaves behind: a verdict, lines for its reader and lines of error.
-/

/-- The verdict of a command. -/
inductive Verdict where
  | passed
  | failed
  /-- The command could not do what it was asked to do. -/
  | broken
  deriving DecidableEq, Repr

/-- The exit code of a verdict. -/
def Verdict.exitCode : Verdict → Nat
  | .passed => 0
  | .failed => 1
  | .broken => 2

/-- What a command leaves behind. -/
structure Report where
  verdict : Verdict
  output : List String
  errors : List String
  deriving DecidableEq, Repr

/-- Lines as text, each with its end. -/
def linesText (lines : List String) : String :=
  String.join (lines.map (· ++ "\n"))

/-- The report of a command that could not do what it was asked to do. -/
def Report.broken (message : String) : Report where
  verdict := .broken
  output := []
  errors := ["error: " ++ message]

end CallGuard
