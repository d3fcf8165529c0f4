import CallGuard.Command.Report
import CallGuard.Document.Call
import CallGuard.Files.Glob
import CallGuard.Files.PathOrder
import CallGuard.Fixture.Basic
import CallGuard.Text.Pattern

namespace CallGuard

/-!
# Running fixtures

Every fixture of a directory is run and reported line by line. A fixture that
cannot be run counts as one failed case. Which messages a pattern matches is up to
the language that it is written in.
-/

/-- A language of patterns: which messages a text matches, if it is a pattern. -/
abbrev PatternLanguage :=
  String → Option (String → Bool)

/-- How a call differs from what was expected of it. -/
inductive Mismatch where
  | document (fault : DocumentFault)
  | failed (failure : ArgumentFailure)
  | passed
  | unknownKind (name : String)
  | otherKind (expected : FailureKind) (failure : ArgumentFailure)
  | otherArgument (expected found : String)
  | badPattern (pattern : String)
  | otherMessage (found pattern : String)

/-- The wording of a difference. -/
def Mismatch.message : Mismatch → String
  | .document fault => fault.message
  | .failed failure => s!"expected success, got: {failure.message}"
  | .passed => "expected a failure, call passed"
  | .unknownKind name => s!"unknown failure kind `{name}`"
  | .otherKind expected failure =>
      s!"expected {expected.name}, got {failure.cause.kind.name}: {failure.message}"
  | .otherArgument expected found =>
      s!"expected failure on `{expected}`, got `{found}`"
  | .badPattern pattern => s!"bad message regex `{pattern}`"
  | .otherMessage found pattern => s!"message `{found}` does not match /{pattern}/"

namespace Expected

/-- How the argument of a failure differs from the expected one. -/
def argumentMismatch?
    (argument : Option String)
    (failure : ArgumentFailure) :
    Option Mismatch :=
  match argument with
  | none => none
  | some expected =>
      if failure.argument = expected then
        none
      else
        some (.otherArgument expected failure.argument)

/-- How the message of a failure differs from the expected pattern. -/
def messageMismatch?
    (language : PatternLanguage)
    (pattern : Option String)
    (failure : ArgumentFailure) :
    Option Mismatch :=
  match pattern with
  | none => none
  | some text =>
      match language text with
      | none => some (.badPattern text)
      | some isMatch =>
          if isMatch failure.cause.message then
            none
          else
            some (.otherMessage failure.cause.message text)

/-- How a call differs from what was expected of it. -/
def mismatch? (language : PatternLanguage) :
    Expected →
    Except ArgumentFailure Unit →
    Option Mismatch
  | .passes, .ok () => none
  | .passes, .error failure => some (.failed failure)
  | .fails _ _ _, .ok () => some .passed
  | .fails kind argument pattern, .error failure =>
      match FailureKind.ofName? kind with
      | none => some (.unknownKind kind)
      | some expected =>
          if failure.cause.kind = expected then
            match argumentMismatch? argument failure with
            | some mismatch => some mismatch
            | none => messageMismatch? language pattern failure
          else
            some (.otherKind expected failure)

end Expected

/-- How a case of a fixture comes out differently from what was expected. -/
def FixtureCase.mismatch?
    (fixtureCase : FixtureCase)
    (language : PatternLanguage)
    (binder : Binder) :
    Option Mismatch :=
  match CallArguments.ofJson fixtureCase.call with
  | .error fault => some (.document fault)
  | .ok call => fixtureCase.expected.mismatch? language (binder.enforce call)

/-- Why a fixture cannot be run. -/
inductive FixtureFault where
  | unreadable (path : String) (fault : FileFault)
  | document (path : String) (fault : DocumentFault)
  | declaration (fault : Declaration.Fault)

/-- The wording of a fault. -/
def FixtureFault.message : FixtureFault → String
  | .unreadable path fault => s!"failed to read {path}: {fault.message}"
  | .document path fault => s!"{path}: {fault.detail}"
  | .declaration fault => fault.message

/-- What a run has to tell: lines, and how many cases failed. -/
structure Tally where
  lines : List String
  failed : Nat
  deriving DecidableEq, Repr

namespace Fixture

/-- The line and the count of one case. -/
def caseTally
    (name : String)
    (index : Nat)
    (mismatch : Option Mismatch) :
    Tally :=
  match mismatch with
  | none => ⟨[s!"ok {name}#{index}"], 0⟩
  | some mismatch => ⟨[s!"FAIL {name}#{index}: {mismatch.message}"], 1⟩

/-- One tally after another. -/
def joinTallies (tallies : List Tally) : Tally where
  lines := tallies.flatMap Tally.lines
  failed := (tallies.map Tally.failed).foldl (· + ·) 0

/-- The tally of all cases of a fixture. -/
def casesTally
    (fixture : Fixture)
    (language : PatternLanguage)
    (name : String)
    (binder : Binder) :
    Tally :=
  joinTallies
    (fixture.cases.zipIdx.map fun entry =>
      caseTally name entry.2 (entry.1.mismatch? language binder))

/-- The binder that the declaration of a fixture has. -/
def binder (fixture : Fixture) : Except Declaration.Fault Binder :=
  fixture.declaration.binder (fixture.settings.getD Settings.standard)

/-- The tally of a fixture. -/
def tally
    (fixture : Fixture)
    (language : PatternLanguage)
    (name : String) :
    Except FixtureFault Tally :=
  match fixture.binder with
  | .ok binder =>
      if fixture.refused then
        .ok ⟨[s!"FAIL {name}: declaration compiled, expected InvalidSpec"], 1⟩
      else
        .ok (fixture.casesTally language name binder)
  | .error (.spec invalid) =>
      if fixture.refused then
        .ok ⟨[s!"ok {name}: {invalid.message}"], 0⟩
      else
        .error (.declaration (.spec invalid))
  | .error fault => .error (.declaration fault)

end Fixture

/-- The name of a file without the last of its endings; a dot in front starts no ending. -/
def stem (path : String) : String :=
  let name := (pathParts path).getLast?.getD ""
  let reversed := name.toList.reverse
  match reversed.dropWhile (· != '.') with
  | '.' :: rest => if rest.isEmpty then name else String.ofList rest.reverse
  | _ => name

/-- The tally of the fixture in a file. -/
def FileTree.fixtureTally
    (tree : FileTree)
    (language : PatternLanguage)
    (path : String) :
    Except FixtureFault Tally := do
  let text ← (tree.read path).mapError (.unreadable path)
  let fixture ← (Fixture.ofText text).mapError (.document path)
  fixture.tally language (stem path)

/-- The tally of a file, whether its fixture can be run or not. -/
def Tally.ofResult
    (path : String) :
    Except FixtureFault Tally →
    Tally
  | .ok tally => tally
  | .error fault => ⟨[s!"ERROR {path}: {fault.message}"], 1⟩

/-- The pattern that the fixtures of a directory match. -/
def fixturePattern (directory : String) : String :=
  if directory == "" then
    "*.json"
  else
    Glob.joinShown directory "*.json"

/-- The report on the fixtures in several files. -/
def FileTree.reportFixtures
    (tree : FileTree)
    (language : PatternLanguage)
    (paths : List String) :
    Report :=
  let tally :=
    Fixture.joinTallies
      (paths.map fun path => Tally.ofResult path (tree.fixtureTally language path))
  if tally.failed = 0 then
    ⟨.passed, tally.lines, [s!"{paths.length} fixtures passed"]⟩
  else
    ⟨.failed, tally.lines, [s!"{tally.failed} case(s) failed"]⟩

/--
Run the fixtures of a directory, in the order of their paths, with patterns of a given
language.
-/
def FileTree.runFixturesWith
    (tree : FileTree)
    (language : PatternLanguage)
    (directory : String) :
    Report :=
  let pattern := fixturePattern directory
  match tree.glob pattern with
  | .error fault => Report.broken fault.message
  | .ok [] => Report.broken s!"no fixtures matched {pattern}"
  | .ok paths => tree.reportFixtures language (sortedPaths paths)

/-- Run the fixtures of a directory, in the order of their paths. -/
def FileTree.runFixtures
    (tree : FileTree)
    (directory : String) :
    Report :=
  tree.runFixturesWith Pattern.test? directory

end CallGuard
