import CallGuard.Command.Check
import CallGuard.Fixture.Run

namespace CallGuard

/-!
# Invocations

The words of a command line and what they ask for: checking call documents,
compiling a declaration, or running the fixtures of a directory.
-/

/-- What a command line asks for. -/
inductive Invocation where
  | check (request : CheckRequest)
  | compile (request : DeclarationRequest)
  | fixtures (directory : String)

namespace Invocation

/-- What the options read so far say. -/
structure Options where
  declaration : Option String
  settings : Option String
  inputs : List String
  byLine : Bool
  query : Option String
  failFast : Bool

/-- What holds before any option is read. -/
def Options.initial : Options where
  declaration := none
  settings := none
  inputs := []
  byLine := false
  query := none
  failFast := false

/-- Whether a word has the form of an option. -/
def isOption (word : String) : Bool :=
  word.toList.head? == some '-'

/--
Read options word by word. `wantsInputs` says that further words without a dash
name more inputs.
-/
def readOptions?
    (wantsInputs : Bool)
    (options : Options) :
    List String →
    Option Options
  | [] => some options
  | "--ndjson" :: rest => readOptions? false { options with byLine := true } rest
  | "--fail-fast" :: rest => readOptions? false { options with failFast := true } rest
  | [word] =>
      if wantsInputs && !isOption word then
        some { options with inputs := options.inputs ++ [word] }
      else
        none
  | word :: content :: rest =>
      match word with
      | "--decl" => readOptions? false { options with declaration := some content } rest
      | "--config" => readOptions? false { options with settings := some content } rest
      | "--jq-expr" => readOptions? false { options with query := some content } rest
      | "--input" | "-i" =>
          readOptions? true { options with inputs := options.inputs ++ [content] } rest
      | word =>
          if wantsInputs && !isOption word then
            readOptions? true { options with inputs := options.inputs ++ [word] }
              (content :: rest)
          else
            none

/-- The declaration that options name. -/
def Options.declarationRequest? (options : Options) : Option DeclarationRequest :=
  options.declaration.map fun declaration => ⟨declaration, options.settings⟩

/-- The check that options describe; it needs a declaration and an input. -/
def Options.checkRequest? (options : Options) : Option CheckRequest :=
  if options.inputs.isEmpty then
    none
  else
    options.declarationRequest?.map fun declaration =>
      ⟨declaration, ⟨options.inputs, options.byLine, options.query⟩, options.failFast⟩

/-- What the words of a command line ask for. -/
def ofWords? : List String → Option Invocation
  | "check" :: rest =>
      ((readOptions? false .initial rest).bind Options.checkRequest?).map .check
  | "compile" :: rest =>
      ((readOptions? false .initial rest).bind Options.declarationRequest?).map .compile
  | ["fixtures", directory] => some (.fixtures directory)
  | _ => none

/-- The command lines that are understood. -/
def usage : String :=
  "usage: check --decl FILE [--config FILE] [--ndjson] [--jq-expr QUERY] [--fail-fast] "
    ++ "--input PATH...\n"
    ++ "       compile --decl FILE [--config FILE]\n"
    ++ "       fixtures DIRECTORY"

/-- Do what is asked for, on the files of a tree. -/
def run
    (invocation : Invocation)
    (tree : FileTree) :
    Report :=
  match invocation with
  | .check request => .ofResult (request.run tree)
  | .compile request => .ofResult (request.run tree)
  | .fixtures directory => tree.runFixtures directory

/-- The report on a command line. -/
def report
    (words : List String)
    (tree : FileTree) :
    Report :=
  match ofWords? words with
  | some invocation => invocation.run tree
  | none => Report.broken usage

end Invocation

end CallGuard
