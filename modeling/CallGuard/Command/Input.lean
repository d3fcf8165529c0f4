import CallGuard.Files.Glob
import CallGuard.Files.Load
import CallGuard.Text.Lines

namespace CallGuard

/-!
# Inputs of commands

Call documents are loaded from files named by paths or patterns. A file holds one
document or, line by line, any number; a query may replace each by others. What a
query gives is up to the language that it is written in. Every document is known by
its path, with a number behind it if the path has several.
-/

/-- A call document and where it comes from. -/
structure InputDocument where
  origin : String
  json : Json

/--
A language of queries: what a text gives for a document, if it is a query and does
not fail.
-/
abbrev QueryLanguage :=
  String → Json → Option (List Json)

/-- How inputs are to be loaded. -/
structure InputRequest where
  /-- Paths and patterns. -/
  paths : List String
  /-- Whether each line holds a document. -/
  byLine : Bool
  /-- The text of a query for each document. -/
  query : Option String

/-- Why inputs cannot be loaded. -/
inductive InputFault where
  | badPattern (pattern : String) (fault : GlobFault)
  | noMatch (pattern : String)
  | unreadable (path : String) (fault : FileFault)
  | unparsable (path : String)
  | unparsableLine (path : String) (line : Nat)
  | failedQuery (path : String)
  deriving DecidableEq, Repr

/-- The wording of a fault. -/
def InputFault.message : InputFault → String
  | .badPattern pattern fault => s!"invalid glob pattern {pattern}: {fault.message}"
  | .noMatch pattern => s!"glob pattern matched no files: {pattern}"
  | .unreadable path fault => s!"failed to read input file {path}: {fault.message}"
  | .unparsable path => s!"failed to parse JSON source file {path}"
  | .unparsableLine path line => s!"failed to parse {path}:{line}"
  | .failedQuery path => s!"failed to apply jq expression to {path}"

namespace InputRequest

/-- The paths that a written path or pattern stands for. -/
def resolve
    (tree : FileTree)
    (path : String) :
    Except InputFault (List String) :=
  if Glob.isPattern path then
    match tree.glob path with
    | .error fault => .error (.badPattern path fault)
    | .ok [] => .error (.noMatch path)
    | .ok found => .ok found
  else
    .ok [path]

/-- The paths that written paths and patterns stand for, in order. -/
def resolveAll
    (tree : FileTree) :
    List String →
    Except InputFault (List String)
  | [] => .ok []
  | path :: rest => do
      let found ← resolve tree path
      let more ← resolveAll tree rest
      return found ++ more

/-- The documents on lines, blank ones passed over; `line` counts all of them. -/
def readLines
    (path : String)
    (line : Nat) :
    List String →
    Except InputFault (List Json)
  | [] => .ok []
  | text :: rest =>
      if Lines.isBlank text then
        readLines path (line + 1) rest
      else
        match Json.read? text with
        | none => .error (.unparsableLine path line)
        | some json => do
            let more ← readLines path (line + 1) rest
            return json.distinct :: more

/-- The documents in a text. -/
def readText
    (request : InputRequest)
    (path text : String) :
    Except InputFault (List Json) :=
  if request.byLine then
    readLines path 1 (Lines.ofText text)
  else
    match Json.read? text with
    | none => .error (.unparsable path)
    | some json => .ok [json.distinct]

/-- Each document replaced by what a query gives for it, in order. -/
def queryAll
    (query : Json → Option (List Json))
    (path : String) :
    List Json →
    Except InputFault (List Json)
  | [] => .ok []
  | json :: rest =>
      match query json with
      | none => .error (.failedQuery path)
      | some found => do
          let more ← queryAll query path rest
          return found ++ more

/-- Documents with their origins; a number tells several of one path apart. -/
def withOrigins
    (path : String)
    (documents : List Json) :
    List InputDocument :=
  match documents with
  | [only] => [⟨path, only⟩]
  | several => several.zipIdx.map fun entry =>
      ⟨path ++ "#" ++ toString entry.2, entry.1⟩

/-- The documents of one path. -/
def loadPath
    (request : InputRequest)
    (language : QueryLanguage)
    (tree : FileTree)
    (path : String) :
    Except InputFault (List InputDocument) := do
  let text ← (tree.read path).mapError (.unreadable path)
  let documents ← request.readText path text
  let found ←
    match request.query with
    | none => pure documents
    | some query => queryAll (language query) path documents
  return withOrigins path found

/-- The documents of several paths, in order. -/
def loadPaths
    (request : InputRequest)
    (language : QueryLanguage)
    (tree : FileTree) :
    List String →
    Except InputFault (List InputDocument)
  | [] => .ok []
  | path :: rest => do
      let found ← request.loadPath language tree path
      let more ← request.loadPaths language tree rest
      return found ++ more

/-- All documents that a request asks for. -/
def load
    (request : InputRequest)
    (language : QueryLanguage)
    (tree : FileTree) :
    Except InputFault (List InputDocument) := do
  let paths ← resolveAll tree request.paths
  request.loadPaths language tree paths

end InputRequest

end CallGuard
