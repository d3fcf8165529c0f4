import CallGuard.Command.Input
import CallGuard.Command.Report
import CallGuard.Document.Call
import CallGuard.Query.Reader

namespace CallGuard

/-!
# The commands

One command checks call documents against a declaration, the other shows what a
declaration is compiled to. Both are functions of the files they may read.
-/

/-- Where a declaration and its settings are. -/
structure DeclarationRequest where
  declaration : String
  settings : Option String

/-- Why a command cannot do what it was asked to do. -/
inductive CommandFault where
  | settings (path : String) (fault : LoadFault)
  | declaration (path : String) (fault : LoadFault)
  | binder (path : String) (fault : Declaration.Fault)
  | input (fault : InputFault)
  | noDocuments (paths : List String)

namespace CommandFault

/-- What could not be done. -/
def headline : CommandFault → String
  | .settings path _ => s!"failed to load settings from {path}"
  | .declaration path _ => s!"failed to load declaration {path}"
  | .binder path _ => s!"failed to compile declaration {path}"
  | .input fault => fault.message
  | .noDocuments paths =>
      "no call documents found in " ++ bracketed (paths.map Quoted.diagnostic)

/-- What could not be done, and why. -/
def message (fault : CommandFault) : String :=
  match fault with
  | .settings _ cause => fault.headline ++ ": " ++ cause.message
  | .declaration _ cause => fault.headline ++ ": " ++ cause.message
  | .binder _ cause => fault.headline ++ ": " ++ cause.message
  | .input _ => fault.headline
  | .noDocuments _ => fault.headline

end CommandFault

/-- The binder of a declaration in a file, under the settings in another if there is one. -/
def DeclarationRequest.binder
    (request : DeclarationRequest)
    (tree : FileTree) :
    Except CommandFault Binder := do
  let settings ←
    match request.settings with
    | none => pure Settings.standard
    | some path => (tree.load Settings.ofText path).mapError (.settings path)
  let path := request.declaration
  let declaration ← (tree.load Declaration.ofText path).mapError (.declaration path)
  (declaration.binder settings).mapError (.binder path)

/-- Why a call document is refused. -/
inductive CallFault where
  | document (fault : DocumentFault)
  | argument (failure : ArgumentFailure)

/-- The wording of a fault. -/
def CallFault.message : CallFault → String
  | .document fault => "invalid call document: " ++ fault.message
  | .argument failure => failure.message

/-- Check a call document. -/
def Binder.checkDocument
    (binder : Binder)
    (json : Json) :
    Except CallFault Unit :=
  match CallArguments.ofJson json with
  | .error fault => .error (.document fault)
  | .ok call => (binder.enforce call).mapError .argument

/-- The outcome for one document. -/
structure DocumentOutcome where
  origin : String
  result : Except CallFault Unit

namespace DocumentOutcome

/-- Whether the document passed. -/
def isPassed (outcome : DocumentOutcome) : Bool :=
  match outcome.result with
  | .ok () => true
  | .error _ => false

/-- The line that tells of an outcome. -/
def line (outcome : DocumentOutcome) : String :=
  match outcome.result with
  | .ok () => "ok " ++ outcome.origin
  | .error fault => "FAIL " ++ outcome.origin ++ ": " ++ fault.message

end DocumentOutcome

namespace Binder

/-- The outcome for one document. -/
def outcome
    (binder : Binder)
    (document : InputDocument) :
    DocumentOutcome :=
  ⟨document.origin, binder.checkDocument document.json⟩

/-- The outcomes for all documents. -/
def allOutcomes
    (binder : Binder)
    (documents : List InputDocument) :
    List DocumentOutcome :=
  documents.map binder.outcome

/-- The outcomes up to the first document that fails. -/
def outcomesToFailure (binder : Binder) :
    List InputDocument →
    List DocumentOutcome
  | [] => []
  | document :: rest =>
      let outcome := binder.outcome document
      if outcome.isPassed then
        outcome :: binder.outcomesToFailure rest
      else
        [outcome]

end Binder

/-- The report on outcomes: a line for each, and their counts. -/
def Report.ofOutcomes (outcomes : List DocumentOutcome) : Report :=
  let failed := outcomes.countP fun outcome => !outcome.isPassed
  let passed := outcomes.length - failed
  {
    verdict := if failed = 0 then .passed else .failed
    output := outcomes.map DocumentOutcome.line
    errors := [s!"{passed} passed, {failed} failed"]
  }

/-- What the checking command is asked to do. -/
structure CheckRequest where
  declaration : DeclarationRequest
  input : InputRequest
  /-- Whether to stop at the first document that fails. -/
  failFast : Bool

/-- The report on loaded documents. -/
def Binder.report
    (binder : Binder)
    (failFast : Bool)
    (documents : List InputDocument) :
    Report :=
  Report.ofOutcomes
    (if failFast then
      binder.outcomesToFailure documents
    else
      binder.allOutcomes documents)

/-- Check all documents that are asked for, with queries of a given language. -/
def CheckRequest.runWith
    (request : CheckRequest)
    (language : QueryLanguage)
    (tree : FileTree) :
    Except CommandFault Report := do
  let binder ← request.declaration.binder tree
  let documents ← (request.input.load language tree).mapError .input
  if documents.isEmpty then
    .error (.noDocuments request.input.paths)
  else
    return binder.report request.failFast documents

/-- Check all documents that are asked for. -/
def CheckRequest.run
    (request : CheckRequest)
    (tree : FileTree) :
    Except CommandFault Report :=
  request.runWith Query.results? tree

/-- The report on a compiled declaration: the callable and the label of each checker. -/
def Binder.listing (binder : Binder) : Report where
  verdict := .passed
  output :=
    s!"{binder.kind.name} `{binder.callable}`"
      :: binder.checkers.map fun entry => s!"  {entry.1}: {entry.2.label}"
  errors := []

/-- Compile a declaration and show what it is compiled to. -/
def DeclarationRequest.run
    (request : DeclarationRequest)
    (tree : FileTree) :
    Except CommandFault Report :=
  (request.binder tree).map Binder.listing

/-- The report of a command, whether it could do what it was asked to do or not. -/
def Report.ofResult : Except CommandFault Report → Report
  | .ok report => report
  | .error fault => Report.broken fault.message

end CallGuard
