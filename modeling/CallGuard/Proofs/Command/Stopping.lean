import CallGuard.Command.Check
import CallGuard.Proofs.Command.Loading

namespace CallGuard

/-!
# Stopping at the first failure

A run that stops at the first document that fails reports what a full run reports up to
there.  Nothing after it could turn the verdict, so both runs end with the same exit
code.  The counts of a report are those of its own lines.
-/

namespace Report

/-- A line that tells of a document that passed. -/
def isPassLine (line : String) : Bool :=
  "ok ".toList.isPrefixOf line.toList

/-- A line that tells of a document that failed. -/
def isFailLine (line : String) : Bool :=
  "FAIL ".toList.isPrefixOf line.toList

/-- The lines before the first one that tells of a failure, and that one if there is one. -/
def throughFirstFailure (lines : List String) : List String :=
  (lines.takeWhile fun line => !isFailLine line) ++ (lines.find? isFailLine).toList

/-- The counts of a report are the numbers of its lines of either kind. -/
def CountsItsLines (report : Report) : Prop :=
  report.errors =
    [s!"{report.output.countP isPassLine} passed, {report.output.countP isFailLine} failed"]

end Report

namespace Binder

/-- A document of a call that no checker refuses. -/
def Accepts
    (binder : Binder)
    (json : Json) :
    Prop :=
  ∃ call, CallArguments.ofJson json = .ok call ∧ binder.enforce call = .ok ()

/-- What a line tells of a document. -/
inductive Tells
    (binder : Binder)
    (document : InputDocument) :
    String → Prop where
  | passed :
      binder.Accepts document.json →
      Tells binder document ("ok " ++ document.origin)
  | notACall {fault : DocumentFault} :
      CallArguments.ofJson document.json = .error fault →
      Tells binder document
        ("FAIL " ++ document.origin ++ ": " ++ ("invalid call document: " ++ fault.message))
  | refused {call : CallArguments} {failure : ArgumentFailure} :
      CallArguments.ofJson document.json = .ok call →
      binder.enforce call = .error failure →
      Tells binder document ("FAIL " ++ document.origin ++ ": " ++ failure.message)

/--
The reports of two runs on the same documents, of which the first stops at the first
document that fails and the second does not.
-/
structure StopsShort
    (binder : Binder)
    (documents : List InputDocument)
    (stopped full : Report) :
    Prop where
  oneLineEach : List.Forall₂ binder.Tells documents full.output
  throughFailure : stopped.output = Report.throughFirstFailure full.output
  sameExit : stopped.verdict.exitCode = full.verdict.exitCode
  exitCode_eq_zero_iff :
    full.verdict.exitCode = 0 ↔ ∀ document ∈ documents, binder.Accepts document.json
  stoppedCounts : stopped.CountsItsLines
  fullCounts : full.CountsItsLines

end Binder

/-! ## One document -/

@[simp]
theorem CallFault.message_document (fault : DocumentFault) :
    (CallFault.document fault).message = "invalid call document: " ++ fault.message :=
  rfl

@[simp]
theorem CallFault.message_argument (failure : ArgumentFailure) :
    (CallFault.argument failure).message = failure.message :=
  rfl

namespace DocumentOutcome

@[simp]
theorem line_ok
    (origin : String)
    (accepted : Unit) :
    line ⟨origin, .ok accepted⟩ = "ok " ++ origin :=
  rfl

@[simp]
theorem line_error
    (origin : String)
    (fault : CallFault) :
    line ⟨origin, .error fault⟩ = "FAIL " ++ origin ++ ": " ++ fault.message :=
  rfl

theorem isPassLine_line (outcome : DocumentOutcome) :
    Report.isPassLine outcome.line = outcome.isPassed := by
  rcases outcome with ⟨origin, fault | accepted⟩
  · simp [Report.isPassLine, isPassed, List.isPrefixOf]
  · simp [Report.isPassLine, isPassed, List.isPrefixOf]

theorem isFailLine_line (outcome : DocumentOutcome) :
    Report.isFailLine outcome.line = !outcome.isPassed := by
  rcases outcome with ⟨origin, fault | accepted⟩
  · simp [Report.isFailLine, isPassed, List.isPrefixOf]
  · simp [Report.isFailLine, isPassed, List.isPrefixOf]

end DocumentOutcome

namespace Binder

variable {binder : Binder}

theorem isPassed_outcome_iff {document : InputDocument} :
    (binder.outcome document).isPassed = true ↔ binder.Accepts document.json := by
  rw [outcome, DocumentOutcome.isPassed, checkDocument, Accepts]
  cases CallArguments.ofJson document.json with
  | error fault =>
      simp
  | ok call =>
      cases enforced : binder.enforce call with
      | error failure =>
          simp [Except.mapError, enforced]
      | ok passed =>
          simp [Except.mapError, enforced]

theorem tells_outcome
    (binder : Binder)
    (document : InputDocument) :
    binder.Tells document (binder.outcome document).line := by
  cases isCall : CallArguments.ofJson document.json with
  | error fault =>
      have line :
          (binder.outcome document).line =
            "FAIL " ++ document.origin ++ ": " ++
              ("invalid call document: " ++ fault.message) := by
        simp only [outcome, checkDocument, isCall, DocumentOutcome.line_error,
          CallFault.message_document]
      rw [line]
      exact .notACall isCall
  | ok call =>
      cases enforced : binder.enforce call with
      | error failure =>
          have line :
              (binder.outcome document).line =
                "FAIL " ++ document.origin ++ ": " ++ failure.message := by
            simp only [outcome, checkDocument, isCall, enforced, Except.mapError,
              DocumentOutcome.line_error, CallFault.message_argument]
          rw [line]
          exact .refused isCall enforced
      | ok accepted =>
          have line : (binder.outcome document).line = "ok " ++ document.origin := by
            simp only [outcome, checkDocument, isCall, enforced, Except.mapError,
              DocumentOutcome.line_ok]
          rw [line]
          exact .passed ⟨call, isCall, enforced⟩

end Binder

/-! ## The report on outcomes -/

namespace Report

theorem throughFirstFailure_cons_of_isFailLine
    {line : String}
    {rest : List String}
    (isFail : isFailLine line = true) :
    throughFirstFailure (line :: rest) = [line] := by
  simp [throughFirstFailure, isFail]

theorem throughFirstFailure_cons_of_not_isFailLine
    {line : String}
    {rest : List String}
    (isFail : isFailLine line = false) :
    throughFirstFailure (line :: rest) = line :: throughFirstFailure rest := by
  simp [throughFirstFailure, isFail]

variable {outcomes : List DocumentOutcome}

theorem countP_isPassLine :
    (outcomes.map DocumentOutcome.line).countP isPassLine =
      outcomes.countP DocumentOutcome.isPassed := by
  rw [List.countP_map]
  exact List.countP_congr fun outcome _ => by simp [outcome.isPassLine_line]

theorem countP_isFailLine :
    (outcomes.map DocumentOutcome.line).countP isFailLine =
      outcomes.countP fun outcome => !outcome.isPassed := by
  rw [List.countP_map]
  exact List.countP_congr fun outcome _ => by simp [outcome.isFailLine_line]

/-- What is left of the outcomes without those that failed are those that passed. -/
theorem countsItsLines_ofOutcomes : (ofOutcomes outcomes).CountsItsLines := by
  have both :
      outcomes.length =
        outcomes.countP DocumentOutcome.isPassed +
          outcomes.countP fun outcome => !outcome.isPassed := by
    simpa using List.length_eq_countP_add_countP DocumentOutcome.isPassed (l := outcomes)
  simp only [CountsItsLines, ofOutcomes, countP_isPassLine, countP_isFailLine]
  rw [both, Nat.add_sub_cancel]

theorem exitCode_ofOutcomes :
    (ofOutcomes outcomes).verdict.exitCode =
      if ∀ outcome ∈ outcomes, outcome.isPassed = true then 0 else 1 := by
  have noneFailed :
      (outcomes.countP fun outcome => !outcome.isPassed) = 0 ↔
        ∀ outcome ∈ outcomes, outcome.isPassed = true := by
    simp [List.countP_eq_zero]
  simp only [ofOutcomes, noneFailed]
  split <;> rfl

end Report

/-! ## Two runs -/

namespace Binder

variable {binder : Binder} {documents : List InputDocument}

theorem lines_outcomesToFailure :
    (binder.outcomesToFailure documents).map DocumentOutcome.line =
      Report.throughFirstFailure
        ((binder.allOutcomes documents).map DocumentOutcome.line) := by
  -- Whether the run stops at a document is whether its line tells of a failure.
  induction documents with
  | nil =>
      rfl
  | cons document rest inductionHypothesis =>
      have isFail := (binder.outcome document).isFailLine_line
      cases passed : (binder.outcome document).isPassed with
      | false =>
          rw [passed] at isFail
          simp [outcomesToFailure, allOutcomes, passed,
            Report.throughFirstFailure_cons_of_isFailLine isFail]
      | true =>
          rw [passed] at isFail
          simpa [outcomesToFailure, allOutcomes, passed,
            Report.throughFirstFailure_cons_of_not_isFailLine isFail]
            using inductionHypothesis

/-- A run that stops has met the failure that a full run meets. -/
theorem outcomesToFailure_passed_iff :
    (∀ outcome ∈ binder.outcomesToFailure documents, outcome.isPassed = true) ↔
      ∀ outcome ∈ binder.allOutcomes documents, outcome.isPassed = true := by
  induction documents with
  | nil =>
      rfl
  | cons document rest inductionHypothesis =>
      cases passed : (binder.outcome document).isPassed with
      | false =>
          simp [outcomesToFailure, allOutcomes, passed]
      | true =>
          simpa [outcomesToFailure, allOutcomes, passed] using inductionHypothesis

theorem stopsShort_report
    (binder : Binder)
    (documents : List InputDocument) :
    StopsShort binder documents
      (binder.report true documents)
      (binder.report false documents) where
  oneLineEach := by
    simpa [report, Report.ofOutcomes, allOutcomes, List.forall₂_map_right_iff,
      List.forall₂_same] using fun document _ => binder.tells_outcome document
  throughFailure := lines_outcomesToFailure
  sameExit := by
    simp only [report, Report.exitCode_ofOutcomes, if_true, outcomesToFailure_passed_iff,
      Bool.false_eq_true, if_false]
  exitCode_eq_zero_iff := by
    simp [report, Report.exitCode_ofOutcomes, allOutcomes, isPassed_outcome_iff]
  stoppedCounts := Report.countsItsLines_ofOutcomes
  fullCounts := Report.countsItsLines_ofOutcomes

end Binder

/-! ## The command -/

namespace CheckRequest

/--
Whatever the binder and the documents are, stopping at the first failure only leaves out
the lines behind it; and what the command reports is the report on what it has loaded.
-/
theorem failFast_agrees_with_full_run
    (binder : Binder)
    (documents : List InputDocument) :
    binder.StopsShort documents
        (binder.report true documents)
        (binder.report false documents) ∧
      ∀ (request : CheckRequest) (language : QueryLanguage) (tree : FileTree),
        request.declaration.binder tree = .ok binder →
        request.input.load language tree = .ok documents →
        documents ≠ [] →
        request.runWith language tree = .ok (binder.report request.failFast documents) := by
  refine ⟨binder.stopsShort_report documents, ?_⟩
  intro request language tree declared loaded given
  have notEmpty : documents.isEmpty = false := by
    simpa using given
  simp [runWith, declared, loaded, Except.mapError, notEmpty, bind, Except.bind, pure,
    Except.pure]

/--
A callable of one text, called with a text, by no call document, with none and with a
text again.
-/
def callFiles : FileTree where
  files := [
    (["d"], "[\"typed\", [\"f\", null, [\"x\"]], [\"str\"]]"),
    (["c"], "[[\"a\"]]\nnull\n[[null]]\n[[\"b\"]]")
  ]
  directories := []

/-- The check of the calls in the second file against the declaration in the first. -/
def checkCalls (failFast : Bool) : CheckRequest :=
  ⟨⟨"d", none⟩, ⟨["c"], true, none⟩, failFast⟩

/-- The declaration in the file. -/
def textDeclaration : Declaration :=
  ⟨.typed, ⟨"f", none, [.short "x"]⟩, [.string "str"], []⟩

/-- The documents in the file. -/
def textCalls : List InputDocument := [
  ⟨"c#0", .array [.array [.string "a"]]⟩,
  ⟨"c#1", .null⟩,
  ⟨"c#2", .array [.array [.null]]⟩,
  ⟨"c#3", .array [.array [.string "b"]]⟩
]

theorem load_textDeclaration : callFiles.load Declaration.ofText "d" = .ok textDeclaration := by
  cbv

theorem load_textCalls (failFast : Bool) :
    (checkCalls failFast).input.load Query.results? callFiles = .ok textCalls := by
  have literal : ∀ path ∈ (checkCalls failFast).input.paths, Glob.isPattern path = false := by
    decide +revert
  rw [InputRequest.load_of_literal callFiles literal, InputRequest.loadPaths_eq_ok_iff]
  have texts :
      (checkCalls failFast).input.documentTexts "[[\"a\"]]\nnull\n[[null]]\n[[\"b\"]]" =
        ["[[\"a\"]]", "null", "[[null]]", "[[\"b\"]]"] := by
    cbv
  refine ⟨[textCalls], .cons ⟨_, textCalls.map InputDocument.json, textCalls.map fun call => [call.json],
    by cbv, ?_, ?_, by cbv⟩ .nil, rfl⟩
  · rw [texts]
    exact .cons ⟨_, by cbv, rfl⟩
      (.cons ⟨_, by cbv, rfl⟩ (.cons ⟨_, by cbv, rfl⟩ (.cons ⟨_, by cbv, rfl⟩ .nil)))
  · exact .cons rfl (.cons rfl (.cons rfl (.cons rfl .nil)))

/-- The stopped run leaves out a second failure and a document that passes. -/
theorem callFiles_failFast_agrees_with_full_run :
    ∃ binder : Binder,
      (checkCalls true).declaration.binder callFiles = .ok binder ∧
        binder.StopsShort textCalls
          (binder.report true textCalls)
          (binder.report false textCalls) ∧
        (checkCalls true).runWith Query.results? callFiles =
          .ok {
            verdict := .failed
            output := [
              "ok c#0",
              "FAIL c#1: invalid call document: invalid document: at JSON path . → " ++
                "invalid type: null, expected struct CallDoc"
            ]
            errors := ["1 passed, 1 failed"]
          } ∧
        (checkCalls false).runWith Query.results? callFiles =
          .ok {
            verdict := .failed
            output := [
              "ok c#0",
              "FAIL c#1: invalid call document: invalid document: at JSON path . → " ++
                "invalid type: null, expected struct CallDoc",
              "FAIL c#2: function `f` defined in module `__main__`: argument `x` failed " ++
                "validation: Type of x must be str, not NoneType!",
              "ok c#3"
            ]
            errors := ["2 passed, 2 failed"]
          } := by
  have declared (failFast : Bool) :
      (checkCalls failFast).declaration.binder callFiles =
        (textDeclaration.binder .standard).mapError (.binder "d") := by
    rw [DeclarationRequest.binder]
    simp only [checkCalls, load_textDeclaration]
    rfl
  obtain ⟨short, reported⟩ := failFast_agrees_with_full_run _ textCalls
  refine ⟨_, declared true, short, ?_, ?_⟩
  · exact reported (checkCalls true) _ _ (declared true) (load_textCalls true) (by decide)
  · exact reported (checkCalls false) _ _ (declared false) (load_textCalls false) (by decide)

end CheckRequest

end CallGuard
