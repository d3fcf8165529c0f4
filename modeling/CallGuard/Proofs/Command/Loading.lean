import CallGuard.Command.Input
import CallGuard.Proofs.Result
import CallGuard.Query.Reader
import Mathlib

namespace CallGuard

/-!
# Loading neither loses nor reorders documents

A file given by its path alone contributes the documents that are written in it, in
their order, each replaced by what the query gives for it.  What it contributes does not
depend on the other files.  So the documents of a request are the contributions of its
files, one after another, and loading fails as the first file that contributes nothing.
-/

/-- A document is what all of a text says. -/
def Json.Written (text : String) (document : Json) : Prop :=
  ∃ json, Json.read? text = some json ∧ json.distinct = document

namespace InputRequest

variable {request : InputRequest} {language : QueryLanguage}

/-- A line that nothing is wrong with: it is blank or holds a document. -/
def ReadableLine (line : String) : Prop :=
  Lines.isBlank line = true ∨ ∃ document, Json.Written line document

/--
The texts in a file that a document each is written in: all of it, or every line that is
not blank.
-/
def documentTexts
    (request : InputRequest)
    (text : String) :
    List String :=
  if request.byLine then
    (Lines.ofText text).filter fun line => !Lines.isBlank line
  else
    [text]

/-- What takes the place of a document. -/
def outputs?
    (request : InputRequest)
    (language : QueryLanguage)
    (document : Json) :
    Option (List Json) :=
  match request.query with
  | none => some [document]
  | some query => language query document

/-- What the document at an index is known by, among several of one path. -/
def originAmong (path : String) (count index : Nat) : String :=
  if count = 1 then path else path ++ "#" ++ toString index

/-- A file can be read, with every document in it, and the query does not fail for any. -/
def Loads
    (request : InputRequest)
    (language : QueryLanguage)
    (tree : FileTree)
    (path : String) :
    Prop :=
  ∃ text,
    tree.read path = .ok text ∧
      ∀ written ∈ request.documentTexts text,
        ∃ document,
          Json.Written written document ∧
            ∃ output, request.outputs? language document = some output

/-- What a path contributes. -/
def Contributes
    (request : InputRequest)
    (language : QueryLanguage)
    (tree : FileTree)
    (path : String)
    (contribution : List InputDocument) :
    Prop :=
  ∃ text documents outputs,
    tree.read path = .ok text ∧
      List.Forall₂ Json.Written (request.documentTexts text) documents ∧
      List.Forall₂ (fun document output => request.outputs? language document = some output)
        documents outputs ∧
      outputs.flatten.mapIdx
          (fun index json => ⟨originAmong path outputs.flatten.length index, json⟩) =
        contribution

/-- What is wrong with a path that contributes nothing. -/
inductive Spoils
    (request : InputRequest)
    (language : QueryLanguage)
    (tree : FileTree)
    (path : String) :
    InputFault → Prop where
  | unreadable {fault : FileFault} :
      tree.read path = .error fault →
      Spoils request language tree path (.unreadable path fault)
  /-- The text is no document. -/
  | text {text : String} :
      tree.read path = .ok text →
      request.byLine = false →
      (∀ document, ¬Json.Written text document) →
      Spoils request language tree path (.unparsable path)
  /-- A line is no document; all lines before it count, the blank ones too. -/
  | line {text line : String} {before after : List String} :
      tree.read path = .ok text →
      request.byLine = true →
      Lines.ofText text = before ++ line :: after →
      (∀ other ∈ before, ReadableLine other) →
      ¬ReadableLine line →
      Spoils request language tree path (.unparsableLine path (before.length + 1))
  /-- All documents can be read, but the query fails for one of them. -/
  | query {text : String} {documents : List Json} {document : Json} :
      tree.read path = .ok text →
      List.Forall₂ Json.Written (request.documentTexts text) documents →
      document ∈ documents →
      request.outputs? language document = none →
      Spoils request language tree path (.failedQuery path)

/-! ## Reading a text -/

theorem not_written_iff {text : String} :
    (∀ document, ¬Json.Written text document) ↔ Json.read? text = none := by
  unfold Json.Written
  cases Json.read? text with
  | none =>
      simp
  | some json =>
      simp

theorem readLines_eq_ok_iff
    {path : String}
    {number : Nat}
    {lines : List String}
    {documents : List Json} :
    readLines path number lines = .ok documents ↔
      List.Forall₂ Json.Written (lines.filter fun line => !Lines.isBlank line) documents := by
  induction lines generalizing number documents with
  | nil =>
      rw [readLines, List.filter_nil, List.forall₂_nil_left_iff, Except.ok.injEq, eq_comm]
  | cons line rest inductionHypothesis =>
      rw [readLines]
      cases blank : Lines.isBlank line with
      | true =>
          simp only [↓reduceIte, inductionHypothesis, List.filter_cons, blank, Bool.not_true,
            Bool.false_eq_true]
      | false =>
          simp only [Bool.false_eq_true, ↓reduceIte, List.filter_cons, blank, Bool.not_false,
            List.forall₂_cons_left_iff, Json.Written]
          cases Json.read? line with
          | none =>
              simp
          | some json =>
              simp only [Result.bind_eq_ok_iff, Result.pure_eq_ok_iff, inductionHypothesis,
                Option.some.injEq, exists_eq_left']
              constructor
              · rintro ⟨others, restWritten, rfl⟩
                exact ⟨_, others, rfl, restWritten, rfl⟩
              · rintro ⟨-, others, rfl, restWritten, rfl⟩
                exact ⟨others, restWritten, rfl⟩

/-- A readable line is passed over when it comes to what is wrong. -/
theorem readLines_cons_of_readable
    {path : String}
    {number : Nat}
    {line : String}
    (readable : ReadableLine line)
    (rest : List String)
    (fault : InputFault) :
    readLines path number (line :: rest) = .error fault ↔
      readLines path (number + 1) rest = .error fault := by
  rw [readLines]
  cases blank : Lines.isBlank line with
  | true =>
      rfl
  | false =>
      rcases readable with isBlank | ⟨-, json, isJson, rfl⟩
      · rw [blank] at isBlank
        cases isBlank
      · simp only [isJson, Bool.false_eq_true, ↓reduceIte, Result.bind_eq_error_iff]
        exact or_iff_left fun ⟨others, _, never⟩ => by cases never

theorem readLines_cons_of_unreadable
    {line : String}
    (unreadable : ¬ReadableLine line)
    (path : String)
    (number : Nat)
    (rest : List String) :
    readLines path number (line :: rest) = .error (.unparsableLine path number) := by
  obtain ⟨notBlank, notWritten⟩ := not_or.mp unreadable
  rw [readLines, if_neg notBlank, not_written_iff.mp (not_exists.mp notWritten)]

/-- Reading lines fails at the first unreadable one, which goes by its number among all. -/
theorem readLines_eq_error_iff
    {path : String}
    {number : Nat}
    {lines : List String}
    {fault : InputFault} :
    readLines path number lines = .error fault ↔
      ∃ before line after,
        lines = before ++ line :: after ∧
          (∀ other ∈ before, ReadableLine other) ∧
          ¬ReadableLine line ∧
          .unparsableLine path (before.length + number) = fault := by
  induction lines generalizing number with
  | nil =>
      simp [readLines]
  | cons line rest inductionHypothesis =>
      by_cases readable : ReadableLine line
      · rw [readLines_cons_of_readable readable, inductionHypothesis]
        constructor
        · rintro ⟨before, other, after, rfl, earlier, unreadable, rfl⟩
          refine ⟨line :: before, other, after, rfl,
            List.forall_mem_cons.mpr ⟨readable, earlier⟩, unreadable, ?_⟩
          rw [List.length_cons, Nat.add_right_comm, Nat.add_assoc]
        · rintro ⟨before, other, after, shape, earlier, unreadable, rfl⟩
          cases before with
          | nil =>
              cases shape
              exact absurd readable unreadable
          | cons first others =>
              cases shape
              refine ⟨others, other, after, rfl, (List.forall_mem_cons.mp earlier).2,
                unreadable, ?_⟩
              rw [List.length_cons, Nat.add_right_comm, Nat.add_assoc]
      · rw [readLines_cons_of_unreadable readable, Except.error.injEq]
        constructor
        · rintro rfl
          exact ⟨[], line, rest, rfl, List.forall_mem_nil _, readable, by simp⟩
        · rintro ⟨before, other, after, shape, earlier, unreadable, rfl⟩
          cases before with
          | nil =>
              simp
          | cons first others =>
              cases shape
              exact absurd (List.forall_mem_cons.mp earlier).1 readable

theorem readText_eq_ok_iff
    {path text : String}
    {documents : List Json} :
    request.readText path text = .ok documents ↔
      List.Forall₂ Json.Written (request.documentTexts text) documents := by
  rw [readText, documentTexts]
  split
  case isTrue byLine =>
    exact readLines_eq_ok_iff
  case isFalse whole =>
    simp only [List.forall₂_cons_left_iff, List.forall₂_nil_left_iff, Json.Written]
    cases Json.read? text with
    | none =>
        simp
    | some json =>
        simp [eq_comm]

theorem readText_eq_error_iff
    {path text : String}
    {fault : InputFault} :
    request.readText path text = .error fault ↔
      request.byLine = false ∧
          (∀ document, ¬Json.Written text document) ∧
          .unparsable path = fault ∨
        request.byLine = true ∧
          ∃ before line after,
            Lines.ofText text = before ++ line :: after ∧
              (∀ other ∈ before, ReadableLine other) ∧
              ¬ReadableLine line ∧
              .unparsableLine path (before.length + 1) = fault := by
  rw [readText]
  split
  case isTrue byLine =>
    simp [byLine, readLines_eq_error_iff]
  case isFalse whole =>
    rw [not_written_iff]
    cases Json.read? text with
    | none =>
        simp [whole]
    | some json =>
        simp [whole]

/-! ## What a path contributes -/

theorem queryAll_cons
    (query : Json → Option (List Json))
    (path : String)
    (document : Json)
    (rest : List Json) :
    queryAll query path (document :: rest) = do
      let output ← (query document).elim (.error (.failedQuery path)) .ok
      let others ← queryAll query path rest
      return output ++ others := by
  rw [queryAll]
  cases query document <;> rfl

theorem queryAll_eq_ok_iff
    {query : Json → Option (List Json)}
    {path : String}
    {documents found : List Json} :
    queryAll query path documents = .ok found ↔
      ∃ outputs,
        List.Forall₂ (fun document output => query document = some output)
            documents outputs ∧
          outputs.flatten = found := by
  rw [Result.gatherAll_eq_ok_iff
    (fun document => (query document).elim (.error (.failedQuery path)) .ok)
    (queryAll query path) rfl (queryAll_cons query path)]
  have answered (document : Json) (output : List Json) :
      (query document).elim (Except.error (InputFault.failedQuery path)) Except.ok =
          .ok output ↔
        query document = some output := by
    cases query document <;> simp
  simp only [answered]

theorem queryAll_eq_error_iff
    {query : Json → Option (List Json)}
    {path : String}
    {documents : List Json}
    {fault : InputFault} :
    queryAll query path documents = .error fault ↔
      (∃ document ∈ documents, query document = none) ∧ .failedQuery path = fault := by
  induction documents with
  | nil =>
      simp [queryAll]
  | cons document rest inductionHypothesis =>
      rw [queryAll_cons]
      cases answer : query document with
      | none =>
          simp [answer, Result.bind_eq_error_iff]
      | some output =>
          have passedOver :
              (∃ other ∈ document :: rest, query other = none) ↔
                ∃ other ∈ rest, query other = none := by
            simp [answer]
          rw [passedOver, ← inductionHypothesis]
          simp only [Option.elim_some, Result.bind_eq_error_iff, Except.ok.injEq,
            exists_eq_left', reduceCtorEq, false_or, pure, Except.pure, and_false,
            exists_const, or_false]

/-- Without a query every document takes its own place. -/
theorem queryAll_outputs?_of_none
    (noQuery : request.query = none)
    (path : String)
    (documents : List Json) :
    queryAll (request.outputs? language) path documents = .ok documents := by
  induction documents with
  | nil =>
      rfl
  | cons document rest inductionHypothesis =>
      rw [queryAll_cons, inductionHypothesis, outputs?, noQuery]
      rfl

/-- The only document of a path is known by the path, others by their places as well. -/
theorem withOrigins_eq_mapIdx
    (path : String)
    (found : List Json) :
    withOrigins path found =
      found.mapIdx fun index json => ⟨originAmong path found.length index, json⟩ := by
  unfold withOrigins
  split
  case h_1 only =>
    rfl
  case h_2 several =>
    have notOne : found.length ≠ 1 := by
      intro single
      obtain ⟨only, rfl⟩ := List.length_eq_one_iff.mp single
      exact several only rfl
    simp only [originAmong, if_neg notOne, List.mapIdx_eq_zipIdx_map]

/-- What is read from a file goes through the query and is put under its origins. -/
theorem loadPath_of_read
    {tree : FileTree}
    {path text : String}
    (isText : tree.read path = .ok text) :
    request.loadPath language tree path = do
      let documents ← request.readText path text
      let found ← queryAll (request.outputs? language) path documents
      return withOrigins path found := by
  rw [loadPath, isText]
  cases isQuery : request.query with
  | none =>
      simp only [queryAll_outputs?_of_none isQuery]
      rfl
  | some query =>
      have outputs : request.outputs? language = language query := by
        funext document
        rw [outputs?, isQuery]
      rw [outputs]
      rfl

theorem loadPath_eq_ok_iff
    {tree : FileTree}
    {path : String}
    {contribution : List InputDocument} :
    request.loadPath language tree path = .ok contribution ↔
      request.Contributes language tree path contribution := by
  unfold Contributes
  cases isText : tree.read path with
  | error fault =>
      simp [loadPath, isText, Except.mapError, bind, Except.bind]
  | ok text =>
      simp only [loadPath_of_read isText, Result.bind_eq_ok_iff, Result.pure_eq_ok_iff,
        readText_eq_ok_iff, queryAll_eq_ok_iff, withOrigins_eq_mapIdx, Except.ok.injEq]
      constructor
      · rintro ⟨documents, written, -, ⟨outputs, replaced, rfl⟩, rfl⟩
        exact ⟨text, documents, outputs, rfl, written, replaced, rfl⟩
      · rintro ⟨other, documents, outputs, rfl, written, replaced, rfl⟩
        exact ⟨documents, written, _, ⟨outputs, replaced, rfl⟩, rfl⟩

theorem loadPath_eq_error_iff
    {tree : FileTree}
    {path : String}
    {fault : InputFault} :
    request.loadPath language tree path = .error fault ↔
      request.Spoils language tree path fault := by
  constructor
  · intro failed
    cases isText : tree.read path with
    | error unread =>
        rw [loadPath, isText] at failed
        cases failed
        exact .unreadable isText
    | ok text =>
        rw [loadPath_of_read isText, Result.bind_eq_error_iff] at failed
        rcases failed with inText | ⟨documents, isRead, later⟩
        · rcases readText_eq_error_iff.mp inText with
            ⟨whole, unwritten, rfl⟩ |
            ⟨byLine, before, line, after, shape, earlier, unreadable, rfl⟩
          · exact .text isText whole unwritten
          · exact .line isText byLine shape earlier unreadable
        · rcases Result.bind_eq_error_iff.mp later with inQuery | ⟨found, -, never⟩
          · obtain ⟨⟨document, member, fails⟩, rfl⟩ := queryAll_eq_error_iff.mp inQuery
            exact .query isText (readText_eq_ok_iff.mp isRead) member fails
          · cases never
  · intro spoils
    cases spoils with
    | unreadable unread =>
        rw [loadPath, unread]
        rfl
    | text isText whole unwritten =>
        rw [loadPath_of_read isText, Result.bind_eq_error_iff]
        exact .inl (readText_eq_error_iff.mpr (.inl ⟨whole, unwritten, rfl⟩))
    | line isText byLine shape earlier unreadable =>
        rw [loadPath_of_read isText, Result.bind_eq_error_iff]
        exact .inl (readText_eq_error_iff.mpr
          (.inr ⟨byLine, _, _, _, shape, earlier, unreadable, rfl⟩))
    | query isText written member fails =>
        have inQuery :
            queryAll (request.outputs? language) path _ = .error (.failedQuery path) :=
          queryAll_eq_error_iff.mpr ⟨⟨_, member, fails⟩, rfl⟩
        rw [loadPath_of_read isText]
        exact Result.bind_eq_error_iff.mpr (.inr ⟨_, readText_eq_ok_iff.mpr written,
          Result.bind_eq_error_iff.mpr (.inl inQuery)⟩)

/-- A path contributes something exactly if nothing of it is lost on the way. -/
theorem loads_iff
    {tree : FileTree}
    {path : String} :
    request.Loads language tree path ↔
      ∃ contribution, request.Contributes language tree path contribution := by
  constructor
  · rintro ⟨text, isText, each⟩
    obtain ⟨documents, read⟩ := Result.exists_readAll each
    have answered :
        ∀ document ∈ documents, ∃ output, request.outputs? language document = some output :=
      (Result.forall_of_readAll read fun _ _ _ both => ⟨trivial, both.2⟩).2
    obtain ⟨outputs, replaced⟩ := Result.exists_readAll answered
    exact ⟨_, text, documents, outputs, isText, read.imp fun _ _ both => both.1, replaced,
      rfl⟩
  · rintro ⟨-, text, documents, outputs, isText, allWritten, replaced, -⟩
    refine ⟨text, isText, fun written member => ?_⟩
    obtain ⟨document, among, isWritten⟩ := Result.exists_of_mem_readAll allWritten member
    obtain ⟨output, -, answer⟩ := Result.exists_of_mem_readAll replaced among
    exact ⟨document, isWritten, output, answer⟩

/-! ## Several paths -/

theorem resolveAll_of_literal
    (tree : FileTree)
    {paths : List String}
    (literal : ∀ path ∈ paths, Glob.isPattern path = false) :
    resolveAll tree paths = .ok paths := by
  induction paths with
  | nil =>
      rfl
  | cons path rest inductionHypothesis =>
      obtain ⟨first, others⟩ := List.forall_mem_cons.mp literal
      rw [resolveAll, inductionHypothesis others, resolve, first]
      rfl

theorem load_of_literal
    (tree : FileTree)
    (literal : ∀ path ∈ request.paths, Glob.isPattern path = false) :
    request.load language tree = request.loadPaths language tree request.paths := by
  rw [load, resolveAll_of_literal tree literal]
  rfl

theorem loadPaths_eq_ok_iff
    {tree : FileTree}
    {paths : List String}
    {loaded : List InputDocument} :
    request.loadPaths language tree paths = .ok loaded ↔
      ∃ contributions,
        List.Forall₂ (request.Contributes language tree) paths contributions ∧
          contributions.flatten = loaded := by
  rw [Result.gatherAll_eq_ok_iff (request.loadPath language tree)
    (request.loadPaths language tree) rfl fun _ _ => rfl]
  simp only [loadPath_eq_ok_iff]

theorem loadPaths_eq_error_iff
    {tree : FileTree}
    {paths : List String}
    {fault : InputFault} :
    request.loadPaths language tree paths = .error fault ↔
      Result.FirstStop (request.Loads language tree)
        (request.Spoils language tree · fault) paths := by
  rw [Result.gatherAll_eq_error_iff (request.loadPath language tree)
    (request.loadPaths language tree) rfl fun _ _ => rfl]
  simp only [loadPath_eq_ok_iff, loadPath_eq_error_iff, ← loads_iff]

/--
Paths without wildcards load exactly if every file can be read, every text in it that
should be a document is one, and the query fails for none of these.  What is loaded are
then the documents of one path after another, in the order in which they are written,
each with what the query gives in its place.  The only document of a path goes by the
path, others by the path and their place among all of it.  Otherwise nothing is loaded,
and the fault is that of the first path with one; a line is told by its number among all
lines of the file.
-/
theorem load_literal_paths
    (request : InputRequest)
    (literal : ∀ path ∈ request.paths, Glob.isPattern path = false)
    (language : QueryLanguage)
    (tree : FileTree) :
    ((∃ loaded, request.load language tree = .ok loaded) ↔
        ∀ path ∈ request.paths, request.Loads language tree path) ∧
      (∀ loaded,
        request.load language tree = .ok loaded ↔
          ∃ contributions,
            List.Forall₂ (request.Contributes language tree) request.paths contributions ∧
              contributions.flatten = loaded) ∧
      ∀ fault,
        request.load language tree = .error fault ↔
          Result.FirstStop (request.Loads language tree)
            (request.Spoils language tree · fault) request.paths := by
  simp only [load_of_literal tree literal, loadPaths_eq_ok_iff, loadPaths_eq_error_iff,
    implies_true, and_true]
  constructor
  · rintro ⟨loaded, contributions, all, rfl⟩
    exact fun path member =>
      loads_iff.mpr ((Result.exists_of_mem_readAll all member).imp fun _ found => found.2)
  · intro allLoad
    obtain ⟨contributions, all⟩ :=
      Result.exists_readAll fun path member => loads_iff.mp (allLoad path member)
    exact ⟨_, contributions, all, rfl⟩

/-- Two files with a document on every line that is not blank, and one with a bad line. -/
def linedFiles : FileTree where
  files := [(["a"], "[\"x\", null]\n \n[]\n"), (["b"], "[true]"), (["c"], "[]\n\nnul\n[]")]
  directories := []

/-- The items of all documents on the lines of files. -/
def itemsByLine (paths : List String) : InputRequest :=
  ⟨paths, true, some ".[]"⟩

theorem linedFiles_contributes_a (paths : List String) :
    (itemsByLine paths).Contributes Query.results? linedFiles "a"
      [⟨"a#0", .string "x"⟩, ⟨"a#1", .null⟩] := by
  have texts :
      (itemsByLine paths).documentTexts "[\"x\", null]\n \n[]\n" = ["[\"x\", null]", "[]"] := by
    cbv
  refine ⟨_, [.array [.string "x", .null], .array []], [[.string "x", .null], []],
    by cbv, ?_, ?_, by cbv⟩
  · rw [texts]
    exact .cons ⟨_, by cbv, rfl⟩ (.cons ⟨_, by cbv, rfl⟩ .nil)
  · exact .cons (by cbv) (.cons (by cbv) .nil)

theorem linedFiles_contributes_b (paths : List String) :
    (itemsByLine paths).Contributes Query.results? linedFiles "b" [⟨"b", .bool true⟩] := by
  have texts : (itemsByLine paths).documentTexts "[true]" = ["[true]"] := by
    cbv
  refine ⟨_, [.array [.bool true]], [[.bool true]], by cbv, ?_, ?_, by cbv⟩
  · rw [texts]
    exact .cons ⟨_, by cbv, rfl⟩ .nil
  · exact .cons (by cbv) .nil

theorem linedFiles_spoils_c (paths : List String) :
    (itemsByLine paths).Spoils Query.results? linedFiles "c" (.unparsableLine "c" 3) := by
  have shape : Lines.ofText "[]\n\nnul\n[]" = ["[]", ""] ++ "nul" :: ["[]"] := by
    cbv
  refine .line (by cbv) rfl shape ?_ ?_
  · exact List.forall_mem_cons.mpr ⟨.inr ⟨_, _, by cbv, rfl⟩,
      List.forall_mem_cons.mpr ⟨.inl (by cbv), List.forall_mem_nil _⟩⟩
  · exact not_or.mpr
      ⟨Bool.eq_false_iff.mp (by cbv), not_exists.mpr (not_written_iff.mpr (by cbv))⟩

/--
Of the first file no item is lost to the blank line or to the empty list, and the places
are counted through.  The bad line of the third file is the third one, after a blank one.
-/
theorem linedFiles_load_literal_paths :
    (itemsByLine ["a", "b"]).load Query.results? linedFiles =
        .ok [⟨"a#0", .string "x"⟩, ⟨"a#1", .null⟩, ⟨"b", .bool true⟩] ∧
      (itemsByLine ["b", "c", "a"]).load Query.results? linedFiles =
        .error (.unparsableLine "c" 3) := by
  obtain ⟨-, loads, -⟩ :=
    load_literal_paths (itemsByLine ["a", "b"]) (by decide) Query.results? linedFiles
  obtain ⟨-, -, fails⟩ :=
    load_literal_paths (itemsByLine ["b", "c", "a"]) (by decide) Query.results? linedFiles
  constructor
  · exact (loads _).mpr ⟨_,
      .cons (linedFiles_contributes_a _) (.cons (linedFiles_contributes_b _) .nil), rfl⟩
  · exact (fails _).mpr ⟨["b"], "c", ["a"], rfl,
      by simpa using loads_iff.mpr ⟨_, linedFiles_contributes_b _⟩, linedFiles_spoils_c _⟩

end InputRequest

end CallGuard
