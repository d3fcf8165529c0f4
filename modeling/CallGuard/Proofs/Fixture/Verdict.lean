import CallGuard.Fixture.Run
import Mathlib

namespace CallGuard

/-!
# Verdicts on fixtures

A run succeeds exactly if every file holds a fixture that is met: one that claims to be
refused by a fault in its specs, any other by cases that all come out as expected.  The
number of failures that a run reports is the number of cases that come out differently,
and of files that hold no fixture or one whose declaration is not as the fixture says.
-/

/--
An outcome is the expected one.  The name of no kind, or a text that is no pattern, is
met by nothing.
-/
inductive Expected.MetBy (language : PatternLanguage) :
    Expected →
    Except ArgumentFailure Unit →
    Prop where
  | passes :
      MetBy language .passes (.ok ())
  | fails
      {kind : String}
      {argument pattern : Option String}
      {failure : ArgumentFailure} :
      FailureKind.ofName? kind = some failure.cause.kind →
      (∀ expected ∈ argument, failure.argument = expected) →
      (∀ text ∈ pattern,
        ∃ isMatch, language text = some isMatch ∧ isMatch failure.cause.message = true) →
      MetBy language (.fails kind argument pattern) (.error failure)

/-- The call of a case can be read, and its outcome is the expected one. -/
def FixtureCase.MetBy
    (fixtureCase : FixtureCase)
    (language : PatternLanguage)
    (binder : Binder) :
    Prop :=
  ∃ call,
    CallArguments.ofJson fixtureCase.call = .ok call ∧
      fixtureCase.expected.MetBy language (binder.enforce call)

namespace Fixture

/-- A fixture whose declaration and cases all are as it says. -/
inductive Met
    (language : PatternLanguage)
    (fixture : Fixture) :
    Prop where
  | refused {invalid : InvalidSpec} :
      fixture.refused = true →
      fixture.binder = .error (.spec invalid) →
      Met language fixture
  | checked {binder : Binder} :
      fixture.refused = false →
      fixture.binder = .ok binder →
      (∀ fixtureCase ∈ fixture.cases, fixtureCase.MetBy language binder) →
      Met language fixture

end Fixture

/-! ## One case -/

section Cases

variable {language : PatternLanguage} {binder : Binder}

namespace Expected

theorem argumentMismatch?_eq_none_iff
    {argument : Option String}
    {failure : ArgumentFailure} :
    argumentMismatch? argument failure = none ↔
      ∀ expected ∈ argument, failure.argument = expected := by
  cases argument with
  | none =>
      simp [argumentMismatch?]
  | some expected =>
      simp [argumentMismatch?]

theorem messageMismatch?_eq_none_iff
    {pattern : Option String}
    {failure : ArgumentFailure} :
    messageMismatch? language pattern failure = none ↔
      ∀ text ∈ pattern,
        ∃ isMatch, language text = some isMatch ∧ isMatch failure.cause.message = true := by
  cases pattern with
  | none =>
      simp [messageMismatch?]
  | some text =>
      cases compiled : language text with
      | none =>
          simp [messageMismatch?, compiled]
      | some isMatch =>
          simp [messageMismatch?, compiled]

/-- An outcome that is told from the expected one in no way is the expected one. -/
theorem mismatch?_eq_none_iff
    {expected : Expected}
    {outcome : Except ArgumentFailure Unit} :
    expected.mismatch? language outcome = none ↔ expected.MetBy language outcome := by
  constructor
  · intro same
    cases expected with
    | passes =>
        cases outcome with
        | ok accepted => exact .passes
        | error failure => simp [mismatch?] at same
    | fails kind argument pattern =>
        cases outcome with
        | ok accepted => simp [mismatch?] at same
        | error failure =>
            simp only [mismatch?] at same
            split at same
            case h_1 unknown => cases same
            case h_2 known isKnown =>
              split at same
              case isFalse otherKind => cases same
              case isTrue sameKind =>
                split at same
                case h_1 mismatch otherArgument => cases same
                case h_2 sameArgument =>
                  exact .fails (sameKind ▸ isKnown)
                    (argumentMismatch?_eq_none_iff.mp sameArgument)
                    (messageMismatch?_eq_none_iff.mp same)
  · intro met
    cases met with
    | passes => rfl
    | fails isKnown sameArgument sameMessage =>
        simp [mismatch?, isKnown, argumentMismatch?_eq_none_iff.mpr sameArgument,
          messageMismatch?_eq_none_iff.mpr sameMessage]

instance
    (expected : Expected)
    (outcome : Except ArgumentFailure Unit) :
    Decidable (expected.MetBy language outcome) :=
  decidable_of_iff _ mismatch?_eq_none_iff

end Expected

namespace FixtureCase

theorem mismatch?_eq_none_iff {fixtureCase : FixtureCase} :
    fixtureCase.mismatch? language binder = none ↔ fixtureCase.MetBy language binder := by
  unfold mismatch? MetBy
  cases CallArguments.ofJson fixtureCase.call with
  | error fault => simp
  | ok call => simp [Expected.mismatch?_eq_none_iff]

instance (fixtureCase : FixtureCase) :
    Decidable (fixtureCase.MetBy language binder) :=
  decidable_of_iff _ mismatch?_eq_none_iff

end FixtureCase

end Cases

/-! ## What is to be counted -/

namespace Fixture

/-- How many cases that are run come out differently; none are run of a refused fixture. -/
def mismatches
    (language : PatternLanguage)
    (fixture : Fixture) :
    Nat :=
  match fixture.refused, fixture.binder with
  | false, .ok binder =>
      fixture.cases.countP fun fixtureCase => !decide (fixtureCase.MetBy language binder)
  | _, _ => 0

/--
Whether the declaration is not as the fixture says: it compiles although it should be
refused, or it cannot be compiled and that is not the expected refusal.
-/
def isMisdeclared (fixture : Fixture) : Bool :=
  match fixture.binder with
  | .ok _ => fixture.refused
  | .error (.spec _) => !fixture.refused
  | .error (.document _) => true

end Fixture

namespace FileTree

/-- The fixture in a file, if it can be read and holds one. -/
def fixture?
    (tree : FileTree)
    (path : String) :
    Option Fixture := do
  let text ← (tree.read path).toOption
  (Fixture.ofText text).toOption

/-- A file holds a fixture that is met. -/
def MeetsFixture
    (tree : FileTree)
    (language : PatternLanguage)
    (path : String) :
    Prop :=
  ∃ fixture, tree.fixture? path = some fixture ∧ fixture.Met language

/-- How many cases in a file come out differently. -/
def mismatches
    (tree : FileTree)
    (language : PatternLanguage)
    (path : String) :
    Nat :=
  match tree.fixture? path with
  | none => 0
  | some fixture => fixture.mismatches language

/-- Whether a file holds no fixture, or one whose declaration is not as it says. -/
def isUnusable
    (tree : FileTree)
    (path : String) :
    Bool :=
  match tree.fixture? path with
  | none => true
  | some fixture => fixture.isMisdeclared

/-- How many cases in several files come out differently and how many files are unusable. -/
def failures
    (tree : FileTree)
    (language : PatternLanguage)
    (paths : List String) :
    Nat :=
  (paths.map (tree.mismatches language)).sum + paths.countP tree.isUnusable

/-- A report is right about the fixtures in several files. -/
structure Judges
    (tree : FileTree)
    (language : PatternLanguage)
    (paths : List String)
    (report : Report) :
    Prop where
  exitCode_eq_zero_iff :
    report.verdict.exitCode = 0 ↔ ∀ path ∈ paths, tree.MeetsFixture language path
  exitCode_le_one : report.verdict.exitCode ≤ 1
  errors_eq :
    report.errors =
      if tree.failures language paths = 0 then
        [s!"{paths.length} fixtures passed"]
      else
        [s!"{tree.failures language paths} case(s) failed"]

end FileTree

/-! ## One fixture -/

theorem sum_map_toNat
    (isCounted : α → Bool)
    (items : List α) :
    (items.map fun item => (isCounted item).toNat).sum = items.countP isCounted := by
  induction items with
  | nil =>
      rfl
  | cons item rest inductionHypothesis =>
      cases counted : isCounted item with
      | false => simp [counted, inductionHypothesis]
      | true => simp [counted, inductionHypothesis, Nat.add_comm]

namespace Fixture

variable {language : PatternLanguage} {fixture : Fixture}

theorem met_iff :
    fixture.Met language ↔
      fixture.mismatches language = 0 ∧ fixture.isMisdeclared = false := by
  constructor
  · intro met
    cases met with
    | refused isRefused uncompiled =>
        simp [mismatches, isMisdeclared, isRefused, uncompiled]
    | checked notRefused compiled allMet =>
        simpa [mismatches, isMisdeclared, notRefused, compiled, List.countP_eq_zero] using allMet
  · rintro ⟨noMismatch, declared⟩
    unfold isMisdeclared at declared
    split at declared
    case h_1 binder compiled =>
      refine .checked declared compiled ?_
      simpa [mismatches, declared, compiled, List.countP_eq_zero] using noMismatch
    case h_2 invalid uncompiled =>
      exact .refused (by simpa using declared) uncompiled
    case h_3 fault malformed => cases declared

theorem failed_joinTallies (tallies : List Tally) :
    (joinTallies tallies).failed = (tallies.map Tally.failed).sum := by
  rw [joinTallies, List.sum_eq_foldl]

theorem failed_caseTally
    (name : String)
    (index : Nat)
    (fixtureCase : FixtureCase)
    (binder : Binder) :
    (caseTally name index (fixtureCase.mismatch? language binder)).failed =
      (!decide (fixtureCase.MetBy language binder)).toNat := by
  cases compared : fixtureCase.mismatch? language binder with
  | none =>
      have met := FixtureCase.mismatch?_eq_none_iff.mp compared
      simp [caseTally, met]
  | some mismatch =>
      have notMet : ¬ fixtureCase.MetBy language binder := by
        rw [← FixtureCase.mismatch?_eq_none_iff, compared]
        exact Option.some_ne_none mismatch
      simp [caseTally, notMet]

theorem failed_casesTally
    (fixture : Fixture)
    (language : PatternLanguage)
    (name : String)
    (binder : Binder) :
    (fixture.casesTally language name binder).failed =
      fixture.cases.countP fun fixtureCase => !decide (fixtureCase.MetBy language binder) := by
  rw [casesTally, failed_joinTallies, List.map_map, ← sum_map_toNat]
  simp only [Function.comp_def, failed_caseTally]
  -- The place of a case is only told in its line, so it may be forgotten here.
  conv_rhs => rw [← List.zipIdx_map_fst 0 fixture.cases, List.map_map]
  rfl

/-- A fixture counts its mismatches, or once if it cannot be run as it says. -/
theorem failed_tally
    (fixture : Fixture)
    (language : PatternLanguage)
    (path name : String) :
    (Tally.ofResult path (fixture.tally language name)).failed =
      fixture.mismatches language + fixture.isMisdeclared.toNat := by
  unfold tally mismatches isMisdeclared
  cases fixture.binder with
  | ok binder =>
      cases fixture.refused with
      | false => simp [Tally.ofResult, failed_casesTally]
      | true => simp [Tally.ofResult]
  | error fault =>
      cases fault with
      | document fault => cases fixture.refused <;> rfl
      | spec invalid => cases fixture.refused <;> rfl

end Fixture

/-! ## One file -/

namespace FileTree

variable {tree : FileTree} {language : PatternLanguage} {path : String}

theorem meetsFixture_iff :
    tree.MeetsFixture language path ↔
      tree.mismatches language path = 0 ∧ tree.isUnusable path = false := by
  unfold MeetsFixture mismatches isUnusable
  cases tree.fixture? path with
  | none => simp
  | some fixture => simp [Fixture.met_iff]

theorem failed_fixtureTally
    (tree : FileTree)
    (language : PatternLanguage)
    (path : String) :
    (Tally.ofResult path (tree.fixtureTally language path)).failed =
      tree.mismatches language path + (tree.isUnusable path).toNat := by
  unfold fixtureTally mismatches isUnusable fixture?
  cases isText : tree.read path with
  | error fault =>
      rfl
  | ok text =>
      cases isFixture : Fixture.ofText text with
      | error fault =>
          simp [isFixture, Except.mapError, Except.toOption, bind, Except.bind, Tally.ofResult]
      | ok fixture =>
          simpa [isFixture, Except.mapError, Except.toOption, bind, Except.bind]
            using fixture.failed_tally language path (stem path)

/-! ## Several files -/

theorem failures_eq_zero_iff {paths : List String} :
    tree.failures language paths = 0 ↔ ∀ path ∈ paths, tree.MeetsFixture language path := by
  simp only [failures, Nat.add_eq_zero_iff, List.sum_eq_zero_iff_forall_eq_nat,
    List.forall_mem_map, List.countP_eq_zero, Bool.not_eq_true, meetsFixture_iff]
  exact ⟨fun both path member => ⟨both.1 path member, both.2 path member⟩,
    fun each =>
      ⟨fun path member => (each path member).1, fun path member => (each path member).2⟩⟩

/-- The order in which files are run does not matter to their counts. -/
theorem failures_perm
    {paths others : List String}
    (perm : paths.Perm others) :
    tree.failures language paths = tree.failures language others := by
  rw [failures, failures, (perm.map _).sum_eq, perm.countP_eq]

/-- Every file counts on its own, so the counts add up. -/
theorem failed_fixtureTallies (paths : List String) :
    (Fixture.joinTallies
        (paths.map fun path =>
          Tally.ofResult path (tree.fixtureTally language path))).failed =
      tree.failures language paths := by
  rw [Fixture.failed_joinTallies, List.map_map, failures, ← sum_map_toNat,
    ← List.sum_map_add]
  simp only [Function.comp_def, failed_fixtureTally]

theorem judges_reportFixtures
    (tree : FileTree)
    (language : PatternLanguage)
    (paths : List String) :
    tree.Judges language paths (tree.reportFixtures language paths) := by
  have noneFailed :
      tree.failures language paths = 0 ↔ ∀ path ∈ paths, tree.MeetsFixture language path :=
    failures_eq_zero_iff
  unfold reportFixtures
  simp only [failed_fixtureTallies]
  split
  case isTrue none =>
    exact {
      exitCode_eq_zero_iff := iff_of_true rfl (noneFailed.mp none)
      exitCode_le_one := Nat.zero_le 1
      errors_eq := by rw [if_pos none]
    }
  case isFalse some =>
    exact {
      exitCode_eq_zero_iff := iff_of_false Nat.one_ne_zero (mt noneFailed.mpr some)
      exitCode_le_one := Nat.le_refl 1
      errors_eq := by rw [if_neg some]
    }

theorem Judges.perm
    {paths others : List String}
    {report : Report}
    (judges : tree.Judges language others report)
    (perm : paths.Perm others) :
    tree.Judges language paths report where
  exitCode_eq_zero_iff := by
    simpa only [perm.mem_iff] using judges.exitCode_eq_zero_iff
  exitCode_le_one := judges.exitCode_le_one
  errors_eq := by
    simpa only [failures_perm perm, perm.length_eq] using judges.errors_eq

/--
Whatever the files are and whatever patterns match, the verdict on them is right; and a
run gives the verdict on the files that it finds, in whatever order it takes them.
-/
theorem runFixturesWith_judges
    (tree : FileTree)
    (language : PatternLanguage)
    (paths : List String) :
    tree.Judges language paths (tree.reportFixtures language paths) ∧
      ∀ directory,
        tree.glob (fixturePattern directory) = .ok paths →
        paths ≠ [] →
        tree.Judges language paths (tree.runFixturesWith language directory) := by
  refine ⟨tree.judges_reportFixtures language paths, ?_⟩
  intro directory found notEmpty
  have ran :
      tree.runFixturesWith language directory =
        tree.reportFixtures language (sortedPaths paths) := by
    cases paths with
    | nil => exact absurd rfl notEmpty
    | cons path rest => simp only [runFixturesWith, found]
  rw [ran]
  exact (tree.judges_reportFixtures language _).perm (List.mergeSort_perm paths _).symm

/-- A fixture for a callable of one argument with a spec. -/
def fixtureOfSpec
    (family : Family)
    (spec : Json)
    (refused : Bool)
    (cases : List FixtureCase) :
    Fixture :=
  ⟨⟨family, ⟨"f", none, [.short "x"]⟩, [spec], []⟩, none, refused, cases⟩

/-- Fixtures that are met: a call that passes and one that fails, and a refused spec. -/
def metFixtures : FileTree where
  files := [
    (["a.json"],
      "[[\"typed\", [\"f\", null, [\"x\"]], [\"str\"]], null, false, [[[[\"s\"]], \"ok\"], " ++
        "[[[null]], \x7b\"kind\": \"WrongType\", \"argument\": \"x\", \"message\": \"str\"\x7d]]]"),
    (["b.json"], "[[\"bounded\", [\"f\", null, [\"x\"]], [\"str\"]], null, true]")
  ]
  directories := []

/--
Fixtures of all sorts that are not: one with two mismatching cases of three, a text that
is none, a spec that is not refused, and one that is.
-/
def unmetFixtures : FileTree where
  files := [
    (["c.json"],
      "[[\"typed\", [\"f\", null, [\"x\"]], [\"str\"]], null, false, [[null, \"ok\"], " ++
        "[[[null]], \x7b\"kind\": \"Unknown\"\x7d], [[[\"s\"]], \"ok\"]]]"),
    (["d.json"], "["),
    (["e.json"], "[[\"typed\", [\"f\", null, [\"x\"]], [\"str\"]], null, true]"),
    (["f.json"], "[[\"bounded\", [\"f\", null, [\"x\"]], [\"str\"]]]")
  ]
  directories := []

/-- The fixture of the first file. -/
def metCases : Fixture :=
  fixtureOfSpec .typed (.string "str") false [
    ⟨.array [.array [.string "s"]], .passes⟩,
    ⟨.array [.array [.null]], .fails "WrongType" (some "x") (some "str")⟩
  ]

/-- The fixture with mismatching cases. -/
def unmetCases : Fixture :=
  fixtureOfSpec .typed (.string "str") false [
    ⟨.null, .passes⟩,
    ⟨.array [.array [.null]], .fails "Unknown" none none⟩,
    ⟨.array [.array [.string "s"]], .passes⟩
  ]

theorem fixture?_metCases : metFixtures.fixture? "a.json" = some metCases := by
  cbv

theorem fixture?_unmetCases : unmetFixtures.fixture? "c.json" = some unmetCases := by
  cbv

theorem metFixtures_meetsFixture :
    ∀ path ∈ ["a.json", "b.json"], metFixtures.MeetsFixture Pattern.test? path := by
  have refused :
      metFixtures.fixture? "b.json" = some (fixtureOfSpec .bounded (.string "str") true []) := by
    cbv
  exact List.forall_mem_cons.mpr
    ⟨⟨_, fixture?_metCases, Fixture.met_iff.mpr ⟨by decide +kernel, rfl⟩⟩,
      List.forall_mem_singleton.mpr ⟨_, refused, .refused rfl rfl⟩⟩

theorem unmetFixtures_failures :
    unmetFixtures.failures Pattern.test? ["c.json", "d.json", "e.json", "f.json"] = 5 := by
  have noFixture : unmetFixtures.fixture? "d.json" = none := by
    cbv
  have notRefused :
      unmetFixtures.fixture? "e.json" = some (fixtureOfSpec .typed (.string "str") true []) := by
    cbv
  have uncompiled :
      unmetFixtures.fixture? "f.json" =
        some (fixtureOfSpec .bounded (.string "str") false []) := by
    cbv
  simp only [failures, mismatches, isUnusable, fixture?_unmetCases, noFixture, notRefused,
    uncompiled, List.map_cons, List.map_nil, List.countP_cons, List.countP_nil]
  decide +kernel

/-- The tokens of the names of fixtures. -/
def fixtureTokens : List GlobToken :=
  .anyRun :: ".json".toList.map .literal

theorem glob_fixturePattern_here
    (tree : FileTree)
    {depth : Nat}
    (isDepth :
      (tree.files.map (·.1) ++ tree.directories).foldl
        (fun depth place => max depth place.length) 0 = depth) :
    tree.glob (fixturePattern "") =
      .ok (Glob.below tree (2 * 2 * (depth + 2)) [fixtureTokens] ".") := by
  have pattern : fixturePattern "" = "*.json" :=
    rfl
  have tokens : Glob.tokensOf "*.json" = .ok fixtureTokens := by
    cbv
  have parts : Glob.patternParts "*.json" = ["*.json"] := by
    cbv
  have files : Glob.wantsDirectory "*.json" = false := by
    cbv
  have relative : ("*.json".toList.head? == some '/') = false := by
    cbv
  simp only [glob, pattern, tokens, parts, files, relative, isDepth, List.mapM_cons,
    List.mapM_nil, bind, Except.bind, pure, Except.pure]
  rfl

theorem glob_metFixtures :
    metFixtures.glob (fixturePattern "") = .ok ["a.json", "b.json"] := by
  have found : Glob.below metFixtures 12 [fixtureTokens] "." = ["a.json", "b.json"] := by
    cbv
  rw [glob_fixturePattern_here metFixtures (by cbv : _ = 1), found]

theorem glob_unmetFixtures :
    unmetFixtures.glob (fixturePattern "") =
      .ok ["c.json", "d.json", "e.json", "f.json"] := by
  have found :
      Glob.below unmetFixtures 12 [fixtureTokens] "." =
        ["c.json", "d.json", "e.json", "f.json"] := by
    cbv
  rw [glob_fixturePattern_here unmetFixtures (by cbv : _ = 1), found]

theorem metFixtures_runFixturesWith_judges :
    (metFixtures.runFixturesWith Pattern.test? "").verdict.exitCode = 0 ∧
      (unmetFixtures.runFixturesWith Pattern.test? "").errors = ["5 case(s) failed"] := by
  obtain ⟨-, met⟩ := runFixturesWith_judges metFixtures Pattern.test? ["a.json", "b.json"]
  obtain ⟨-, unmet⟩ :=
    runFixturesWith_judges unmetFixtures Pattern.test? ["c.json", "d.json", "e.json", "f.json"]
  constructor
  · exact (met "" glob_metFixtures (by decide)).exitCode_eq_zero_iff.mpr metFixtures_meetsFixture
  · rw [(unmet "" glob_unmetFixtures (by decide)).errors_eq, unmetFixtures_failures]
    rfl

end FileTree

end CallGuard
