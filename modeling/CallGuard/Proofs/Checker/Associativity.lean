import CallGuard.Proofs.Checker.Lookup

namespace CallGuard

/-!
# Composition is associative

Three checkers run in the same order whichever two of them are composed first.
Their members are put behind different heads, though: where the inner two were
composed first, their composite is a head of its own, and a path of names runs it
again at every step.  `Regrouped` is what such a path keeps between the two
groupings.  Whatever is run again has passed by then, so nobody can tell.
-/

/-- Two checkers do the same, and their members have the same names. -/
structure Checker.SameView
    (first second : Checker) :
    Prop where
  plain : first.plain = second.plain
  chainNames : first.chainNames = second.chainNames
  run :
    ∀ options name value,
      first.run options name value = second.run options name value

/-- Two lookups find the same data, checkers that do the same, or both nothing. -/
inductive Member.Alike : Option Member → Option Member → Prop where
  | absent :
      Alike none none
  | plain (value : Value) :
      Alike (some (.plain value)) (some (.plain value))
  | chain {first second : Checker} :
      first.SameView second →
      Alike (some (.chain first)) (some (.chain second))

theorem Checker.SameView.refl (checker : Checker) :
    checker.SameView checker :=
  ⟨rfl, rfl, fun _ _ _ => rfl⟩

theorem Member.Alike.refl (found : Option Member) :
    Member.Alike found found := by
  cases found with
  | none =>
      exact .absent
  | some member =>
      cases member with
      | plain value =>
          exact .plain value
      | chain checker =>
          exact .chain (.refl checker)

namespace Checker

/--
Two checkers that do the same and expose the members of one origin, the second
through a checker in between that it has run already.
-/
structure Regrouped
    (left right between origin : Checker) :
    Prop where
  leftExposes : left.Exposes origin
  betweenExposes : between.Exposes origin
  rightExposes : right.Exposes between
  leftChecks : left.isIdentity = false
  betweenChecks : between.isIdentity = false
  rightChecks : right.isIdentity = false
  sameRun :
    ∀ options name value,
      left.run options name value = right.run options name value
  covered :
    ∀ options name value,
      right.run options name value = .ok () →
      between.run options name value = .ok ()

namespace Regrouped

variable {left right between origin : Checker}

theorem sameView (regrouped : Regrouped left right between origin) :
    left.SameView right where
  plain := by
    rw [regrouped.leftExposes.plain, regrouped.rightExposes.plain,
      regrouped.betweenExposes.plain]
  chainNames := by
    rw [regrouped.leftExposes.chainNames_eq, regrouped.rightExposes.chainNames_eq,
      regrouped.betweenExposes.chainNames_eq]
  run := regrouped.sameRun

/-- Putting both behind their heads keeps a member of the origin regrouped. -/
theorem behind
    (regrouped : Regrouped left right between origin)
    (next : Checker) :
    ∃ further,
      Regrouped (left.behind next) (right.behind (between.behind next))
        (between.behind next) further := by
  cases nextIdentity : next.isIdentity with
  | true =>
      -- Nothing is added, so on the right the checker in between is run again.
      rw [behind_of_isIdentity nextIdentity, behind_of_isIdentity nextIdentity,
        behind_of_checks regrouped.rightChecks regrouped.betweenChecks]
      have again options name value :=
        sequence_run_of_covered (regrouped.covered options name value)
          (right.label ++ "." ++ between.label) between
      exact ⟨origin,
        { leftExposes := regrouped.leftExposes
          betweenExposes := regrouped.betweenExposes
          rightExposes := sequence_exposes ..
          leftChecks := regrouped.leftChecks
          betweenChecks := regrouped.betweenChecks
          rightChecks := rfl
          sameRun := fun options name value => by
            rw [again, regrouped.sameRun]
          covered := fun options name value passed => by
            rw [again] at passed
            exact regrouped.covered options name value passed }⟩
  | false =>
      rw [behind_of_checks regrouped.leftChecks nextIdentity,
        behind_of_checks regrouped.betweenChecks nextIdentity,
        behind_of_checks regrouped.rightChecks rfl]
      refine ⟨next,
        { leftExposes := sequence_exposes ..
          betweenExposes := sequence_exposes ..
          rightExposes := sequence_exposes ..
          leftChecks := rfl
          betweenChecks := rfl
          rightChecks := rfl
          sameRun := fun options name value => ?_
          covered := fun options name value passed => ?_ }⟩
      · rw [sequence_run, sequence_run, regrouped.sameRun]
        cases passes : right.run options name value with
        | error failure =>
            rfl
        | ok passed =>
            rw [sequence_run, regrouped.covered options name value passes]
      · exact ((sequence_run_eq_ok_iff ..).mp passed).2

/-- Along every path of names the two groupings find the same. -/
theorem alike
    (regrouped : Regrouped left right between origin)
    (names : List String) :
    Member.Alike (left.memberAt? names) (right.memberAt? names) := by
  induction names generalizing left right between origin with
  | nil =>
      exact .chain regrouped.sameView
  | cons name rest inductionHypothesis =>
      rw [memberAt?, memberAt?, regrouped.leftExposes.member?_eq,
        regrouped.rightExposes.member?_eq, regrouped.betweenExposes.member?_eq]
      cases found : origin.member? name with
      | none =>
          exact .absent
      | some member =>
          cases member with
          | plain value =>
              exact .refl _
          | chain next =>
              obtain ⟨further, stepped⟩ := regrouped.behind next
              exact inductionHypothesis stepped

end Regrouped

/-! ## The two groupings -/

/-- With an identity among three checkers the groupings are one checker. -/
theorem compose_assoc_of_identity
    {outer middle inner : Checker}
    (identity :
      outer.isIdentity = true ∨ middle.isIdentity = true ∨ inner.isIdentity = true) :
    compose (compose outer middle) inner = compose outer (compose middle inner) := by
  cases innerIdentity : inner.isIdentity with
  | true =>
      rw [compose_of_innerIdentity innerIdentity, compose_of_innerIdentity innerIdentity]
  | false =>
      cases middleIdentity : middle.isIdentity with
      | true =>
          rw [compose_of_innerIdentity middleIdentity,
            compose_of_outerIdentity innerIdentity middleIdentity]
      | false =>
          have outerIdentity : outer.isIdentity = true := by
            simpa [innerIdentity, middleIdentity] using identity
          rw [compose_of_outerIdentity middleIdentity outerIdentity,
            compose_of_checks innerIdentity middleIdentity,
            compose_of_outerIdentity rfl outerIdentity]

/-- Three checkers that check something, regrouped. -/
theorem regrouped_compose
    {outer middle inner : Checker}
    (outerChecks : outer.isIdentity = false)
    (middleChecks : middle.isIdentity = false)
    (innerChecks : inner.isIdentity = false) :
    (compose (compose outer middle) inner).label =
        (compose outer (compose middle inner)).label ∧
      Regrouped (compose (compose outer middle) inner)
        (compose outer (compose middle inner)) (compose middle inner) inner := by
  rw [compose_of_checks middleChecks outerChecks,
    compose_of_checks innerChecks middleChecks,
    compose_of_checks innerChecks rfl, compose_of_checks rfl outerChecks]
  refine ⟨?_,
    { leftExposes := sequence_exposes ..
      betweenExposes := sequence_exposes ..
      rightExposes := sequence_exposes ..
      leftChecks := rfl
      betweenChecks := rfl
      rightChecks := rfl
      sameRun := fun options name value => ?_
      covered := fun options name value passed => ?_ }⟩
  · simp only [sequence, String.append_assoc]
  · rw [sequence_run, sequence_run, sequence_run, sequence_run]
    cases inner.run options name value with
    | error failure =>
        rfl
    | ok passed =>
        rfl
  · exact ((sequence_run_eq_ok_iff ..).mp passed).1

/--
Composition is associative.  Either grouping has the same label, does the same under
every name and with all options, and has members of the same names.  Along every path
of member names both find the same data, both find nothing, or both find a checker,
and the two checkers again do the same and have members of the same names.
-/
theorem compose_assoc_observed (outer middle inner : Checker) :
    (compose (compose outer middle) inner).label =
        (compose outer (compose middle inner)).label ∧
      (compose (compose outer middle) inner).SameView
        (compose outer (compose middle inner)) ∧
      ∀ names,
        Member.Alike ((compose (compose outer middle) inner).memberAt? names)
          ((compose outer (compose middle inner)).memberAt? names) := by
  by_cases identity :
      outer.isIdentity = true ∨ middle.isIdentity = true ∨ inner.isIdentity = true
  · rw [compose_assoc_of_identity identity]
    exact ⟨rfl, .refl _, fun names => .refl _⟩
  · simp only [not_or, Bool.not_eq_true] at identity
    obtain ⟨outerChecks, middleChecks, innerChecks⟩ := identity
    obtain ⟨sameLabel, regrouped⟩ :=
      regrouped_compose outerChecks middleChecks innerChecks
    exact ⟨sameLabel, regrouped.sameView, regrouped.alike⟩

end Checker

end CallGuard
