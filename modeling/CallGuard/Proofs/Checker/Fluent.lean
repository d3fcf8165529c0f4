import CallGuard.Checker.Catalogue
import CallGuard.Proofs.Checker.Lookup

namespace CallGuard

/-!
# Fluent paths through a composite

A composite offers what its inner operand offers, always behind the whole composite.
So a path of names leads on from a composite exactly where it leads on from the inner
operand, and what it leads to has run the two operands and then every checker that the
path passes.  `Fronts` is what each step along the path keeps.
-/

namespace Checker

/-- The checkers that a path of names passes, its end included, as far as it leads. -/
def passedBy
    (checker : Checker) :
    List String →
    List Checker
  | [] => []
  | name :: rest =>
      match checker.member? name with
      | some (.chain next) => next :: next.passedBy rest
      | _ => []

/-- Run checkers one after another on the same value, up to the first failure. -/
def runAll
    (options : CheckOptions)
    (name : Option String)
    (value : Value) :
    List Checker →
    Outcome
  | [] => .ok ()
  | checker :: rest =>
      match checker.run options name value with
      | .error failure => .error failure
      | .ok () => runAll options name value rest

theorem runAll_append
    (options : CheckOptions)
    (name : Option String)
    (value : Value)
    (first second : List Checker) :
    runAll options name value (first ++ second) =
      match runAll options name value first with
      | .error failure => .error failure
      | .ok () => runAll options name value second := by
  induction first with
  | nil =>
      rfl
  | cons checker rest inductionHypothesis =>
      rw [List.cons_append, runAll, runAll, inductionHypothesis]
      cases checker.run options name value with
      | error failure =>
          rfl
      | ok passed =>
          rfl

theorem runAll_singleton
    (options : CheckOptions)
    (name : Option String)
    (value : Value)
    (checker : Checker) :
    runAll options name value [checker] = checker.run options name value := by
  rw [runAll]
  cases checker.run options name value with
  | error failure =>
      rfl
  | ok passed =>
      rfl

/-- A checker shows the members of another and runs the given checkers in turn. -/
structure Continues
    (reached found : Checker)
    (ran : List Checker) :
    Prop where
  plain : reached.plain = found.plain
  chainNames : reached.chainNames = found.chainNames
  run :
    ∀ options name value,
      reached.run options name value = runAll options name value ran

end Checker

/--
A lookup finds the data that another finds, a checker that continues the one that the
other finds, or nothing if the other finds nothing.
-/
inductive Member.Continued (ran : List Checker) : Option Member → Option Member → Prop where
  | absent :
      Continued ran none none
  | plain (value : Value) :
      Continued ran (some (.plain value)) (some (.plain value))
  | chain {reached found : Checker} :
      reached.Continues found ran →
      Continued ran (some (.chain reached)) (some (.chain found))

namespace Checker

/--
A checker in front of the members of an origin: it offers them behind itself, and it
runs the given checkers in turn.
-/
structure Fronts
    (head origin : Checker)
    (ran : List Checker) :
    Prop where
  exposes : head.Exposes origin
  checks : head.isIdentity = false
  run :
    ∀ options name value,
      head.run options name value = runAll options name value ran

namespace Fronts

variable {head origin : Checker} {ran : List Checker}

theorem continues (fronts : head.Fronts origin ran) :
    head.Continues origin ran where
  plain := fronts.exposes.plain
  chainNames := fronts.exposes.chainNames_eq
  run := fronts.run

/-- A member put behind the head is run last and shows its own members. -/
theorem behind
    (fronts : head.Fronts origin ran)
    {next : Checker}
    (nextChecks : next.isIdentity = false) :
    (head.behind next).Fronts next (ran ++ [next]) := by
  rw [behind_of_checks fronts.checks nextChecks]
  refine ⟨sequence_exposes .., rfl, fun options name value => ?_⟩
  rw [sequence_run, fronts.run, runAll_append]
  cases runAll options name value ran with
  | error failure =>
      rfl
  | ok passed =>
      exact (runAll_singleton ..).symm

/-- Along every path of names the head finds what the origin finds. -/
theorem continued
    (fronts : head.Fronts origin ran)
    {names : List String}
    (allCheck : ∀ checker ∈ origin.passedBy names, checker.isIdentity = false) :
    Member.Continued (ran ++ origin.passedBy names)
      (head.memberAt? names) (origin.memberAt? names) := by
  induction names generalizing head origin ran with
  | nil =>
      rw [passedBy, List.append_nil]
      exact .chain fronts.continues
  | cons name rest inductionHypothesis =>
      rw [memberAt?, memberAt?, fronts.exposes.member?_eq]
      rw [passedBy] at allCheck ⊢
      cases found : origin.member? name with
      | none =>
          exact .absent
      | some member =>
          cases member with
          | plain value =>
              cases rest with
              | nil =>
                  exact .plain value
              | cons next others =>
                  exact .absent
          | chain next =>
              simp only [found, List.forall_mem_cons] at allCheck
              obtain ⟨nextChecks, restCheck⟩ := allCheck
              have onward := inductionHypothesis (fronts.behind nextChecks) restCheck
              rwa [List.append_assoc] at onward

end Fronts

/-- A composite stands in front of the members of its inner operand. -/
theorem fronts_compose
    {outer inner : Checker}
    (outerChecks : outer.isIdentity = false)
    (innerChecks : inner.isIdentity = false) :
    (compose outer inner).Fronts inner [inner, outer] := by
  rw [compose_of_checks innerChecks outerChecks]
  refine ⟨sequence_exposes .., rfl, fun options name value => ?_⟩
  rw [sequence_run, runAll]
  cases inner.run options name value with
  | error failure =>
      rfl
  | ok passed =>
      exact (runAll_singleton ..).symm

/--
Looking up names one after another finds in a composite what it finds in the inner
operand: the same data, nothing in both, or a checker in both.  The checker that the
composite leads to runs the inner operand, the outer one and then in turn every checker
that the inner operand leads to along the names, up to the first failure, under every
name and with all options.  It has the members of the checker at the end.
-/
theorem compose_fluent_path
    {outer inner : Checker}
    (outerChecks : outer.isIdentity = false)
    (innerChecks : inner.isIdentity = false)
    {names : List String}
    (allCheck : ∀ checker ∈ inner.passedBy names, checker.isIdentity = false) :
    Member.Continued (inner :: outer :: inner.passedBy names)
      ((compose outer inner).memberAt? names) (inner.memberAt? names) :=
  (fronts_compose outerChecks innerChecks).continued allCheck

/-- Lists of at most two items. -/
def shortLists : Checker :=
  compose (justLength (.between none (some 2))) (just [.list])

/-- From `shortLists` two names lead to a checker that also wants lists inside, and some. -/
theorem shortLists_fluent_path :
    ∃ reached found,
      shortLists.memberAt? ["All", "NonEmpty"] = some (.chain reached) ∧
        (just [.list]).memberAt? ["All", "NonEmpty"] = some (.chain found) ∧
        reached.chainNames = found.chainNames ∧
        reached.run ⟨40⟩ (some "x") .null = .error ⟨"x", .wrongType [.list] "NoneType"⟩ ∧
        reached.run ⟨40⟩ (some "x") (.list [.null, .null, .null]) =
          .error ⟨"x", .wrongLength (.between none (some 2)) 3⟩ ∧
        reached.run ⟨40⟩ (some "x") (.list [.list [], .null]) =
          .error ⟨"x[1]", .wrongType [.list] "NoneType"⟩ ∧
        reached.run ⟨40⟩ (some "x") (.list []) = .error ⟨"x", .empty⟩ ∧
        reached.run ⟨40⟩ (some "x") (.list [.list []]) = .ok () := by
  have allCheck :
      ∀ checker ∈ (just [.list]).passedBy ["All", "NonEmpty"], checker.isIdentity = false :=
    List.forall_mem_cons.mpr ⟨rfl, List.forall_mem_cons.mpr ⟨rfl, List.forall_mem_nil _⟩⟩
  have continued :
      Member.Continued _ (shortLists.memberAt? ["All", "NonEmpty"])
        ((just [.list]).memberAt? ["All", "NonEmpty"]) :=
    compose_fluent_path rfl rfl allCheck
  have foundIs :
      (just [.list]).memberAt? ["All", "NonEmpty"] = some (.chain _) := rfl
  rw [foundIs] at continued
  generalize shortLists.memberAt? ["All", "NonEmpty"] = reached at continued
  cases continued with
  | @chain reached found continues =>
      refine ⟨reached, _, rfl, foundIs, continues.chainNames, ?_⟩
      simp only [continues.run]
      exact ⟨rfl, rfl, rfl, rfl, rfl⟩

end Checker

end CallGuard
