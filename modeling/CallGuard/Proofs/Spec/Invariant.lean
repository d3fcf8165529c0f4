import CallGuard.Proofs.Spec.Components

namespace CallGuard

/-!
# What compiled checkers are made of

Compilation takes checkers from the catalogue and puts them into containers.  So a
property of the former that every container keeps is one of all compiled checkers.
-/

/-- A property of catalogue checkers that the checkers of containers keep. -/
structure Checker.KeptByContainers (Holds : Checker → Prop) : Prop where
  identity : Holds Checker.identity
  kind : ∀ tag, Holds (Checker.kind tag)
  catalogue : ∀ rule, Holds (Checker.catalogue rule)
  listOf : ∀ {element}, Holds element → Holds (Checker.listOf element)
  tupleOf : ∀ {element}, Holds element → Holds (Checker.tupleOf element)
  setOf : ∀ {element}, Holds element → Holds (Checker.setOf element)
  mapOf : ∀ {key content}, Holds key → Holds content → Holds (Checker.mapOf key content)
  slots : ∀ {items}, (∀ item ∈ items, Holds item) → Holds (Checker.slots items)

namespace Spec

variable {Holds : Checker → Prop}

theorem compileAll_keeps
    {family : Family}
    {specs : List Spec}
    {checkers : List Checker}
    (each :
      ∀ spec ∈ specs, ∀ checker, compileShape family spec = .ok checker → Holds checker)
    (compiled :
      List.Forall₂ (fun spec checker => compileShape family spec = .ok checker)
        specs checkers) :
    ∀ checker ∈ checkers, Holds checker :=
  (Result.forall_of_readAll compiled fun spec member checker specCompiled =>
    ⟨trivial, each spec member checker specCompiled⟩).2

/-- A property that containers keep holds of whatever compiles. -/
theorem compileShape_keeps
    (kept : Checker.KeptByContainers Holds)
    {family : Family}
    (spec : Spec)
    {checker : Checker}
    (compiled : compileShape family spec = .ok checker) :
    Holds checker := by
  induction spec using Spec.induction generalizing checker with
  | skip =>
      cases compiled
      exact kept.identity
  | type tag =>
      obtain ⟨rule, -, rfl⟩ := exists_rule_of_single compiled
      exact kept.catalogue rule
  | value bound =>
      obtain ⟨rule, -, rfl⟩ := exists_rule_of_single compiled
      exact kept.catalogue rule
  | list members inductionHypothesis =>
      obtain ⟨element, rfl, inner, elementCompiled, rfl⟩ :=
        compileShape_list_eq_ok_iff.mp compiled
      exact kept.listOf (inductionHypothesis element (by simp) elementCompiled)
  | set members inductionHypothesis =>
      obtain ⟨element, rfl, inner, elementCompiled, rfl⟩ :=
        compileShape_set_eq_ok_iff.mp compiled
      exact kept.setOf (inductionHypothesis element (by simp) elementCompiled)
  | map entries inductionHypothesis =>
      obtain ⟨key, content, rfl, keyChecker, contentChecker, keyCompiled,
        contentCompiled, rfl⟩ := compileShape_map_eq_ok_iff.mp compiled
      obtain ⟨keyHypothesis, contentHypothesis⟩ :=
        inductionHypothesis (key, content) (by simp)
      exact kept.mapOf (keyHypothesis keyCompiled) (contentHypothesis contentCompiled)
  | tuple entries inductionHypothesis =>
      rw [compileShape] at compiled
      have described := tupleReading_readAs family entries
      cases reading : tupleReading family entries with
      | whole result =>
          simp only [reading] at compiled described
          obtain ⟨-, rule, -, rfl⟩ :=
            exists_rule_of_flat described.1 (described.2.trans compiled)
          exact kept.catalogue rule
      | anyTuple =>
          simp only [reading] at compiled
          cases compiled
          exact kept.kind .tuple
      | everyItem =>
          simp only [reading] at compiled described
          obtain ⟨item, skips, -⟩ := described
          rw [compileUnskipped_of_filter skips.left] at compiled
          obtain ⟨inner, itemCompiled, rfl⟩ := Result.map_eq_ok_iff.mp compiled
          have member : item ∈ entries := (skips.mem_iff.mp (by simp)).1
          exact kept.tupleOf (inductionHypothesis item member itemCompiled)
      | everyItemFlat rest =>
          simp only [reading] at compiled described
          obtain ⟨inner, restCompiled, rfl⟩ := Result.map_eq_ok_iff.mp compiled
          obtain ⟨-, rule, -, rfl⟩ := exists_rule_of_flat described.2 restCompiled
          exact kept.tupleOf (kept.catalogue rule)
      | eachPlace =>
          simp only [reading] at compiled
          obtain ⟨inner, allCompiled, rfl⟩ := Result.map_eq_ok_iff.mp compiled
          refine kept.slots (compileAll_keeps ?_ (compileAll_eq_ok_iff.mp allCompiled))
          exact fun entry member checker entryCompiled =>
            inductionHypothesis entry member entryCompiled
      | refused fault =>
          simp only [reading] at compiled
          cases compiled

/-- A property that containers keep holds of every compiled checker. -/
theorem compile_keeps
    (kept : Checker.KeptByContainers Holds)
    {family : Family}
    {place : SpecPlace}
    {spec : Spec}
    {checker : Checker}
    (compiled : spec.compile family place = .ok checker) :
    Holds checker :=
  compileShape_keeps kept spec (Result.mapError_eq_ok_iff.mp compiled)

end Spec

end CallGuard
