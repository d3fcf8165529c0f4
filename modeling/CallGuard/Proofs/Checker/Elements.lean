import CallGuard.Proofs.Checker.Classification
import CallGuard.Proofs.Checker.Variants

namespace CallGuard

/-!
# Checkers of sizes and elements

Whether a value has a size, what it is iterated over and what types admit it are
definitions by the kind of the value, each on its own, and different checkers ask
different ones.  The checkers that ask for a size, for elements or for the type of
iterables accept the same values, and so do the two that ask for callables.

The loop over the elements has a failure of its own for values without elements.  In
front of each loop there is a test of the container that only values with elements
pass, so this failure does not matter: with any other outcome in its place the checkers
of containers run as they do.
-/

namespace Meaning

/-- The sized values with an item are those that iteration yields something of. -/
theorem nonEmpty_iff
    {value : Value} :
    nonEmpty value ↔ ∃ first rest, value.elements? = some (first :: rest) := by
  simp only [nonEmpty, Value.size?_eq_some_iff]
  constructor
  · rintro ⟨size, ⟨elements, iterated, rfl⟩, positive⟩
    obtain ⟨first, rest, rfl⟩ := List.exists_cons_of_length_pos positive
    exact ⟨first, rest, iterated⟩
  · rintro ⟨first, rest, iterated⟩
    exact ⟨_, ⟨_, iterated, rfl⟩, Nat.succ_pos _⟩

end Meaning

namespace Checker

section acceptance

variable {options : CheckOptions} {name : Option String} {value : Value}

theorem just_single_run_eq_ok_iff
    {tag : TypeTag} :
    (just [tag]).run options name value = .ok () ↔ tag.admits value = true := by
  rw [just_decides]
  simp [Meaning.instanceOf]

theorem iterable_accepts_iff :
    iterable.run options name value = .ok () ↔ value.elements?.isSome = true := by
  rw [← iterable_run_eq_ok_iff options name value, iterable, catalogue_run, run, ofRule_check]

/-- Nothing is asked of the elements, only that the value has them. -/
theorem all_identity_run_eq_ok_iff :
    (all identity).run options name value = .ok () ↔ value.elements?.isSome = true := by
  rw [all_decides identity_decides, Meaning.everyElement_iff, Option.isSome_iff_exists]
  simp [Meaning.anything]

theorem justLength_run_eq_ok_iff
    {lengths : Lengths} :
    (justLength lengths).run options name value = .ok () ↔
      ∃ elements,
        value.elements? = some elements ∧ lengths.admits elements.length = true := by
  rw [justLength, catalogue_run_eq_ok_iff, Rule.test?, Value.size?_eq_map_length]
  cases value.elements? with
  | none => simp
  | some elements => simp

/-- A range without ends asks for a size and nothing else. -/
theorem justLength_open_run_eq_ok_iff :
    (justLength (.between none none)).run options name value = .ok () ↔
      value.elements?.isSome = true := by
  rw [justLength_run_eq_ok_iff, Option.isSome_iff_exists]
  simp [Lengths.admits]

theorem nonEmpty_run_eq_ok_iff :
    nonEmpty.run options name value = .ok () ↔
      ∃ first rest, value.elements? = some (first :: rest) := by
  rw [nonEmpty, catalogue_run_eq_ok_iff, nonEmpty_test?_eq_none_iff, Meaning.nonEmpty_iff]

/-- Only what is iterated over and yields nothing is refused as empty. -/
theorem nonEmpty_failsAs_emptyValue_iff :
    nonEmpty.FailsAs options name value .emptyValue ↔ value.elements? = some [] := by
  rw [nonEmpty, catalogue_failsAs_iff, Rule.test?, Value.size?_eq_map_length]
  cases value.elements? with
  | none =>
      simp [Fault.kind]
  | some elements =>
      cases elements with
      | nil =>
          simp [Fault.kind]
      | cons first rest =>
          simp

theorem callable_run_eq_ok_iff :
    callable.run options name value = .ok () ↔ value.isCallable = true := by
  rw [callable, catalogue_run_eq_ok_iff, Rule.test?, ite_eq_left_iff]
  simp

end acceptance

/-! ## The loop over the elements -/

/--
Test the elements of a value in turn, with a given outcome for values without elements.
-/
def testElements
    (element : Checker)
    (missing : Outcome)
    (options : CheckOptions)
    (name : Option String)
    (value : Value) :
    Outcome :=
  match value.elements? with
  | none => missing
  | some elements =>
      testEach
        (fun index item =>
          element.run options
            (some (elementLabel value (options.label name value) index)) item)
        0 elements

/-- A loop that tests anything refuses values without elements itself. -/
theorem each_run_eq_testElements
    {element : Checker}
    (checks : element.isIdentity = false)
    (options : CheckOptions)
    (name : Option String)
    (value : Value) :
    (each element).run options name value =
      element.testElements (.error ⟨options.label name value, .notIterable value.typeName⟩)
        options name value := by
  rw [each, checks, if_neg Bool.false_ne_true]
  rfl

/-- The tests in front of the loop, with the checkers in which they stand there. -/
def guardedLoops (element : Checker) : List (Checker × Checker) :=
  [(ofRule .iterable, all element), (kind .list, listOf element),
    (kind .tuple, tupleOf element), (kind .set, setOf element)]

/-- No loop is run on a value without elements. -/
theorem exists_elements_of_guard_run
    {element guard container : Checker}
    (guarded : (guard, container) ∈ guardedLoops element)
    {options : CheckOptions}
    {name : Option String}
    {value : Value}
    (passed : guard.run options name value = .ok ()) :
    ∃ elements, value.elements? = some elements := by
  have ofKind
      {tag : TypeTag}
      (iterates : tag.Iterates)
      (passed : (kind tag).run options name value = .ok ()) :
      ∃ elements, value.elements? = some elements :=
    iterates value ((kind_run_eq_ok_iff ..).mp passed)
  simp only [guardedLoops, List.mem_cons, Prod.mk.injEq, List.not_mem_nil,
    or_false] at guarded
  rcases guarded with ⟨rfl, -⟩ | ⟨rfl, -⟩ | ⟨rfl, -⟩ | ⟨rfl, -⟩
  · exact Option.isSome_iff_exists.mp ((iterable_run_eq_ok_iff ..).mp passed)
  · exact ofKind (TypeTag.iterates_of_mem (by simp)) passed
  · exact ofKind (TypeTag.iterates_of_mem (by simp)) passed
  · exact ofKind (TypeTag.iterates_of_mem (by simp)) passed

/-- Each container runs its test and then the loop. -/
theorem container_run
    {element guard container : Checker}
    (guarded : (guard, container) ∈ guardedLoops element)
    (options : CheckOptions)
    (name : Option String)
    (value : Value) :
    container.run options name value = (compose (each element) guard).run options name value := by
  simp only [guardedLoops, List.mem_cons, Prod.mk.injEq, List.not_mem_nil,
    or_false] at guarded
  rcases guarded with ⟨rfl, rfl⟩ | ⟨rfl, rfl⟩ | ⟨rfl, rfl⟩ | ⟨rfl, rfl⟩ <;> rfl

/--
Behind the test of the container the loop gives the same outcome whatever stands in the
place of its own failure.
-/
theorem container_run_eq_testElements
    {element guard container : Checker}
    (guarded : (guard, container) ∈ guardedLoops element)
    (missing : Outcome)
    (options : CheckOptions)
    (name : Option String)
    (value : Value) :
    container.run options name value =
      match guard.run options name value with
      | .error failure => .error failure
      | .ok () => element.testElements missing options name value := by
  rw [container_run guarded, compose_run]
  cases tested : guard.run options name value with
  | error failure =>
      rfl
  | ok passed =>
      obtain ⟨elements, iterated⟩ := exists_elements_of_guard_run guarded tested
      simp only [each_run element options name iterated, testElements, iterated]

/--
A value is the same whether it is seen as something of a size, as something to iterate
over or as an instance of a type: where the checkers for one of these accept it, all do.
What stands in the loop for values without elements is never seen behind the test of a
container.
-/
structure SeenAlike
    (options : CheckOptions)
    (name : Option String)
    (value : Value) :
    Prop where
  size : value.size? = value.elements?.map List.length
  justIterable :
    (just [.iterable]).run options name value = .ok () ↔ value.elements?.isSome = true
  iterable :
    Checker.iterable.run options name value = .ok () ↔ value.elements?.isSome = true
  allIdentity :
    (all identity).run options name value = .ok () ↔ value.elements?.isSome = true
  anyLength :
    (justLength (.between none none)).run options name value = .ok () ↔
      value.elements?.isSome = true
  length :
    ∀ lengths,
      (justLength lengths).run options name value = .ok () ↔
        ∃ elements,
          value.elements? = some elements ∧ lengths.admits elements.length = true
  nonEmpty :
    Checker.nonEmpty.run options name value = .ok () ↔
      ∃ first rest, value.elements? = some (first :: rest)
  empty :
    Checker.nonEmpty.FailsAs options name value .emptyValue ↔ value.elements? = some []
  callable :
    (just [.callable]).run options name value = .ok () ↔
      Checker.callable.run options name value = .ok ()
  /-- The loop has a failure of its own. -/
  loop :
    ∀ element : Checker,
      element.isIdentity = false →
      (each element).run options name value =
        element.testElements
          (.error ⟨options.label name value, .notIterable value.typeName⟩) options name value
  /-- In a container this failure could be any outcome. -/
  guarded :
    ∀ element guard container missing,
      (guard, container) ∈ guardedLoops element →
      container.run options name value =
        match guard.run options name value with
        | .error failure => .error failure
        | .ok () => element.testElements missing options name value

/--
Size, elements and type tags agree on every value, and so the failure of the loop for
values without elements is out of reach in every container.
-/
theorem size_elements_tags_agree
    (options : CheckOptions)
    (name : Option String)
    (value : Value) :
    SeenAlike options name value where
  size := value.size?_eq_map_length
  justIterable := by
    rw [just_single_run_eq_ok_iff, TypeTag.iterable_admits]
  iterable := iterable_accepts_iff
  allIdentity := all_identity_run_eq_ok_iff
  anyLength := justLength_open_run_eq_ok_iff
  length lengths := justLength_run_eq_ok_iff
  nonEmpty := nonEmpty_run_eq_ok_iff
  empty := nonEmpty_failsAs_emptyValue_iff
  callable := by
    rw [just_single_run_eq_ok_iff, callable_run_eq_ok_iff, TypeTag.admits]
  loop element checks := each_run_eq_testElements checks options name value
  guarded element guard container missing inLoops :=
    container_run_eq_testElements inLoops missing options name value

/--
Two octets have the size two and are tested by the loop; bytes without an octet are
refused as empty; a number is refused as no iterable, in front of the loop.
-/
theorem octets_size_elements_agree :
    (Value.bytes [104, 105]).size? = some 2 ∧
      nonEmpty.run ⟨40⟩ (some "x") (.bytes [104, 105]) = .ok () ∧
      nonEmpty.FailsAs ⟨40⟩ (some "x") (.bytes []) .emptyValue ∧
      ¬nonEmpty.FailsAs ⟨40⟩ (some "x") (.int 3) .emptyValue ∧
      ∀ missing,
        (all (just [.str])).run ⟨40⟩ (some "x") (.bytes [104, 105]) =
            (just [.str]).testElements missing ⟨40⟩ (some "x") (.bytes [104, 105]) ∧
          (all (just [.str])).run ⟨40⟩ (some "x") (.int 3) =
            .error ⟨"x", .notIterable "int"⟩ := by
  have onOctets := size_elements_tags_agree ⟨40⟩ (some "x") (.bytes [104, 105])
  have onNothing := size_elements_tags_agree ⟨40⟩ (some "x") (.bytes [])
  have onNumber := size_elements_tags_agree ⟨40⟩ (some "x") (.int 3)
  refine ⟨onOctets.size, onOctets.nonEmpty.mpr ⟨_, _, rfl⟩, onNothing.empty.mpr rfl, ?_, ?_⟩
  · intro failed
    cases onNumber.empty.mp failed
  · intro missing
    exact
      ⟨onOctets.guarded (just [.str]) _ _ missing List.mem_cons_self,
        onNumber.guarded (just [.str]) _ _ missing List.mem_cons_self⟩

end Checker

end CallGuard
