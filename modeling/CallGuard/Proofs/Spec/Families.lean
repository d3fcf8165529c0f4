import CallGuard.Proofs.Spec.Compilation

namespace CallGuard.Spec

/-!
# The two families of constraints

For types and for bounds alike, a spec compiles exactly when it is well formed,
and its checker lets exactly the values of its meaning pass.  What sets bounds
apart is that they never stand alone and never form alternatives.
-/

/-- Where a spec was declared does not matter for its checker. -/
theorem compile_eq_ok_iff
    {family : Family}
    {place : SpecPlace}
    {spec : Spec}
    {checker : Checker} :
    spec.compile family place = .ok checker ↔
      compileShape family spec = .ok checker :=
  Result.mapError_eq_ok_iff

/-- A spec compiles exactly when it is well formed. -/
theorem exists_compile_iff_wellFormed
    (family : Family)
    (place : SpecPlace)
    (spec : Spec) :
    (∃ checker, spec.compile family place = .ok checker) ↔
      spec.WellFormed family := by
  constructor
  · rintro ⟨checker, compiled⟩
    obtain ⟨meaning, denotes, decides⟩ :=
      compileShape_sound spec (compile_eq_ok_iff.mp compiled)
    exact ⟨meaning, denotes⟩
  · rintro ⟨meaning, denotes⟩
    obtain ⟨checker, compiled, decides⟩ := compileShape_complete spec denotes
    exact ⟨checker, compile_eq_ok_iff.mpr compiled⟩

/-- A compiled checker decides whatever its spec denotes. -/
theorem compile_decides
    {family : Family}
    {place : SpecPlace}
    {spec : Spec}
    {checker : Checker}
    {meaning : Meaning}
    (compiled : spec.compile family place = .ok checker)
    (denotes : spec.Denotes family meaning) :
    checker.Decides meaning := by
  obtain ⟨other, otherCompiled, decides⟩ := compileShape_complete spec denotes
  have same := (compile_eq_ok_iff.mp compiled).symm.trans otherCompiled
  cases same
  exact decides

/--
Types: a spec compiles exactly when it is well formed, wherever it is declared,
and under every name and with all options its checker lets pass exactly the values
that the spec means.
-/
theorem typed_compile_meaning
    (place : SpecPlace)
    (spec : Spec) :
    ((∃ checker, spec.compile .typed place = .ok checker) ↔
        spec.WellFormed .typed) ∧
      ∀ checker meaning,
        spec.compile .typed place = .ok checker →
        spec.Denotes .typed meaning →
        ∀ options name value,
          checker.run options name value = .ok () ↔ meaning value :=
  ⟨exists_compile_iff_wellFormed .typed place spec,
    fun _ _ compiled denotes => compile_decides compiled denotes⟩

/-- A number, and texts in a tuple of any length. -/
def taggedTexts : Spec :=
  .tuple [.tuple [.type .int, .value (.type .float)], .tuple [.skip, .type .str]]

theorem taggedTexts_denotes :
    taggedTexts.Denotes .typed
      (.slots [.instanceOf [.int, .float], .tupleOf (.instanceOf [.str])]) := by
  have number :
      Denotes .typed (.tuple [.type .int, .value (.type .float)])
        (.instanceOf [.int, .float]) :=
    .flat (.alternatives (by simp) (.cons (.type _) (.cons (.value _) .nil)))
  have oneText : Family.DenotesFlat .typed [.type .str] (.instanceOf [.str]) :=
    .alternatives (by simp) (.cons (.type _) .nil)
  have texts :
      Denotes .typed (.tuple [.skip, .type .str]) (.tupleOf (.instanceOf [.str])) :=
    .everyItemFlat ⟨rfl, rfl⟩ oneText
  exact .eachPlace (by simp) (by simp [isCollection]) (.cons number (.cons texts .nil))

/-- Nested tuples compile, and their checker tells values apart by their meaning. -/
theorem taggedTexts_compile_meaning :
    ∃ checker,
      taggedTexts.compile .typed (.named "x") = .ok checker ∧
        checker.run ⟨40⟩ none
          (.tuple [.bool true, .tuple [.str "a", .str "b"]]) = .ok () ∧
        checker.run ⟨40⟩ (some "x")
          (.tuple [.int 1, .tuple [.str "a", .int 2]]) ≠ .ok () := by
  have meant := typed_compile_meaning (.named "x") taggedTexts
  obtain ⟨checker, compiled⟩ := meant.1.mpr ⟨_, taggedTexts_denotes⟩
  refine ⟨checker, compiled, ?_, ?_⟩
  · rw [meant.2 checker _ compiled taggedTexts_denotes]
    simp [Meaning.slots, Meaning.instanceOf, Meaning.tupleOf, TypeTag.admits]
  · rw [ne_eq, meant.2 checker _ compiled taggedTexts_denotes]
    simp [Meaning.slots, Meaning.instanceOf, Meaning.tupleOf, TypeTag.admits]

/-! ## Bounds -/

/-- Bounds and types that stand alone mean nothing to bounds. -/
theorem not_wellFormed_bounded_of_isConcrete
    {spec : Spec}
    (concrete : spec.isConcrete = true) :
    ¬spec.WellFormed .bounded := by
  rintro ⟨meaning, denotes⟩
  cases denotes with
  | bare bareDenotes =>
      cases bareDenotes
  | _ =>
      cases concrete

/-- A flat tuple of concrete entries means an interval to bounds, or nothing. -/
theorem exists_pair_of_wellFormed_bounded
    {entries : List Spec}
    (concretes : ∀ entry ∈ entries, entry.isConcrete = true)
    (wellFormed : (Spec.tuple entries).WellFormed .bounded) :
    ∃ low high,
      entries = [.value low, .value high] ∧
        Interval.ofBounds (some low) (some high) = .ok ⟨some low, some high⟩ := by
  obtain ⟨meaning, denotes⟩ := wellFormed
  have noSkip : ∀ rest, ¬SkipsOnce entries rest := by
    intro rest skips
    obtain ⟨entry, member, skipped⟩ := skips.exists_skip
    have notSkip := (isConcrete_iff.mp (concretes entry member)).1
    simp [skipped] at notSkip
  cases denotes with
  | bare bareDenotes =>
      cases bareDenotes
  | flat flatDenotes =>
      cases flatDenotes with
      | @pair low high lowBound highBound lowSide highSide present formed =>
          cases lowSide with
          | bound low =>
              cases highSide with
              | bound high =>
                  exact ⟨low, high, rfl, formed⟩
              | opened =>
                  cases concretes .skip (by simp)
          | opened =>
              cases concretes .skip (by simp)
  | anyTuple skips =>
      exact (noSkip _ skips).elim
  | everyItem skips =>
      exact (noSkip _ skips).elim
  | everyItemFlat skips =>
      exact (noSkip _ skips).elim
  | eachPlace nonempty collections =>
      obtain ⟨first, member⟩ := List.exists_mem_of_ne_nil entries nonempty
      have notCollection := (isConcrete_iff.mp (concretes first member)).2
      simp [collections first member] at notCollection

/-- Two types given as values have no order, so they are no ends of an interval. -/
theorem ofBounds_types_ne_ok
    (low high : TypeTag)
    (interval : Interval) :
    Interval.ofBounds (some (.type low)) (some (.type high)) ≠ .ok interval := by
  simp [Interval.ofBounds, Interval.fault?, Interval.clash?, Value.comparable,
    Value.isNumber]

/--
Bounds: a spec compiles exactly when it is well formed, wherever it is declared,
and under every name and with all options its checker lets pass exactly the values
that the spec means.  A bare constraint never compiles, and a flat tuple only as a
pair of two bounds that are no types.
-/
theorem bounded_compile_meaning
    (place : SpecPlace)
    (spec : Spec) :
    ((∃ checker, spec.compile .bounded place = .ok checker) ↔
        spec.WellFormed .bounded) ∧
      (∀ checker meaning,
        spec.compile .bounded place = .ok checker →
        spec.Denotes .bounded meaning →
        ∀ options name value,
          checker.run options name value = .ok () ↔ meaning value) ∧
      (spec.isConcrete = true → ∀ checker, spec.compile .bounded place ≠ .ok checker) ∧
      ∀ entries,
        spec = .tuple entries →
        (∀ entry ∈ entries, entry.isConcrete = true) →
        entries.length ≠ 2 ∨ (∀ entry ∈ entries, ∃ tag, entry.NamesType tag) →
        ∀ checker, spec.compile .bounded place ≠ .ok checker := by
  have compiles := exists_compile_iff_wellFormed .bounded place spec
  refine ⟨compiles, fun _ _ compiled denotes => compile_decides compiled denotes, ?_, ?_⟩
  · intro concrete checker compiled
    exact not_wellFormed_bounded_of_isConcrete concrete
      (compiles.mp ⟨checker, compiled⟩)
  · rintro entries rfl concretes other checker compiled
    obtain ⟨low, high, rfl, formed⟩ :=
      exists_pair_of_wellFormed_bounded concretes (compiles.mp ⟨checker, compiled⟩)
    rcases other with notTwo | types
    · exact notTwo rfl
    · obtain ⟨lowTag, lowNames⟩ := types (.value low) (by simp)
      obtain ⟨highTag, highNames⟩ := types (.value high) (by simp)
      cases lowNames
      cases highNames
      exact ofBounds_types_ne_ok _ _ _ formed

/-- Numbers from one to three, in a tuple of any length. -/
def boundedNumbers : Spec :=
  .tuple [.value (.int 1), .skip, .value (.int 3)]

theorem boundedNumbers_denotes :
    boundedNumbers.Denotes .bounded
      (.tupleOf (.within ⟨some (.int 1), some (.int 3)⟩)) := by
  have formed :
      Interval.fault? (some (.int 1)) (some (.int 3)) = none :=
    Option.isNone_iff_eq_none.mp (by decide +kernel)
  have pair :
      Family.DenotesFlat .bounded [.value (.int 1), .value (.int 3)]
        (.within ⟨some (.int 1), some (.int 3)⟩) :=
    .pair (.bound _) (.bound _) (by simp) (by rw [Interval.ofBounds, formed])
  exact .everyItemFlat ⟨rfl, rfl⟩ pair

/-- Bounds in a tuple compile; a bound alone and three in a row do not. -/
theorem boundedNumbers_compile_meaning :
    (∃ checker,
      boundedNumbers.compile .bounded (.position 0) = .ok checker ∧
        checker.run ⟨40⟩ none (.tuple [.int 2, .bool true]) = .ok () ∧
        checker.run ⟨40⟩ none (.tuple [.int 2, .int 4]) ≠ .ok ()) ∧
      (∀ checker, (Spec.value (.int 1)).compile .bounded (.position 0) ≠ .ok checker) ∧
      ∀ checker,
        (Spec.tuple [.value (.int 1), .value (.int 2), .value (.int 3)]).compile
          .bounded (.position 0) ≠ .ok checker := by
  refine ⟨?_, ?_, ?_⟩
  · have meant := bounded_compile_meaning (.position 0) boundedNumbers
    obtain ⟨checker, compiled⟩ := meant.1.mpr ⟨_, boundedNumbers_denotes⟩
    have decides := meant.2.1 checker _ compiled boundedNumbers_denotes
    have inside (n : Value)
        (passes : (Interval.test? ⟨some (.int 1), some (.int 3)⟩ n).isNone = true) :
        Interval.Contains ⟨some (.int 1), some (.int 3)⟩ n :=
      Interval.test?_eq_none_iff.mp (Option.isNone_iff_eq_none.mp passes)
    refine ⟨checker, compiled, ?_, ?_⟩
    · rw [decides]
      refine ⟨_, rfl, ?_⟩
      simp only [List.forall_mem_cons, List.not_mem_nil, false_implies, implies_true,
        and_true]
      exact ⟨inside _ (by decide +kernel), inside _ (by decide +kernel)⟩
    · rw [ne_eq, decides]
      rintro ⟨items, same, within⟩
      cases same
      have four := Interval.test?_eq_none_iff.mpr (within (.int 4) (by simp))
      exact absurd (Option.isNone_iff_eq_none.mpr four) (by decide +kernel)
  · exact (bounded_compile_meaning (.position 0) (.value (.int 1))).2.2.1 rfl
  · exact (bounded_compile_meaning (.position 0) _).2.2.2 _ rfl
      (by simp [isConcrete]) (.inl (by simp))

end CallGuard.Spec
