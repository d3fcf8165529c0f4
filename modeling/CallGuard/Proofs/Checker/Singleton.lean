import CallGuard.Proofs.Checker.Endpoints
import CallGuard.Proofs.Value.Agreement

namespace CallGuard

/-!
# The interval of one value and the choice of one option

The interval whose two ends are one value contains what has an order with that value and
compares as equal to it.  The choice of that value as the only option admits what equals
it.  So both checkers accept the same as far as order and equality agree.
-/

namespace Value

theorem compareItems?_eq_of_orderItems_eq
    {items others : List Value}
    (inner :
      ∀ item ∈ items, ∀ {b : Value}, item.order b = .eq → item.compare? b = some .eq)
    (stored : orderItems items others = .eq) :
    compareItems? items others = some .eq := by
  induction items generalizing others with
  | nil =>
      cases others with
      | nil => rfl
      | cons b restB => cases stored
  | cons a restA inductionHypothesis =>
      obtain ⟨head, rest⟩ := List.forall_mem_cons.mp inner
      cases others with
      | nil => cases stored
      | cons b restB =>
          rw [orderItems, Ordering.then_eq_eq] at stored
          exact compareItems?_cons_eq_some_iff.mpr
            (.inl ⟨head stored.1, inductionHypothesis rest stored.2⟩)

/-- What is orderable compares as equal to what it is stored as one with. -/
theorem compare?_eq_of_order_eq
    {a b : Value}
    (orderable : a.Orderable)
    (stored : a.order b = .eq) :
    a.compare? b = some .eq := by
  induction orderable generalizing b with
  | @number a p pointA =>
      have pointB : b.point? = some p :=
        (number_congr_of_same (beq_iff_eq.mpr stored)).2.symm.trans pointA
      have itself : p.order p = .eq := Std.ReflCmp.compare_self
      rw [(Ordered.points pointA pointB).compare?_eq, itself]
  | str text =>
      cases sameKind_of_rank_eq (rank_eq_of_order_eq stored) with
      | str _ other => exact congrArg some stored
  | bytes octets =>
      cases sameKind_of_rank_eq (rank_eq_of_order_eq stored) with
      | bytes _ others => exact congrArg some stored
  | tuple _ inner =>
      cases sameKind_of_rank_eq (rank_eq_of_order_eq stored) with
      | tuple _ others =>
          exact compareItems?_eq_of_orderItems_eq inner stored

/-- What is orderable compares as equal to what it equals. -/
theorem compare?_eq_of_looseEq
    {a b : Value}
    (orderable : a.Orderable)
    (equal : a.looseEq b = true) :
    a.compare? b = some .eq := by
  cases number : a.isNumber with
  | true =>
      obtain ⟨p, pointA, pointB⟩ := (looseEq_of_isNumber_iff number).mp equal
      have itself : p.order p = .eq := Std.ReflCmp.compare_self
      rw [(Ordered.points pointA pointB).compare?_eq, itself]
  | false =>
      rw [looseEq_eq_same number] at equal
      exact compare?_eq_of_order_eq orderable (beq_iff_eq.mp equal)

end Value

/-- An interval of one value contains what compares as equal to it. -/
theorem Interval.contains_single_iff
    {single value : Value} :
    Interval.Contains ⟨some single, some single⟩ value ↔
      single.compare? value = some .eq := by
  constructor
  · intro inside
    rcases inside.notBelow single rfl with below | equal
    · rcases Value.atMost_iff_from_above.mp (inside.notAbove single rfl) with above | equal
      · rw [below] at above
        cases above
      · exact equal
    · exact equal
  · intro equal
    have reversed : value.compare? single = some .eq := by
      rw [Value.compare?_swap single value, equal]
      rfl
    refine ⟨fun bound member => ?_, ?_, ?_⟩
    · obtain rfl : bound = single := by simpa [ends] using member
      exact (Value.ordered_of_compare? reversed).comparable
    · rintro low ⟨⟩
      exact .inr equal
    · rintro high ⟨⟩
      exact .inr reversed

namespace Checker

/-- The choice among options accepts what equals one of them. -/
theorem oneOf_run_eq_ok_iff
    (options : List Value)
    (checkOptions : CheckOptions)
    (name : Option String)
    (value : Value) :
    (oneOf options).run checkOptions name value = .ok () ↔
      ∃ option ∈ options, option.looseEq value = true := by
  rw [oneOf, catalogue_run_eq_ok_iff, ← List.any_eq_true]
  simp [Rule.test?]

/-- What compares as equal to itself is accepted as both ends of an interval. -/
theorem within_single_of_compare?_self
    {single : Value}
    (itself : single.compare? single = some .eq) :
    within (some single) (some single) =
      .ok (catalogue (.within ⟨some single, some single⟩)) := by
  have comparable := (Value.ordered_of_compare? itself).comparable
  refine Result.map_eq_ok_iff.mpr ⟨_, Interval.ofBounds_eq_ok_iff.mpr ⟨rfl, ?_, ?_, ?_⟩, rfl⟩
  · intro bound member
    obtain rfl : bound = single := by simpa [Interval.ends] using member
    exact comparable
  · rintro low high ⟨⟩ ⟨⟩
    exact comparable
  · rintro low high ⟨⟩ ⟨⟩ above
    rw [itself] at above
    cases above

/--
Of two values with an order, the equal ones are those that compare as equal and are
numbers or of the same kinds at every place inside.  So what the interval of one value
accepts, the choice of that value accepts exactly if it is a number or of these kinds;
and what the choice accepts, the interval accepts if its end compares as equal to itself.
-/
theorem within_single_oneOf_agree (single value : Value) :
    (∀ outcome,
      single.compare? value = some outcome →
        (single.looseEq value = true ↔
          outcome = .eq ∧ (single.isNumber = true ∨ single.KindsAgree value))) ∧
      ∀ interval,
        within (some single) (some single) = .ok interval →
          ∀ options name,
            (interval.run options name value = .ok () →
                ((oneOf [single]).run options name value = .ok () ↔
                  single.isNumber = true ∨ single.KindsAgree value)) ∧
              (single.compare? single = some .eq →
                (oneOf [single]).run options name value = .ok () →
                interval.run options name value = .ok ()) := by
  refine ⟨fun outcome => Value.looseEq_iff_of_compare?, ?_⟩
  intro checker built options name
  obtain ⟨interval, accepted, rfl⟩ := Result.map_eq_ok_iff.mp built
  obtain ⟨rfl, -⟩ := Interval.ofBounds_eq_ok_iff.mp accepted
  have inside :
      (catalogue (.within ⟨some single, some single⟩)).run options name value = .ok () ↔
        single.compare? value = some .eq :=
    (catalogue_within_decides _ options name value).trans Interval.contains_single_iff
  rw [inside, oneOf_run_eq_ok_iff]
  simp only [List.mem_singleton, exists_eq_left]
  constructor
  · intro equal
    rw [Value.looseEq_iff_of_compare? equal, and_iff_right rfl]
  · intro itself equal
    exact Value.compare?_eq_of_looseEq (Value.compare?_self_iff.mp itself) equal

/-- A tuple around the positive zero. -/
def wrappedZero : Value :=
  .tuple [.tuple [.float (.zero false)], .str "a"]

/-- The same around the negative zero. -/
def wrappedNegativeZero : Value :=
  .tuple [.tuple [.float (.zero true)], .str "a"]

/-- The two zeros compare as equal and are of one kind, so both checkers accept either. -/
theorem wrappedZero_within_single_oneOf_agree :
    wrappedZero.compare? wrappedNegativeZero = some .eq ∧
      wrappedZero.looseEq wrappedNegativeZero = true ∧
      ∃ interval,
        within (some wrappedZero) (some wrappedZero) = .ok interval ∧
          ∀ options name,
            interval.run options name wrappedNegativeZero = .ok () ∧
              (oneOf [wrappedZero]).run options name wrappedNegativeZero = .ok () := by
  obtain ⟨agree, accepts⟩ := within_single_oneOf_agree wrappedZero wrappedNegativeZero
  have equal : wrappedZero.compare? wrappedNegativeZero = some .eq := by decide +kernel
  have itself : wrappedZero.compare? wrappedZero = some .eq := by decide +kernel
  have inner : (Value.tuple [.float (.zero false)]).KindsAgree (.tuple [.float (.zero true)]) :=
    .tuple (.cons (.flat rfl (by rintro _ ⟨⟩)) .nil)
  have kinds : wrappedZero.KindsAgree wrappedNegativeZero :=
    .tuple (.cons inner (.cons (.flat rfl (by rintro _ ⟨⟩)) .nil))
  have looselyEqual : wrappedZero.looseEq wrappedNegativeZero = true :=
    (agree _ equal).mpr ⟨rfl, .inr kinds⟩
  have built := within_single_of_compare?_self itself
  refine ⟨equal, looselyEqual, _, built, fun options name => ?_⟩
  obtain ⟨chosen, contained⟩ := accepts _ built options name
  have inside := contained itself
    ((oneOf_run_eq_ok_iff ..).mpr ⟨wrappedZero, List.mem_singleton_self _, looselyEqual⟩)
  exact ⟨inside, (chosen inside).mpr (.inr kinds)⟩

/-- A tuple around an integer. -/
def wrappedInteger : Value :=
  .tuple [.int 1]

/-- A tuple around the same number as a float. -/
def wrappedFloat : Value :=
  .tuple [.float ⟨0x3FF0000000000000⟩]

/-- The two compare as equal but do not equal, and only the interval accepts the float. -/
theorem wrappedInteger_within_single_not_oneOf :
    wrappedInteger.compare? wrappedFloat = some .eq ∧
      wrappedInteger.looseEq wrappedFloat = false ∧
      ∃ interval,
        within (some wrappedInteger) (some wrappedInteger) = .ok interval ∧
          ∀ options name,
            interval.run options name wrappedFloat = .ok () ∧
              (oneOf [wrappedInteger]).run options name wrappedFloat ≠ .ok () := by
  have equal : wrappedInteger.compare? wrappedFloat = some .eq := by decide +kernel
  have unequal : wrappedInteger.looseEq wrappedFloat = false := by decide +kernel
  have itself : wrappedInteger.compare? wrappedInteger = some .eq := by decide +kernel
  refine ⟨equal, unequal, _, within_single_of_compare?_self itself,
    fun options name => ⟨?_, fun chosen => ?_⟩⟩
  · exact (catalogue_within_decides _ options name wrappedFloat).mpr
      (Interval.contains_single_iff.mpr equal)
  · obtain ⟨option, member, same⟩ := (oneOf_run_eq_ok_iff ..).mp chosen
    obtain rfl := List.mem_singleton.mp member
    rw [unequal] at same
    cases same

end Checker

end CallGuard
