import CallGuard.Proofs.Number.Double
import CallGuard.Proofs.Value.Twins

namespace CallGuard

/-!
# The order that callers see is a partial preorder

Two values have an order in four ways only: as points of the number line, as strings,
as bytes, and as tuples item by item.  From these ways it follows that two steps up that
are defined settle the third comparison.  `Climbs` says so of one triple of outcomes, so
that it passes from the items of tuples to the tuples.
-/

/--
The outcomes of comparing one thing with a second, the second with a third, and the
first with the third.  If neither of the first two goes down, then the third is defined,
and it is an equality only if both are.
-/
def Climbs (first second whole : Option Ordering) : Prop :=
  ∀ lower upper,
    first = some lower →
    second = some upper →
    lower.isLE = true →
    upper.isLE = true →
    whole = some (lower.then upper)

theorem Chained.climbs
    {first second whole : Ordering}
    (chained : Chained first second whole) :
    Climbs (some first) (some second) (some whole) := by
  rintro lower upper ⟨⟩ ⟨⟩ lowerLE upperLE
  cases first with
  | eq => rw [chained.eq_left rfl]; rfl
  | lt =>
      cases second with
      | eq => rw [chained.eq_right rfl]; rfl
      | lt => rw [chained.alike rfl]; rfl
      | gt => cases upperLE
  | gt => cases lowerLE

theorem eq_lt_of_isLE
    {outcome : Ordering}
    (notAbove : outcome.isLE = true)
    (different : outcome ≠ .eq) :
    outcome = .lt := by
  cases outcome with
  | lt => rfl
  | eq => exact (different rfl).elim
  | gt => cases notAbove

theorem then_lt_of_isLE
    {outcome : Ordering}
    (notAbove : outcome.isLE = true) :
    outcome.then .lt = .lt := by
  cases outcome with
  | gt => cases notAbove
  | _ => rfl

namespace Value

/-! ## In which ways two values have an order -/

/-- The ways in which two values have an order, with its outcome. -/
inductive Ordered : Value → Value → Ordering → Prop where
  | points {a b : Value} {p q : Extended} :
      a.point? = some p →
      b.point? = some q →
      Ordered a b (p.order q)
  | str (text other : String) :
      Ordered (.str text) (.str other) (compare text other)
  | bytes (octets others : List UInt8) :
      Ordered (.bytes octets) (.bytes others) (compare octets others)
  | tuple {items others : List Value} {outcome : Ordering} :
      compareItems? items others = some outcome →
      Ordered (.tuple items) (.tuple others) outcome

theorem ordered_of_compare?
    {a b : Value}
    {outcome : Ordering}
    (compared : a.compare? b = some outcome) :
    a.Ordered b outcome := by
  unfold compare? at compared
  split at compared
  case h_1 text other =>
    cases compared
    exact .str text other
  case h_2 octets others =>
    cases compared
    exact .bytes octets others
  case h_3 items others =>
    exact .tuple compared
  case h_4 =>
    split at compared
    case h_1 p q pointA pointB =>
      cases compared
      exact .points pointA pointB
    case h_2 =>
      cases compared

theorem Ordered.compare?_eq
    {a b : Value}
    {outcome : Ordering}
    (ordered : a.Ordered b outcome) :
    a.compare? b = some outcome := by
  cases ordered with
  | points pointA pointB =>
      rw [compare?_of_isNumber (isNumber_of_point? pointA), pointA, pointB]
  | str text other => rfl
  | bytes octets others => rfl
  | tuple compared => exact compared

theorem comparable_of_isNumber
    {a b : Value}
    (numberA : a.isNumber = true)
    (numberB : b.isNumber = true) :
    a.comparable b = true := by
  unfold comparable
  split <;> first | rfl | rw [numberA, numberB]; rfl

/-- Where there is an order, the kinds have one. -/
theorem Ordered.comparable
    {a b : Value}
    {outcome : Ordering}
    (ordered : a.Ordered b outcome) :
    a.comparable b = true := by
  cases ordered with
  | points pointA pointB =>
      exact comparable_of_isNumber (isNumber_of_point? pointA) (isNumber_of_point? pointB)
  | str text other => rfl
  | bytes octets others => rfl
  | tuple compared => rfl

/-! ## Two steps up -/

/--
Tuples come out as their first items do, unless these are equal; then they come out as
the rest does.
-/
theorem compareItems?_cons_eq_some_iff
    {a b : Value}
    {restA restB : List Value}
    {outcome : Ordering} :
    compareItems? (a :: restA) (b :: restB) = some outcome ↔
      (a.compare? b = some .eq ∧ compareItems? restA restB = some outcome) ∨
        (a.compare? b = some outcome ∧ outcome ≠ .eq) := by
  rw [compareItems?]
  cases a.compare? b with
  | none => simp
  | some head => cases head <;> cases outcome <;> simp

/-- Tuples climb item by item, as far as the items of the first tuple do. -/
theorem compareItems?_climbs
    {items : List Value}
    (inner :
      ∀ item ∈ items, ∀ b c : Value,
        Climbs (item.compare? b) (b.compare? c) (item.compare? c))
    (others more : List Value) :
    Climbs (compareItems? items others) (compareItems? others more)
      (compareItems? items more) := by
  intro lower upper first second lowerLE upperLE
  induction items generalizing others more lower upper with
  | nil =>
      cases others with
      | nil =>
          cases first
          exact second
      | cons b restB =>
          cases first
          cases more with
          | nil =>
              cases second
              cases upperLE
          | cons c restC =>
              rfl
  | cons a restA inductionHypothesis =>
      obtain ⟨head, rest⟩ := List.forall_mem_cons.mp inner
      cases others with
      | nil =>
          cases first
          cases lowerLE
      | cons b restB =>
          cases more with
          | nil =>
              cases second
              cases upperLE
          | cons c restC =>
              -- The whole tuples leave their common beginning where the first of the
              -- two steps does.
              rw [compareItems?_cons_eq_some_iff] at first second ⊢
              rcases first with ⟨equal, restFirst⟩ | ⟨below, different⟩
              · rcases second with ⟨equalNext, restSecond⟩ | ⟨belowNext, differentNext⟩
                · exact .inl ⟨head b c .eq .eq equal equalNext rfl rfl,
                    inductionHypothesis rest restB restC lower upper restFirst restSecond
                      lowerLE upperLE⟩
                · obtain rfl : upper = .lt := eq_lt_of_isLE upperLE differentNext
                  rw [then_lt_of_isLE lowerLE]
                  exact .inr ⟨head b c .eq .lt equal belowNext rfl rfl, nofun⟩
              · obtain rfl : lower = .lt := eq_lt_of_isLE lowerLE different
                rcases second with ⟨equalNext, -⟩ | ⟨belowNext, -⟩
                · exact .inr ⟨head b c .lt .eq below equalNext rfl rfl, nofun⟩
                · exact .inr ⟨head b c .lt upper below belowNext rfl upperLE, nofun⟩

/-- Two steps up settle the third comparison, if they do among the items of a tuple. -/
theorem climbs_of_items
    {a : Value}
    (inner :
      ∀ items, a = .tuple items → ∀ item ∈ items, ∀ b c : Value,
        Climbs (item.compare? b) (b.compare? c) (item.compare? c))
    (b c : Value) :
    Climbs (a.compare? b) (b.compare? c) (a.compare? c) := by
  intro lower upper first second lowerLE upperLE
  cases ordered_of_compare? first with
  | points pointA pointB =>
      cases ordered_of_compare? second with
      | points samePoint pointC =>
          obtain rfl := Option.some.inj (pointB.symm.trans samePoint)
          rw [(Ordered.points pointA pointC).compare?_eq]
          exact (Chained.of_transCmp Extended.order _ _ _).climbs _ _ rfl rfl lowerLE upperLE
      | _ => cases pointB
  | str text other =>
      cases ordered_of_compare? second with
      | points pointB => cases pointB
      | str _ third =>
          exact (Chained.of_transCmp compare text other third).climbs _ _ rfl rfl
            lowerLE upperLE
  | bytes octets others =>
      cases ordered_of_compare? second with
      | points pointB => cases pointB
      | bytes _ more =>
          exact (Chained.of_transCmp compare octets others more).climbs _ _ rfl rfl
            lowerLE upperLE
  | tuple itemsFirst =>
      cases ordered_of_compare? second with
      | points pointB => cases pointB
      | tuple itemsSecond =>
          exact compareItems?_climbs (inner _ rfl) _ _ lower upper itemsFirst itemsSecond
            lowerLE upperLE

/-- Two steps up settle the third comparison, for values of any kind and nesting. -/
theorem compare?_climbs (a b c : Value) :
    Climbs (a.compare? b) (b.compare? c) (a.compare? c) := by
  induction a using Value.induction generalizing b c with
  | tuple items inner =>
      refine climbs_of_items ?_ b c
      rintro _ ⟨⟩
      exact inner
  | _ => exact climbs_of_items (fun items same => by cases same) b c

/-- A value is at most another if they have an order and it does not go down. -/
theorem atMost_iff_exists_isLE
    {a b : Value} :
    a.AtMost b ↔ ∃ outcome, a.compare? b = some outcome ∧ outcome.isLE = true := by
  unfold AtMost
  cases a.compare? b with
  | none => simp
  | some outcome => cases outcome <;> simp

/-! ## Numbers without order -/

/-- A float that is no number. -/
def IsNaN (a : Value) : Prop :=
  ∃ x : Double, a = .float x ∧ x.isNaN = true

/-- Of the numbers only a NaN denotes no point. -/
theorem point?_eq_none_iff
    {a : Value}
    (number : a.isNumber = true) :
    a.point? = none ↔ a.IsNaN := by
  cases a with
  | bool b => simp [point?, IsNaN]
  | int n => simp [point?, IsNaN]
  | float x => simp [point?, IsNaN, Extended.ofDouble?_eq_none_iff]
  | _ => cases number

/-- Numbers of any kinds have an order, unless one of them is a NaN. -/
theorem compare?_isSome_iff_of_isNumber
    {a b : Value}
    (numberA : a.isNumber = true)
    (numberB : b.isNumber = true) :
    (a.compare? b).isSome = true ↔ ¬a.IsNaN ∧ ¬b.IsNaN := by
  rw [compare?_of_isNumber numberA, ← point?_eq_none_iff numberA,
    ← point?_eq_none_iff numberB]
  cases a.point? <;> cases b.point? <;> simp

/--
The order that callers see is a partial preorder on all values.  Asking from the other
side reverses the outcome and is defined for the same pairs.  Two steps up that are
defined make a step up that is defined, and an equality only if both are equalities.
Kinds have an order in either direction, and whatever has an order is of such kinds.
Numbers of any kinds have an order except with a NaN, which has one with no number.
-/
theorem compare?_preorder (a b c : Value) :
    b.compare? a = (a.compare? b).map Ordering.swap ∧
      (a.AtMost b →
        b.AtMost c →
          a.AtMost c ∧
            (a.compare? c = some .eq →
              a.compare? b = some .eq ∧ b.compare? c = some .eq)) ∧
      a.comparable b = b.comparable a ∧
      ((a.compare? b).isSome = true → a.comparable b = true) ∧
      (a.isNumber = true →
        b.isNumber = true →
          ((a.compare? b).isSome = true ↔ ¬a.IsNaN ∧ ¬b.IsNaN)) := by
  refine ⟨compare?_swap a b, fun stepAB stepBC => ?_, comparable_comm a b,
    fun defined => ?_, compare?_isSome_iff_of_isNumber⟩
  · obtain ⟨lower, first, lowerLE⟩ := atMost_iff_exists_isLE.mp stepAB
    obtain ⟨upper, second, upperLE⟩ := atMost_iff_exists_isLE.mp stepBC
    have whole : a.compare? c = some (lower.then upper) :=
      compare?_climbs a b c lower upper first second lowerLE upperLE
    have wholeLE : (lower.then upper).isLE = true := by
      cases lower <;> first | exact upperLE | rfl | cases lowerLE
    refine ⟨atMost_iff_exists_isLE.mpr ⟨_, whole, wholeLE⟩, fun equal => ?_⟩
    rw [whole, Option.some.injEq, Ordering.then_eq_eq] at equal
    exact ⟨first.trans (congrArg some equal.1), second.trans (congrArg some equal.2)⟩
  · obtain ⟨outcome, compared⟩ := Option.isSome_iff_exists.mp defined
    exact (ordered_of_compare? compared).comparable

/-- Three tuples whose second places are neighbours, the middle one a float. -/
def neighbours : Value × Value × Value :=
  (.tuple [.bool true, .int 9007199254740991, .list []],
    -- The floats are `1` and `2 ^ 53`; the next integer is no float.
    .tuple [.float ⟨0x3FF0000000000000⟩, .float ⟨0x4340000000000000⟩, .null],
    .tuple [.int 1, .int 9007199254740993])

/-- The outer two have an order, although `[]` has none and stands behind; a NaN has none. -/
theorem neighbours_preorder :
    neighbours.1.AtMost neighbours.2.1 ∧
      neighbours.2.1.AtMost neighbours.2.2 ∧
      neighbours.1.AtMost neighbours.2.2 ∧
      neighbours.1.compare? neighbours.2.2 ≠ some .eq ∧
      neighbours.1.comparable neighbours.2.1 = true ∧
      ((Value.bool true).compare? (.float .nan)).isSome = false := by
  have stepUp : neighbours.1.AtMost neighbours.2.1 := .inl (by decide +kernel)
  have nextUp : neighbours.2.1.AtMost neighbours.2.2 := .inl (by decide +kernel)
  obtain ⟨-, climb, -, kinds, -⟩ :=
    compare?_preorder neighbours.1 neighbours.2.1 neighbours.2.2
  obtain ⟨whole, onlyIfEqual⟩ := climb stepUp nextUp
  obtain ⟨-, -, -, -, numbers⟩ := compare?_preorder (.bool true) (.float .nan) .null
  refine ⟨stepUp, nextUp, whole, fun equal => ?_, kinds (by decide +kernel), ?_⟩
  · have unequal : neighbours.1.compare? neighbours.2.1 ≠ some .eq := by decide +kernel
    exact unequal (onlyIfEqual equal).1
  · rw [Bool.eq_false_iff, ne_eq, numbers rfl rfl]
    exact fun both => both.2 ⟨.nan, rfl, by decide⟩

end Value

end CallGuard
