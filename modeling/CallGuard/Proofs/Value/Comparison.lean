import CallGuard.Value.Compare

namespace CallGuard

/-!
# Comparing from either side

The order that callers see is read off one value against another.  Asking from
the other side reverses the outcome and is defined for the same pairs, so `AtMost`
may be read in the direction that suits the statement.
-/

/-- The extended line seen from the other side. -/
theorem Extended.order_swap (p q : Extended) :
    q.order p = (p.order q).swap := by
  cases p <;> cases q <;> simp only [Extended.order, Ordering.swap_lt, Ordering.swap_eq,
    Ordering.swap_gt]
  exact Std.OrientedCmp.eq_swap

namespace Value

/-- A pair of values that is neither of strings, bytes nor tuples compares by points. -/
theorem compare?_eq_points
    {a b : Value}
    (notStrings : ∀ s t, a = .str s → b = .str t → False)
    (notBytes : ∀ s t, a = .bytes s → b = .bytes t → False)
    (notTuples : ∀ s t, a = .tuple s → b = .tuple t → False) :
    a.compare? b =
      match a.point?, b.point? with
      | some p, some q => some (p.order q)
      | _, _ => none := by
  unfold compare?
  split
  · exact (notStrings _ _ rfl rfl).elim
  · exact (notBytes _ _ rfl rfl).elim
  · exact (notTuples _ _ rfl rfl).elim
  · rfl

/-- The outcome of comparing from the other side, for values and for items together. -/
private theorem compare?_swap_and_items :
    (∀ a b : Value, b.compare? a = (a.compare? b).map Ordering.swap) ∧
      ∀ itemsA itemsB : List Value,
        compareItems? itemsB itemsA =
          (compareItems? itemsA itemsB).map Ordering.swap := by
  apply compare?.mutual_induct
  case case1 =>
    intro a b
    simp only [compare?, Option.map_some]
    exact congrArg some Std.OrientedCmp.eq_swap
  case case2 =>
    intro a b
    simp only [compare?, Option.map_some]
    exact congrArg some Std.OrientedCmp.eq_swap
  case case3 =>
    intro a b inductionHypothesis
    simpa only [compare?] using inductionHypothesis
  case case4 =>
    intro a b notStrings notBytes notTuples p q pointB pointA
    rw [compare?_eq_points notStrings notBytes notTuples,
      compare?_eq_points
        (fun s t isB isA => notStrings t s isA isB)
        (fun s t isB isA => notBytes t s isA isB)
        (fun s t isB isA => notTuples t s isA isB)]
    simp only [pointA, pointB, Option.map_some]
    rw [Extended.order_swap]
  case case5 =>
    intro a b notStrings notBytes notTuples noPoints
    rw [compare?_eq_points notStrings notBytes notTuples,
      compare?_eq_points
        (fun s t isB isA => notStrings t s isA isB)
        (fun s t isB isA => notBytes t s isA isB)
        (fun s t isB isA => notTuples t s isA isB)]
    cases pointA : a.point? with
    | none =>
        cases b.point? <;> rfl
    | some p =>
        cases pointB : b.point? with
        | none =>
            rfl
        | some q =>
            exact (noPoints p q pointA pointB).elim
  case case6 =>
    rfl
  case case7 =>
    intro b restB
    rfl
  case case8 =>
    intro a restA
    rfl
  case case9 =>
    intro a restA b restB equal headSwap restSwap
    have headReversed : b.compare? a = some .eq := by
      rw [headSwap, equal]
      rfl
    simp only [compareItems?, equal, headReversed]
    exact restSwap
  case case10 =>
    intro a restA b restB different headSwap
    cases compared : a.compare? b with
    | none =>
        rw [compared, Option.map_none] at headSwap
        simp only [compareItems?, compared, headSwap, Option.map_none]
    | some outcome =>
        rw [compared, Option.map_some] at headSwap
        cases outcome with
        | lt =>
            simp only [compareItems?, compared, headSwap, Option.map_some,
              Ordering.swap_lt]
        | eq =>
            exact (different compared).elim
        | gt =>
            simp only [compareItems?, compared, headSwap, Option.map_some,
              Ordering.swap_gt]

/-- Comparing from the other side reverses the outcome and keeps it defined. -/
theorem compare?_swap (a b : Value) :
    b.compare? a = (a.compare? b).map Ordering.swap :=
  compare?_swap_and_items.1 a b

theorem comparable_comm (a b : Value) :
    a.comparable b = b.comparable a := by
  cases a <;> cases b <;> rfl

/-- One value has an order with another and does not exceed it. -/
def AtMost (a b : Value) : Prop :=
  a.compare? b = some .lt ∨ a.compare? b = some .eq

/-- The upper of two values sees the lower one below it or equal. -/
theorem atMost_iff_from_above
    {a b : Value} :
    a.AtMost b ↔ b.compare? a = some .gt ∨ b.compare? a = some .eq := by
  unfold AtMost
  rw [compare?_swap a b]
  cases a.compare? b with
  | none =>
      simp
  | some outcome =>
      cases outcome <;> simp

end Value

end CallGuard
