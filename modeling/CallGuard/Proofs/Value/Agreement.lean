import CallGuard.Proofs.Number.Double
import CallGuard.Proofs.Value.Preorder

namespace CallGuard.Value

/-!
# Where equality and order agree

The order of callers goes into tuples and compares the numbers there across their kinds.
The equality of callers does so at the top only: inside a tuple it is that of storage,
which tells `1` from `1.0`.  So of two values with an order those that are equal compare
as equal, but those that compare as equal are equal only if they are numbers or their
numbers are of the same kinds at every place.
-/

/-- Two values of one kind, and tuples item by item so. -/
inductive KindsAgree : Value → Value → Prop where
  | flat {a b : Value} :
      a.rank = b.rank →
      (∀ items, a ≠ .tuple items) →
      KindsAgree a b
  | tuple {items others : List Value} :
      List.Forall₂ KindsAgree items others →
      KindsAgree (.tuple items) (.tuple others)

theorem kindsAgree_iff_of_flat
    {a b : Value}
    (flat : ∀ items, a ≠ .tuple items) :
    a.KindsAgree b ↔ a.rank = b.rank := by
  constructor
  · intro agree
    cases agree with
    | flat sameRank => exact sameRank
    | tuple => exact (flat _ rfl).elim
  · exact fun sameRank => .flat sameRank flat

theorem kindsAgree_tuple_iff {items others : List Value} :
    (Value.tuple items).KindsAgree (.tuple others) ↔
      List.Forall₂ KindsAgree items others := by
  constructor
  · intro agree
    cases agree with
    | flat _ flat => exact (flat items rfl).elim
    | tuple inner => exact inner
  · exact .tuple

/-- Numbers are stored as one if they are of one kind and at one point. -/
theorem order_eq_iff_of_points
    {a b : Value}
    {p q : Extended}
    (pointA : a.point? = some p)
    (pointB : b.point? = some q) :
    a.order b = .eq ↔ p.order q = .eq ∧ a.rank = b.rank := by
  constructor
  · intro stored
    have samePoint := (number_congr_of_same (beq_iff_eq.mpr stored)).2
    rw [pointA, pointB, Option.some.injEq] at samePoint
    exact ⟨samePoint ▸ Std.ReflCmp.compare_self, rank_eq_of_order_eq stored⟩
  · rintro ⟨equal, sameRank⟩
    obtain rfl : p = q := Std.LawfulEqCmp.eq_of_compare equal
    have samePoint : a.point? = b.point? := pointA.trans pointB.symm
    cases sameKind_of_rank_eq sameRank with
    | bool a b =>
        have sameInteger := Double.ofInt_inj.mp (Option.some.inj samePoint)
        obtain rfl : a = b := by
          cases a <;> cases b <;> first | rfl | cases sameInteger
        exact order_self _
    | int n m =>
        obtain rfl : n = m := Double.ofInt_inj.mp (Option.some.inj samePoint)
        exact order_self _
    | float x y =>
        have itself : p.order p = .eq := Std.ReflCmp.compare_self
        change Extended.ofDouble? x = some p at pointA
        change Extended.ofDouble? y = some p at pointB
        simp only [order, Double.order, pointA, pointB, itself]
    | _ => cases pointA

/-- Tuples are stored as one if they are equal item by item and of the same kinds. -/
theorem orderItems_eq_iff_of_compareItems?
    {items : List Value}
    (inner :
      ∀ item ∈ items, ∀ (b : Value) (outcome : Ordering),
        item.compare? b = some outcome →
        (item.order b = .eq ↔ outcome = .eq ∧ item.KindsAgree b))
    {others : List Value}
    {outcome : Ordering}
    (compared : compareItems? items others = some outcome) :
    orderItems items others = .eq ↔
      outcome = .eq ∧ List.Forall₂ KindsAgree items others := by
  induction items generalizing others with
  | nil =>
      cases others with
      | nil =>
          cases compared
          simp [orderItems]
      | cons b restB =>
          cases compared
          simp [orderItems]
  | cons a restA inductionHypothesis =>
      obtain ⟨head, rest⟩ := List.forall_mem_cons.mp inner
      cases others with
      | nil =>
          cases compared
          simp [orderItems]
      | cons b restB =>
          rw [orderItems, Ordering.then_eq_eq, List.forall₂_cons]
          rcases compareItems?_cons_eq_some_iff.mp compared with
            ⟨equal, restCompared⟩ | ⟨headCompared, different⟩
          · rw [head b .eq equal, inductionHypothesis rest restCompared]
            tauto
          · rw [head b outcome headCompared]
            tauto

/-- Of two values with an order, those stored as one are equal in it and of the same kinds. -/
theorem order_eq_iff_of_compare?
    {a b : Value}
    {outcome : Ordering}
    (compared : a.compare? b = some outcome) :
    a.order b = .eq ↔ outcome = .eq ∧ a.KindsAgree b := by
  induction a using Value.induction generalizing b outcome with
  | tuple items inner =>
      cases ordered_of_compare? compared with
      | points pointA => cases pointA
      | tuple itemsCompared =>
          rw [kindsAgree_tuple_iff]
          refine orderItems_eq_iff_of_compareItems? (fun item member b outcome => ?_)
            itemsCompared
          exact inner item member
  | _ =>
      rw [kindsAgree_iff_of_flat (by rintro _ ⟨⟩)]
      cases ordered_of_compare? compared with
      | points pointA pointB => exact order_eq_iff_of_points pointA pointB
      | _ => simp [order, rank]

/--
Of two values with an order the equal ones are those that compare as equal, except that
inside tuples the kinds of the numbers have to be the same.
-/
theorem looseEq_iff_of_compare?
    {a b : Value}
    {outcome : Ordering}
    (compared : a.compare? b = some outcome) :
    a.looseEq b = true ↔ outcome = .eq ∧ (a.isNumber = true ∨ a.KindsAgree b) := by
  cases number : a.isNumber with
  | true =>
      cases ordered_of_compare? compared with
      | points pointA pointB =>
          have otherNumber := isNumber_of_point? pointB
          simp [looseEq, number, otherNumber, compared]
      | _ => cases number
  | false =>
      rw [looseEq_eq_same number, same, beq_iff_eq, order_eq_iff_of_compare? compared]
      simp

end CallGuard.Value
