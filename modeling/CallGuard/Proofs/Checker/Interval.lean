import CallGuard.Checker.Rule
import CallGuard.Proofs.Value.Comparison

namespace CallGuard.Interval

/-!
# What lies in an interval

The test of an interval is compared with a statement about its ends alone: a
value is inside when it is comparable with every end that is present, no lower
end exceeds it, and it exceeds no upper end.
-/

/-- A value between the ends of an interval; an open side allows everything. -/
structure Contains
    (interval : Interval)
    (value : Value) :
    Prop where
  comparable : ∀ bound ∈ interval.ends, value.comparable bound = true
  notBelow : ∀ low, interval.low = some low → low.AtMost value
  notAbove : ∀ high, interval.high = some high → value.AtMost high

/-- Reaching the lower end is being at or above it, if there is one. -/
theorem reachesLow_eq_true_iff
    {interval : Interval}
    {value : Value} :
    interval.reachesLow value = true ↔
      ∀ low, interval.low = some low → low.AtMost value := by
  unfold reachesLow
  cases interval.low with
  | none =>
      simp
  | some low =>
      simp only [Option.all_some, Option.some.injEq, forall_eq',
        Value.atMost_iff_from_above]
      cases value.compare? low with
      | none =>
          simp
      | some outcome =>
          cases outcome <;> simp

theorem reachesHigh_eq_true_iff
    {interval : Interval}
    {value : Value} :
    interval.reachesHigh value = true ↔
      ∀ high, interval.high = some high → value.AtMost high := by
  unfold reachesHigh Value.AtMost
  cases interval.high with
  | none =>
      simp
  | some high =>
      simp only [Option.all_some, Option.some.injEq, forall_eq']
      cases value.compare? high with
      | none =>
          simp
      | some outcome =>
          cases outcome <;> simp

/-- The test finds nothing wrong exactly with the values inside. -/
theorem test?_eq_none_iff
    {interval : Interval}
    {value : Value} :
    interval.test? value = none ↔ interval.Contains value := by
  unfold test?
  split
  case isTrue apart =>
    obtain ⟨bound, member, incomparable⟩ := List.any_eq_true.mp apart
    simp only [reduceCtorEq, false_iff]
    intro inside
    simp [inside.comparable bound member] at incomparable
  case isFalse together =>
    have comparable : ∀ bound ∈ interval.ends, value.comparable bound = true := by
      simpa using together
    split
    case isTrue reached =>
      rw [Bool.and_eq_true, reachesLow_eq_true_iff,
        reachesHigh_eq_true_iff] at reached
      simp only [true_iff]
      exact ⟨comparable, reached.1, reached.2⟩
    case isFalse missed =>
      rw [Bool.and_eq_true, reachesLow_eq_true_iff,
        reachesHigh_eq_true_iff] at missed
      simp only [reduceCtorEq, false_iff]
      intro inside
      exact missed ⟨inside.notBelow, inside.notAbove⟩

end CallGuard.Interval
