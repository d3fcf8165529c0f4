import CallGuard.Proofs.Checker.Decision
import CallGuard.Proofs.Result
import CallGuard.Proofs.Value.Twins

namespace CallGuard

/-!
# Whether an interval contains its own ends

Bounds are refused by their kinds, and where the lower exceeds the upper.  What stands
inside a bound is not looked at: a tuple may hold a value without order, and a float
may be a NaN.  Such a bound has no order with itself, so the interval does not contain
it.  An accepted interval contains its ends exactly as far as these are orderable and
have an order with each other.
-/

namespace Value

/-! ## Order of a value with itself -/

/-- A value that has an order with itself: no NaN and nothing without order in it. -/
inductive Orderable : Value → Prop where
  | number {a : Value} {p : Extended} (point : a.point? = some p) : Orderable a
  | str (text : String) : Orderable (.str text)
  | bytes (octets : List UInt8) : Orderable (.bytes octets)
  | tuple {items : List Value} (inner : ∀ item ∈ items, Orderable item) :
      Orderable (.tuple items)

theorem orderable_tuple_iff {items : List Value} :
    (Value.tuple items).Orderable ↔ ∀ item ∈ items, item.Orderable := by
  constructor
  · intro orderable
    cases orderable with
    | number point => cases point
    | tuple inner => exact inner
  · exact .tuple

theorem compareItems?_self_iff {items : List Value} :
    compareItems? items items = some .eq ↔
      ∀ item ∈ items, item.compare? item = some .eq := by
  induction items with
  | nil =>
      simp [compareItems?]
  | cons item rest inductionHypothesis =>
      rw [List.forall_mem_cons, ← inductionHypothesis, compareItems?]
      cases item.compare? item with
      | none => simp
      | some outcome => cases outcome <;> simp

/-- A number is orderable if it denotes a point, and then it equals itself. -/
theorem compare?_self_iff_of_isNumber
    {a : Value}
    (number : a.isNumber = true) :
    a.compare? a = some .eq ↔ a.Orderable := by
  rw [compare?_of_isNumber number]
  cases point : a.point? with
  | none =>
      simp only [reduceCtorEq, false_iff]
      intro orderable
      cases orderable with
      | number other => simp [point] at other
      | _ => cases number
  | some p =>
      have samePoint : p.order p = .eq :=
        Std.LawfulEqCmp.compare_eq_iff_eq.mpr rfl
      simp only [samePoint, true_iff]
      exact .number point

/-- A value equals itself in the order of callers exactly if it is orderable. -/
theorem compare?_self_iff {a : Value} :
    a.compare? a = some .eq ↔ a.Orderable := by
  induction a using Value.induction with
  | bool b => exact compare?_self_iff_of_isNumber rfl
  | int n => exact compare?_self_iff_of_isNumber rfl
  | float x => exact compare?_self_iff_of_isNumber rfl
  | str text => simp [compare?, Orderable.str]
  | bytes octets => simp [compare?, Orderable.bytes]
  | tuple items inner =>
      rw [compare?, compareItems?_self_iff, orderable_tuple_iff]
      exact forall₂_congr inner
  | _ =>
      constructor
      · intro equal
        cases equal
      · intro orderable
        cases orderable with
        | number point => cases point

theorem atMost_self_iff {a : Value} :
    a.AtMost a ↔ a.Orderable := by
  rw [← compare?_self_iff]
  constructor
  · rintro (below | equal)
    · have swapped := compare?_swap a a
      simp [below] at swapped
    · exact equal
  · exact .inr

/-- A value that is not above another is below or equal if they have an order at all. -/
theorem atMost_iff_of_not_gt
    {a b : Value}
    (notAbove : a.compare? b ≠ some .gt) :
    a.AtMost b ↔ (a.compare? b).isSome = true := by
  unfold AtMost
  cases compared : a.compare? b with
  | none => simp
  | some outcome => cases outcome <;> simp_all

end Value

/-! ## Accepted intervals -/

namespace Interval

/-- What is looked at when bounds are declared: their kinds, and that they are in order. -/
structure Formed (interval : Interval) : Prop where
  kinds : ∀ bound ∈ interval.ends, bound.comparable bound = true
  comparable :
    ∀ low high,
      interval.low = some low → interval.high = some high → low.comparable high = true
  notInverted :
    ∀ low high,
      interval.low = some low → interval.high = some high → low.compare? high ≠ some .gt

theorem mem_ends_iff
    {interval : Interval}
    {bound : Value} :
    bound ∈ interval.ends ↔ interval.low = some bound ∨ interval.high = some bound := by
  simp [ends]

theorem clash?_eq_none_iff {low high : Value} :
    clash? low high = none ↔
      low.comparable high = true ∧ low.compare? high ≠ some .gt := by
  unfold clash?
  cases low.comparable high <;> simp

theorem fault?_eq_none_iff {low high : Option Value} :
    fault? low high = none ↔ Formed ⟨low, high⟩ := by
  have ordered (bounds : List Value) :
      ((bounds.find? fun bound => !bound.comparable bound).map
          IntervalFault.unordered) = none ↔
        ∀ bound ∈ bounds, bound.comparable bound = true := by
    simp
  unfold fault?
  split
  case h_1 low high =>
    have fits :
        clash? low high = none ↔
          low.comparable high = true ∧ low.compare? high ≠ some .gt :=
      clash?_eq_none_iff
    dsimp only
    split
    case h_1 fault clashed =>
      simp only [reduceCtorEq, false_iff]
      intro formed
      have fitting := fits.mpr ⟨formed.comparable _ _ rfl rfl, formed.notInverted _ _ rfl rfl⟩
      simp [fitting] at clashed
    case h_2 fitting =>
      rw [ordered]
      refine ⟨fun kinds => ⟨kinds, ?_, ?_⟩, Formed.kinds⟩ <;> rintro _ _ ⟨⟩ ⟨⟩
      · exact (fits.mp fitting).1
      · exact (fits.mp fitting).2
  case h_2 low high apart =>
    rw [ordered]
    exact
      ⟨fun kinds =>
          ⟨kinds, fun _ _ isLow isHigh => (apart _ _ isLow isHigh).elim,
            fun _ _ isLow isHigh => (apart _ _ isLow isHigh).elim⟩,
        Formed.kinds⟩

/-- Two optional bounds are accepted exactly if they form an interval. -/
theorem ofBounds_eq_ok_iff
    {low high : Option Value}
    {interval : Interval} :
    ofBounds low high = .ok interval ↔ interval = ⟨low, high⟩ ∧ interval.Formed := by
  unfold ofBounds
  cases found : fault? low high with
  | none =>
      have formed := fault?_eq_none_iff.mp found
      simp only [Except.ok.injEq]
      constructor
      · rintro rfl
        exact ⟨rfl, formed⟩
      · rintro ⟨rfl, -⟩
        rfl
  | some fault =>
      simp only [reduceCtorEq, false_iff, not_and]
      rintro rfl formed
      simp [fault?_eq_none_iff.mpr formed] at found

namespace Formed

variable {interval : Interval} {bound : Value}

/-- The ends have kinds with an order, whichever of them is taken first. -/
theorem comparable_of_mem_ends
    (formed : interval.Formed)
    {other : Value}
    (member : bound ∈ interval.ends)
    (otherMember : other ∈ interval.ends) :
    bound.comparable other = true := by
  rcases mem_ends_iff.mp member with isLow | isHigh
  · rcases mem_ends_iff.mp otherMember with sameLow | isHigh
    · obtain rfl : bound = other := Option.some.inj (isLow.symm.trans sameLow)
      exact formed.kinds bound member
    · exact formed.comparable bound other isLow isHigh
  · rcases mem_ends_iff.mp otherMember with isLow | sameHigh
    · rw [Value.comparable_comm]
      exact formed.comparable other bound isLow isHigh
    · obtain rfl : bound = other := Option.some.inj (isHigh.symm.trans sameHigh)
      exact formed.kinds bound member

/-- Of an end it remains to ask on which sides of the ends it lies. -/
theorem contains_iff_of_mem_ends
    (formed : interval.Formed)
    (member : bound ∈ interval.ends) :
    interval.Contains bound ↔
      (∀ low, interval.low = some low → low.AtMost bound) ∧
        ∀ high, interval.high = some high → bound.AtMost high := by
  constructor
  · exact fun inside => ⟨inside.notBelow, inside.notAbove⟩
  · rintro ⟨notBelow, notAbove⟩
    exact ⟨fun other => formed.comparable_of_mem_ends member, notBelow, notAbove⟩

theorem atMost_iff
    (formed : interval.Formed)
    {low high : Value}
    (isLow : interval.low = some low)
    (isHigh : interval.high = some high) :
    low.AtMost high ↔ (low.compare? high).isSome = true :=
  Value.atMost_iff_of_not_gt (formed.notInverted low high isLow isHigh)

/-- An interval contains its lower end if that has an order with itself and the upper. -/
theorem contains_low_iff
    (formed : interval.Formed)
    (isLow : interval.low = some bound) :
    interval.Contains bound ↔
      bound.Orderable ∧
        ∀ high, interval.high = some high → (bound.compare? high).isSome = true := by
  rw [formed.contains_iff_of_mem_ends (mem_ends_iff.mpr (.inl isLow))]
  apply and_congr
  · simp only [isLow, Option.some.injEq, forall_eq', Value.atMost_self_iff]
  · exact forall₂_congr fun high isHigh => formed.atMost_iff isLow isHigh

theorem contains_high_iff
    (formed : interval.Formed)
    (isHigh : interval.high = some bound) :
    interval.Contains bound ↔
      bound.Orderable ∧
        ∀ low, interval.low = some low → (low.compare? bound).isSome = true := by
  rw [formed.contains_iff_of_mem_ends (mem_ends_iff.mpr (.inr isHigh)), and_comm]
  apply and_congr
  · simp only [isHigh, Option.some.injEq, forall_eq', Value.atMost_self_iff]
  · exact forall₂_congr fun low isLow => formed.atMost_iff isLow isHigh

end Formed

end Interval

namespace Checker

/--
The checker of an accepted interval accepts an end of it exactly if that end is
orderable and has an order with the other end.  That the ends are of kinds with an
order, and not inverted, holds of every accepted interval.
-/
theorem within_accepts_ends_iff
    {low high : Option Value}
    {checker : Checker}
    (built : within low high = .ok checker) :
    (∀ bound,
        low = some bound →
          ∀ options name,
            checker.run options name bound = .ok () ↔
              bound.Orderable ∧
                ∀ other, high = some other → (bound.compare? other).isSome = true) ∧
      (∀ bound,
        high = some bound →
          ∀ options name,
            checker.run options name bound = .ok () ↔
              bound.Orderable ∧
                ∀ other, low = some other → (other.compare? bound).isSome = true) ∧
      Interval.Formed ⟨low, high⟩ := by
  obtain ⟨interval, accepted, rfl⟩ := Result.map_eq_ok_iff.mp built
  obtain ⟨rfl, formed⟩ := Interval.ofBounds_eq_ok_iff.mp accepted
  refine ⟨fun bound isLow options name => ?_, fun bound isHigh options name => ?_, formed⟩
  · exact (catalogue_within_decides _ options name bound).trans (formed.contains_low_iff isLow)
  · exact (catalogue_within_decides _ options name bound).trans (formed.contains_high_iff isHigh)

/-- A lower end with a value without order in its second place. -/
def raggedLow : Value :=
  .tuple [.str "a", .list []]

/-- An upper end that lies above `raggedLow` by its first place already. -/
def plainHigh : Value :=
  .tuple [.str "b"]

/-- The interval is accepted; its checker rejects the lower end and accepts the upper. -/
theorem raggedLow_within_accepts_ends :
    ∃ checker,
      within (some raggedLow) (some plainHigh) = .ok checker ∧
        ∀ options name,
          checker.run options name raggedLow ≠ .ok () ∧
            checker.run options name plainHigh = .ok () := by
  have built : within (some raggedLow) (some plainHigh) = .ok _ := rfl
  obtain ⟨atLow, atHigh, -⟩ := within_accepts_ends_iff built
  refine ⟨_, built, fun options name => ⟨fun accepted => ?_, ?_⟩⟩
  · obtain ⟨orderable, -⟩ := (atLow raggedLow rfl options name).mp accepted
    have inner := Value.orderable_tuple_iff.mp orderable (.list []) (by simp)
    cases inner with
    | number point => cases point
  · refine (atHigh plainHigh rfl options name).mpr ⟨.tuple fun item member => ?_, ?_⟩
    · obtain rfl := List.mem_singleton.mp member
      exact .str "b"
    · rintro other ⟨⟩
      rfl

/-- A tuple around a value without order. -/
def wrappedList : Value :=
  .tuple [.list []]

/-- The interval from `wrappedList` on is accepted, and its checker rejects every value. -/
theorem wrappedList_within_empty :
    ∃ checker,
      within (some wrappedList) none = .ok checker ∧
        ∀ options name value, checker.run options name value ≠ .ok () := by
  have built : within (some wrappedList) none = .ok _ := rfl
  refine ⟨_, built, fun options name value accepted => ?_⟩
  have inside : Interval.Contains ⟨some wrappedList, none⟩ value :=
    (catalogue_within_decides _ options name value).mp accepted
  -- Only a tuple could be above, and its first place would have to have an order with `[]`.
  have above : wrappedList.AtMost value := inside.notBelow wrappedList rfl
  cases value with
  | tuple items =>
      cases items with
      | nil => rcases above with below | equal <;> contradiction
      | cons item rest => rcases above with below | equal <;> cases item <;> contradiction
  | _ => rcases above with below | equal <;> contradiction

end Checker

end CallGuard
