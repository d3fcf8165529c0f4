import CallGuard.Proofs.Checker.Endpoints
import CallGuard.Proofs.Value.Preorder

namespace CallGuard

/-!
# How an interval refuses a value

An interval refuses a value by its type where the kinds have no order, and otherwise as
out of bounds.  For numbers other than NaN, strings and bytes that tells whether there is
an order at all.  Tuples are of one kind whatever is in them, though: tuples that part
ways at items without an order have none, and still the refusal is as out of bounds.
-/

namespace Value

/-! ## Tuples without an order -/

/-- Tuples that are equal item by item up to items that have no order. -/
def PartWays (a b : Value) : Prop :=
  ∃ front item rest others other more,
    a = .tuple (front ++ item :: rest) ∧
      b = .tuple (others ++ other :: more) ∧
      List.Forall₂ (fun x y : Value => x.compare? y = some .eq) front others ∧
      item.compare? other = none

theorem compareItems?_cons_eq_none_iff
    {a b : Value}
    {restA restB : List Value} :
    compareItems? (a :: restA) (b :: restB) = none ↔
      a.compare? b = none ∨
        (a.compare? b = some .eq ∧ compareItems? restA restB = none) := by
  rw [compareItems?]
  cases a.compare? b with
  | none => simp
  | some outcome => cases outcome <;> simp

theorem partWays_cons_iff
    {a b : Value}
    {restA restB : List Value} :
    (Value.tuple (a :: restA)).PartWays (.tuple (b :: restB)) ↔
      a.compare? b = none ∨
        (a.compare? b = some .eq ∧ (Value.tuple restA).PartWays (.tuple restB)) := by
  constructor
  · rintro ⟨front, item, rest, others, other, more, shapeA, shapeB, equal, unordered⟩
    cases equal with
    | nil =>
        cases shapeA
        cases shapeB
        exact .inl unordered
    | @cons first second front others headEqual restEqual =>
        cases shapeA
        cases shapeB
        exact .inr ⟨headEqual, front, item, rest, others, other, more, rfl, rfl, restEqual,
          unordered⟩
  · rintro (unordered | ⟨headEqual, front, item, rest, others, other, more, shapeA, shapeB,
      restEqual, unordered⟩)
    · exact ⟨[], a, restA, [], b, restB, rfl, rfl, .nil, unordered⟩
    · cases shapeA
      cases shapeB
      exact ⟨a :: front, item, rest, b :: others, other, more, rfl, rfl,
        .cons headEqual restEqual, unordered⟩

/-- Tuples have no order exactly if they part ways. -/
theorem compareItems?_eq_none_iff
    {items others : List Value} :
    compareItems? items others = none ↔ (Value.tuple items).PartWays (.tuple others) := by
  induction items generalizing others with
  | nil =>
      cases others <;> simp [compareItems?, PartWays]
  | cons a restA inductionHypothesis =>
      cases others with
      | nil =>
          simp [compareItems?, PartWays]
      | cons b restB =>
          rw [compareItems?_cons_eq_none_iff, partWays_cons_iff, inductionHypothesis]

theorem PartWays.compare?_eq_none
    {a b : Value}
    (partWays : a.PartWays b) :
    a.compare? b = none := by
  obtain ⟨front, item, rest, others, other, more, rfl, rfl, -⟩ := id partWays
  rw [compare?]
  exact compareItems?_eq_none_iff.mpr partWays

/-- Values that part ways are of one kind, so they are comparable with the same values. -/
theorem PartWays.comparable_eq
    {a b : Value}
    (partWays : a.PartWays b)
    (c : Value) :
    a.comparable c = b.comparable c := by
  obtain ⟨front, item, rest, others, other, more, rfl, rfl, -⟩ := partWays
  cases c <;> rfl

/-- Of values whose kinds have an order only a NaN and tuples may have none. -/
theorem partWays_of_compare?_eq_none
    {a b : Value}
    (notNaN : ¬a.IsNaN)
    (otherNotNaN : ¬b.IsNaN)
    (comparable : a.comparable b = true)
    (unordered : a.compare? b = none) :
    a.PartWays b := by
  unfold Value.comparable at comparable
  split at comparable
  case h_1 => cases unordered
  case h_2 => cases unordered
  case h_3 items others => exact compareItems?_eq_none_iff.mp unordered
  case h_4 =>
    obtain ⟨number, otherNumber⟩ := Bool.and_eq_true_iff.mp comparable
    have ordered :=
      (compare?_isSome_iff_of_isNumber number otherNumber).mpr ⟨notNaN, otherNotNaN⟩
    rw [unordered] at ordered
    cases ordered

end Value

namespace Interval

/-- A value below the lower end or above the upper one. -/
def Beyond (interval : Interval) (value : Value) : Prop :=
  (∃ low, interval.low = some low ∧ value.compare? low = some .lt) ∨
    ∃ high, interval.high = some high ∧ value.compare? high = some .gt

/-- What has an order with every end is not contained if it is below or above. -/
theorem not_contains_iff_beyond
    {interval : Interval}
    {value : Value}
    (ordered : ∀ bound ∈ interval.ends, (value.compare? bound).isSome = true) :
    ¬interval.Contains value ↔ interval.Beyond value := by
  constructor
  · intro outside
    by_contra notBeyond
    refine outside ⟨fun bound member => ?_, fun low isLow => ?_, fun high isHigh => ?_⟩
    · obtain ⟨outcome, compared⟩ := Option.isSome_iff_exists.mp (ordered bound member)
      exact (Value.ordered_of_compare? compared).comparable
    · obtain ⟨outcome, compared⟩ :=
        Option.isSome_iff_exists.mp (ordered low (mem_ends_iff.mpr (.inl isLow)))
      rw [Value.atMost_iff_from_above, compared]
      cases outcome with
      | lt => exact (notBeyond (.inl ⟨low, isLow, compared⟩)).elim
      | eq => exact .inr rfl
      | gt => exact .inl rfl
    · refine (Value.atMost_iff_of_not_gt fun above => ?_).mpr
        (ordered high (mem_ends_iff.mpr (.inr isHigh)))
      exact notBeyond (.inr ⟨high, isHigh, above⟩)
  · rintro (⟨low, isLow, below⟩ | ⟨high, isHigh, above⟩) inside
    · rcases Value.atMost_iff_from_above.mp (inside.notBelow low isLow) with other | other
      · rw [below] at other
        cases other
      · rw [below] at other
        cases other
    · rcases inside.notAbove high isHigh with other | other
      · rw [above] at other
        cases other
      · rw [above] at other
        cases other

end Interval

namespace Checker

/-- A checker refuses a value with a failure of a given kind. -/
def FailsAs
    (checker : Checker)
    (options : CheckOptions)
    (name : Option String)
    (value : Value)
    (kind : FailureKind) :
    Prop :=
  ∃ failure, checker.run options name value = .error failure ∧ failure.kind = kind

/-- A rule refuses what it finds a fault with, by the kind of the fault. -/
theorem catalogue_failsAs_iff
    {tested : Rule}
    {options : CheckOptions}
    {name : Option String}
    {value : Value}
    {kind : FailureKind} :
    (catalogue tested).FailsAs options name value kind ↔
      ∃ fault, tested.test? value = some fault ∧ fault.kind = kind := by
  unfold FailsAs
  rw [catalogue_run, Check.run]
  cases tested.test? value with
  | none => simp
  | some fault => simp [Failure.kind]

section within

variable {interval : Interval} {options : CheckOptions} {name : Option String} {value : Value}

/-- An interval refuses by the type what is of a kind without order against an end. -/
theorem within_failsAs_wrongType_iff :
    (catalogue (.within interval)).FailsAs options name value .wrongType ↔
      ∃ bound ∈ interval.ends, value.comparable bound = false := by
  rw [catalogue_failsAs_iff, Rule.test?, Interval.test?]
  split
  case isTrue apart =>
    simpa [Fault.kind] using apart
  case isFalse together =>
    have comparable : ¬∃ bound ∈ interval.ends, value.comparable bound = false := by
      simpa using together
    simp only [comparable, iff_false]
    split <;> simp [Fault.kind]

/-- An interval refuses as out of bounds what is of comparable kinds and not contained. -/
theorem within_failsAs_outOfBounds_iff :
    (catalogue (.within interval)).FailsAs options name value .outOfBounds ↔
      (∀ bound ∈ interval.ends, value.comparable bound = true) ∧
        ¬interval.Contains value := by
  rw [catalogue_failsAs_iff, Rule.test?, ← Interval.test?_eq_none_iff, Interval.test?]
  split
  case isTrue apart =>
    have incomparable : ¬∀ bound ∈ interval.ends, value.comparable bound = true := by
      simpa using apart
    simp [Fault.kind, incomparable]
  case isFalse together =>
    have comparable : ∀ bound ∈ interval.ends, value.comparable bound = true := by
      simpa using together
    simp only [and_iff_right comparable]
    split <;> simp [Fault.kind]

end within

/-- A value that parts ways with an end is refused as out of bounds. -/
theorem within_failsAs_outOfBounds_of_partWays
    {interval : Interval}
    (formed : interval.Formed)
    {value bound : Value}
    (member : bound ∈ interval.ends)
    (partWays : value.PartWays bound)
    (options : CheckOptions)
    (name : Option String) :
    (catalogue (.within interval)).FailsAs options name value .outOfBounds := by
  rw [within_failsAs_outOfBounds_iff]
  refine ⟨fun other otherMember => ?_, fun inside => ?_⟩
  · rw [partWays.comparable_eq]
    exact formed.comparable_of_mem_ends member otherMember
  · have unordered := partWays.compare?_eq_none
    rcases Interval.mem_ends_iff.mp member with isLow | isHigh
    · have below := Value.atMost_iff_from_above.mp (inside.notBelow bound isLow)
      simp [unordered] at below
    · have above := inside.notAbove bound isHigh
      simp [Value.AtMost, unordered] at above

/--
Let no bound be a NaN, and no NaN be tested.  Then the checker of an accepted interval
refuses by the type exactly what has no order with a bound, and as out of bounds exactly
what has an order with every bound and lies below or above, if and only if the value
parts ways with no bound.  What parts ways with a bound is refused as out of bounds.
-/
theorem within_failure_classified_iff
    {low high : Option Value}
    {checker : Checker}
    (built : within low high = .ok checker)
    {value : Value}
    (notNaN : ¬value.IsNaN)
    (boundsNotNaN : ∀ bound ∈ Interval.ends ⟨low, high⟩, ¬bound.IsNaN)
    (options : CheckOptions)
    (name : Option String) :
    (((checker.FailsAs options name value .wrongType ↔
            ∃ bound ∈ Interval.ends ⟨low, high⟩, value.compare? bound = none) ∧
          (checker.FailsAs options name value .outOfBounds ↔
            (∀ bound ∈ Interval.ends ⟨low, high⟩, (value.compare? bound).isSome = true) ∧
              Interval.Beyond ⟨low, high⟩ value)) ↔
        ∀ bound ∈ Interval.ends ⟨low, high⟩, ¬value.PartWays bound) ∧
      ∀ bound ∈ Interval.ends ⟨low, high⟩,
        value.PartWays bound → checker.FailsAs options name value .outOfBounds := by
  obtain ⟨interval, accepted, rfl⟩ := Result.map_eq_ok_iff.mp built
  obtain ⟨rfl, formed⟩ := Interval.ofBounds_eq_ok_iff.mp accepted
  refine ⟨⟨?_, fun noneParts => ?_⟩, fun bound member partWays =>
    within_failsAs_outOfBounds_of_partWays formed member partWays options name⟩
  · rintro ⟨-, outOfBounds⟩ bound member partWays
    have ordered :=
      (outOfBounds.mp
        (within_failsAs_outOfBounds_of_partWays formed member partWays options name)).1
    have defined := ordered bound member
    rw [partWays.compare?_eq_none] at defined
    cases defined
  · have defined_iff :
        ∀ bound ∈ Interval.ends ⟨low, high⟩,
          ((value.compare? bound).isSome = true ↔ value.comparable bound = true) := by
      intro bound member
      constructor
      · intro defined
        obtain ⟨outcome, compared⟩ := Option.isSome_iff_exists.mp defined
        exact (Value.ordered_of_compare? compared).comparable
      · intro comparable
        by_contra undefined
        rw [Option.not_isSome_iff_eq_none] at undefined
        exact noneParts bound member
          (Value.partWays_of_compare?_eq_none notNaN (boundsNotNaN bound member) comparable
            undefined)
    constructor
    · rw [within_failsAs_wrongType_iff]
      refine exists_congr fun bound => and_congr_right fun member => ?_
      rw [← Option.not_isSome_iff_eq_none, defined_iff bound member, Bool.not_eq_true]
    · rw [within_failsAs_outOfBounds_iff, ← forall₂_congr defined_iff]
      exact and_congr_right Interval.not_contains_iff_beyond

/-- A tuple of a letter, as a lower end. -/
def letterLow : Value :=
  .tuple [.str "b"]

/-- A longer tuple of letters, as an upper end. -/
def letterHigh : Value :=
  .tuple [.str "d", .str "z"]

/-- A later letter in front of a value without order. -/
def laterLetter : Value :=
  .tuple [.str "e", .list []]

/-- The first places decide, so the value lies above the upper end, and its type is fine. -/
theorem laterLetter_failure_classified :
    ∃ checker,
      within (some letterLow) (some letterHigh) = .ok checker ∧
        ∀ options name,
          checker.FailsAs options name laterLetter .outOfBounds ∧
            ¬checker.FailsAs options name laterLetter .wrongType := by
  have built : within (some letterLow) (some letterHigh) = .ok _ := rfl
  have aboveLow : laterLetter.compare? letterLow = some .gt := by decide +kernel
  have aboveHigh : laterLetter.compare? letterHigh = some .gt := by decide +kernel
  have bounds (property : Value → Prop) (ofLow : property letterLow)
      (ofHigh : property letterHigh) :
      ∀ bound ∈ Interval.ends ⟨some letterLow, some letterHigh⟩, property bound :=
    List.forall_mem_cons.mpr ⟨ofLow, List.forall_mem_singleton.mpr ofHigh⟩
  have notNaN : ¬laterLetter.IsNaN := by
    rintro ⟨x, ⟨⟩, -⟩
  have boundsNotNaN := bounds (fun bound => ¬bound.IsNaN)
    (by rintro ⟨x, ⟨⟩, -⟩) (by rintro ⟨x, ⟨⟩, -⟩)
  refine ⟨_, built, fun options name => ?_⟩
  obtain ⟨classified_iff, -⟩ :=
    within_failure_classified_iff built notNaN boundsNotNaN options name
  obtain ⟨wrongType, outOfBounds⟩ :=
    classified_iff.mpr
      (bounds _ (fun parts => by simp [parts.compare?_eq_none] at aboveLow)
        fun parts => by simp [parts.compare?_eq_none] at aboveHigh)
  rw [wrongType, outOfBounds]
  have ordered := bounds (fun bound => (laterLetter.compare? bound).isSome = true)
    (by rw [aboveLow]; rfl) (by rw [aboveHigh]; rfl)
  refine ⟨⟨ordered, .inr ⟨letterHigh, rfl, aboveHigh⟩⟩, ?_⟩
  rintro ⟨bound, member, unordered⟩
  have defined := ordered bound member
  rw [unordered] at defined
  cases defined

/-- A tuple of a number, which has no order with one of a letter. -/
def numbered : Value :=
  .tuple [.int 1]

/-- There is no order between the two, but the refusal is not by the type. -/
theorem numbered_failure_misclassified :
    numbered.compare? letterLow = none ∧
      ∃ checker,
        within (some letterLow) none = .ok checker ∧
          ∀ options name,
            checker.FailsAs options name numbered .outOfBounds ∧
              ¬checker.FailsAs options name numbered .wrongType := by
  have unordered : numbered.compare? letterLow = none := by decide +kernel
  refine ⟨unordered, _, rfl, fun options name => ?_⟩
  have refused :
      (catalogue (.within ⟨some letterLow, none⟩)).run options name numbered =
        .error ⟨options.label name numbered, .outOfBounds ⟨some letterLow, none⟩ numbered⟩ :=
    rfl
  refine ⟨⟨_, refused, rfl⟩, ?_⟩
  rintro ⟨failure, failed, kind⟩
  rw [refused] at failed
  cases failed
  cases kind

end Checker

end CallGuard
