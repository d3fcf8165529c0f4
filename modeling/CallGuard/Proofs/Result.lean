import Mathlib.Data.List.Forall2

namespace CallGuard.Result

/-!
# When a result is a success

A step that can fail succeeds with a value exactly when the steps it is made of
succeed.  A run over a list stops at the first item that it does not pass.
-/

theorem map_eq_ok_iff
    {result : Except ε α}
    {transform : α → β}
    {value : β} :
    result.map transform = .ok value ↔
      ∃ given, result = .ok given ∧ transform given = value := by
  cases result with
  | error fault =>
      simp [Except.map]
  | ok given =>
      simp [Except.map]

/-- A result fails no other way when a success would be transformed. -/
theorem map_eq_error_iff
    {result : Except ε α}
    {transform : α → β}
    {fault : ε} :
    result.map transform = .error fault ↔ result = .error fault := by
  cases result with
  | error other =>
      simp [Except.map]
  | ok given =>
      simp [Except.map]

/-- Rewording the failure of a result does not touch a success. -/
theorem mapError_eq_ok_iff
    {result : Except ε α}
    {reword : ε → ε'}
    {value : α} :
    result.mapError reword = .ok value ↔ result = .ok value := by
  cases result with
  | error fault =>
      constructor
      · intro reworded
        cases reworded
      · intro success
        cases success
  | ok given =>
      change Except.ok given = Except.ok value ↔ Except.ok given = Except.ok value
      simp only [Except.ok.injEq]

theorem mapError_eq_error_iff
    {result : Except ε α}
    {reword : ε → ε'}
    {fault : ε'} :
    result.mapError reword = .error fault ↔
      ∃ given, result = .error given ∧ reword given = fault := by
  cases result with
  | error given =>
      simp [Except.mapError]
  | ok value =>
      simp [Except.mapError]

theorem bind_eq_ok_iff
    {result : Except ε α}
    {next : α → Except ε β}
    {value : β} :
    (result >>= next) = .ok value ↔
      ∃ given, result = .ok given ∧ next given = .ok value := by
  cases result with
  | error fault =>
      simp [bind, Except.bind]
  | ok given =>
      simp [bind, Except.bind]

/-- A result fails at its first step, or at a later one after the first succeeds. -/
theorem bind_eq_error_iff
    {result : Except ε α}
    {next : α → Except ε β}
    {fault : ε} :
    (result >>= next) = .error fault ↔
      result = .error fault ∨ ∃ given, result = .ok given ∧ next given = .error fault := by
  cases result with
  | error other =>
      simp [bind, Except.bind]
  | ok given =>
      simp [bind, Except.bind]

theorem pure_eq_ok_iff
    {given value : α} :
    (pure given : Except ε α) = .ok value ↔ given = value := by
  simp [pure, Except.pure]

/-! ## Runs over a list -/

/-- Reading a whole list succeeds exactly when every item is read. -/
theorem readAll_eq_ok_iff
    (read : α → Except ε β)
    (readAll : List α → Except ε (List β))
    (nil : readAll [] = .ok [])
    (cons :
      ∀ item rest,
        readAll (item :: rest) = do
          let value ← read item
          let values ← readAll rest
          return value :: values)
    {items : List α}
    {values : List β} :
    readAll items = .ok values ↔
      List.Forall₂ (fun item value => read item = .ok value) items values := by
  induction items generalizing values with
  | nil =>
      rw [nil, List.forall₂_nil_left_iff, Except.ok.injEq, eq_comm]
  | cons item rest inductionHypothesis =>
      simp only [cons, bind_eq_ok_iff, pure_eq_ok_iff, inductionHypothesis,
        List.forall₂_cons_left_iff]
      constructor
      · rintro ⟨value, first, others, restRead, rfl⟩
        exact ⟨value, others, first, restRead, rfl⟩
      · rintro ⟨value, others, first, restRead, rfl⟩
        exact ⟨value, first, others, restRead, rfl⟩

/-- Reading a whole list fails with the failure of an item. -/
theorem exists_of_readAll_eq_error
    (read : α → Except ε β)
    (readAll : List α → Except ε (List β))
    (nil : readAll [] = .ok [])
    (cons :
      ∀ item rest,
        readAll (item :: rest) = do
          let value ← read item
          let values ← readAll rest
          return value :: values)
    {items : List α}
    {fault : ε}
    (failed : readAll items = .error fault) :
    ∃ item ∈ items, read item = .error fault := by
  induction items with
  | nil =>
      rw [nil] at failed
      cases failed
  | cons item rest inductionHypothesis =>
      rw [cons, bind_eq_error_iff] at failed
      rcases failed with first | ⟨value, -, restFailed⟩
      · exact ⟨item, List.mem_cons_self, first⟩
      · rcases bind_eq_error_iff.mp restFailed with later | ⟨values, -, never⟩
        · obtain ⟨other, inRest, otherFailed⟩ := inductionHypothesis later
          exact ⟨other, List.mem_cons_of_mem item inRest, otherFailed⟩
        · cases never

/-- Where every item is read, so is the whole list. -/
theorem exists_readAll
    {read : α → β → Prop}
    {items : List α}
    (each : ∀ item ∈ items, ∃ value, read item value) :
    ∃ values, List.Forall₂ read items values := by
  induction items with
  | nil =>
      exact ⟨[], .nil⟩
  | cons item rest inductionHypothesis =>
      obtain ⟨⟨value, first⟩, restEach⟩ := List.forall_mem_cons.mp each
      obtain ⟨values, restRead⟩ := inductionHypothesis restEach
      exact ⟨value :: values, .cons first restRead⟩

/-- What reading says of an item and its value, it says of all that are read. -/
theorem forall_of_readAll
    {read : α → β → Prop}
    {given : α → Prop}
    {result : β → Prop}
    {items : List α}
    {values : List β}
    (all : List.Forall₂ read items values)
    (each : ∀ item ∈ items, ∀ value, read item value → given item ∧ result value) :
    (∀ item ∈ items, given item) ∧ ∀ value ∈ values, result value := by
  induction all with
  | nil =>
      exact ⟨List.forall_mem_nil _, List.forall_mem_nil _⟩
  | cons first _ inductionHypothesis =>
      obtain ⟨eachFirst, eachRest⟩ := List.forall_mem_cons.mp each
      obtain ⟨firstGiven, firstResult⟩ := eachFirst _ first
      obtain ⟨restGiven, restResults⟩ := inductionHypothesis eachRest
      exact ⟨List.forall_mem_cons.mpr ⟨firstGiven, restGiven⟩,
        List.forall_mem_cons.mpr ⟨firstResult, restResults⟩⟩

/-- Every item of a list that is read has its value among those that are read. -/
theorem exists_of_mem_readAll
    {read : α → β → Prop}
    {items : List α}
    {values : List β}
    (all : List.Forall₂ read items values)
    {item : α}
    (member : item ∈ items) :
    ∃ value ∈ values, read item value := by
  induction all with
  | nil =>
      cases member
  | @cons first value rest values firstRead _ inductionHypothesis =>
      rcases List.mem_cons.mp member with rfl | inRest
      · exact ⟨value, List.mem_cons_self, firstRead⟩
      · obtain ⟨other, among, isRead⟩ := inductionHypothesis inRest
        exact ⟨other, List.mem_cons_of_mem value among, isRead⟩

/-- A run over a list passes some of the items and stops at the next one. -/
def FirstStop
    (passes stops : α → Prop)
    (items : List α) :
    Prop :=
  ∃ earlier item later,
    items = earlier ++ item :: later ∧ (∀ other ∈ earlier, passes other) ∧ stops item

theorem not_firstStop_nil {passes stops : α → Prop} :
    ¬FirstStop passes stops [] := by
  rintro ⟨earlier, item, later, shape, -, -⟩
  simp at shape

/-- A run stops at the first item, or passes it and stops in the rest. -/
theorem firstStop_cons_iff
    {passes stops : α → Prop}
    {item : α}
    {rest : List α} :
    FirstStop passes stops (item :: rest) ↔
      stops item ∨ passes item ∧ FirstStop passes stops rest := by
  constructor
  · rintro ⟨earlier, last, later, shape, allPassed, stopped⟩
    cases earlier with
    | nil =>
        cases shape
        exact .inl stopped
    | cons first others =>
        cases shape
        obtain ⟨passed, othersPassed⟩ := List.forall_mem_cons.mp allPassed
        exact .inr ⟨passed, others, last, later, rfl, othersPassed, stopped⟩
  · rintro (stopped | ⟨passed, earlier, last, later, rfl, allPassed, stopped⟩)
    · exact ⟨[], item, rest, rfl, fun _ member => (List.not_mem_nil member).elim, stopped⟩
    · exact ⟨item :: earlier, last, later, rfl,
        List.forall_mem_cons.mpr ⟨passed, allPassed⟩, stopped⟩

/-! ## Runs that put parts together -/

section Gathering

variable
  (read : α → Except ε (List β))
  (gatherAll : List α → Except ε (List β))
  (nil : gatherAll [] = .ok [])
  (cons :
    ∀ item rest,
      gatherAll (item :: rest) = do
        let part ← read item
        let others ← gatherAll rest
        return part ++ others)

include nil cons

/-- What is gathered from a list are the parts of its items, one after another. -/
theorem gatherAll_eq_ok_iff
    {items : List α}
    {values : List β} :
    gatherAll items = .ok values ↔
      ∃ parts,
        List.Forall₂ (fun item part => read item = .ok part) items parts ∧
          parts.flatten = values := by
  induction items generalizing values with
  | nil =>
      simp [nil, List.forall₂_nil_left_iff]
  | cons item rest inductionHypothesis =>
      simp only [cons, bind_eq_ok_iff, pure_eq_ok_iff, inductionHypothesis,
        List.forall₂_cons_left_iff]
      constructor
      · rintro ⟨part, first, -, ⟨parts, restRead, rfl⟩, rfl⟩
        exact ⟨part :: parts, ⟨part, parts, first, restRead, rfl⟩, rfl⟩
      · rintro ⟨-, ⟨part, parts, first, restRead, rfl⟩, rfl⟩
        exact ⟨part, first, _, ⟨parts, restRead, rfl⟩, rfl⟩

/-- Gathering fails as the first item that cannot be read. -/
theorem gatherAll_eq_error_iff
    {items : List α}
    {fault : ε} :
    gatherAll items = .error fault ↔
      FirstStop (fun item => ∃ part, read item = .ok part)
        (fun item => read item = .error fault) items := by
  induction items with
  | nil =>
      simp [nil, not_firstStop_nil]
  | cons item rest inductionHypothesis =>
      rw [cons, bind_eq_error_iff, firstStop_cons_iff, ← inductionHypothesis]
      refine or_congr_right ⟨?_, ?_⟩
      · rintro ⟨part, first, later⟩
        rcases bind_eq_error_iff.mp later with failed | ⟨others, -, never⟩
        · exact ⟨⟨part, first⟩, failed⟩
        · cases never
      · rintro ⟨⟨part, first⟩, failed⟩
        exact ⟨part, first, bind_eq_error_iff.mpr (.inl failed)⟩

end Gathering

end CallGuard.Result
