import CallGuard.Proofs.Result
import CallGuard.Proofs.Spec.Denotation

namespace CallGuard

/-!
# How tuples of specs are read

The compiler reads a tuple by what its entries are like.  Each reading is tied to
a shape with a meaning: `tupleReading_readAs` says what the entries are like when
they are read in some way, and one lemma for each shape says how it is read.
Entries that are one constraint together compile exactly when they denote one.
-/

namespace Spec

/-! ## Entries of a tuple -/

theorem asType_eq_ok_iff
    {spec : Spec}
    {tag : TypeTag} :
    spec.asType = .ok tag ↔ spec.NamesType tag := by
  constructor
  · intro found
    unfold asType at found
    split at found
    · cases found
      exact .type _
    · cases found
      exact .value _
    · cases found
  · intro names
    cases names <;> rfl

theorem mapM_asType_eq_ok_iff
    {entries : List Spec}
    {tags : List TypeTag} :
    entries.mapM asType = .ok tags ↔ List.Forall₂ NamesType entries tags := by
  simpa only [asType_eq_ok_iff] using
    Result.readAll_eq_ok_iff asType (List.mapM asType) List.mapM_nil
      fun _ _ => List.mapM_cons

namespace NamesType

theorem isConcrete
    {spec : Spec}
    {tag : TypeTag}
    (names : spec.NamesType tag) :
    spec.isConcrete = true := by
  cases names <;> rfl

end NamesType

theorem concretes_of_namesType
    {entries : List Spec}
    {tags : List TypeTag}
    (names : List.Forall₂ NamesType entries tags) :
    ∀ entry ∈ entries, entry.isConcrete = true :=
  ((List.forall₂_and_left entries tags).mp
    (names.imp fun _ _ entryNames => ⟨entryNames.isConcrete, entryNames⟩)).1

/-- A concrete spec is neither the skip marker nor a collection. -/
theorem isConcrete_iff
    {spec : Spec} :
    spec.isConcrete = true ↔ spec.isSkip = false ∧ spec.isCollection = false := by
  cases spec <;> simp [isConcrete, isSkip, isCollection]

namespace SkipsOnce

variable {entries rest : List Spec}

/-- One entry is the skip marker, and the others are left. -/
theorem length_eq (skips : SkipsOnce entries rest) :
    entries.length = rest.length + 1 := by
  rw [List.length_eq_countP_add_countP isSkip, skips.once, ← skips.left,
    ← List.countP_eq_length_filter, Nat.add_comm]
  simp

theorem exists_skip (skips : SkipsOnce entries rest) :
    ∃ entry ∈ entries, entry.isSkip = true := by
  rw [← List.countP_pos_iff, skips.once]
  exact Nat.one_pos

/-- What is left was among the entries and is no skip marker. -/
theorem mem_iff
    (skips : SkipsOnce entries rest)
    {entry : Spec} :
    entry ∈ rest ↔ entry ∈ entries ∧ entry.isSkip = false := by
  rw [← skips.left]
  simp

end SkipsOnce

end Spec

namespace Family

/-! ## Constraints without parts -/

/-- An interval compiles exactly when its bounds are accepted as they are. -/
theorem interval_eq_ok_iff
    {low high : Option Value}
    {checker : Checker} :
    interval low high = .ok checker ↔
      Interval.ofBounds low high = .ok ⟨low, high⟩ ∧
        Checker.catalogue (.within ⟨low, high⟩) = checker := by
  rw [interval, Result.mapError_eq_ok_iff, Checker.within, Result.map_eq_ok_iff]
  unfold Interval.ofBounds
  cases Interval.fault? low high with
  | some fault =>
      simp
  | none =>
      simp

/-- A bare spec that compiles denotes what its checker decides. -/
theorem single_sound
    {family : Family}
    {spec : Spec}
    {checker : Checker}
    (compiled : family.single spec = .ok checker) :
    ∃ meaning, family.DenotesBare spec meaning ∧ checker.Decides meaning := by
  cases family with
  | typed =>
      obtain ⟨tag, named, rfl⟩ := Result.map_eq_ok_iff.mp compiled
      exact ⟨_, .type (Spec.asType_eq_ok_iff.mp named), Checker.just_decides [tag]⟩
  | bounded =>
      cases spec <;> cases compiled

/-- A bare spec that denotes something is concrete, and it compiles to its checker. -/
theorem single_complete
    {family : Family}
    {spec : Spec}
    {meaning : Meaning}
    (denotes : family.DenotesBare spec meaning) :
    spec.isConcrete = true ∧
      ∃ checker, family.single spec = .ok checker ∧ checker.Decides meaning := by
  cases denotes with
  | @type spec tag names =>
      refine ⟨names.isConcrete, Checker.just [tag], ?_, Checker.just_decides [tag]⟩
      exact Result.map_eq_ok_iff.mpr
        ⟨tag, Spec.asType_eq_ok_iff.mpr names, rfl⟩

/-- What a family takes as a pair: for bounds, two sides of which one is present. -/
theorem pair?_eq_some_iff
    {family : Family}
    {entries : List Spec}
    {result : Except SpecFault Checker} :
    family.pair? entries = some result ↔
      family = .bounded ∧
        ∃ low high lowBound highBound,
          entries = [low, high] ∧ low.Side lowBound ∧ high.Side highBound ∧
            ¬(lowBound = none ∧ highBound = none) ∧
            interval lowBound highBound = result := by
  constructor
  · intro paired
    unfold pair? at paired
    split at paired
    · rename_i low high
      split at paired
      · rename_i sides
        cases low <;> cases high <;>
          simp [Spec.isSide, Spec.isSkip, Spec.bound?] at sides paired
        · exact ⟨rfl, _, _, _, _, rfl, .opened, .bound _, by simp, paired⟩
        · exact ⟨rfl, _, _, _, _, rfl, .bound _, .opened, by simp, paired⟩
        · exact ⟨rfl, _, _, _, _, rfl, .bound _, .bound _, by simp, paired⟩
      · cases paired
    · cases paired
  · rintro ⟨rfl, low, high, lowBound, highBound, rfl, lowSide, highSide, present, rfl⟩
    cases lowSide with
    | bound low =>
        cases highSide <;> rfl
    | opened =>
        cases highSide with
        | bound high =>
            rfl
        | opened =>
            exact (present ⟨rfl, rfl⟩).elim

/-- Entries that compile as one constraint denote what their checker decides. -/
theorem flat_sound
    {family : Family}
    {entries : List Spec}
    {checker : Checker}
    (nonempty : entries ≠ [])
    (compiled : family.flat entries = .ok checker) :
    ∃ meaning, family.DenotesFlat entries meaning ∧ checker.Decides meaning := by
  unfold flat at compiled
  cases paired : family.pair? entries with
  | some result =>
      simp only [paired] at compiled
      obtain ⟨rfl, low, high, lowBound, highBound, rfl, lowSide, highSide, present,
        same⟩ := pair?_eq_some_iff.mp paired
      rw [compiled, interval_eq_ok_iff] at same
      obtain ⟨formed, rfl⟩ := same
      exact ⟨_, .pair lowSide highSide present formed,
        Checker.catalogue_within_decides _⟩
  | none =>
      simp only [paired] at compiled
      cases family with
      | typed =>
          obtain ⟨tags, named, rfl⟩ := Result.map_eq_ok_iff.mp compiled
          exact ⟨_, .alternatives nonempty (Spec.mapM_asType_eq_ok_iff.mp named),
            Checker.just_decides tags⟩
      | bounded =>
          cases compiled

/-- Entries that denote one constraint compile to its checker. -/
theorem flat_complete
    {family : Family}
    {entries : List Spec}
    {meaning : Meaning}
    (denotes : family.DenotesFlat entries meaning) :
    ∃ checker, family.flat entries = .ok checker ∧ checker.Decides meaning := by
  cases denotes with
  | @alternatives entries tags nonempty names =>
      refine ⟨Checker.just tags, ?_, Checker.just_decides tags⟩
      exact Result.map_eq_ok_iff.mpr
        ⟨tags, Spec.mapM_asType_eq_ok_iff.mpr names, rfl⟩
  | @pair low high lowBound highBound lowSide highSide present formed =>
      refine ⟨Checker.catalogue (.within ⟨lowBound, highBound⟩), ?_,
        Checker.catalogue_within_decides _⟩
      have paired :
          Family.bounded.pair? [low, high] = some (interval lowBound highBound) :=
        pair?_eq_some_iff.mpr
          ⟨rfl, low, high, lowBound, highBound, rfl, lowSide, highSide, present, rfl⟩
      simp only [flat, paired]
      exact interval_eq_ok_iff.mpr ⟨formed, rfl⟩

end Family

namespace Spec

/-! ## The reading of a tuple -/

/-- What the entries are like when a tuple of them is read in some way. -/
def ReadAs (family : Family) (entries : List Spec) : TupleReading → Prop
  | .whole result => entries ≠ [] ∧ family.flat entries = result
  | .anyTuple => SkipsOnce entries []
  | .everyItem => ∃ item, SkipsOnce entries [item] ∧ item.isCollection = true
  | .everyItemFlat rest => SkipsOnce entries rest ∧ rest ≠ []
  | .eachPlace => entries ≠ [] ∧ ∀ entry ∈ entries, entry.isCollection = true
  | .refused _ => True

/-- The reading of what is left beside one skip marker describes the entries. -/
theorem repeatReading_readAs
    {family : Family}
    {entries rest : List Spec}
    (skips : SkipsOnce entries rest) :
    ReadAs family entries (repeatReading entries rest) := by
  unfold repeatReading
  split
  · exact skips
  · rename_i only
    split
    · rename_i collection
      exact ⟨only, skips, collection⟩
    · split
      · exact ⟨skips, by simp⟩
      · trivial
  · rename_i several notOne
    split
    · exact ⟨skips, several⟩
    · trivial

/-- The reading of a tuple describes its entries. -/
theorem tupleReading_readAs
    (family : Family)
    (entries : List Spec) :
    ReadAs family entries (tupleReading family entries) := by
  unfold tupleReading
  cases paired : family.pair? entries with
  | some result =>
      obtain ⟨rfl, low, high, lowBound, highBound, rfl, sides⟩ :=
        Family.pair?_eq_some_iff.mp paired
      refine ⟨by simp, ?_⟩
      simp only [Family.flat, paired]
  | none =>
      simp only
      split
      case isTrue empty =>
        trivial
      case isFalse nonempty =>
        have entriesNe : entries ≠ [] := by
          simpa using nonempty
        split
        case isTrue several =>
          trivial
        case isFalse few =>
          split
          case isTrue once =>
            exact repeatReading_readAs ⟨once, rfl⟩
          case isFalse noSkip =>
            split
            case isTrue collections =>
              exact ⟨entriesNe, by simpa using collections⟩
            case isFalse notCollections =>
              split
              case isTrue concretes =>
                refine ⟨entriesNe, ?_⟩
                simp only [Family.flat, paired]
              case isFalse mixed =>
                trivial

/-- No pair is taken from entries that hold a collection. -/
theorem pair?_eq_none_of_collection
    {family : Family}
    {entries : List Spec}
    {entry : Spec}
    (member : entry ∈ entries)
    (collection : entry.isCollection = true) :
    family.pair? entries = none := by
  cases paired : family.pair? entries with
  | none =>
      rfl
  | some result =>
      obtain ⟨rfl, low, high, lowBound, highBound, rfl, lowSide, highSide, present,
        same⟩ := Family.pair?_eq_some_iff.mp paired
      simp only [List.mem_cons, List.not_mem_nil, or_false] at member
      rcases member with rfl | rfl
      · cases lowSide <;> cases collection
      · cases highSide <;> cases collection

theorem pair?_eq_none_of_length
    {family : Family}
    {entries : List Spec}
    (notTwo : entries.length ≠ 2) :
    family.pair? entries = none := by
  cases paired : family.pair? entries with
  | none =>
      rfl
  | some result =>
      obtain ⟨rfl, low, high, lowBound, highBound, rfl, sides⟩ :=
        Family.pair?_eq_some_iff.mp paired
      exact (notTwo rfl).elim

/-- With one skip marker and no pair, the reading depends on what is left. -/
theorem tupleReading_of_skipsOnce
    {family : Family}
    {entries rest : List Spec}
    (skips : SkipsOnce entries rest)
    (unpaired : family.pair? entries = none) :
    tupleReading family entries = repeatReading entries rest := by
  have entriesNe : entries ≠ [] := by
    intro empty
    have length := skips.length_eq
    simp [empty] at length
  simp [tupleReading, unpaired, entriesNe, skips.once, skips.left]

/-- Collections alone are read place by place. -/
theorem tupleReading_of_collections
    {family : Family}
    {entries : List Spec}
    (nonempty : entries ≠ [])
    (collections : ∀ entry ∈ entries, entry.isCollection = true) :
    tupleReading family entries = .eachPlace := by
  obtain ⟨first, member⟩ := List.exists_mem_of_ne_nil entries nonempty
  have unpaired : family.pair? entries = none :=
    pair?_eq_none_of_collection member (collections first member)
  have noSkip : entries.countP isSkip = 0 := by
    rw [List.countP_eq_zero]
    intro entry inEntries
    have collection := collections entry inEntries
    cases entry <;> simp_all [isCollection, isSkip]
  have allCollections : entries.all isCollection = true := by
    simpa using collections
  simp [tupleReading, unpaired, nonempty, noSkip, allCollections]

/-- Entries that denote one constraint are read as a whole. -/
theorem tupleReading_of_denotesFlat
    {family : Family}
    {entries : List Spec}
    {meaning : Meaning}
    (denotes : family.DenotesFlat entries meaning) :
    tupleReading family entries = .whole (family.flat entries) := by
  cases denotes with
  | @alternatives entries tags nonempty names =>
      have concretes := concretes_of_namesType names
      obtain ⟨first, member⟩ := List.exists_mem_of_ne_nil entries nonempty
      have noSkip : entries.countP isSkip = 0 := by
        rw [List.countP_eq_zero]
        intro entry inEntries
        simp [(isConcrete_iff.mp (concretes entry inEntries)).1]
      have notCollections : entries.all isCollection = false := by
        rw [List.all_eq_false]
        exact ⟨first, member, by simp [(isConcrete_iff.mp (concretes first member)).2]⟩
      have allConcrete : entries.all isConcrete = true := by
        simpa using concretes
      simp [tupleReading, Family.flat, Family.pair?, nonempty, noSkip, notCollections,
        allConcrete]
  | @pair low high lowBound highBound lowSide highSide present formed =>
      have paired :
          Family.bounded.pair? [low, high] =
            some (Family.interval lowBound highBound) :=
        Family.pair?_eq_some_iff.mpr
          ⟨rfl, low, high, lowBound, highBound, rfl, lowSide, highSide, present, rfl⟩
      simp only [tupleReading, Family.flat, paired]

/-- Concrete entries beside a skip marker constrain every item together. -/
theorem repeatReading_of_concretes
    {entries rest : List Spec}
    (nonempty : rest ≠ [])
    (concretes : ∀ entry ∈ rest, entry.isConcrete = true) :
    repeatReading entries rest = .everyItemFlat rest := by
  unfold repeatReading
  split
  · exact (nonempty rfl).elim
  · rename_i only
    have concrete : only.isConcrete = true := concretes only (by simp)
    simp [concrete, (isConcrete_iff.mp concrete).2]
  · have allConcrete : rest.all isConcrete = true := by
      simpa using concretes
    simp [allConcrete]

/-- Entries beside a skip marker that denote one constraint constrain every item. -/
theorem tupleReading_of_skipsOnce_denotesFlat
    {family : Family}
    {entries rest : List Spec}
    {meaning : Meaning}
    (skips : SkipsOnce entries rest)
    (denotes : family.DenotesFlat rest meaning) :
    tupleReading family entries = .everyItemFlat rest := by
  have noSkipLeft : ∀ entry ∈ rest, entry.isSkip = false :=
    fun entry member => (skips.mem_iff.mp member).2
  cases denotes with
  | @alternatives entries tags nonempty names =>
      rw [tupleReading_of_skipsOnce skips rfl,
        repeatReading_of_concretes nonempty (concretes_of_namesType names)]
  | @pair low high lowBound highBound lowSide highSide present formed =>
      have notTwo : entries.length ≠ 2 := by
        simp [skips.length_eq]
      have lowConcrete : low.isConcrete = true := by
        have notSkip := noSkipLeft low (by simp)
        cases lowSide with
        | bound low => rfl
        | opened => cases notSkip
      have highConcrete : high.isConcrete = true := by
        have notSkip := noSkipLeft high (by simp)
        cases highSide with
        | bound high => rfl
        | opened => cases notSkip
      rw [tupleReading_of_skipsOnce skips (pair?_eq_none_of_length notTwo)]
      exact repeatReading_of_concretes (by simp) (by simp [lowConcrete, highConcrete])

end Spec

end CallGuard
