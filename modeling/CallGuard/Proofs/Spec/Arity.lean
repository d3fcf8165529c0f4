import CallGuard.Proofs.Spec.Compilation
import CallGuard.Proofs.Value.Inside

namespace CallGuard

/-!
# Sizes of containers in specs

A list or a set of specs has a meaning only with one member, a map only with one entry.
These are the only sizes that compilation complains of, and it complains of one only
where a container inside the spec is of another size.
-/

/-- A reason that complains of the size of a list, a set or a map. -/
def SpecFault.IsSize : SpecFault → Prop
  | .listSize _ => True
  | .setSize _ => True
  | .mapSize _ => True
  | _ => False

namespace Spec

/-- The specs that a spec is made of. -/
def parts : Spec → List Spec
  | .tuple entries => entries
  | .list members => members
  | .set members => members
  | .map entries => entries.map (·.1) ++ entries.map (·.2)
  | _ => []

/-- A list or a set has one member, and a map one entry. -/
def Single : Spec → Prop
  | .list members => members.length = 1
  | .set members => members.length = 1
  | .map entries => entries.length = 1
  | _ => True

/-- All lists, sets and maps inside a spec are of the size that has a meaning. -/
def AllSingle (spec : Spec) : Prop :=
  ∀ inner, Inside parts inner spec → inner.Single

variable {family : Family} {spec : Spec} {fault : SpecFault}

theorem AllSingle.part
    (allSingle : spec.AllSingle)
    {part : Spec}
    (member : part ∈ spec.parts) :
    part.AllSingle :=
  fun inner inside => allSingle inner (.deeper member inside)

theorem allSingle_of_parts
    (own : spec.Single)
    (partwise : ∀ part ∈ spec.parts, part.AllSingle) :
    spec.AllSingle :=
  Inside.forall_of_parts own partwise

/-! ## Faults of tuples -/

theorem not_isSize_of_asType
    (failed : spec.asType = .error fault) :
    ¬fault.IsSize := by
  unfold asType at failed
  split at failed <;> cases failed
  exact id

theorem not_isSize_of_single
    (failed : family.single spec = .error fault) :
    ¬fault.IsSize := by
  cases family with
  | typed =>
      exact not_isSize_of_asType (Result.map_eq_error_iff.mp failed)
  | bounded =>
      cases spec <;> cases failed <;> exact id

theorem not_isSize_of_flat
    {entries : List Spec}
    (failed : family.flat entries = .error fault) :
    ¬fault.IsSize := by
  unfold Family.flat at failed
  cases paired : family.pair? entries with
  | some result =>
      obtain ⟨-, low, high, lowBound, highBound, -, -, -, -, same⟩ :=
        Family.pair?_eq_some_iff.mp paired
      simp only [paired] at failed
      rw [failed, Family.interval] at same
      obtain ⟨refusal, -, rfl⟩ := Result.mapError_eq_error_iff.mp same
      exact id
  | none =>
      simp only [paired] at failed
      cases family with
      | typed =>
          obtain ⟨entry, -, unnamed⟩ :=
            Result.exists_of_readAll_eq_error asType (List.mapM asType) rfl
              (fun _ _ => List.mapM_cons) (Result.map_eq_error_iff.mp failed)
          exact not_isSize_of_asType unnamed
      | bounded =>
          cases failed
          exact id

theorem not_isSize_of_repeatReading
    {entries rest : List Spec}
    (refused : repeatReading entries rest = .refused fault) :
    ¬fault.IsSize := by
  unfold repeatReading at refused
  split at refused
  · cases refused
  · split at refused
    · cases refused
    · split at refused
      · cases refused
      · cases refused
        exact id
  · split at refused
    · cases refused
    · cases refused
      exact id

theorem not_isSize_of_tupleReading
    {entries : List Spec}
    (refused : tupleReading family entries = .refused fault) :
    ¬fault.IsSize := by
  unfold tupleReading at refused
  cases paired : family.pair? entries with
  | some result =>
      simp only [paired] at refused
      cases refused
  | none =>
      simp only [paired] at refused
      split at refused
      case isTrue empty =>
        cases refused
        exact id
      case isFalse nonempty =>
        split at refused
        case isTrue several =>
          cases refused
          exact id
        case isFalse few =>
          split at refused
          case isTrue once =>
            exact not_isSize_of_repeatReading refused
          case isFalse noSkip =>
            split at refused
            case isTrue collections =>
              cases refused
            case isFalse notCollections =>
              split at refused
              case isTrue concretes =>
                cases refused
              case isFalse mixed =>
                cases refused
                exact id

/-! ## Compilation -/

/-- Compilation complains of no size where all sizes are right. -/
theorem not_isSize_of_compileShape
    (spec : Spec)
    (allSingle : spec.AllSingle)
    (failed : compileShape family spec = .error fault) :
    ¬fault.IsSize := by
  induction spec using Spec.induction generalizing fault with
  | skip =>
      cases failed
  | type tag =>
      exact not_isSize_of_single failed
  | value bound =>
      exact not_isSize_of_single failed
  | list members inductionHypothesis =>
      obtain ⟨element, rfl⟩ := List.length_eq_one_iff.mp (allSingle _ .self)
      have member : element ∈ [element] := List.mem_singleton_self element
      exact inductionHypothesis element member (allSingle.part member)
        (Result.map_eq_error_iff.mp failed)
  | set members inductionHypothesis =>
      obtain ⟨element, rfl⟩ := List.length_eq_one_iff.mp (allSingle _ .self)
      have member : element ∈ [element] := List.mem_singleton_self element
      exact inductionHypothesis element member (allSingle.part member)
        (Result.map_eq_error_iff.mp failed)
  | map entries inductionHypothesis =>
      obtain ⟨⟨key, content⟩, rfl⟩ := List.length_eq_one_iff.mp (allSingle _ .self)
      obtain ⟨keyHypothesis, contentHypothesis⟩ :=
        inductionHypothesis (key, content) (List.mem_singleton_self _)
      simp only [compileShape, compileEntry, Result.bind_eq_error_iff] at failed
      rcases failed with
        keyFailed | ⟨keyChecker, -, contentFailed | ⟨contentChecker, -, never⟩⟩
      · exact keyHypothesis (allSingle.part (by simp [parts])) keyFailed
      · exact contentHypothesis (allSingle.part (by simp [parts])) contentFailed
      · cases never
  | tuple entries inductionHypothesis =>
      rw [compileShape] at failed
      have described := tupleReading_readAs family entries
      cases reading : tupleReading family entries with
      | whole result =>
          simp only [reading] at failed described
          exact not_isSize_of_flat (described.2.trans failed)
      | anyTuple =>
          simp only [reading] at failed
          cases failed
      | everyItem =>
          simp only [reading] at failed described
          obtain ⟨item, skips, -⟩ := described
          have member : item ∈ entries := (skips.mem_iff.mp (by simp)).1
          rw [compileUnskipped_of_filter skips.left] at failed
          exact inductionHypothesis item member (allSingle.part member)
            (Result.map_eq_error_iff.mp failed)
      | everyItemFlat rest =>
          simp only [reading] at failed
          exact not_isSize_of_flat (Result.map_eq_error_iff.mp failed)
      | eachPlace =>
          simp only [reading] at failed
          obtain ⟨entry, member, entryFailed⟩ :=
            Result.exists_of_readAll_eq_error (compileShape family) (compileAll family) rfl
              (fun _ _ => rfl) (Result.map_eq_error_iff.mp failed)
          exact inductionHypothesis entry member (allSingle.part member) entryFailed
      | refused reason =>
          simp only [reading] at failed
          cases failed
          exact not_isSize_of_tupleReading reading

end Spec

end CallGuard
