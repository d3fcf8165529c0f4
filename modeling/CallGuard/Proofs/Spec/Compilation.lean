import CallGuard.Proofs.Spec.TupleReading

namespace CallGuard

/-!
# Compilation meets the meaning of specs

A spec compiles exactly when it denotes something, and its checker decides what
it denotes.  One direction follows the compiler and reads a denotation off every
success; the other follows a denotation and shows that the compiler succeeds on
it.  Both go by induction on the spec.
-/

/-- Induction over specs, with the claim at hand for every spec inside. -/
@[elab_as_elim]
theorem Spec.induction
    {motive : Spec → Prop}
    (skip : motive .skip)
    (type : ∀ tag, motive (.type tag))
    (value : ∀ bound, motive (.value bound))
    (tuple : ∀ entries, (∀ entry ∈ entries, motive entry) → motive (.tuple entries))
    (list : ∀ members, (∀ member ∈ members, motive member) → motive (.list members))
    (set : ∀ members, (∀ member ∈ members, motive member) → motive (.set members))
    (map :
      ∀ entries, (∀ entry ∈ entries, motive entry.1 ∧ motive entry.2) →
        motive (.map entries))
    (spec : Spec) :
    motive spec :=
  @Spec.rec
    motive
    (fun specs => ∀ spec ∈ specs, motive spec)
    (fun entries => ∀ entry ∈ entries, motive entry.1 ∧ motive entry.2)
    (fun entry => motive entry.1 ∧ motive entry.2)
    skip type value tuple list set map
    (fun _ member => (List.not_mem_nil member).elim)
    (fun _ _ head rest => List.forall_mem_cons.mpr ⟨head, rest⟩)
    (fun _ member => (List.not_mem_nil member).elim)
    (fun _ _ head rest => List.forall_mem_cons.mpr ⟨head, rest⟩)
    (fun _ _ key content => ⟨key, content⟩)
    spec

namespace Spec

/-! ## Shapes with parts -/

/-- A list spec compiles exactly when its sole member does. -/
theorem compileShape_list_eq_ok_iff
    {family : Family}
    {members : List Spec}
    {checker : Checker} :
    compileShape family (.list members) = .ok checker ↔
      ∃ element, members = [element] ∧
        ∃ inner, compileShape family element = .ok inner ∧
          Checker.listOf inner = checker := by
  cases members with
  | nil =>
      simp [compileShape]
  | cons element rest =>
      cases rest with
      | nil =>
          simp [compileShape, Result.map_eq_ok_iff]
      | cons second others =>
          simp [compileShape]

theorem compileShape_set_eq_ok_iff
    {family : Family}
    {members : List Spec}
    {checker : Checker} :
    compileShape family (.set members) = .ok checker ↔
      ∃ element, members = [element] ∧
        ∃ inner, compileShape family element = .ok inner ∧
          Checker.setOf inner = checker := by
  cases members with
  | nil =>
      simp [compileShape]
  | cons element rest =>
      cases rest with
      | nil =>
          simp [compileShape, Result.map_eq_ok_iff]
      | cons second others =>
          simp [compileShape]

theorem compileShape_map_eq_ok_iff
    {family : Family}
    {entries : List (Spec × Spec)}
    {checker : Checker} :
    compileShape family (.map entries) = .ok checker ↔
      ∃ key content, entries = [(key, content)] ∧
        ∃ keyChecker contentChecker,
          compileShape family key = .ok keyChecker ∧
            compileShape family content = .ok contentChecker ∧
            Checker.mapOf keyChecker contentChecker = checker := by
  cases entries with
  | nil =>
      simp [compileShape]
  | cons entry rest =>
      rcases entry with ⟨key, content⟩
      cases rest with
      | nil =>
          simp only [compileShape, compileEntry, Result.bind_eq_ok_iff,
            Result.pure_eq_ok_iff]
          grind
      | cons second others =>
          simp [compileShape]

theorem compileAll_eq_ok_iff
    {family : Family}
    {specs : List Spec}
    {checkers : List Checker} :
    compileAll family specs = .ok checkers ↔
      List.Forall₂ (fun spec checker => compileShape family spec = .ok checker)
        specs checkers :=
  Result.readAll_eq_ok_iff (compileShape family) (compileAll family) rfl fun _ _ => rfl

/-- The one collection beside a skip marker is what is compiled. -/
theorem compileUnskipped_of_filter
    {family : Family}
    {entries rest : List Spec}
    {item : Spec}
    (left : entries.filter (fun spec => !spec.isSkip) = item :: rest) :
    compileUnskipped family entries = compileShape family item := by
  induction entries with
  | nil =>
      cases left
  | cons entry others inductionHypothesis =>
      rw [compileUnskipped]
      by_cases skipped : entry.isSkip = true
      · rw [if_pos skipped]
        exact inductionHypothesis (by simpa [skipped] using left)
      · rw [if_neg skipped]
        simp only [List.filter_cons, skipped, Bool.not_false, ↓reduceIte,
          List.cons.injEq] at left
        rw [left.1]

/-! ## Soundness -/

/-- Specs that compile, each to a checker of what it denotes, denote together. -/
theorem denotes_of_compileAll
    {family : Family}
    {specs : List Spec}
    {checkers : List Checker}
    (sound :
      ∀ spec ∈ specs, ∀ checker, compileShape family spec = .ok checker →
        ∃ meaning, spec.Denotes family meaning ∧ checker.Decides meaning)
    (compiled :
      List.Forall₂ (fun spec checker => compileShape family spec = .ok checker)
        specs checkers) :
    ∃ meanings,
      List.Forall₂ (Denotes family) specs meanings ∧
        List.Forall₂ Checker.Decides checkers meanings := by
  induction compiled with
  | nil =>
      exact ⟨[], .nil, .nil⟩
  | @cons spec checker specs checkers headCompiled restCompiled inductionHypothesis =>
      obtain ⟨meaning, denotes, decides⟩ :=
        sound spec List.mem_cons_self checker headCompiled
      obtain ⟨meanings, restDenote, restDecide⟩ :=
        inductionHypothesis fun inner member =>
          sound inner (List.mem_cons_of_mem spec member)
      exact ⟨meaning :: meanings, .cons denotes restDenote, .cons decides restDecide⟩

/-- A spec that compiles denotes what its checker decides. -/
theorem compileShape_sound
    {family : Family}
    (spec : Spec)
    {checker : Checker}
    (compiled : compileShape family spec = .ok checker) :
    ∃ meaning, spec.Denotes family meaning ∧ checker.Decides meaning := by
  induction spec using Spec.induction generalizing checker with
  | skip =>
      cases compiled
      exact ⟨_, .skip, Checker.identity_decides⟩
  | type tag =>
      obtain ⟨meaning, denotes, decides⟩ := Family.single_sound compiled
      exact ⟨meaning, .bare denotes, decides⟩
  | value bound =>
      obtain ⟨meaning, denotes, decides⟩ := Family.single_sound compiled
      exact ⟨meaning, .bare denotes, decides⟩
  | list members inductionHypothesis =>
      obtain ⟨element, rfl, inner, elementCompiled, rfl⟩ :=
        compileShape_list_eq_ok_iff.mp compiled
      obtain ⟨meaning, denotes, decides⟩ :=
        inductionHypothesis element (by simp) elementCompiled
      exact ⟨_, .list denotes, Checker.listOf_decides decides⟩
  | set members inductionHypothesis =>
      obtain ⟨element, rfl, inner, elementCompiled, rfl⟩ :=
        compileShape_set_eq_ok_iff.mp compiled
      obtain ⟨meaning, denotes, decides⟩ :=
        inductionHypothesis element (by simp) elementCompiled
      exact ⟨_, .set denotes, Checker.setOf_decides decides⟩
  | map entries inductionHypothesis =>
      obtain ⟨key, content, rfl, keyChecker, contentChecker, keyCompiled,
        contentCompiled, rfl⟩ := compileShape_map_eq_ok_iff.mp compiled
      obtain ⟨keyHypothesis, contentHypothesis⟩ :=
        inductionHypothesis (key, content) (by simp)
      obtain ⟨keyMeaning, keyDenotes, keyDecides⟩ := keyHypothesis keyCompiled
      obtain ⟨contentMeaning, contentDenotes, contentDecides⟩ :=
        contentHypothesis contentCompiled
      exact ⟨_, .map keyDenotes contentDenotes,
        Checker.mapOf_decides keyDecides contentDecides⟩
  | tuple entries inductionHypothesis =>
      rw [compileShape] at compiled
      have described := tupleReading_readAs family entries
      cases reading : tupleReading family entries with
      | whole result =>
          simp only [reading] at compiled described
          obtain ⟨nonempty, flatIs⟩ := described
          obtain ⟨meaning, denotes, decides⟩ :=
            Family.flat_sound nonempty (flatIs.trans compiled)
          exact ⟨meaning, .flat denotes, decides⟩
      | anyTuple =>
          simp only [reading] at compiled described
          cases compiled
          exact ⟨_, .anyTuple described, Checker.kind_tuple_decides⟩
      | everyItem =>
          simp only [reading] at compiled described
          obtain ⟨item, skips, collection⟩ := described
          rw [compileUnskipped_of_filter skips.left] at compiled
          obtain ⟨inner, itemCompiled, rfl⟩ := Result.map_eq_ok_iff.mp compiled
          have member : item ∈ entries := (skips.mem_iff.mp (by simp)).1
          obtain ⟨meaning, denotes, decides⟩ :=
            inductionHypothesis item member itemCompiled
          exact ⟨_, .everyItem skips collection denotes,
            Checker.tupleOf_decides decides⟩
      | everyItemFlat rest =>
          simp only [reading] at compiled described
          obtain ⟨skips, nonempty⟩ := described
          obtain ⟨inner, restCompiled, rfl⟩ := Result.map_eq_ok_iff.mp compiled
          obtain ⟨meaning, denotes, decides⟩ :=
            Family.flat_sound nonempty restCompiled
          exact ⟨_, .everyItemFlat skips denotes, Checker.tupleOf_decides decides⟩
      | eachPlace =>
          simp only [reading] at compiled described
          obtain ⟨nonempty, collections⟩ := described
          obtain ⟨inner, allCompiled, rfl⟩ := Result.map_eq_ok_iff.mp compiled
          obtain ⟨meanings, denote, decide⟩ :=
            denotes_of_compileAll
              (fun entry member checker entryCompiled =>
                inductionHypothesis entry member entryCompiled)
              (compileAll_eq_ok_iff.mp allCompiled)
          exact ⟨_, .eachPlace nonempty collections denote,
            Checker.slots_decides decide⟩
      | refused fault =>
          simp only [reading] at compiled
          cases compiled

/-! ## Completeness -/

/-- Specs that compile one by one to what they denote compile together. -/
theorem compileAll_of_denotes
    {family : Family}
    {specs : List Spec}
    {meanings : List Meaning}
    (complete :
      ∀ spec ∈ specs, ∀ meaning, spec.Denotes family meaning →
        ∃ checker, compileShape family spec = .ok checker ∧ checker.Decides meaning)
    (denote : List.Forall₂ (Denotes family) specs meanings) :
    ∃ checkers,
      compileAll family specs = .ok checkers ∧
        List.Forall₂ Checker.Decides checkers meanings := by
  simp only [compileAll_eq_ok_iff]
  induction denote with
  | nil =>
      exact ⟨[], .nil, .nil⟩
  | @cons spec meaning specs meanings headDenotes restDenote inductionHypothesis =>
      obtain ⟨checker, compiled, decides⟩ :=
        complete spec List.mem_cons_self meaning headDenotes
      obtain ⟨checkers, restCompiled, restDecide⟩ :=
        inductionHypothesis fun inner member =>
          complete inner (List.mem_cons_of_mem spec member)
      exact ⟨checker :: checkers, .cons compiled restCompiled, .cons decides restDecide⟩

/-- A spec that stands for a bare constraint compiles to its checker. -/
theorem compileShape_of_denotesBare
    {family : Family}
    {spec : Spec}
    {meaning : Meaning}
    (denotes : family.DenotesBare spec meaning) :
    ∃ checker, compileShape family spec = .ok checker ∧ checker.Decides meaning := by
  obtain ⟨concrete, compiled⟩ := Family.single_complete denotes
  cases spec with
  | type tag =>
      exact compiled
  | value bound =>
      exact compiled
  | _ =>
      cases concrete

/-- A spec that denotes something compiles to a checker that decides it. -/
theorem compileShape_complete
    {family : Family}
    (spec : Spec)
    {meaning : Meaning}
    (denotes : spec.Denotes family meaning) :
    ∃ checker, compileShape family spec = .ok checker ∧ checker.Decides meaning := by
  induction spec using Spec.induction generalizing meaning with
  | skip =>
      cases denotes with
      | skip =>
          exact ⟨_, rfl, Checker.identity_decides⟩
      | bare bareDenotes =>
          exact compileShape_of_denotesBare bareDenotes
  | type tag =>
      cases denotes with
      | bare bareDenotes =>
          exact compileShape_of_denotesBare bareDenotes
  | value bound =>
      cases denotes with
      | bare bareDenotes =>
          exact compileShape_of_denotesBare bareDenotes
  | list members inductionHypothesis =>
      cases denotes with
      | bare bareDenotes =>
          exact compileShape_of_denotesBare bareDenotes
      | @list member meaning memberDenotes =>
          obtain ⟨inner, compiled, decides⟩ :=
            inductionHypothesis member (by simp) memberDenotes
          exact ⟨_, compileShape_list_eq_ok_iff.mpr ⟨member, rfl, inner, compiled, rfl⟩,
            Checker.listOf_decides decides⟩
  | set members inductionHypothesis =>
      cases denotes with
      | bare bareDenotes =>
          exact compileShape_of_denotesBare bareDenotes
      | @set member meaning memberDenotes =>
          obtain ⟨inner, compiled, decides⟩ :=
            inductionHypothesis member (by simp) memberDenotes
          exact ⟨_, compileShape_set_eq_ok_iff.mpr ⟨member, rfl, inner, compiled, rfl⟩,
            Checker.setOf_decides decides⟩
  | map entries inductionHypothesis =>
      cases denotes with
      | bare bareDenotes =>
          exact compileShape_of_denotesBare bareDenotes
      | @map key content keyMeaning contentMeaning keyDenotes contentDenotes =>
          obtain ⟨keyHypothesis, contentHypothesis⟩ :=
            inductionHypothesis (key, content) (by simp)
          obtain ⟨keyChecker, keyCompiled, keyDecides⟩ := keyHypothesis keyDenotes
          obtain ⟨contentChecker, contentCompiled, contentDecides⟩ :=
            contentHypothesis contentDenotes
          exact ⟨_,
            compileShape_map_eq_ok_iff.mpr
              ⟨key, content, rfl, keyChecker, contentChecker, keyCompiled,
                contentCompiled, rfl⟩,
            Checker.mapOf_decides keyDecides contentDecides⟩
  | tuple entries inductionHypothesis =>
      cases denotes with
      | bare bareDenotes =>
          exact compileShape_of_denotesBare bareDenotes
      | flat flatDenotes =>
          obtain ⟨checker, compiled, decides⟩ := Family.flat_complete flatDenotes
          refine ⟨checker, ?_, decides⟩
          simp only [compileShape, tupleReading_of_denotesFlat flatDenotes, compiled]
      | anyTuple skips =>
          have notTwo : entries.length ≠ 2 := by
            simp [skips.length_eq]
          refine ⟨Checker.kind .tuple, ?_, Checker.kind_tuple_decides⟩
          simp only [compileShape, repeatReading,
            tupleReading_of_skipsOnce skips (pair?_eq_none_of_length notTwo)]
      | @everyItem entries item meaning skips collection itemDenotes =>
          have member : item ∈ entries := (skips.mem_iff.mp (by simp)).1
          obtain ⟨inner, compiled, decides⟩ :=
            inductionHypothesis item member itemDenotes
          refine ⟨Checker.tupleOf inner, ?_, Checker.tupleOf_decides decides⟩
          have unpaired : family.pair? entries = none :=
            pair?_eq_none_of_collection member collection
          simp only [compileShape, tupleReading_of_skipsOnce skips unpaired,
            repeatReading, collection, ↓reduceIte,
            compileUnskipped_of_filter skips.left, compiled, Except.map]
      | @everyItemFlat entries rest meaning skips flatDenotes =>
          obtain ⟨inner, compiled, decides⟩ := Family.flat_complete flatDenotes
          refine ⟨Checker.tupleOf inner, ?_, Checker.tupleOf_decides decides⟩
          simp only [compileShape,
            tupleReading_of_skipsOnce_denotesFlat skips flatDenotes, compiled, Except.map]
      | eachPlace nonempty collections denote =>
          obtain ⟨checkers, compiled, decide⟩ :=
            compileAll_of_denotes
              (fun entry member meaning entryDenotes =>
                inductionHypothesis entry member entryDenotes)
              denote
          refine ⟨Checker.slots checkers, ?_, Checker.slots_decides decide⟩
          simp only [compileShape, tupleReading_of_collections nonempty collections,
            compiled, Except.map]

end Spec

end CallGuard
