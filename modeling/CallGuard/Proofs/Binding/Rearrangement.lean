import CallGuard.Proofs.Binding.Merging
import CallGuard.Proofs.Binding.Relevance

namespace CallGuard

/-!
# Declarations and calls in another order

The order of named specs decides which checker comes first in a binder, and which
refusal comes first if there are several.  It decides nothing else: a binder asks for
checkers by name only.  The order of named arguments decides which failure is reported
if there are several, but not whether there is one.
-/

namespace SpecTable

/-- The merged specs answer for a name with the spec that counts for it. -/
theorem get?_merged
    (table : SpecTable)
    (signature : Signature)
    (settings : Settings)
    (name : String) :
    Table.get? (table.merged signature settings) name =
      table.effective? signature settings name := by
  rw [merged_eq_enterAll, Table.get?_enterAll, get?_placedNamed, Table.get?_zip, effective?]
  cases Table.get? table.named name with
  | some spec =>
      rfl
  | none =>
      cases (signature.namesAfterReceiver settings).idxOf? name with
      | none =>
          rfl
      | some index =>
          simp [getElem?_placedList]

variable
  {table : SpecTable}
  {named : Table Spec}

/-- The order of named specs does not matter to which spec counts for a name. -/
theorem effective?_perm
    (distinct : (Table.names table.named).Nodup)
    (rearranged : named.Perm table.named)
    (signature : Signature)
    (settings : Settings)
    (name : String) :
    { table with named := named }.effective? signature settings name =
      table.effective? signature settings name := by
  rw [effective?, effective?, Table.get?_perm distinct rearranged]

theorem mem_merged_perm
    (distinct : (Table.names table.named).Nodup)
    (rearranged : named.Perm table.named)
    (signature : Signature)
    (settings : Settings)
    (entry : String × PlacedSpec) :
    entry ∈ { table with named := named }.merged signature settings ↔
      entry ∈ table.merged signature settings := by
  have otherDistinct : (Table.names named).Nodup :=
    (rearranged.map Prod.fst).nodup_iff.mpr distinct
  obtain ⟨name, placed⟩ := entry
  rw [mem_merged_iff distinct, ← effective?_perm distinct rearranged]
  exact mem_merged_iff otherDistinct

end SpecTable

/-- A checker stands under a name for what was to be compiled under it. -/
theorem get?_compileEntries
    {family : Family}
    {entries : List (String × PlacedSpec)}
    {checkers : List (String × Checker)}
    (compiled : compileEntries family entries = .ok checkers)
    (name : String) :
    Table.get? checkers name =
      (Table.get? entries name).bind fun placed => (placed.compiled family).toOption := by
  have pairwise := compileEntries_eq_ok_iff.mp compiled
  clear compiled
  induction pairwise with
  | nil =>
      rfl
  | @cons entry checker _ _ head rest inductionHypothesis =>
      obtain ⟨entryName, placed⟩ := entry
      obtain ⟨checkerName, built⟩ := checker
      obtain ⟨rfl, headCompiled⟩ := head
      by_cases same : checkerName = name
      · simp only [Table.get?, same, ↓reduceIte, Option.bind_some, headCompiled]
        rfl
      · simpa only [Table.get?, same, ↓reduceIte] using inductionHypothesis

namespace Binder

/-! ## The same checkers in another order -/

section checkers

variable
  {binder : Binder}
  {checkers : Table Checker}
  (same : ∀ name, Table.get? checkers name = Table.get? binder.checkers name)

include same

theorem bind_checkers (call : CallArguments) :
    { binder with checkers := checkers }.bind call = binder.bind call := by
  have sameName (parameter : Option String) :
      { binder with checkers := checkers }.checkedName? parameter =
        binder.checkedName? parameter := by
    simp only [checkedName?, Table.has, same]
  simp only [bind, bindSurplus, sameName]
  rfl

theorem enforceBound_checkers (bound : List (String × Value)) :
    { binder with checkers := checkers }.enforceBound bound = binder.enforceBound bound := by
  induction bound with
  | nil =>
      rfl
  | cons entry rest inductionHypothesis =>
      simp only [enforceBound, same, inductionHypothesis]
      rfl

/-- A binder asks for checkers by name, so it does not notice their order. -/
theorem enforce_checkers (call : CallArguments) :
    { binder with checkers := checkers }.enforce call = binder.enforce call := by
  rw [enforce, enforce, bind_checkers same, enforceBound_checkers same]

end checkers

/-! ## The same specs in another order -/

variable
  {family : Family}
  {table : SpecTable}
  {named : Table Spec}
  {signature : Signature}
  {settings : Settings}

theorem exists_build_iff :
    (∃ binder, build family table signature settings = .ok binder) ↔
      ∀ entry ∈ table.merged signature settings,
        ∃ checker, entry.2.compiled family = .ok checker := by
  rw [← exists_compileEntries_iff]
  simp only [build_eq_ok_iff]
  constructor
  · rintro ⟨binder, checkers, compiled, -⟩
    exact ⟨checkers, compiled⟩
  · rintro ⟨checkers, compiled⟩
    exact ⟨_, checkers, compiled, rfl⟩

/-- Binders of the same specs in another order hold the same checkers by name. -/
theorem get?_checkers_perm
    (distinct : (Table.names table.named).Nodup)
    (rearranged : named.Perm table.named)
    {binder other : Binder}
    (built : build family table signature settings = .ok binder)
    (otherBuilt : build family { table with named := named } signature settings = .ok other)
    (name : String) :
    Table.get? other.checkers name = Table.get? binder.checkers name := by
  obtain ⟨checkers, compiled, rfl⟩ := build_eq_ok_iff.mp built
  obtain ⟨otherCheckers, otherCompiled, rfl⟩ := build_eq_ok_iff.mp otherBuilt
  rw [get?_compileEntries compiled, get?_compileEntries otherCompiled,
    SpecTable.get?_merged, SpecTable.get?_merged,
    SpecTable.effective?_perm distinct rearranged]

/-- A binder of the same specs in another order is the binder with other checkers. -/
theorem eq_of_build_perm
    {binder other : Binder}
    (built : build family table signature settings = .ok binder)
    (otherBuilt : build family { table with named := named } signature settings = .ok other) :
    other = { binder with checkers := other.checkers } := by
  obtain ⟨checkers, compiled, rfl⟩ := build_eq_ok_iff.mp built
  obtain ⟨otherCheckers, otherCompiled, rfl⟩ := build_eq_ok_iff.mp otherBuilt
  rfl

/-! ## The same named arguments in another order -/

section arguments

variable
  {call : CallArguments}
  {arguments : Table Value}
  (distinct : (Table.names call.named).Nodup)
  (rearranged : arguments.Perm call.named)

include distinct rearranged

theorem offers_perm (binder : Binder) :
    binder.offers { call with named := arguments } = binder.offers call := by
  have otherDistinct : (Table.names arguments).Nodup :=
    (rearranged.map Prod.fst).nodup_iff.mpr distinct
  have sameMap :
      Value.ofNamed (binder.undeclaredArguments { call with named := arguments }) =
        Value.ofNamed (binder.undeclaredArguments call) :=
    ofNamed_undeclaredArguments_congr otherDistinct distinct fun argument _ =>
      Table.get?_perm distinct rearranged argument
  rw [offers, offers, sameMap]
  rfl

theorem enforce_perm_eq_ok_iff (binder : Binder) :
    binder.enforce { call with named := arguments } = .ok () ↔
      binder.enforce call = .ok () := by
  have sameNames (name : String) :
      name ∈ Table.names arguments ↔ name ∈ Table.names call.named :=
    (rearranged.map Prod.fst).mem_iff
  rw [enforce_eq_ok_iff, enforce_eq_ok_iff, offers_perm distinct rearranged]
  simp only [rearranged.mem_iff, sameNames]

end arguments

/--
The order of a declaration and the order of named arguments do not matter to what is
accepted.  Named specs in another order make a binder or none as before, with the same
spec and the same checker for every name, and the outcome of every call is the same,
failure included.  A call with its named arguments in another order is accepted by any
binder that accepts it as it was.
-/
theorem enforce_rearranged
    (family : Family)
    (signature : Signature)
    (settings : Settings) :
    (∀ (table : SpecTable) (named : Table Spec),
        (Table.names table.named).Nodup →
        named.Perm table.named →
        ((∃ other,
            build family { table with named := named } signature settings = .ok other) ↔
          ∃ binder, build family table signature settings = .ok binder) ∧
        ∀ binder other,
          build family table signature settings = .ok binder →
          build family { table with named := named } signature settings = .ok other →
          (∀ name,
              Table.get? ({ table with named := named }.merged signature settings) name =
                Table.get? (table.merged signature settings) name) ∧
            (∀ name, Table.get? other.checkers name = Table.get? binder.checkers name) ∧
            ∀ call, other.enforce call = binder.enforce call) ∧
      ∀ (binder : Binder) (call : CallArguments) (arguments : Table Value),
        (Table.names call.named).Nodup →
        arguments.Perm call.named →
        (binder.enforce { call with named := arguments } = .ok () ↔
          binder.enforce call = .ok ()) := by
  refine ⟨fun table named distinct rearranged => ⟨?_, fun binder other built otherBuilt => ?_⟩,
    fun binder call arguments distinct rearranged =>
      enforce_perm_eq_ok_iff distinct rearranged binder⟩
  · rw [exists_build_iff, exists_build_iff]
    simp only [SpecTable.mem_merged_perm distinct rearranged]
  · have sameCheckers := get?_checkers_perm distinct rearranged built otherBuilt
    refine ⟨fun name => ?_, sameCheckers, fun call => ?_⟩
    · rw [SpecTable.get?_merged, SpecTable.get?_merged,
        SpecTable.effective?_perm distinct rearranged]
    · rw [eq_of_build_perm built otherBuilt]
      exact enforce_checkers sameCheckers call

/-- A number and a flag, both by name. -/
def flaggedNumber : SpecTable :=
  ⟨[], [("x", .type .int), ("flag", .type .bool)]⟩

/-- A call of `flaggedMethod` with two bad arguments, the flag first. -/
def badFlagFirst : CallArguments :=
  ⟨[.null], [("flag", .int 1), ("x", .str "a")]⟩

/--
With the specs of `flaggedNumber` in the other order the checkers stand in the other
order, but the same call is refused for its flag all the same.  With the arguments in
the other order the call is refused too, for the number.
-/
theorem flaggedNumber_rearranged :
    ∃ binder other failure,
      build .typed flaggedNumber flaggedMethod Settings.standard = .ok binder ∧
        build .typed { flaggedNumber with named := flaggedNumber.named.reverse }
            flaggedMethod Settings.standard =
          .ok other ∧
        Table.names binder.checkers = ["x", "flag"] ∧
        Table.names other.checkers = ["flag", "x"] ∧
        failure.argument = "flag" ∧
        binder.enforce badFlagFirst = .error failure ∧
        other.enforce badFlagFirst = .error failure ∧
        other.enforce { badFlagFirst with named := badFlagFirst.named.reverse } ≠ .ok () := by
  obtain ⟨declarations, calls⟩ :=
    enforce_rearranged .typed flaggedMethod Settings.standard
  obtain ⟨exists_iff, alike⟩ :=
    declarations flaggedNumber _ (by decide) (List.reverse_perm flaggedNumber.named)
  obtain ⟨binder, built⟩ :
      ∃ binder, build .typed flaggedNumber flaggedMethod Settings.standard = .ok binder :=
    ⟨_, rfl⟩
  obtain ⟨other, otherBuilt⟩ := exists_iff.mpr ⟨binder, built⟩
  obtain ⟨-, -, sameOutcome⟩ := alike binder other built otherBuilt
  obtain ⟨names, failure, argument, refused⟩ :
      Table.names binder.checkers = ["x", "flag"] ∧
        ∃ failure : ArgumentFailure,
          failure.argument = "flag" ∧ binder.enforce badFlagFirst = .error failure := by
    cases built
    exact ⟨rfl, _, rfl, rfl⟩
  have otherNames : Table.names other.checkers = ["flag", "x"] := by
    cases otherBuilt
    rfl
  refine ⟨binder, other, failure, built, otherBuilt, names, otherNames, argument, refused,
    (sameOutcome badFlagFirst).trans refused, fun accepted => ?_⟩
  rw [calls other badFlagFirst _ (by decide) (List.reverse_perm badFlagFirst.named),
    sameOutcome, refused] at accepted
  cases accepted

end Binder

end CallGuard
