import CallGuard.Proofs.Binding.Precedence
import Mathlib.Data.List.Forall2

namespace CallGuard

/-!
# Which spec counts for a name

A declaration names some specs and lists others in order.  For a name the named spec
counts, and else the listed one at the place where the name first comes among the
declared parameters after the receiver.  Merging finds exactly the specs that count.
A binder is built when all of these compile, and nothing else in the declaration has
a say in it.
-/

/-- The declared parameters that specs without a name fall to, in order. -/
def Signature.namesAfterReceiver
    (signature : Signature)
    (settings : Settings) :
    List String :=
  signature.declaredNames.drop (signature.receiverOffset settings)

namespace SpecTable

/-- The spec that counts for a name, with the place where it was declared. -/
def effective?
    (table : SpecTable)
    (signature : Signature)
    (settings : Settings)
    (name : String) :
    Option PlacedSpec :=
  match Table.get? table.named name with
  | some spec => some ⟨.named name, spec⟩
  | none =>
      match (signature.namesAfterReceiver settings).idxOf? name with
      | some index => table.positional[index]?.map fun spec => ⟨.position index, spec⟩
      | none => none

/--
The names of the specs that count: those of the named specs, in order, and then the
parameters that a listed spec falls to, in the order of their declaration.
-/
def effectiveNames
    (table : SpecTable)
    (signature : Signature)
    (settings : Settings) :
    List String :=
  Table.names table.named ++
    (((signature.namesAfterReceiver settings).take table.positional.length).filter
      fun name => !(Table.names table.named).contains name).eraseDups

/-! ## Merging -/

/-- The listed specs with their places. -/
def placedList (table : SpecTable) : List PlacedSpec :=
  table.positional.zipIdx.map fun entry => ⟨.position entry.2, entry.1⟩

theorem getElem?_placedList
    (table : SpecTable)
    (index : Nat) :
    table.placedList[index]? =
      table.positional[index]?.map fun spec => ⟨.position index, spec⟩ := by
  simp [placedList, List.getElem?_zipIdx, Function.comp_def]

theorem merged_eq_enterAll
    (table : SpecTable)
    (signature : Signature)
    (settings : Settings) :
    table.merged signature settings =
      table.placedNamed.enterAll
        ((signature.namesAfterReceiver settings).zip table.placedList) :=
  rfl

theorem names_placedNamed (table : SpecTable) :
    Table.names table.placedNamed = Table.names table.named := by
  simp [placedNamed, Table.names, Function.comp_def]

theorem get?_placedNamed
    (table : SpecTable)
    (name : String) :
    Table.get? table.placedNamed name =
      (Table.get? table.named name).map fun spec => ⟨.named name, spec⟩ := by
  unfold placedNamed
  induction table.named with
  | nil =>
      rfl
  | cons entry rest inductionHypothesis =>
      by_cases same : entry.1 = name
      · simp [Table.get?, same]
      · simpa [Table.get?, same] using inductionHypothesis

/-- The names of the merged specs are those of the specs that count, in order. -/
theorem names_merged
    (table : SpecTable)
    (signature : Signature)
    (settings : Settings) :
    Table.names (table.merged signature settings) =
      table.effectiveNames signature settings := by
  have listed : table.placedList.length = table.positional.length := by
    simp [placedList]
  rw [merged_eq_enterAll, Table.names_enterAll, Table.names_zip, names_placedNamed, listed]
  rfl

/-- What is merged under a name is the spec that counts for it. -/
theorem mem_merged_iff
    {table : SpecTable}
    (distinct : (Table.names table.named).Nodup)
    {signature : Signature}
    {settings : Settings}
    {name : String}
    {placed : PlacedSpec} :
    (name, placed) ∈ table.merged signature settings ↔
      table.effective? signature settings name = some placed := by
  have named :
      (name, placed) ∈ table.placedNamed ↔
        Table.get? table.placedNamed name = some placed := by
    rw [← names_placedNamed] at distinct
    exact ⟨Table.get?_eq_some_of_mem distinct, Table.mem_of_get?_eq_some⟩
  rw [merged_eq_enterAll, Table.mem_enterAll_iff, named, get?_placedNamed,
    names_placedNamed, ← Table.get?_eq_none_iff, Table.get?_zip, effective?]
  cases Table.get? table.named name with
  | some spec =>
      simp
  | none =>
      cases (signature.namesAfterReceiver settings).idxOf? name with
      | none =>
          simp
      | some index =>
          simp [getElem?_placedList]

theorem mem_effectiveNames_iff
    {table : SpecTable}
    (distinct : (Table.names table.named).Nodup)
    {signature : Signature}
    {settings : Settings}
    {name : String} :
    name ∈ table.effectiveNames signature settings ↔
      ∃ placed, table.effective? signature settings name = some placed := by
  rw [← names_merged, Table.names, List.mem_map]
  constructor
  · rintro ⟨entry, member, rfl⟩
    exact ⟨entry.2, (mem_merged_iff distinct).mp member⟩
  · rintro ⟨placed, counts⟩
    exact ⟨(name, placed), (mem_merged_iff distinct).mpr counts, rfl⟩

/-- Listed specs that count for no name do not matter to merging. -/
theorem merged_congr
    {table other : SpecTable}
    {signature : Signature}
    {settings : Settings}
    (sameNamed : other.named = table.named)
    (sameListed :
      ∀ name index,
        (signature.namesAfterReceiver settings).idxOf? name = some index →
        name ∉ Table.names table.named →
        other.positional[index]? = table.positional[index]?) :
    other.merged signature settings = table.merged signature settings := by
  have samePlaced : other.placedNamed = table.placedNamed := by
    rw [placedNamed, sameNamed, placedNamed]
  rw [merged_eq_enterAll, merged_eq_enterAll, samePlaced]
  apply Table.enterAll_zip_congr
  intro name index found free
  rw [names_placedNamed] at free
  rw [getElem?_placedList, getElem?_placedList, sameListed name index found free]

end SpecTable

/-! ## Compiling what was merged -/

/-- The checker of a spec in its place, or its refusal. -/
def PlacedSpec.compiled
    (placed : PlacedSpec)
    (family : Family) :
    Except InvalidSpec Checker :=
  placed.spec.compile family placed.place

/-- A refusal says where the spec was declared. -/
theorem PlacedSpec.place_of_compiled_eq_error
    {placed : PlacedSpec}
    {family : Family}
    {invalid : InvalidSpec}
    (refused : placed.compiled family = .error invalid) :
    invalid.place = placed.place := by
  unfold compiled Spec.compile at refused
  cases shaped : Spec.compileShape family placed.spec with
  | ok checker =>
      rw [shaped] at refused
      cases refused
  | error reason =>
      rw [shaped] at refused
      cases refused
      rfl

theorem compileEntries_eq_ok_iff
    {family : Family}
    {entries : List (String × PlacedSpec)}
    {checkers : List (String × Checker)} :
    compileEntries family entries = .ok checkers ↔
      List.Forall₂
        (fun (entry : String × PlacedSpec) (checker : String × Checker) =>
          checker.1 = entry.1 ∧ entry.2.compiled family = .ok checker.2)
        entries checkers := by
  induction entries generalizing checkers with
  | nil =>
      simp [compileEntries, eq_comm]
  | cons entry rest inductionHypothesis =>
      simp only [compileEntries, Result.bind_eq_ok_iff, Result.pure_eq_ok_iff,
        inductionHypothesis, List.forall₂_cons_left_iff]
      constructor
      · rintro ⟨checker, headCompiled, others, restCompiled, rfl⟩
        exact ⟨(entry.1, checker), others, ⟨rfl, headCompiled⟩, restCompiled, rfl⟩
      · rintro ⟨⟨name, checker⟩, others, ⟨rfl, headCompiled⟩, restCompiled, rfl⟩
        exact ⟨checker, headCompiled, others, restCompiled, rfl⟩

/-- The first refusal is the result. -/
theorem compileEntries_eq_error_iff
    {family : Family}
    {entries : List (String × PlacedSpec)}
    {invalid : InvalidSpec} :
    compileEntries family entries = .error invalid ↔
      ∃ earlier name placed later,
        entries = earlier ++ (name, placed) :: later ∧
          (∀ entry ∈ earlier, ∃ checker, entry.2.compiled family = .ok checker) ∧
          placed.compiled family = .error invalid := by
  have stops :
      compileEntries family entries = .error invalid ↔
        Result.FirstStop
          (fun entry => ∃ checker, entry.2.compiled family = .ok checker)
          (fun entry => entry.2.compiled family = .error invalid) entries := by
    induction entries with
    | nil =>
        simp [compileEntries, Result.not_firstStop_nil]
    | cons entry rest inductionHypothesis =>
        rw [Result.firstStop_cons_iff, ← inductionHypothesis]
        simp [compileEntries, PlacedSpec.compiled, Result.bind_eq_error_iff, pure, Except.pure]
  rw [stops]
  constructor
  · rintro ⟨earlier, ⟨name, placed⟩, later, split⟩
    exact ⟨earlier, name, placed, later, split⟩
  · rintro ⟨earlier, name, placed, later, split⟩
    exact ⟨earlier, (name, placed), later, split⟩

theorem names_of_compileEntries
    {family : Family}
    {entries : List (String × PlacedSpec)}
    {checkers : List (String × Checker)}
    (compiled : compileEntries family entries = .ok checkers) :
    Table.names checkers = Table.names entries := by
  have sameNames :
      List.Forall₂ (· = ·) (Table.names entries) (Table.names checkers) := by
    rw [Table.names, Table.names, List.forall₂_map_left_iff, List.forall₂_map_right_iff]
    apply List.Forall₂.imp _ (compileEntries_eq_ok_iff.mp compiled)
    exact fun entry checker found => found.1.symm
  rw [List.forall₂_eq_eq_eq] at sameNames
  exact sameNames.symm

/-- Every compiled checker comes from a spec of the same name. -/
theorem exists_compiled_of_mem
    {family : Family}
    {entries : List (String × PlacedSpec)}
    {checkers : List (String × Checker)}
    (compiled : compileEntries family entries = .ok checkers)
    {name : String}
    {checker : Checker}
    (member : (name, checker) ∈ checkers) :
    ∃ placed : PlacedSpec,
      (name, placed) ∈ entries ∧ placed.compiled family = .ok checker := by
  have pairwise := compileEntries_eq_ok_iff.mp compiled
  clear compiled
  induction pairwise with
  | nil =>
      cases member
  | @cons entry _ _ _ head rest inductionHypothesis =>
      rcases List.mem_cons.mp member with rfl | inRest
      · obtain ⟨rfl, headCompiled⟩ := head
        exact ⟨entry.2, List.mem_cons_self, headCompiled⟩
      · obtain ⟨placed, inEntries, placedCompiled⟩ := inductionHypothesis inRest
        exact ⟨placed, List.mem_cons_of_mem entry inEntries, placedCompiled⟩

/-- Specs compile together exactly when each of them compiles. -/
theorem exists_compileEntries_iff
    {family : Family}
    {entries : List (String × PlacedSpec)} :
    (∃ checkers, compileEntries family entries = .ok checkers) ↔
      ∀ entry ∈ entries, ∃ checker, entry.2.compiled family = .ok checker := by
  induction entries with
  | nil =>
      simp [compileEntries]
  | cons entry rest inductionHypothesis =>
      rw [List.forall_mem_cons, ← inductionHypothesis]
      simp only [compileEntries, Result.bind_eq_ok_iff, Result.pure_eq_ok_iff]
      constructor
      · rintro ⟨_, checker, headCompiled, checkers, restCompiled, rfl⟩
        exact ⟨⟨checker, headCompiled⟩, checkers, restCompiled⟩
      · rintro ⟨⟨checker, headCompiled⟩, checkers, restCompiled⟩
        exact ⟨_, checker, headCompiled, checkers, restCompiled, rfl⟩

namespace Binder

theorem build_eq_error_iff
    {family : Family}
    {table : SpecTable}
    {signature : Signature}
    {settings : Settings}
    {invalid : InvalidSpec} :
    build family table signature settings = .error invalid ↔
      compileEntries family (table.merged signature settings) = .error invalid := by
  simp [build, Result.bind_eq_error_iff, pure, Except.pure]

/--
A binder is built exactly when every spec that counts compiles.  Its checkers stand
under the names for which a spec counts, named specs first and then the parameters
that listed specs fall to, and each is compiled from the spec that counts.  Otherwise
the refusal is that of the first such spec that does not compile, and it tells the
name or the position of that spec.  Listed specs that count for no name do not matter.
-/
theorem build_of_effective_specs
    (family : Family)
    (table : SpecTable)
    (signature : Signature)
    (settings : Settings)
    (distinct : (Table.names table.named).Nodup) :
    ((∃ binder, build family table signature settings = .ok binder) ↔
        ∀ name placed,
          table.effective? signature settings name = some placed →
          ∃ checker, placed.compiled family = .ok checker) ∧
      (∀ binder,
        build family table signature settings = .ok binder →
        Table.names binder.checkers = table.effectiveNames signature settings ∧
          (∀ name,
            name ∈ Table.names binder.checkers ↔
              ∃ placed, table.effective? signature settings name = some placed) ∧
          ∀ name checker,
            (name, checker) ∈ binder.checkers →
            ∃ placed,
              table.effective? signature settings name = some placed ∧
                placed.compiled family = .ok checker) ∧
      (∀ invalid,
        build family table signature settings = .error invalid →
        ∃ earlier name placed later,
          table.effectiveNames signature settings = earlier ++ name :: later ∧
            (∀ other ∈ earlier,
              ∃ otherPlaced checker,
                table.effective? signature settings other = some otherPlaced ∧
                  otherPlaced.compiled family = .ok checker) ∧
            table.effective? signature settings name = some placed ∧
            placed.compiled family = .error invalid ∧
            invalid.place = placed.place) ∧
      ∀ other : SpecTable,
        other.named = table.named →
        (∀ name index,
          (signature.namesAfterReceiver settings).idxOf? name = some index →
          name ∉ Table.names table.named →
          other.positional[index]? = table.positional[index]?) →
        build family other signature settings = build family table signature settings := by
  refine ⟨?_, ?_, ?_, ?_⟩
  · have built :
        (∃ binder, build family table signature settings = .ok binder) ↔
          ∃ checkers,
            compileEntries family (table.merged signature settings) = .ok checkers := by
      simp only [build_eq_ok_iff]
      constructor
      · rintro ⟨binder, checkers, compiled, -⟩
        exact ⟨checkers, compiled⟩
      · rintro ⟨checkers, compiled⟩
        exact ⟨_, checkers, compiled, rfl⟩
    rw [built, exists_compileEntries_iff, Prod.forall]
    simp only [SpecTable.mem_merged_iff distinct]
  · intro binder built
    obtain ⟨checkers, compiled, rfl⟩ := build_eq_ok_iff.mp built
    have sameNames :
        Table.names checkers = table.effectiveNames signature settings := by
      rw [names_of_compileEntries compiled, SpecTable.names_merged]
    refine ⟨sameNames, fun name => ?_, fun name checker member => ?_⟩
    · rw [sameNames, SpecTable.mem_effectiveNames_iff distinct]
    · obtain ⟨placed, merged, placedCompiled⟩ := exists_compiled_of_mem compiled member
      exact ⟨placed, (SpecTable.mem_merged_iff distinct).mp merged, placedCompiled⟩
  · -- The refused entry splits the merged specs, and their names are split alike.
    intro invalid refusal
    obtain ⟨earlier, name, placed, later, shape, earlierCompile, refused⟩ :=
      compileEntries_eq_error_iff.mp (build_eq_error_iff.mp refusal)
    have counts
        {entry : String × PlacedSpec}
        (member : entry ∈ earlier ++ (name, placed) :: later) :
        table.effective? signature settings entry.1 = some entry.2 := by
      rw [← shape] at member
      exact (SpecTable.mem_merged_iff distinct).mp member
    refine ⟨Table.names earlier, name, placed, Table.names later, ?_, ?_,
      counts (List.mem_append_right earlier List.mem_cons_self), refused,
      PlacedSpec.place_of_compiled_eq_error refused⟩
    · rw [← SpecTable.names_merged, shape, Table.names_append]
      rfl
    · intro other isEarlier
      obtain ⟨entry, member, rfl⟩ := List.mem_map.mp isEarlier
      obtain ⟨checker, compiled⟩ := earlierCompile entry member
      exact ⟨entry.2, checker, counts (List.mem_append_left _ member), compiled⟩
  · intro other sameNamed sameListed
    unfold build
    rw [SpecTable.merged_congr sameNamed sameListed]

/-- A method with two parameters and a flag that is only given by name. -/
def flaggedMethod : Signature :=
  ⟨"area", Signature.defaultModule,
    [⟨.positional, "self", none⟩, ⟨.positional, "x", none⟩, ⟨.positional, "y", none⟩,
      ⟨.surplusPositional, "rest", none⟩, ⟨.keywordOnly, "flag", none⟩]⟩

/-- Two named specs, and four listed ones, of which two are malformed. -/
def overfullTable : SpecTable :=
  ⟨[.type .int, .list [], .type .bool, .list []],
    [("y", .type .str), ("rest", .tuple [.type .int, .skip])]⟩

/--
The malformed specs of `overfullTable` fall to a named parameter and to none, so they
can be left out or put right; a malformed one in the first place is the refusal.
-/
theorem overfullTable_build_of_effective_specs :
    (∃ binder,
      build .typed overfullTable flaggedMethod Settings.standard = .ok binder ∧
        Table.names binder.checkers = ["y", "rest", "x", "flag"]) ∧
      build .typed { overfullTable with positional := [.type .int, .skip, .type .bool] }
          flaggedMethod Settings.standard =
        build .typed overfullTable flaggedMethod Settings.standard ∧
      ∀ invalid,
        build .typed { overfullTable with positional := [.list [], .list []] }
            flaggedMethod Settings.standard =
          .error invalid →
        invalid.place = .position 0 := by
  have whole :=
    build_of_effective_specs .typed overfullTable flaggedMethod Settings.standard
      (by decide)
  have malformed :=
    build_of_effective_specs .typed
      { overfullTable with positional := [.list [], .list []] } flaggedMethod
      Settings.standard (by decide)
  refine ⟨?_, ?_, fun invalid refusal => ?_⟩
  · have built :
        build .typed overfullTable flaggedMethod Settings.standard = .ok _ :=
      rfl
    exact ⟨_, built, (whole.2.1 _ built).1⟩
  · refine whole.2.2.2 _ rfl fun name index found unnamed => ?_
    obtain ⟨within, isName, -⟩ := List.idxOf?_eq_some_iff.mp found
    have few : index < 3 := within
    match index, few with
    | 0, _ => rfl
    | 1, _ =>
        subst isName
        exact (unnamed (.head _)).elim
    | 2, _ => rfl
  · obtain ⟨earlier, name, placed, later, shape, -, counts, refused, place⟩ :=
      malformed.2.2.1 invalid refusal
    have among : name ∈ ["y", "rest", "x"] := by
      have member : name ∈ earlier ++ name :: later := by
        simp
      rwa [← shape] at member
    rw [place]
    simp only [List.mem_cons, List.not_mem_nil, or_false] at among
    rcases among with rfl | rfl | rfl
    · cases counts
      cases refused
    · cases counts
      cases refused
    · cases counts
      rfl

end Binder

end CallGuard
