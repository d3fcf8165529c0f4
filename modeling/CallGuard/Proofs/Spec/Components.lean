import CallGuard.Proofs.Checker.Components
import CallGuard.Proofs.Spec.Compilation

namespace CallGuard

/-!
# What specs ask of the parts of values

A spec asks for a kind of container, and then something of each component.  A spec
without parts is a rule of the catalogue.  These are relations between specs and values
alone; `CompilesTo.builtAs` says how a compiled checker is put together by them,
and `CompilesTo.runsAs` what it does with a value: it accepts it, it finds a fault
in the value itself, or it runs the components of the value in turn.
-/

/-- The rule that a spec without parts stands for. -/
inductive Family.Tests : Family → Spec → Rule → Prop where
  | type {spec : Spec} {tag : TypeTag} :
      spec.NamesType tag →
      Tests .typed spec (.instanceOf [tag])
  | alternatives {entries : List Spec} {tags : List TypeTag} :
      entries ≠ [] →
      List.Forall₂ Spec.NamesType entries tags →
      Tests .typed (.tuple entries) (.instanceOf tags)
  | pair {low high : Spec} {lowBound highBound : Option Value} :
      low.Side lowBound →
      high.Side highBound →
      ¬(lowBound = none ∧ highBound = none) →
      Tests .bounded (.tuple [low, high]) (.within ⟨lowBound, highBound⟩)

namespace Spec

/--
What a tuple spec with a skip marker asks of every item: the collection or the flat
tuple of concrete entries that is left without the marker.  The marker alone asks
nothing.
-/
inductive Repeats (family : Family) : List Spec → Spec → Prop where
  | anything {entries : List Spec} :
      SkipsOnce entries [] →
      Repeats family entries .skip
  | collection {entries : List Spec} {item : Spec} :
      SkipsOnce entries [item] →
      item.isCollection = true →
      Repeats family entries item
  | flat {entries rest : List Spec} {rule : Rule} :
      SkipsOnce entries rest →
      family.Tests (.tuple rest) rule →
      Repeats family entries (.tuple rest)

/-- The entries of a tuple spec that asks something of its own at each place. -/
structure OnePerPlace (entries : List Spec) : Prop where
  nonempty : entries ≠ []
  collections : ∀ entry ∈ entries, entry.isCollection = true

/-- The kind of container that a spec asks for. -/
inductive OfKind (family : Family) : Spec → TypeTag → Prop where
  | list {element : Spec} :
      OfKind family (.list [element]) .list
  | set {element : Spec} :
      OfKind family (.set [element]) .set
  | map {key content : Spec} :
      OfKind family (.map [(key, content)]) .map
  | everyItem {entries : List Spec} {element : Spec} :
      Repeats family entries element →
      OfKind family (.tuple entries) .tuple
  | eachPlace {entries : List Spec} :
      OnePerPlace entries →
      OfKind family (.tuple entries) .tuple

/--
The components of a container, in the order in which they are visited, with what a spec
asks of each.  The container has the kind and the length that the spec asks for.
-/
inductive Parts (family : Family) : Spec → Value → List (Component Spec) → Prop where
  | list {element : Spec} {items : List Value} :
      Parts family (.list [element]) (.list items) (Component.items element items)
  | set {element : Spec} {members : List Value} :
      Parts family (.set [element]) (.set members) (Component.members element members)
  | map {key content : Spec} {pairs : List (Value × Value)} :
      Parts family (.map [(key, content)]) (.map pairs)
        (Component.entries key content pairs)
  | everyItem {entries : List Spec} {element : Spec} {items : List Value} :
      Repeats family entries element →
      Parts family (.tuple entries) (.tuple items) (Component.items element items)
  | eachPlace {entries : List Spec} {items : List Value} :
      OnePerPlace entries →
      items.length = entries.length →
      Parts family (.tuple entries) (.tuple items) (Component.slots entries items)

/--
What a spec finds wrong with a value itself, and not with a part of it: the wrong kind
of container, a tuple of the wrong length, or what the rule of a spec without parts finds.
-/
inductive OwnFault (family : Family) : Spec → Value → Fault → Prop where
  | rule {spec : Spec} {rule : Rule} {value : Value} {fault : Fault} :
      family.Tests spec rule →
      rule.test? value = some fault →
      OwnFault family spec value fault
  | kind {spec : Spec} {tag : TypeTag} {value : Value} :
      spec.OfKind family tag →
      tag.admits value = false →
      OwnFault family spec value (.wrongType [tag] value.typeName)
  | length {entries : List Spec} {items : List Value} :
      OnePerPlace entries →
      items.length ≠ entries.length →
      OwnFault family (.tuple entries) (.tuple items)
        (.wrongLength (.exactly entries.length) items.length)

namespace Parts

variable {family : Family} {spec : Spec} {value : Value} {components : List (Component Spec)}

/-- Sets and maps that are in order are visited in that order, and tuples and lists by place. -/
theorem ascending
    (parts : spec.Parts family value components)
    (inOrder : value.InOrder) :
    components.Pairwise fun earlier later => earlier.step.Before later.step := by
  cases parts with
  | list =>
      exact Component.placed_ascending ..
  | set =>
      exact Component.members_ascending _ inOrder
  | map =>
      exact Component.entries_ascending _ _ inOrder
  | everyItem _ =>
      exact Component.placed_ascending ..
  | eachPlace _ _ =>
      exact Component.placed_ascending ..

/-- A part is smaller than the container that it is in. -/
theorem sizeOf_item_lt
    (parts : spec.Parts family value components)
    {component : Component Spec}
    (member : component ∈ components) :
    sizeOf component.item < sizeOf value := by
  cases parts with
  | list =>
      have less := List.sizeOf_lt_of_mem (Component.item_mem_of_mem_items member)
      rw [Value.list.sizeOf_spec]
      omega
  | set =>
      have less := List.sizeOf_lt_of_mem (Component.item_mem_of_mem_members member)
      rw [Value.set.sizeOf_spec]
      omega
  | map =>
      obtain ⟨⟨key, content⟩, inPairs, isPart⟩ := Component.exists_of_mem_entries member
      have less := List.sizeOf_lt_of_mem inPairs
      rw [Prod.mk.sizeOf_spec] at less
      rw [Value.map.sizeOf_spec]
      simp only at isPart
      rcases isPart with isKey | isContent
      · rw [isKey]
        omega
      · rw [isContent]
        omega
  | everyItem _ =>
      have less := List.sizeOf_lt_of_mem (Component.item_mem_of_mem_items member)
      rw [Value.tuple.sizeOf_spec]
      omega
  | eachPlace _ _ =>
      have less := List.sizeOf_lt_of_mem (Component.item_mem_of_mem_slots member)
      rw [Value.tuple.sizeOf_spec]
      omega

end Parts

/-! ## How a compiled checker is put together -/

/-- A checker is what a spec compiles to. -/
def CompilesTo
    (family : Family)
    (spec : Spec)
    (checker : Checker) :
    Prop :=
  compileShape family spec = .ok checker

/-- The shapes of compiled checkers, by the spec that they are compiled from. -/
inductive BuiltAs (family : Family) : Spec → Checker → Prop where
  | skip :
      BuiltAs family .skip Checker.identity
  | rule {spec : Spec} {rule : Rule} :
      family.Tests spec rule →
      BuiltAs family spec (Checker.catalogue rule)
  | list {element : Spec} {inner : Checker} :
      CompilesTo family element inner →
      BuiltAs family (.list [element]) (Checker.listOf inner)
  | set {element : Spec} {inner : Checker} :
      CompilesTo family element inner →
      BuiltAs family (.set [element]) (Checker.setOf inner)
  | map {key content : Spec} {keyChecker contentChecker : Checker} :
      CompilesTo family key keyChecker →
      CompilesTo family content contentChecker →
      BuiltAs family (.map [(key, content)]) (Checker.mapOf keyChecker contentChecker)
  | anyTuple {entries : List Spec} :
      SkipsOnce entries [] →
      BuiltAs family (.tuple entries) (Checker.kind .tuple)
  | everyItem {entries : List Spec} {element : Spec} {inner : Checker} :
      Repeats family entries element →
      CompilesTo family element inner →
      BuiltAs family (.tuple entries) (Checker.tupleOf inner)
  | eachPlace {entries : List Spec} {inner : List Checker} :
      OnePerPlace entries →
      List.Forall₂ (CompilesTo family) entries inner →
      BuiltAs family (.tuple entries) (Checker.slots inner)

/-- A bare constraint that compiles is a rule. -/
theorem exists_rule_of_single
    {family : Family}
    {spec : Spec}
    {checker : Checker}
    (compiled : family.single spec = .ok checker) :
    ∃ rule, family.Tests spec rule ∧ Checker.catalogue rule = checker := by
  cases family with
  | typed =>
      obtain ⟨tag, named, rfl⟩ := Result.map_eq_ok_iff.mp compiled
      exact ⟨_, .type (asType_eq_ok_iff.mp named), rfl⟩
  | bounded =>
      cases spec <;> cases compiled

/-- Entries that compile as one constraint are a rule together, and so is a tuple of them. -/
theorem exists_rule_of_flat
    {family : Family}
    {entries : List Spec}
    {checker : Checker}
    (nonempty : entries ≠ [])
    (compiled : family.flat entries = .ok checker) :
    compileShape family (.tuple entries) = .ok checker ∧
      ∃ rule, family.Tests (.tuple entries) rule ∧ Checker.catalogue rule = checker := by
  obtain ⟨meaning, denotes, -⟩ := Family.flat_sound nonempty compiled
  refine ⟨by simp only [compileShape, tupleReading_of_denotesFlat denotes, compiled], ?_⟩
  cases denotes with
  | alternatives _ _ =>
      obtain ⟨tags, named, rfl⟩ := Result.map_eq_ok_iff.mp compiled
      exact ⟨_, .alternatives nonempty (mapM_asType_eq_ok_iff.mp named), rfl⟩
  | @pair low high lowBound highBound lowSide highSide present formed =>
      have paired :
          Family.bounded.pair? [low, high] =
            some (Family.interval lowBound highBound) :=
        Family.pair?_eq_some_iff.mpr
          ⟨rfl, low, high, lowBound, highBound, rfl, lowSide, highSide, present, rfl⟩
      simp only [Family.flat, paired] at compiled
      exact ⟨_, .pair lowSide highSide present, (Family.interval_eq_ok_iff.mp compiled).2⟩

/-- Whatever compiles has one of the shapes. -/
theorem CompilesTo.builtAs
    {family : Family}
    {spec : Spec}
    {checker : Checker}
    (compiled : CompilesTo family spec checker) :
    BuiltAs family spec checker := by
  cases spec with
  | skip =>
      cases compiled
      exact .skip
  | type tag =>
      obtain ⟨rule, tests, rfl⟩ := exists_rule_of_single compiled
      exact .rule tests
  | value bound =>
      obtain ⟨rule, tests, rfl⟩ := exists_rule_of_single compiled
      exact .rule tests
  | list members =>
      obtain ⟨element, rfl, inner, elementCompiled, rfl⟩ :=
        compileShape_list_eq_ok_iff.mp compiled
      exact .list elementCompiled
  | set members =>
      obtain ⟨element, rfl, inner, elementCompiled, rfl⟩ :=
        compileShape_set_eq_ok_iff.mp compiled
      exact .set elementCompiled
  | map entries =>
      obtain ⟨key, content, rfl, keyChecker, contentChecker, keyCompiled,
        contentCompiled, rfl⟩ := compileShape_map_eq_ok_iff.mp compiled
      exact .map keyCompiled contentCompiled
  | tuple entries =>
      rw [CompilesTo, compileShape] at compiled
      have described := tupleReading_readAs family entries
      cases reading : tupleReading family entries with
      | whole result =>
          simp only [reading] at compiled described
          obtain ⟨-, rule, tests, rfl⟩ :=
            exists_rule_of_flat described.1 (described.2.trans compiled)
          exact .rule tests
      | anyTuple =>
          simp only [reading] at compiled described
          cases compiled
          exact .anyTuple described
      | everyItem =>
          simp only [reading] at compiled described
          obtain ⟨item, skips, collection⟩ := described
          rw [compileUnskipped_of_filter skips.left] at compiled
          obtain ⟨inner, itemCompiled, rfl⟩ := Result.map_eq_ok_iff.mp compiled
          exact .everyItem (.collection skips collection) itemCompiled
      | everyItemFlat rest =>
          simp only [reading] at compiled described
          obtain ⟨skips, nonempty⟩ := described
          obtain ⟨inner, restCompiled, rfl⟩ := Result.map_eq_ok_iff.mp compiled
          obtain ⟨tupleCompiled, rule, tests, -⟩ :=
            exists_rule_of_flat nonempty restCompiled
          exact .everyItem (.flat skips tests) tupleCompiled
      | eachPlace =>
          simp only [reading] at compiled described
          obtain ⟨nonempty, collections⟩ := described
          obtain ⟨inner, allCompiled, rfl⟩ := Result.map_eq_ok_iff.mp compiled
          exact .eachPlace ⟨nonempty, collections⟩ (compileAll_eq_ok_iff.mp allCompiled)
      | refused fault =>
          simp only [reading] at compiled
          cases compiled

/-! ## What a compiled checker does with a value -/

/-- The three ways in which a checker of a spec runs on a value. -/
inductive RunsAs
    (family : Family)
    (spec : Spec)
    (checker : Checker)
    (value : Value) :
    Prop where
  | passes
      (run : ∀ options name, checker.run options name value = .ok ())
  | faulty {fault : Fault}
      (own : spec.OwnFault family value fault)
      (run :
        ∀ options name,
          checker.run options name value = .error ⟨options.label name value, fault⟩)
  | opens {components : List (Component Spec)} {checked : List (Component Checker)}
      (parts : spec.Parts family value components)
      (compiled : List.Forall₂ (Component.Matches (CompilesTo family)) components checked)
      (run :
        ∀ options name,
          checker.run options name value =
            Component.runEach options (options.label name value) checked)

namespace RunsAs

variable {family : Family} {spec : Spec} {checker : Checker}

/-- The checker of a rule has its faults as faults of the value itself. -/
theorem of_rule
    {rule : Rule}
    (tests : family.Tests spec rule)
    (value : Value) :
    RunsAs family spec (Checker.catalogue rule) value := by
  cases found : rule.test? value with
  | none =>
      refine .passes fun options name => ?_
      rw [Checker.catalogue_run, Check.run, found]
  | some fault =>
      refine .faulty (.rule tests found) fun options name => ?_
      rw [Checker.catalogue_run, Check.run, found]

/-- A checker that wants a kind need only be looked at on values of the kind. -/
theorem of_kind
    {tag : TypeTag}
    (ofKind : spec.OfKind family tag)
    (wants : checker.WantsKind tag)
    {value : Value}
    (inside : tag.admits value = true → RunsAs family spec checker value) :
    RunsAs family spec checker value := by
  cases admitted : tag.admits value with
  | true =>
      exact inside admitted
  | false =>
      exact .faulty (.kind ofKind admitted) fun options name =>
        wants options name value admitted

end RunsAs

/-- A compiled checker runs on every value in one of the three ways. -/
theorem CompilesTo.runsAs
    {family : Family}
    {spec : Spec}
    {checker : Checker}
    (compiled : CompilesTo family spec checker)
    (value : Value) :
    RunsAs family spec checker value := by
  cases compiled.builtAs with
  | skip =>
      exact .passes fun options name => Checker.identity_run options name value
  | rule tests =>
      exact .of_rule tests value
  | list elementCompiled =>
      refine .of_kind .list (Checker.compose_kind_wantsKind _ _ _) fun admitted => ?_
      cases value with
      | list items =>
          exact .opens .list (Component.items_matches elementCompiled items)
            fun options name => Checker.listOf_run ..
      | _ =>
          cases admitted
  | set elementCompiled =>
      refine .of_kind .set (Checker.compose_kind_wantsKind _ _ _) fun admitted => ?_
      cases value with
      | set members =>
          exact .opens .set (Component.members_matches elementCompiled members)
            fun options name => Checker.setOf_run ..
      | _ =>
          cases admitted
  | map keyCompiled contentCompiled =>
      refine .of_kind .map (Checker.mapOf_wantsKind _ _) fun admitted => ?_
      cases value with
      | map pairs =>
          exact .opens .map (Component.entries_matches keyCompiled contentCompiled pairs)
            fun options name => Checker.mapOf_run ..
      | _ =>
          cases admitted
  | anyTuple skips =>
      refine .of_kind (.everyItem (.anything skips))
        (fun options name value refused => Checker.kind_run_of_not_admits refused options name)
        fun admitted => ?_
      exact .passes fun options name => (Checker.kind_run_eq_ok_iff ..).mpr admitted
  | everyItem repeats elementCompiled =>
      refine .of_kind (.everyItem repeats) (Checker.compose_kind_wantsKind _ _ _)
        fun admitted => ?_
      cases value with
      | tuple items =>
          exact .opens (.everyItem repeats) (Component.items_matches elementCompiled items)
            fun options name => Checker.tupleOf_run ..
      | _ =>
          cases admitted
  | @eachPlace entries inner onePerPlace entriesCompiled =>
      refine .of_kind (.eachPlace onePerPlace) (Checker.compose_kind_wantsKind _ _ _)
        fun admitted => ?_
      cases value with
      | tuple items =>
          have sameCount : entries.length = inner.length := entriesCompiled.length_eq
          by_cases sameLength : items.length = entries.length
          · exact .opens (.eachPlace onePerPlace sameLength)
              (Component.slots_matches entriesCompiled items)
              fun options name => Checker.slots_run (sameLength.trans sameCount) options name
          · refine .faulty (.length onePerPlace sameLength) fun options name => ?_
            rw [sameCount] at sameLength ⊢
            exact Checker.slots_run_of_length_ne sameLength options name
      | _ =>
          cases admitted

end Spec

end CallGuard
