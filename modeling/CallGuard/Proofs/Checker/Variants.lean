import CallGuard.Proofs.Checker.Decision
import CallGuard.Proofs.Checker.Fluent
import CallGuard.Proofs.Table

namespace CallGuard

/-!
# Variants

Equipping a checker with variants changes nothing in what it passes.  It enters six
chained members, over whatever the checker registers or its source offers under these
names.  A variant is put together from the checker, so what it decides is read off what
the checker decides: the checker may be a composite or the identity, with the same
results.

Each variant for containers has a variant of its own that wants an item besides.  The
container is tested first there, so a value is refused as empty only when it is sound
otherwise.
-/

namespace Meaning

/-- The sized values with at least one item. -/
def nonEmpty : Meaning :=
  fun value => ∃ size, value.size? = some size ∧ 0 < size

/--
The values that are iterated over, with all that this yields of a meaning: characters,
octets, items, members, and the keys of a map.
-/
def everyElement (element : Meaning) : Meaning
  | .str text => ∀ c ∈ text.toList, element (.str (String.singleton c))
  | .bytes octets => ∀ octet ∈ octets, element (.int octet.toNat)
  | .list items => ∀ item ∈ items, element item
  | .tuple items => ∀ item ∈ items, element item
  | .set members => ∀ member ∈ members, element member
  | .map entries => ∀ entry ∈ entries, element entry.1
  | _ => False

theorem everyElement_iff
    {element : Meaning}
    {value : Value} :
    everyElement element value ↔
      ∃ elements, value.elements? = some elements ∧ ∀ item ∈ elements, element item := by
  cases value <;> simp [everyElement, Value.elements?]

end Meaning

namespace Checker

/-! ## What the variants decide -/

theorem nonEmpty_test?_eq_none_iff
    {value : Value} :
    Rule.nonEmpty.test? value = none ↔ Meaning.nonEmpty value := by
  unfold Meaning.nonEmpty
  cases isSize : value.size? with
  | none =>
      simp [Rule.test?, isSize]
  | some size =>
      cases size with
      | zero =>
          simp [Rule.test?, isSize]
      | succ others =>
          simp [Rule.test?, isSize]

/-- The rule passes the sized values with an item and nothing else. -/
theorem ofRule_nonEmpty_decides :
    (ofRule .nonEmpty).Decides Meaning.nonEmpty := by
  intro options name value
  rw [run, ofRule_check, Check.rule_run_eq_ok_iff, nonEmpty_test?_eq_none_iff]

/-- A sized value without an item is refused as empty. -/
theorem ofRule_nonEmpty_run_of_not_nonEmpty
    {value : Value}
    (sized : value.size?.isSome = true)
    (without : ¬Meaning.nonEmpty value)
    (options : CheckOptions)
    (name : Option String) :
    (ofRule .nonEmpty).run options name value =
      .error ⟨options.label name value, .empty⟩ := by
  obtain ⟨size, isSize⟩ := Option.isSome_iff_exists.mp sized
  have isZero : size = 0 :=
    Nat.eq_zero_of_not_pos fun positive => without ⟨size, isSize, positive⟩
  have fault : Rule.nonEmpty.test? value = some .empty := by
    simp [Rule.test?, isSize, isZero]
  rw [run, ofRule_check, Check.run, fault]

/-- A composite passes what its operands both pass. -/
theorem compose_decides
    {outer inner : Checker}
    {outerMeaning innerMeaning : Meaning}
    (outerDecides : outer.Decides outerMeaning)
    (innerDecides : inner.Decides innerMeaning) :
    (compose outer inner).Decides fun value => innerMeaning value ∧ outerMeaning value := by
  intro options name value
  rw [compose_run_eq_ok_iff, innerDecides, outerDecides]

theorem iterable_run_eq_ok_iff
    (options : CheckOptions)
    (name : Option String)
    (value : Value) :
    (ofRule .iterable).run options name value = .ok () ↔
      value.elements?.isSome = true := by
  rw [run, ofRule_check, Check.rule_run_eq_ok_iff, Rule.test?, ite_eq_left_iff]
  cases value.elements? <;> simp

/-- Iterated values of what an element checker decides. -/
theorem all_decides
    {element : Checker}
    {meaning : Meaning}
    (decides : element.Decides meaning) :
    (all element).Decides (Meaning.everyElement meaning) := by
  intro options name value
  rw [all, withLabel_run, compose_run_eq_ok_iff, iterable_run_eq_ok_iff,
    Meaning.everyElement_iff]
  cases iterated : value.elements? with
  | none =>
      simp
  | some elements =>
      rw [each_run_eq_ok_iff decides options name iterated]
      simp

/-! ## Variants for containers -/

/--
One checker wants an item besides what another asks for.  It fails as the other does,
and what the other passes it refuses as empty if there is no item.
-/
structure WantsItem
    (stricter checker : Checker) :
    Prop where
  passes :
    ∀ options name value,
      stricter.run options name value = .ok () ↔
        checker.run options name value = .ok () ∧ Meaning.nonEmpty value
  fails :
    ∀ options name value failure,
      checker.run options name value = .error failure →
      stricter.run options name value = .error failure
  empty :
    ∀ options name value,
      checker.run options name value = .ok () →
      ¬Meaning.nonEmpty value →
      stricter.run options name value = .error ⟨options.label name value, .empty⟩

theorem withNonEmpty_run
    (checker : Checker)
    (options : CheckOptions)
    (name : Option String)
    (value : Value) :
    checker.withNonEmpty.run options name value = checker.run options name value :=
  rfl

/-- Behind a checker that passes only sized values, wanting an item finds a size. -/
theorem wantsItem_compose
    {checker : Checker}
    (sized :
      ∀ options name value,
        checker.run options name value = .ok () → value.size?.isSome = true) :
    (compose (ofRule .nonEmpty) checker).WantsItem checker.withNonEmpty where
  passes options name value := by
    rw [withNonEmpty_run, compose_run_eq_ok_iff, ofRule_nonEmpty_decides]
  fails options name value failure failed := by
    rw [withNonEmpty_run] at failed
    rw [compose_run, failed]
  empty options name value passed without := by
    rw [withNonEmpty_run] at passed
    rw [compose_run, passed]
    exact ofRule_nonEmpty_run_of_not_nonEmpty (sized options name value passed) without
      options name

/-- A composite tells about itself what its inner operand does. -/
theorem compose_plain
    {inner : Checker}
    (innerChecks : inner.isIdentity = false)
    (outer : Checker) :
    (compose outer inner).plain = inner.plain := by
  unfold compose
  rw [innerChecks, if_neg Bool.false_ne_true]
  split <;> rfl

/-- The variants of a checker for containers, under their names. -/
def containerVariants (base : Checker) : List (String × Checker) :=
  [("All", all base), ("List", listOf base), ("Tuple", tupleOf base),
    ("Set", setOf base), ("Map", mapOf identity base)]

/-- What the variants for containers pass, given what the checker passes. -/
def containerMeanings (meaning : Meaning) : List (String × Meaning) :=
  [("All", .everyElement meaning), ("List", .listOf meaning), ("Tuple", .tupleOf meaning),
    ("Set", .setOf meaning), ("Map", .mapOf .anything meaning)]

/-- A checker of sized values that has no data under the name of its own variant. -/
structure IsContainerVariant
    (checker : Checker)
    (accepted : Meaning) :
    Prop where
  decides : checker.Decides accepted
  sized : ∀ value, accepted value → value.size?.isSome = true
  notPlain : Table.get? checker.plain "NonEmpty" = none

/-- Behind a test of the kind, the members of the kind alone are what may be in the way. -/
theorem isContainerVariant_of_compose
    {outer inner : Checker}
    {label : String}
    {accepted : Meaning}
    (innerChecks : inner.isIdentity = false)
    (notPlain : Table.get? inner.plain "NonEmpty" = none)
    (decides : ((compose outer inner).withLabel label).Decides accepted)
    (sized : ∀ value, accepted value → value.size?.isSome = true) :
    ((compose outer inner).withLabel label).IsContainerVariant accepted where
  decides := decides
  sized := sized
  notPlain := by
    rw [withLabel, compose_plain innerChecks]
    exact notPlain

section ContainerVariants

variable {base : Checker} {meaning : Meaning}

theorem all_isContainerVariant (decides : base.Decides meaning) :
    (all base).IsContainerVariant (.everyElement meaning) := by
  apply isContainerVariant_of_compose rfl rfl (all_decides decides)
  intro value accepted
  obtain ⟨elements, iterated, -⟩ := Meaning.everyElement_iff.mp accepted
  exact Value.isSome_size?_of_elements? iterated

theorem listOf_isContainerVariant (decides : base.Decides meaning) :
    (listOf base).IsContainerVariant (.listOf meaning) := by
  apply isContainerVariant_of_compose rfl rfl (listOf_decides decides)
  rintro value ⟨items, rfl, -⟩
  rfl

theorem tupleOf_isContainerVariant (decides : base.Decides meaning) :
    (tupleOf base).IsContainerVariant (.tupleOf meaning) := by
  apply isContainerVariant_of_compose rfl rfl (tupleOf_decides decides)
  rintro value ⟨items, rfl, -⟩
  rfl

theorem setOf_isContainerVariant (decides : base.Decides meaning) :
    (setOf base).IsContainerVariant (.setOf meaning) := by
  apply isContainerVariant_of_compose rfl rfl (setOf_decides decides)
  rintro value ⟨members, rfl, -⟩
  rfl

theorem mapOf_isContainerVariant (decides : base.Decides meaning) :
    (mapOf identity base).IsContainerVariant (.mapOf .anything meaning) := by
  have variantDecides := mapOf_decides identity_decides decides
  have sized (value : Value) (accepted : Meaning.mapOf .anything meaning value) :
      value.size?.isSome = true := by
    obtain ⟨entries, rfl, -⟩ := accepted
    rfl
  unfold mapOf at variantDecides ⊢
  split at variantDecides
  case isTrue skipped =>
    rw [if_pos skipped]
    exact ⟨variantDecides, sized, rfl⟩
  case isFalse checked =>
    rw [if_neg checked]
    exact isContainerVariant_of_compose rfl rfl variantDecides sized

end ContainerVariants

/-- Under each name there is a variant for containers that passes what is meant. -/
theorem exists_containerVariant
    {base : Checker}
    {meaning accepted : Meaning}
    (decides : base.Decides meaning)
    {name : String}
    (meant : (name, accepted) ∈ containerMeanings meaning) :
    ∃ variant,
      (name, variant) ∈ containerVariants base ∧ variant.IsContainerVariant accepted := by
  simp only [containerMeanings, List.mem_cons, Prod.mk.injEq, List.not_mem_nil,
    or_false] at meant
  rcases meant with ⟨rfl, rfl⟩ | ⟨rfl, rfl⟩ | ⟨rfl, rfl⟩ | ⟨rfl, rfl⟩ | ⟨rfl, rfl⟩
  · exact ⟨all base, by simp [containerVariants], all_isContainerVariant decides⟩
  · exact ⟨listOf base, by simp [containerVariants], listOf_isContainerVariant decides⟩
  · exact ⟨tupleOf base, by simp [containerVariants], tupleOf_isContainerVariant decides⟩
  · exact ⟨setOf base, by simp [containerVariants], setOf_isContainerVariant decides⟩
  · exact ⟨mapOf identity base, by simp [containerVariants],
      mapOf_isContainerVariant decides⟩

/-! ## Equipping a checker -/

/-- All members that equipping a checker enters. -/
def variants (base : Checker) : List (String × Checker) :=
  ("NonEmpty", compose (ofRule .nonEmpty) base) ::
    (containerVariants base).map fun variant => (variant.1, variant.2.withNonEmpty)

theorem names_variants (base : Checker) :
    Table.names base.variants = variantNames :=
  rfl

theorem mem_variantNames_of_mem
    {base variant : Checker}
    {name : String}
    (entered : (name, variant) ∈ base.variants) :
    name ∈ variantNames := by
  rw [← names_variants base]
  exact List.mem_map.mpr ⟨(name, variant), entered, rfl⟩

/-- Equipping a checker only enters chained members. -/
theorem withVariants_eq (base : Checker) :
    base.withVariants =
      { base with
        chains :=
          base.variants.foldl (fun table entry => Table.enter table entry.1 entry.2)
            base.chains } :=
  rfl

/-- A variant is found under its name, whatever else was there. -/
theorem withVariants_member?
    {base : Checker}
    (notPlain : ∀ name ∈ variantNames, Table.get? base.plain name = none)
    {name : String}
    {variant : Checker}
    (entered : (name, variant) ∈ base.variants) :
    base.withVariants.member? name = some (.chain variant) := by
  have distinct : (Table.names base.variants).Nodup := by
    rw [names_variants]
    decide
  have reversed : Table.get? base.variants.reverse name = some variant := by
    rw [Table.get?_perm distinct base.variants.reverse_perm]
    exact Table.get?_eq_some_of_mem distinct entered
  have registered : Table.get? base.withVariants.chains name = some variant := by
    rw [withVariants_eq, Table.get?_foldl_enter, reversed, Option.some_or]
  exact member?_of_registered (notPlain name (mem_variantNames_of_mem entered)) registered

/-- The variant that wants an item is found in front of what was there. -/
theorem withNonEmpty_member?
    {checker : Checker}
    (notPlain : Table.get? checker.plain "NonEmpty" = none) :
    checker.withNonEmpty.member? "NonEmpty" =
      some (.chain (compose (ofRule .nonEmpty) checker)) := by
  have registered :
      Table.get? checker.withNonEmpty.chains "NonEmpty" =
        some (compose (ofRule .nonEmpty) checker) := by
    rw [withNonEmpty, withChain, Table.get?_enter, if_pos rfl]
  exact member?_of_registered notPlain registered

theorem mem_chainNames_withVariants_iff
    {base : Checker}
    {name : String} :
    name ∈ base.withVariants.chainNames ↔ name ∈ base.chainNames ∨ name ∈ variantNames := by
  rw [mem_chainNames_iff, mem_chainNames_iff, withVariants_eq,
    Table.mem_names_foldl_enter_iff, names_variants, or_right_comm]

/-- Equipping a checker lists no name twice unless the checker did. -/
theorem nodup_chainNames_withVariants
    {base : Checker}
    (distinct : base.chainNames.Nodup) :
    base.withVariants.chainNames.Nodup := by
  obtain ⟨ownDistinct, offeredDistinct⟩ := nodup_chainNames_iff.mp distinct
  rw [nodup_chainNames_iff, withVariants_eq]
  refine ⟨Table.nodup_names_foldl_enter ownDistinct base.variants, ?_⟩
  intro origin isOrigin
  -- More is registered than before, so less of what the source offers is listed.
  refine (offeredDistinct origin isOrigin).sublist (List.monotone_filter_right _ ?_)
  intro name absent
  simp only [Bool.not_eq_eq_eq_not, Bool.not_true, List.contains_eq_mem,
    decide_eq_false_iff_not, Table.mem_names_foldl_enter_iff, not_or] at absent ⊢
  exact absent.1

/-- A chained member goes by its name, and a member of it by both names with a dot. -/
theorem chain_of_member?
    {checker next : Checker}
    {name : String}
    (isVariant : name ∈ variantNames)
    (found : checker.member? name = some (.chain next)) :
    checker.chain name = .ok next := by
  have parts : ∀ name ∈ variantNames, textParts '.' name = [name] := by
    decide
  rw [chain, parts name isVariant, follow, found]
  rfl

theorem chain_nonEmpty_of_member?
    {checker next further : Checker}
    {name : String}
    (isVariant : name ∈ variantNames)
    (found : checker.member? name = some (.chain next))
    (foundNext : next.member? "NonEmpty" = some (.chain further)) :
    checker.chain (name ++ ".NonEmpty") = .ok further := by
  have parts :
      ∀ name ∈ variantNames, textParts '.' (name ++ ".NonEmpty") = [name, "NonEmpty"] := by
    decide
  rw [chain, parts name isVariant, follow, found]
  simp only [follow, foundNext]

/--
A checker that passes what another does, and whose chained members are those of the
other and the six variants.  Among the variants is the checker itself that also wants an
item, and one for each kind of container, which has such a variant in turn.
-/
structure HasVariantsOf
    (equipped base : Checker)
    (meaning : Meaning) :
    Prop where
  run_eq :
    ∀ options name value,
      equipped.run options name value = base.run options name value
  mem_chainNames_iff :
    ∀ name, name ∈ equipped.chainNames ↔ name ∈ base.chainNames ∨ name ∈ variantNames
  nodup_chainNames : base.chainNames.Nodup → equipped.chainNames.Nodup
  nonEmpty :
    ∃ variant,
      equipped.chain "NonEmpty" = .ok variant ∧
        variant.Decides fun value => meaning value ∧ Meaning.nonEmpty value
  containers :
    ∀ name accepted,
      (name, accepted) ∈ containerMeanings meaning →
      ∃ variant stricter,
        equipped.chain name = .ok variant ∧
          variant.Decides accepted ∧
          equipped.chain (name ++ ".NonEmpty") = .ok stricter ∧
          stricter.WantsItem variant

/--
Equipping a checker gives it its variants, and leaves its results alone.  The checker may
be any whose verdict does not depend on names or options, the identity and composites
that expose members with the same names included; only plain members must not take the
names.
-/
theorem withVariants_hasVariantsOf
    {base : Checker}
    {meaning : Meaning}
    (decides : base.Decides meaning)
    (notPlain : ∀ name ∈ variantNames, Table.get? base.plain name = none) :
    base.withVariants.HasVariantsOf base meaning where
  run_eq options name value := by
    rw [run, withVariants_check, run]
  mem_chainNames_iff name := mem_chainNames_withVariants_iff
  nodup_chainNames := nodup_chainNames_withVariants
  nonEmpty :=
    ⟨_, chain_of_member? (by decide) (withVariants_member? notPlain List.mem_cons_self),
      compose_decides ofRule_nonEmpty_decides decides⟩
  containers := by
    intro name accepted meant
    obtain ⟨variant, among, isVariant⟩ := exists_containerVariant decides meant
    have entered : (name, variant.withNonEmpty) ∈ base.variants :=
      List.mem_cons_of_mem _ (List.mem_map.mpr ⟨(name, variant), among, rfl⟩)
    have isName : name ∈ variantNames := mem_variantNames_of_mem entered
    have found := withVariants_member? notPlain entered
    have foundNext := withNonEmpty_member? isVariant.notPlain
    refine ⟨variant.withNonEmpty, _, chain_of_member? isName found, isVariant.decides,
      chain_nonEmpty_of_member? isName found foundNext, wantsItem_compose ?_⟩
    intro options name value passed
    exact isVariant.sized value ((isVariant.decides options name value).mp passed)

theorem shortLists_decides :
    shortLists.Decides fun value => ∃ items, value = .list items ∧ items.length ≤ 2 := by
  intro options name value
  rw [shortLists, compose_run_eq_ok_iff, just_decides, justLength, catalogue_run_eq_ok_iff]
  cases value <;>
    simp [Meaning.instanceOf, TypeTag.admits, Rule.test?, Value.size?, Lengths.admits]

/--
The identity has its variants.  `shortLists` offers members under the same six names
already; equipped with variants of its own, it leads to these: to lists of short lists
under "List", where the members on offer ask for short lists of lists.
-/
theorem identity_shortLists_hasVariantsOf :
    identity.withVariants.HasVariantsOf identity .anything ∧
      shortLists.chainNames = variantNames ∧
        ∃ lists stricter,
          shortLists.withVariants.chain "List" = .ok lists ∧
            lists.run ⟨40⟩ (some "x") (.list [.list []]) = .ok () ∧
            shortLists.withVariants.chain "List.NonEmpty" = .ok stricter ∧
            stricter.run ⟨40⟩ (some "x") (.list [.list []]) = .ok () ∧
            stricter.run ⟨40⟩ (some "x") (.list []) = .error ⟨"x", .empty⟩ := by
  have notPlain : ∀ name ∈ variantNames, Table.get? shortLists.plain name = none := by
    simp only [variantNames, List.forall_mem_cons]
    exact ⟨rfl, rfl, rfl, rfl, rfl, rfl, List.forall_mem_nil _⟩
  refine ⟨withVariants_hasVariantsOf identity_decides fun _ _ => rfl, rfl, ?_⟩
  obtain ⟨lists, stricter, found, decides, foundStricter, wants⟩ :=
    (withVariants_hasVariantsOf shortLists_decides notPlain).containers "List" _
      (List.mem_cons_of_mem _ List.mem_cons_self)
  have oneShort : lists.run ⟨40⟩ (some "x") (.list [.list []]) = .ok () :=
    (decides _ _ _).mpr ⟨_, rfl, by simp⟩
  have none : lists.run ⟨40⟩ (some "x") (.list []) = .ok () :=
    (decides _ _ _).mpr ⟨_, rfl, by simp⟩
  refine ⟨lists, stricter, found, oneShort, foundStricter,
    (wants.passes _ _ _).mpr ⟨oneShort, 1, rfl, Nat.one_pos⟩, wants.empty _ _ _ none ?_⟩
  rintro ⟨size, isSize, positive⟩
  cases isSize
  exact Nat.lt_irrefl 0 positive

end Checker

end CallGuard
