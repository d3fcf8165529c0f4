import Mathlib.Data.List.Forall2
import CallGuard.Checker.Catalogue
import CallGuard.Proofs.Checker.Interval
import CallGuard.Proofs.Value.Elements

namespace CallGuard

/-!
# What checkers decide

A meaning is a set of values.  A checker decides a meaning when it lets exactly
these values pass, under every name and with all options.  Each constructor of
checkers is matched by a constructor of meanings here, so what a compiled checker
decides is read off the way in which it was put together.
-/

/-- A set of values, as what a constraint asks for. -/
abbrev Meaning :=
  Value → Prop

namespace Meaning

/-- Every value. -/
def anything : Meaning :=
  fun _ => True

/-- The instances of the given types. -/
def instanceOf (types : List TypeTag) : Meaning :=
  fun value => ∃ tag ∈ types, tag.admits value = true

/-- The values of an interval. -/
def within (interval : Interval) : Meaning :=
  interval.Contains

/-- Lists of values of a meaning. -/
def listOf (element : Meaning) : Meaning :=
  fun value => ∃ items, value = .list items ∧ ∀ item ∈ items, element item

/-- Tuples of any length of values of a meaning. -/
def tupleOf (element : Meaning) : Meaning :=
  fun value => ∃ items, value = .tuple items ∧ ∀ item ∈ items, element item

/-- Sets of values of a meaning. -/
def setOf (element : Meaning) : Meaning :=
  fun value => ∃ members, value = .set members ∧ ∀ member ∈ members, element member

/-- Maps from keys of one meaning to contents of another. -/
def mapOf (key content : Meaning) : Meaning :=
  fun value =>
    ∃ entries, value = .map entries ∧
      (∀ entry ∈ entries, key entry.1) ∧ ∀ entry ∈ entries, content entry.2

/-- Tuples with one item for each meaning, in order. -/
def slots (meanings : List Meaning) : Meaning :=
  fun value =>
    ∃ items, value = .tuple items ∧
      List.Forall₂ (fun (meaning : Meaning) item => meaning item) meanings items

end Meaning

/-- A check lets pass exactly the values of a meaning. -/
def Check.Decides (check : Check) (meaning : Meaning) : Prop :=
  ∀ options name value, check.run options name value = .ok () ↔ meaning value

/-- A checker lets pass exactly the values of a meaning. -/
def Checker.Decides (checker : Checker) (meaning : Meaning) : Prop :=
  ∀ options name value, checker.run options name value = .ok () ↔ meaning value

/-- Testing items one after another passes exactly when each of them would pass. -/
theorem testEach_eq_ok_iff
    {test : Nat → α → Outcome}
    {holds : α → Prop}
    (decides : ∀ index item, test index item = .ok () ↔ holds item)
    (index : Nat)
    (items : List α) :
    testEach test index items = .ok () ↔ ∀ item ∈ items, holds item := by
  induction items generalizing index with
  | nil =>
      simp [testEach]
  | cons item rest inductionHypothesis =>
      rw [List.forall_mem_cons, ← decides index item,
        ← inductionHypothesis (index + 1)]
      rw [testEach]
      cases test index item with
      | error failure =>
          simp
      | ok passed =>
          simp

namespace Check

theorem rule_run_eq_ok_iff
    (tested : Rule)
    (options : CheckOptions)
    (name : Option String)
    (value : Value) :
    (Check.rule tested).run options name value = .ok () ↔
      tested.test? value = none := by
  rw [Check.run]
  cases tested.test? value with
  | none =>
      simp
  | some fault =>
      simp

/-- Slots pass exactly when each item has the meaning that its slot decides. -/
theorem runSlots_eq_ok_iff
    {checks : List Check}
    {meanings : List Meaning}
    (decided : List.Forall₂ Check.Decides checks meanings)
    (options : CheckOptions)
    (label : String)
    (index : Nat)
    {items : List Value}
    (sameLength : items.length = checks.length) :
    runSlots options checks label index items = .ok () ↔
      List.Forall₂ (fun (meaning : Meaning) item => meaning item) meanings items := by
  induction decided generalizing index items with
  | nil =>
      cases items with
      | nil =>
          simp [runSlots]
      | cons item rest =>
          simp at sameLength
  | @cons check meaning checks meanings headDecides restDecides inductionHypothesis =>
      cases items with
      | nil =>
          simp at sameLength
      | cons item rest =>
          have restLength : rest.length = checks.length := by
            simpa using sameLength
          rw [List.forall₂_cons,
            ← headDecides options (some (slotLabel label index)) item,
            ← inductionHypothesis (index + 1) restLength]
          rw [runSlots]
          cases check.run options (some (slotLabel label index)) item with
          | error failure =>
              simp
          | ok passed =>
              simp

end Check

namespace Checker

/-! Registering members or a label leaves the check of a checker alone. -/

@[simp] theorem withLabel_run
    (checker : Checker)
    (label : String)
    (options : CheckOptions)
    (name : Option String)
    (value : Value) :
    (checker.withLabel label).run options name value =
      checker.run options name value :=
  rfl

@[simp] theorem withPlain_check
    (checker : Checker)
    (name : String)
    (value : Value) :
    (checker.withPlain name value).check = checker.check :=
  rfl

@[simp] theorem withChain_check
    (checker : Checker)
    (name : String)
    (chained : Checker) :
    (checker.withChain name chained).check = checker.check :=
  rfl

@[simp] theorem withVariants_check (base : Checker) :
    base.withVariants.check = base.check :=
  rfl

/-- The checker of a rule tests the rule, whatever members it tells about. -/
@[simp] theorem ofRule_check (rule : Rule) :
    (ofRule rule).check = .rule rule := by
  have entered
      (members : List (String × Value))
      (checker : Checker) :
      (members.foldl (fun checker member => checker.withPlain member.1 member.2)
        checker).check = checker.check := by
    induction members generalizing checker with
    | nil =>
        rfl
    | cons member rest inductionHypothesis =>
        exact inductionHypothesis (checker.withPlain member.1 member.2)
  exact entered rule.members (ofCheck rule.label (.rule rule))

/-! ## Rules and composition -/

theorem instanceOf_test?_eq_none_iff
    {types : List TypeTag}
    {value : Value} :
    (Rule.instanceOf types).test? value = none ↔
      Meaning.instanceOf types value := by
  unfold Rule.test? Meaning.instanceOf
  simp

/-- A catalogue entry tests its rule, whatever variants it offers. -/
theorem catalogue_run
    (tested : Rule)
    (options : CheckOptions)
    (name : Option String)
    (value : Value) :
    (catalogue tested).run options name value =
      (Check.rule tested).run options name value := by
  rw [run, catalogue, withVariants_check, ofRule_check]

/-- A catalogue entry passes what its rule finds nothing wrong with. -/
theorem catalogue_run_eq_ok_iff
    {tested : Rule}
    {options : CheckOptions}
    {name : Option String}
    {value : Value} :
    (catalogue tested).run options name value = .ok () ↔ tested.test? value = none := by
  rw [catalogue_run, Check.rule_run_eq_ok_iff]

/-- The alternatives of a list of types decide being an instance of one of them. -/
theorem just_decides (types : List TypeTag) :
    (just types).Decides (Meaning.instanceOf types) := by
  intro options name value
  rw [just, catalogue_run_eq_ok_iff, instanceOf_test?_eq_none_iff]

/-- The catalogue entry of an interval decides what the interval contains. -/
theorem catalogue_within_decides (interval : Interval) :
    (catalogue (.within interval)).Decides (Meaning.within interval) := by
  intro options name value
  rw [catalogue_run_eq_ok_iff]
  exact Interval.test?_eq_none_iff

/-- The checker of one type without variants passes its instances. -/
theorem kind_run_eq_ok_iff
    (tag : TypeTag)
    (options : CheckOptions)
    (name : Option String)
    (value : Value) :
    (kind tag).run options name value = .ok () ↔ tag.admits value = true := by
  rw [run, kind, ofRule_check, Check.rule_run_eq_ok_iff,
    instanceOf_test?_eq_none_iff]
  simp [Meaning.instanceOf]

theorem kind_run_of_not_admits
    {tag : TypeTag}
    {value : Value}
    (refused : tag.admits value = false)
    (options : CheckOptions)
    (name : Option String) :
    (kind tag).run options name value =
      .error ⟨options.label name value, .wrongType [tag] value.typeName⟩ := by
  have fault : (Rule.instanceOf [tag]).test? value = some (.wrongType [tag] value.typeName) := by
    simp [Rule.test?, refused]
  rw [run, kind, ofRule_check, Check.run, fault]

/-- A checker without a check lets every value pass. -/
theorem run_of_isIdentity
    {checker : Checker}
    (identity : checker.isIdentity = true)
    (options : CheckOptions)
    (name : Option String)
    (value : Value) :
    checker.run options name value = .ok () := by
  rcases checker with ⟨label, check, plain, chains, source⟩
  cases check with
  | anything =>
      rfl
  | _ =>
      simp [isIdentity, Check.isAnything] at identity

theorem identity_run
    (options : CheckOptions)
    (name : Option String)
    (value : Value) :
    identity.run options name value = .ok () :=
  run_of_isIdentity rfl options name value

theorem identity_decides : identity.Decides Meaning.anything := by
  intro options name value
  simp [identity_run, Meaning.anything]

/-- A composite runs its inner operand and then its outer one. -/
theorem compose_run
    (outer inner : Checker)
    (options : CheckOptions)
    (name : Option String)
    (value : Value) :
    (compose outer inner).run options name value =
      match inner.run options name value with
      | .error failure => .error failure
      | .ok () => outer.run options name value := by
  unfold compose
  split
  case isTrue innerIdentity =>
    rw [run_of_isIdentity innerIdentity]
  case isFalse innerChecks =>
    split
    case isTrue outerIdentity =>
      rw [run_of_isIdentity outerIdentity]
      cases inner.run options name value <;> rfl
    case isFalse outerChecks =>
      rfl

/-- A composite passes exactly when both of its operands pass. -/
theorem compose_run_eq_ok_iff
    (outer inner : Checker)
    (options : CheckOptions)
    (name : Option String)
    (value : Value) :
    (compose outer inner).run options name value = .ok () ↔
      inner.run options name value = .ok () ∧
        outer.run options name value = .ok () := by
  rw [compose_run]
  cases inner.run options name value with
  | error failure =>
      simp
  | ok passed =>
      simp

/-! ## Containers -/

/-- The element-wise checker tests each element, whether or not there is anything to test. -/
theorem each_run
    (element : Checker)
    (options : CheckOptions)
    (name : Option String)
    {value : Value}
    {elements : List Value}
    (iterated : value.elements? = some elements) :
    (each element).run options name value =
      testEach
        (fun index item =>
          element.run options
            (some (elementLabel value (options.label name value) index)) item)
        0 elements := by
  unfold each
  split
  case isTrue elementIdentity =>
    have passes index item :
        element.run options
            (some (elementLabel value (options.label name value) index)) item = .ok () ↔
          True :=
      iff_true_intro (run_of_isIdentity elementIdentity ..)
    rw [identity_run, (testEach_eq_ok_iff passes 0 elements).mpr fun _ _ => trivial]
  case isFalse elementChecks =>
    unfold run ofCheck
    rw [Check.run]
    simp only [iterated]

/-- The element-wise checker passes exactly when every element has the meaning. -/
theorem each_run_eq_ok_iff
    {element : Checker}
    {meaning : Meaning}
    (decides : element.Decides meaning)
    (options : CheckOptions)
    (name : Option String)
    {value : Value}
    {elements : List Value}
    (iterated : value.elements? = some elements) :
    (each element).run options name value = .ok () ↔
      ∀ item ∈ elements, meaning item := by
  rw [each_run element options name iterated]
  exact testEach_eq_ok_iff
    (fun index item => decides options (some (elementLabel value _ index)) item) 0 elements

/-- Element-wise behind a kind of container: the kind, and then every element. -/
theorem compose_each_kind_run_eq_ok_iff
    {element : Checker}
    {meaning : Meaning}
    (decides : element.Decides meaning)
    {tag : TypeTag}
    (iterates : tag.Iterates)
    (label : String)
    (options : CheckOptions)
    (name : Option String)
    (value : Value) :
    ((compose (each element) (kind tag)).withLabel label).run
        options name value = .ok () ↔
      tag.admits value = true ∧
        ∀ elements, value.elements? = some elements →
          ∀ item ∈ elements, meaning item := by
  rw [withLabel_run, compose_run_eq_ok_iff, kind_run_eq_ok_iff]
  refine and_congr_right fun admitted => ?_
  obtain ⟨elements, iterated⟩ := iterates value admitted
  rw [each_run_eq_ok_iff decides options name iterated]
  simp [iterated]

/-- Lists of what an element checker decides. -/
theorem listOf_decides
    {element : Checker}
    {meaning : Meaning}
    (decides : element.Decides meaning) :
    (listOf element).Decides (Meaning.listOf meaning) := by
  intro options name value
  rw [listOf, compose_each_kind_run_eq_ok_iff decides]
  · cases value <;> simp [TypeTag.admits, Value.elements?, Meaning.listOf]
  · exact TypeTag.iterates_of_mem (by simp)

theorem tupleOf_decides
    {element : Checker}
    {meaning : Meaning}
    (decides : element.Decides meaning) :
    (tupleOf element).Decides (Meaning.tupleOf meaning) := by
  intro options name value
  rw [tupleOf, compose_each_kind_run_eq_ok_iff decides]
  · cases value <;> simp [TypeTag.admits, Value.elements?, Meaning.tupleOf]
  · exact TypeTag.iterates_of_mem (by simp)

theorem setOf_decides
    {element : Checker}
    {meaning : Meaning}
    (decides : element.Decides meaning) :
    (setOf element).Decides (Meaning.setOf meaning) := by
  intro options name value
  rw [setOf, compose_each_kind_run_eq_ok_iff decides]
  · cases value <;> simp [TypeTag.admits, Value.elements?, Meaning.setOf]
  · exact TypeTag.iterates_of_mem (by simp)

/-- The bare kind of tuples decides tuples of anything. -/
theorem kind_tuple_decides :
    (kind .tuple).Decides (Meaning.tupleOf Meaning.anything) := by
  intro options name value
  rw [kind_run_eq_ok_iff]
  cases value <;> simp [TypeTag.admits, Meaning.tupleOf, Meaning.anything]

/-- The checks of keys and contents pass exactly when every entry has both meanings. -/
theorem entries_run_eq_ok_iff
    {key content : Checker}
    {keyMeaning contentMeaning : Meaning}
    (keyDecides : key.Decides keyMeaning)
    (contentDecides : content.Decides contentMeaning)
    (options : CheckOptions)
    (name : Option String)
    (entries : List (Value × Value)) :
    (Check.entries key.check content.check).run options name (.map entries) = .ok () ↔
      ∀ entry ∈ entries, keyMeaning entry.1 ∧ contentMeaning entry.2 := by
  rw [Check.run]
  refine testEach_eq_ok_iff ?_ 0 entries
  intro index entry
  let label := options.label name (.map entries)
  rw [← keyDecides options (some (keyLabel label)) entry.1,
    ← contentDecides options (some (contentLabel label entry.1)) entry.2]
  unfold run
  cases key.check.run options (some (keyLabel label)) entry.1 with
  | error failure =>
      simp
  | ok passed =>
      simp [label]

/-- Maps between what a checker of keys and a checker of contents decide. -/
theorem mapOf_decides
    {key content : Checker}
    {keyMeaning contentMeaning : Meaning}
    (keyDecides : key.Decides keyMeaning)
    (contentDecides : content.Decides contentMeaning) :
    (mapOf key content).Decides (Meaning.mapOf keyMeaning contentMeaning) := by
  intro options name value
  unfold mapOf
  split
  case isTrue identities =>
    obtain ⟨keyIdentity, contentIdentity⟩ := Bool.and_eq_true_iff.mp identities
    have everyKey (item : Value) : keyMeaning item :=
      (keyDecides options name item).mp
        (run_of_isIdentity keyIdentity options name item)
    have everyContent (item : Value) : contentMeaning item :=
      (contentDecides options name item).mp
        (run_of_isIdentity contentIdentity options name item)
    rw [withLabel_run, kind_run_eq_ok_iff]
    cases value <;>
      simp [TypeTag.admits, Meaning.mapOf, everyKey, everyContent]
  case isFalse checked =>
    rw [withLabel_run, compose_run_eq_ok_iff, kind_run_eq_ok_iff]
    cases value with
    | map entries =>
        rw [run, ofCheck, entries_run_eq_ok_iff keyDecides contentDecides]
        simp only [TypeTag.admits, true_and, Meaning.mapOf, Value.map.injEq,
          exists_eq_left', forall_and]
    | _ =>
        simp [TypeTag.admits, Meaning.mapOf]

/-- Tuples with one item for each of several checkers. -/
theorem slots_decides
    {items : List Checker}
    {meanings : List Meaning}
    (decided : List.Forall₂ Checker.Decides items meanings) :
    (slots items).Decides (Meaning.slots meanings) := by
  intro options name value
  rw [slots, withLabel_run, compose_run_eq_ok_iff, kind_run_eq_ok_iff]
  have checksDecide : List.Forall₂ Check.Decides (items.map check) meanings :=
    List.forall₂_map_left_iff.mpr decided
  cases value with
  | tuple values =>
      rw [run, ofCheck, Check.run]
      simp only [TypeTag.admits, true_and, Meaning.slots, Value.tuple.injEq,
        exists_eq_left']
      split
      case isTrue sameLength =>
        exact Check.runSlots_eq_ok_iff checksDecide options _ 0 sameLength
      case isFalse otherLength =>
        simp only [reduceCtorEq, false_iff]
        intro holds
        exact otherLength
          (holds.length_eq.symm.trans checksDecide.length_eq.symm)
  | _ =>
      simp [TypeTag.admits, Meaning.slots]

end Checker

end CallGuard
