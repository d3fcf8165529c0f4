import CallGuard.Proofs.Checker.Decision
import CallGuard.Proofs.Checker.Lookup
import CallGuard.Proofs.Table

namespace CallGuard

/-!
# Labels

The name of a value and the width of its rendering reach a failure only as the label
of the value.  What a check finds is fixed before the value has a label: it passes,
or it has a fault, in itself or in a part whose label will surround its own.  This
is a `Finding`.  Every check of the library gives one, and whatever is put together
from such checks gives one again.
-/

/-- What is found of a value, whatever its label will be. -/
inductive Finding where
  | passed
  /-- A fault under a label between two texts. -/
  | failed (fault : Fault) (before after : String)

namespace Finding

/-- The outcome for a value with the given label. -/
def outcome : Finding → String → Outcome
  | passed, _ => .ok ()
  | failed fault before after, label => .error ⟨before ++ label ++ after, fault⟩

/-- The finding on a part, said of the label of the whole. -/
def around (before after : String) : Finding → Finding
  | passed => passed
  | failed fault inner outer => failed fault (inner ++ before) (after ++ outer)

/-- The first failure of two findings. -/
def andThen : Finding → Finding → Finding
  | passed, second => second
  | failed fault before after, _ => failed fault before after

@[simp] theorem around_outcome
    (finding : Finding)
    (before after label : String) :
    (finding.around before after).outcome label =
      finding.outcome (before ++ label ++ after) := by
  cases finding with
  | passed =>
      rfl
  | failed fault inner outer =>
      simp only [around, outcome, String.append_assoc]

@[simp] theorem andThen_outcome
    (first second : Finding)
    (label : String) :
    (first.andThen second).outcome label =
      match first.outcome label with
      | .error failure => .error failure
      | .ok () => second.outcome label := by
  cases first <;> rfl

/-- A failure right under the label of the value. -/
theorem failed_outcome
    (fault : Fault)
    (label : String) :
    (failed fault "" "").outcome label = .error ⟨label, fault⟩ := by
  simp [outcome]

/-- Testing items one after another gives a finding when every test does. -/
theorem exists_testEach
    {test : CheckOptions → String → Nat → α → Outcome}
    (tested :
      ∀ index item, ∃ finding : Finding, ∀ options label,
        test options label index item = finding.outcome label)
    (index : Nat)
    (items : List α) :
    ∃ finding : Finding, ∀ options label,
      testEach (test options label) index items = finding.outcome label := by
  induction items generalizing index with
  | nil =>
      exact ⟨passed, fun _ _ => rfl⟩
  | cons item rest inductionHypothesis =>
      obtain ⟨head, headTested⟩ := tested index item
      obtain ⟨others, restTested⟩ := inductionHypothesis (index + 1)
      refine ⟨head.andThen others, fun options label => ?_⟩
      rw [andThen_outcome, ← headTested options, ← restTested options]
      rfl

end Finding

namespace Check

/-- A check that learns of names and options through the label alone. -/
def LabelOnly (check : Check) : Prop :=
  ∀ value, ∃ finding : Finding, ∀ options name,
    check.run options name value = finding.outcome (options.label name value)

namespace LabelOnly

/-- What is found of a part, said of the label of the whole. -/
theorem exists_part
    {check : Check}
    (labelOnly : check.LabelOnly)
    (item : Value)
    (before after : String) :
    ∃ finding : Finding, ∀ options label,
      check.run options (some (before ++ label ++ after)) item =
        finding.outcome label := by
  obtain ⟨finding, found⟩ := labelOnly item
  refine ⟨finding.around before after, fun options label => ?_⟩
  rw [found, Finding.around_outcome]
  rfl

theorem anything : Check.anything.LabelOnly :=
  fun _ => ⟨.passed, fun _ _ => rfl⟩

theorem rule (tested : Rule) :
    (Check.rule tested).LabelOnly := by
  intro value
  cases found : tested.test? value with
  | none =>
      exact ⟨.passed, fun options name => by rw [run, found]; rfl⟩
  | some fault =>
      refine ⟨.failed fault "" "", fun options name => ?_⟩
      rw [run, found, Finding.failed_outcome]

/-- The label of an element is that of the container between two texts. -/
theorem exists_elementLabel
    (container : Value)
    (index : Nat) :
    ∃ before after, ∀ label,
      elementLabel container label index = before ++ label ++ after := by
  cases container with
  | set members =>
      exact ⟨"an element of ", "", fun label => String.append_empty.symm⟩
  | map entries =>
      exact ⟨"a key of ", "", fun label => String.append_empty.symm⟩
  | _ =>
      refine ⟨"", "[" ++ toString index ++ "]", fun label => ?_⟩
      simp only [elementLabel, String.empty_append, String.append_assoc]

theorem each
    {element : Check}
    (labelOnly : element.LabelOnly) :
    (Check.each element).LabelOnly := by
  intro value
  cases iterated : value.elements? with
  | none =>
      refine ⟨.failed (.notIterable value.typeName) "" "", fun options name => ?_⟩
      rw [run, Finding.failed_outcome]
      simp only [iterated]
  | some elements =>
      have tested index item :
          ∃ finding : Finding, ∀ options label,
            element.run options (some (elementLabel value label index)) item =
              finding.outcome label := by
        obtain ⟨before, after, labelled⟩ := exists_elementLabel value index
        simp only [labelled]
        exact labelOnly.exists_part item before after
      obtain ⟨finding, found⟩ := Finding.exists_testEach tested 0 elements
      refine ⟨finding, fun options name => ?_⟩
      rw [run, ← found options]
      simp only [iterated]

theorem entries
    {key content : Check}
    (keyLabelOnly : key.LabelOnly)
    (contentLabelOnly : content.LabelOnly) :
    (Check.entries key content).LabelOnly := by
  intro value
  cases value with
  | map pairs =>
      have tested (index : Nat) (entry : Value × Value) :
          ∃ finding : Finding, ∀ options label,
            (match key.run options (some (keyLabel label)) entry.1 with
              | .error failure => .error failure
              | .ok () =>
                  content.run options (some (contentLabel label entry.1)) entry.2) =
              finding.outcome label := by
        obtain ⟨onKey, keyFound⟩ := keyLabelOnly.exists_part entry.1 "a key of " ""
        obtain ⟨onContent, contentFound⟩ :=
          contentLabelOnly.exists_part entry.2 "" ("[" ++ entry.1.text ++ "]")
        refine ⟨onKey.andThen onContent, fun options label => ?_⟩
        rw [Finding.andThen_outcome, ← keyFound options, ← contentFound options]
        simp only [keyLabel, contentLabel, String.append_empty, String.empty_append,
          String.append_assoc]
      obtain ⟨finding, found⟩ := Finding.exists_testEach tested 0 pairs
      refine ⟨finding, fun options name => ?_⟩
      rw [← found options]
      rfl
  | _ =>
      exact ⟨.passed, fun _ _ => rfl⟩

/-- The slots of a tuple from some place on. -/
theorem exists_runSlots
    {checks : List Check}
    (labelOnly : ∀ check ∈ checks, check.LabelOnly)
    (index : Nat)
    (items : List Value) :
    ∃ finding : Finding, ∀ options label,
      runSlots options checks label index items = finding.outcome label := by
  induction checks generalizing index items with
  | nil =>
      exact ⟨.passed, fun _ _ => rfl⟩
  | cons check others inductionHypothesis =>
      obtain ⟨headLabelOnly, othersLabelOnly⟩ := List.forall_mem_cons.mp labelOnly
      cases items with
      | nil =>
          exact ⟨.passed, fun _ _ => rfl⟩
      | cons item rest =>
          obtain ⟨head, headFound⟩ :=
            headLabelOnly.exists_part item "" ("[" ++ toString index ++ "]")
          obtain ⟨tail, tailFound⟩ :=
            inductionHypothesis othersLabelOnly (index + 1) rest
          refine ⟨head.andThen tail, fun options label => ?_⟩
          have sameLabel :
              "" ++ label ++ ("[" ++ toString index ++ "]") = slotLabel label index := by
            simp only [slotLabel, String.empty_append, String.append_assoc]
          rw [Finding.andThen_outcome, ← headFound options, ← tailFound options, sameLabel]
          rfl

theorem slots
    {checks : List Check}
    (labelOnly : ∀ check ∈ checks, check.LabelOnly) :
    (Check.slots checks).LabelOnly := by
  intro value
  cases value with
  | tuple items =>
      by_cases sameLength : items.length = checks.length
      · obtain ⟨finding, found⟩ := exists_runSlots labelOnly 0 items
        refine ⟨finding, fun options name => ?_⟩
        rw [run, ← found options]
        simp only [sameLength, ↓reduceIte]
      · refine ⟨.failed (.wrongLength (.exactly checks.length) items.length) "" "",
          fun options name => ?_⟩
        rw [run, Finding.failed_outcome]
        simp only [sameLength, ↓reduceIte]
  | _ =>
      exact ⟨.passed, fun _ _ => rfl⟩

theorem both
    {first second : Check}
    (firstLabelOnly : first.LabelOnly)
    (secondLabelOnly : second.LabelOnly) :
    (Check.both first second).LabelOnly := by
  intro value
  obtain ⟨firstFinding, firstFound⟩ := firstLabelOnly value
  obtain ⟨secondFinding, secondFound⟩ := secondLabelOnly value
  refine ⟨firstFinding.andThen secondFinding, fun options name => ?_⟩
  rw [Finding.andThen_outcome, ← firstFound options name, ← secondFound options name]
  rfl

end LabelOnly

end Check

namespace Checker

/--
A checker that learns of names and options through the label alone, as do all
checkers that its members lead to.
-/
inductive LabelOnly : Checker → Prop where
  | intro {checker : Checker}
      (check : checker.check.LabelOnly)
      (chains : ∀ entry ∈ checker.chains, LabelOnly entry.2)
      (source : ∀ origin, checker.source = some origin → LabelOnly origin) :
      LabelOnly checker

namespace LabelOnly

theorem check
    {checker : Checker}
    (labelOnly : checker.LabelOnly) :
    checker.check.LabelOnly := by
  cases labelOnly with
  | intro check chains source =>
      exact check

theorem ofCheck
    (label : String)
    {check : Check}
    (labelOnly : check.LabelOnly) :
    (Checker.ofCheck label check).LabelOnly := by
  refine .intro labelOnly ?_ ?_
  · exact fun entry member => (List.not_mem_nil member).elim
  · intro origin found
    cases found

theorem identity : Checker.identity.LabelOnly :=
  .ofCheck _ .anything

/-! Registering members or a label keeps a checker label-only. -/

theorem withLabel
    {checker : Checker}
    (labelOnly : checker.LabelOnly)
    (label : String) :
    (checker.withLabel label).LabelOnly := by
  cases labelOnly with
  | intro check chains source =>
      exact .intro check chains source

theorem withPlain
    {checker : Checker}
    (labelOnly : checker.LabelOnly)
    (name : String)
    (value : Value) :
    (checker.withPlain name value).LabelOnly := by
  cases labelOnly with
  | intro check chains source =>
      exact .intro check chains source

theorem withChain
    {checker chained : Checker}
    (labelOnly : checker.LabelOnly)
    (name : String)
    (chainedLabelOnly : chained.LabelOnly) :
    (checker.withChain name chained).LabelOnly := by
  cases labelOnly with
  | intro check chains source =>
      refine .intro check (fun entry member => ?_) source
      rcases Table.mem_enter member with old | new
      · exact chains entry old
      · rw [new]
        exact chainedLabelOnly

theorem ofRule (rule : Rule) :
    (Checker.ofRule rule).LabelOnly := by
  -- Any number of plain members may be entered, whatever was entered before.
  have entered
      (members : List (String × Value))
      {checker : Checker}
      (labelOnly : checker.LabelOnly) :
      (members.foldl (fun checker member => checker.withPlain member.1 member.2)
        checker).LabelOnly := by
    induction members generalizing checker with
    | nil =>
        exact labelOnly
    | cons member rest inductionHypothesis =>
        exact inductionHypothesis (labelOnly.withPlain member.1 member.2)
  exact entered rule.members (.ofCheck rule.label (.rule rule))

/-! ## Composites -/

theorem sequence
    {first second origin : Checker}
    (firstLabelOnly : first.LabelOnly)
    (secondLabelOnly : second.LabelOnly)
    (originLabelOnly : origin.LabelOnly)
    (label : String) :
    (Checker.sequence label first second origin).LabelOnly := by
  refine .intro (firstLabelOnly.check.both secondLabelOnly.check) ?_ ?_
  · exact fun entry member => (List.not_mem_nil member).elim
  · intro other found
    obtain rfl := Option.some.inj found
    exact originLabelOnly

theorem compose
    {outer inner : Checker}
    (outerLabelOnly : outer.LabelOnly)
    (innerLabelOnly : inner.LabelOnly) :
    (Checker.compose outer inner).LabelOnly := by
  unfold Checker.compose
  split
  · exact outerLabelOnly
  · split
    · exact innerLabelOnly
    · exact innerLabelOnly.sequence outerLabelOnly innerLabelOnly _

theorem behind
    {head member : Checker}
    (headLabelOnly : head.LabelOnly)
    (memberLabelOnly : member.LabelOnly) :
    (Checker.behind head member).LabelOnly := by
  unfold Checker.behind
  split
  · exact headLabelOnly
  · split
    · exact memberLabelOnly
    · exact headLabelOnly.sequence memberLabelOnly memberLabelOnly _

/-- A lookup leads from label-only checkers to label-only checkers. -/
theorem member?
    {checker next : Checker}
    (labelOnly : checker.LabelOnly)
    {name : String}
    (found : checker.member? name = some (.chain next)) :
    next.LabelOnly := by
  induction labelOnly generalizing next with
  | @intro checker check chains source _ sourceHypothesis =>
      rcases registered_or_behind_of_member? found with
        registered | ⟨origin, further, isSource, offered, rfl⟩
      · exact chains _ (Table.mem_of_get?_eq_some registered)
      · have whole : checker.LabelOnly := .intro check chains source
        exact whole.behind (sourceHypothesis origin isSource offered)

/-! ## Containers and variants -/

variable {checker : Checker}

theorem each (labelOnly : checker.LabelOnly) :
    (Checker.each checker).LabelOnly := by
  unfold Checker.each
  split
  · exact .identity
  · exact .ofCheck _ labelOnly.check.each

theorem all (labelOnly : checker.LabelOnly) :
    (Checker.all checker).LabelOnly :=
  (labelOnly.each.compose (.ofRule .iterable)).withLabel _

theorem listOf (labelOnly : checker.LabelOnly) :
    (Checker.listOf checker).LabelOnly :=
  (labelOnly.each.compose (.ofRule _)).withLabel _

theorem tupleOf (labelOnly : checker.LabelOnly) :
    (Checker.tupleOf checker).LabelOnly :=
  (labelOnly.each.compose (.ofRule _)).withLabel _

theorem setOf (labelOnly : checker.LabelOnly) :
    (Checker.setOf checker).LabelOnly :=
  (labelOnly.each.compose (.ofRule _)).withLabel _

theorem mapOf
    {key content : Checker}
    (keyLabelOnly : key.LabelOnly)
    (contentLabelOnly : content.LabelOnly) :
    (Checker.mapOf key content).LabelOnly := by
  have kindLabelOnly : (Checker.kind .map).LabelOnly := .ofRule _
  have entriesLabelOnly :
      (Checker.ofCheck "Entries" (.entries key.check content.check)).LabelOnly :=
    .ofCheck _ (keyLabelOnly.check.entries contentLabelOnly.check)
  unfold Checker.mapOf
  split
  · exact kindLabelOnly.withLabel _
  · exact (entriesLabelOnly.compose kindLabelOnly).withLabel _

theorem slots
    {items : List Checker}
    (labelOnly : ∀ item ∈ items, item.LabelOnly) :
    (Checker.slots items).LabelOnly := by
  have checksLabelOnly : ∀ check ∈ items.map Checker.check, check.LabelOnly := by
    intro check member
    obtain ⟨item, inItems, rfl⟩ := List.mem_map.mp member
    exact (labelOnly item inItems).check
  have slotsLabelOnly :
      (Checker.ofCheck "Slots" (.slots (items.map Checker.check))).LabelOnly :=
    .ofCheck _ (.slots checksLabelOnly)
  exact (slotsLabelOnly.compose (.ofRule _)).withLabel _

theorem withNonEmpty (labelOnly : checker.LabelOnly) :
    checker.withNonEmpty.LabelOnly :=
  labelOnly.withChain _ (.compose (.ofRule .nonEmpty) labelOnly)

theorem withVariants (labelOnly : checker.LabelOnly) :
    checker.withVariants.LabelOnly := by
  have ofMaps : (Checker.mapOf Checker.identity checker).LabelOnly :=
    .mapOf .identity labelOnly
  unfold Checker.withVariants
  simp only [List.foldl_cons, List.foldl_nil]
  apply withChain
  · apply withChain
    · apply withChain
      · apply withChain
        · exact labelOnly.withNonEmpty.withChain _ labelOnly.all.withNonEmpty
        · exact labelOnly.listOf.withNonEmpty
      · exact labelOnly.tupleOf.withNonEmpty
    · exact labelOnly.setOf.withNonEmpty
  · exact ofMaps.withNonEmpty

theorem catalogue (rule : Rule) :
    (Checker.catalogue rule).LabelOnly :=
  (LabelOnly.ofRule rule).withVariants

end LabelOnly

end Checker

end CallGuard
