import CallGuard.Proofs.Binding.Merging
import CallGuard.Proofs.Checker.Labelling
import CallGuard.Proofs.Spec.Invariant

namespace CallGuard

/-!
# Names and widths show in labels alone

Whatever is assembled from the catalogue finds the same in a value under every name
and with all options, and says so with the label of the value in the same place.  A
binder calls every argument by its name, so the width of renderings changes nothing
about the calls that it accepts, and nothing about what it says of the others.
-/

namespace Checker

/-- A checker without any check that a caller brought along. -/
inductive Assembled : Checker → Prop where
  | identity : Assembled identity
  | rule (rule : Rule) : Assembled (ofRule rule)
  | catalogue (rule : Rule) : Assembled (catalogue rule)
  | all {element : Checker} : Assembled element → Assembled (all element)
  | listOf {element : Checker} : Assembled element → Assembled (listOf element)
  | tupleOf {element : Checker} : Assembled element → Assembled (tupleOf element)
  | setOf {element : Checker} : Assembled element → Assembled (setOf element)
  | mapOf {key content : Checker} :
      Assembled key → Assembled content → Assembled (mapOf key content)
  | slots {items : List Checker} :
      (∀ item ∈ items, Assembled item) → Assembled (slots items)
  | withVariants {base : Checker} : Assembled base → Assembled base.withVariants
  | compose {outer inner : Checker} :
      Assembled outer → Assembled inner → Assembled (compose outer inner)
  | member {checker next : Checker} {name : String} :
      Assembled checker →
      checker.member? name = some (.chain next) →
      Assembled next
  | chain {checker next : Checker} {path : String} :
      Assembled checker →
      checker.chain path = .ok next →
      Assembled next
  | compiled {family : Family} {place : SpecPlace} {spec : Spec} {checker : Checker} :
      spec.compile family place = .ok checker →
      Assembled checker
  | withLabel {checker : Checker} (label : String) :
      Assembled checker → Assembled (checker.withLabel label)
  | withPlain {checker : Checker} (name : String) (value : Value) :
      Assembled checker → Assembled (checker.withPlain name value)
  | withChain {checker chained : Checker} (name : String) :
      Assembled checker → Assembled chained → Assembled (checker.withChain name chained)

namespace LabelOnly

theorem keptByContainers : KeptByContainers LabelOnly where
  identity := identity
  kind := fun tag => ofRule (.instanceOf [tag])
  catalogue := catalogue
  listOf := listOf
  tupleOf := tupleOf
  setOf := setOf
  mapOf := mapOf
  slots := slots

theorem of_assembled
    {checker : Checker}
    (assembled : checker.Assembled) :
    checker.LabelOnly := by
  induction assembled with
  | identity =>
      exact identity
  | rule rule =>
      exact ofRule rule
  | catalogue rule =>
      exact catalogue rule
  | all _ element =>
      exact element.all
  | listOf _ element =>
      exact element.listOf
  | tupleOf _ element =>
      exact element.tupleOf
  | setOf _ element =>
      exact element.setOf
  | mapOf _ _ key content =>
      exact key.mapOf content
  | slots _ items =>
      exact slots items
  | withVariants _ base =>
      exact base.withVariants
  | compose _ _ outer inner =>
      exact outer.compose inner
  | member _ found checker =>
      exact checker.member? found
  | chain _ found checker =>
      exact follow_keeps (fun _ _ _ head isMember => head.member? isMember) checker found
  | compiled isCompiled =>
      exact Spec.compile_keeps keptByContainers isCompiled
  | withLabel label _ checker =>
      exact checker.withLabel label
  | withPlain name value _ checker =>
      exact checker.withPlain name value
  | withChain name _ _ checker chained =>
      exact checker.withChain name chained

/-- A value by a name is checked alike with all options. -/
theorem run_named
    {checker : Checker}
    (labelOnly : checker.LabelOnly)
    (options others : CheckOptions)
    (name : String)
    (value : Value) :
    checker.run options (some name) value = checker.run others (some name) value := by
  obtain ⟨finding, found⟩ := labelOnly.check value
  unfold run
  rw [found, found]
  rfl

end LabelOnly

end Checker

namespace Binder

/-- With label-only checkers the options of a binder change nothing. -/
theorem enforceBound_options
    {binder : Binder}
    (labelOnly : ∀ entry ∈ binder.checkers, entry.2.LabelOnly)
    (options : CheckOptions)
    (bound : List (String × Value)) :
    enforceBound { binder with options := options } bound = binder.enforceBound bound := by
  induction bound with
  | nil =>
      rfl
  | cons entry rest inductionHypothesis =>
      rw [enforceBound, enforceBound]
      cases found : Table.get? binder.checkers entry.1 with
      | none =>
          exact inductionHypothesis
      | some checker =>
          have checkerLabelOnly : checker.LabelOnly :=
            labelOnly _ (Table.mem_of_get?_eq_some found)
          simp only [checkerLabelOnly.run_named options binder.options,
            inductionHypothesis]
          rfl

/-- The width of labels is an option of the binder and decides nothing else in it. -/
theorem build_labelWidth
    (family : Family)
    (table : SpecTable)
    (signature : Signature)
    (settings : Settings)
    (width : Nat) :
    build family table signature { settings with labelWidth := width } =
      (build family table signature settings).map fun binder =>
        { binder with options := ⟨width⟩ } := by
  have sameMerge :
      table.merged signature { settings with labelWidth := width } =
        table.merged signature settings :=
    rfl
  unfold build
  rw [sameMerge]
  cases compileEntries family (table.merged signature settings) with
  | error invalid =>
      rfl
  | ok checkers =>
      rfl

theorem labelOnly_of_build
    {family : Family}
    {table : SpecTable}
    {signature : Signature}
    {settings : Settings}
    {binder : Binder}
    (built : build family table signature settings = .ok binder) :
    ∀ entry ∈ binder.checkers, entry.2.LabelOnly := by
  obtain ⟨checkers, compiled, rfl⟩ := build_eq_ok_iff.mp built
  intro entry member
  obtain ⟨placed, -, placedCompiled⟩ := exists_compiled_of_mem compiled member
  exact Spec.compile_keeps Checker.LabelOnly.keptByContainers placedCompiled

end Binder

/--
A value passes an assembled checker under every name and with all options, or under
none and with none.  Then there are one kind of failure and two texts such that every
message is the label of the value between them, where the label is the name if there
is one and the rendering of the value otherwise.  So leaving the name out is giving
the rendering as the name.  Binders that differ in the width of renderings have the
same checkers, and bind and check every call alike.
-/
theorem label_only_observation :
    (∀ checker : Checker, checker.Assembled → ∀ value,
      ((∀ options name, checker.run options name value = .ok ()) ∨
          ∃ kind before after, ∀ options name, ∃ failure,
            checker.run options name value = .error failure ∧
              failure.kind = kind ∧
              failure.message = before ++ options.label name value ++ after) ∧
        ∀ options,
          checker.run options none value =
            checker.run options (some (value.render options.labelWidth)) value) ∧
      ∀ family table signature settings width,
        (Binder.build family table signature { settings with labelWidth := width }).map
            (fun binder =>
              (binder.kind, binder.callable, binder.checkers, binder.bind,
                binder.enforce)) =
          (Binder.build family table signature settings).map fun binder =>
            (binder.kind, binder.callable, binder.checkers, binder.bind, binder.enforce) := by
  constructor
  · intro checker assembled value
    obtain ⟨finding, found⟩ := (Checker.LabelOnly.of_assembled assembled).check value
    unfold Checker.run
    simp only [found]
    refine ⟨?_, fun options => rfl⟩
    cases finding with
    | passed =>
        exact .inl fun options name => rfl
    | failed fault before after =>
        refine .inr ⟨fault.kind, fault.before ++ before, after ++ fault.after, ?_⟩
        intro options name
        refine ⟨⟨before ++ options.label name value ++ after, fault⟩, rfl, rfl, ?_⟩
        simp only [Failure.message, String.append_assoc]
  · intro family table signature settings width
    rw [Binder.build_labelWidth]
    cases built : Binder.build family table signature settings with
    | error invalid =>
        rfl
    | ok binder =>
        have sameEnforce :
            Binder.enforce { binder with options := ⟨width⟩ } = binder.enforce :=
          funext fun call =>
            Binder.enforceBound_options (Binder.labelOnly_of_build built) _ _
        simp only [Except.map, sameEnforce]
        rfl

/-- Texts with lists of numbers. -/
def numbersByText : Checker :=
  .mapOf (.just [.str]) (.listOf (.just [.int]))

/-- A map from a text to a list in which a text is where a number should be. -/
def misplacedText : Value :=
  .map [(.str "k", .list [.int 1, .str "a"])]

/-- The text in `misplacedText` is found under every name, always in the same words. -/
theorem misplacedText_label_only_observed :
    numbersByText.run ⟨40⟩ (some "m") misplacedText =
        .error ⟨"m['k'][1]", .wrongType [.int] "str"⟩ ∧
      (∃ kind before after, ∀ options name, ∃ failure,
        numbersByText.run options name misplacedText = .error failure ∧
          failure.kind = kind ∧
          failure.message = before ++ options.label name misplacedText ++ after) ∧
      numbersByText.run ⟨5⟩ none misplacedText =
        numbersByText.run ⟨5⟩ (some (misplacedText.render 5)) misplacedText := by
  have refused :
      numbersByText.run ⟨40⟩ (some "m") misplacedText =
        .error ⟨"m['k'][1]", .wrongType [.int] "str"⟩ := by
    rfl
  have assembled : numbersByText.Assembled :=
    .mapOf (.catalogue _) (.listOf (.catalogue _))
  obtain ⟨verdict, unnamed⟩ := label_only_observation.1 _ assembled misplacedText
  refine ⟨refused, ?_, unnamed ⟨5⟩⟩
  rcases verdict with passes | fails
  · rw [passes] at refused
    cases refused
  · exact fails

end CallGuard
