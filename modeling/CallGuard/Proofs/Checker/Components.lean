import CallGuard.Proofs.Checker.Decision
import CallGuard.Value.Order

namespace CallGuard

/-!
# Containers, component by component

A container is checked part by part.  A part comes as a `Component`, with the step that
leads to it and with what is asked of it.  What is asked is a checker here and a spec
elsewhere, and `Component.Matches` compares the two.  The checkers of containers refuse
what is not of their kind, and otherwise run their components up to the first failure.
-/

/-- A step from a container to one of its parts. -/
inductive Step where
  /-- To the item at a place of a list or a tuple. -/
  | index (place : Nat)
  /-- To a member of a set. -/
  | element (member : Value)
  | key (key : Value)
  /-- To the content under a key. -/
  | content (key : Value)

namespace Step

/-- The label of a part, by that of the container. -/
def label (whole : String) : Step → String
  | index place => whole ++ "[" ++ toString place ++ "]"
  | element _ => "an element of " ++ whole
  | key _ => "a key of " ++ whole
  | content above => whole ++ "[" ++ above.text ++ "]"

/-- The label at the end of a path. -/
def labelAlong
    (whole : String)
    (path : List Step) :
    String :=
  path.foldl label whole

/--
What is visited earlier: the lower place, the lesser member or key, and a key before
its own content.
-/
def Before : Step → Step → Prop
  | index first, index second => first < second
  | element first, element second => first.order second = .lt
  | key first, content second => first = second ∨ first.order second = .lt
  | key first, key second => first.order second = .lt
  | content first, key second => first.order second = .lt
  | content first, content second => first.order second = .lt
  | _, _ => False

end Step

/-- The members of a set or the keys of a map are in ascending order. -/
def Value.InOrder : Value → Prop
  | .set members => members.Pairwise fun first second => first.order second = .lt
  | .map entries =>
      entries.Pairwise fun first second => first.1.order second.1 = .lt
  | _ => True

/-- A part of a container, where it is, and what is asked of it. -/
structure Component (α : Type) where
  step : Step
  asked : α
  item : Value

namespace Component

variable {α β : Type}

/-- Items at their places, each with what is asked of it. -/
def placed
    (first : Nat)
    (parts : List (α × Value)) :
    List (Component α) :=
  (parts.zipIdx first).map fun entry => ⟨.index entry.2, entry.1.1, entry.1.2⟩

/-- Items of which the same is asked. -/
def items
    (asked : α)
    (values : List Value) :
    List (Component α) :=
  placed 0 (values.map fun item => (asked, item))

/-- Items at places of which each has something of its own asked. -/
def slots
    (asked : List α)
    (values : List Value) :
    List (Component α) :=
  placed 0 (asked.zip values)

/-- Members of which the same is asked. -/
def members
    (asked : α)
    (values : List Value) :
    List (Component α) :=
  values.map fun member => ⟨.element member, asked, member⟩

/-- Keys and contents, each key right before the content under it. -/
def entries
    (key content : α)
    (pairs : List (Value × Value)) :
    List (Component α) :=
  pairs.flatMap fun pair =>
    [⟨.key pair.1, key, pair.1⟩, ⟨.content pair.1, content, pair.2⟩]

/-! ## The parts that are visited -/

variable {component : Component α} {asked : α} {values : List Value}

theorem mem_of_mem_placed
    {first : Nat}
    {parts : List (α × Value)}
    (member : component ∈ placed first parts) :
    (component.asked, component.item) ∈ parts := by
  obtain ⟨entry, inParts, rfl⟩ := List.mem_map.mp member
  exact List.fst_mem_of_mem_zipIdx inParts

theorem item_mem_of_mem_items (member : component ∈ items asked values) :
    component.item ∈ values := by
  obtain ⟨item, inValues, same⟩ := List.mem_map.mp (mem_of_mem_placed member)
  obtain rfl := congrArg Prod.snd same
  exact inValues

theorem item_mem_of_mem_slots
    {asked : List α}
    (member : component ∈ slots asked values) :
    component.item ∈ values :=
  (List.of_mem_zip (mem_of_mem_placed member)).2

theorem item_mem_of_mem_members (member : component ∈ members asked values) :
    component.item ∈ values := by
  obtain ⟨item, inValues, rfl⟩ := List.mem_map.mp member
  exact inValues

theorem exists_of_mem_entries
    {key content : α}
    {pairs : List (Value × Value)}
    (member : component ∈ entries key content pairs) :
    ∃ pair ∈ pairs, component.item = pair.1 ∨ component.item = pair.2 := by
  obtain ⟨pair, inPairs, isOne⟩ := List.mem_flatMap.mp member
  simp only [List.mem_cons, List.not_mem_nil, or_false] at isOne
  rcases isOne with rfl | rfl
  · exact ⟨pair, inPairs, .inl rfl⟩
  · exact ⟨pair, inPairs, .inr rfl⟩

/-! ## The order of visits -/

theorem placed_ascending
    (first : Nat)
    (parts : List (α × Value)) :
    (placed first parts).Pairwise fun earlier later => earlier.step.Before later.step := by
  have places : ((parts.zipIdx first).map Prod.snd).Pairwise (· < ·) := by
    rw [List.zipIdx_map_snd]
    exact List.pairwise_lt_range'
  rw [List.pairwise_map] at places
  exact List.pairwise_map.mpr places

theorem members_ascending
    (asked : α)
    {values : List Value}
    (inOrder : (Value.set values).InOrder) :
    (members asked values).Pairwise fun earlier later => earlier.step.Before later.step :=
  List.pairwise_map.mpr inOrder

theorem entries_ascending
    (key content : α)
    {pairs : List (Value × Value)}
    (inOrder : (Value.map pairs).InOrder) :
    (entries key content pairs).Pairwise fun earlier later =>
      earlier.step.Before later.step := by
  refine List.pairwise_flatMap.mpr ⟨fun pair member => ?_, inOrder.imp ?_⟩
  · simp [Step.Before]
  · intro first second less
    simp [Step.Before, less]

/-! ## What the components of two things have in common -/

/-- Two components for one part, with a relation between what is asked of it. -/
structure Matches
    (related : α → β → Prop)
    (component : Component α)
    (other : Component β) :
    Prop where
  step : component.step = other.step
  item : component.item = other.item
  asked : related component.asked other.asked

variable {related : α → β → Prop}

theorem placed_matches
    {parts : List (α × Value)}
    {others : List (β × Value)}
    (alike :
      List.Forall₂ (fun part other => related part.1 other.1 ∧ part.2 = other.2)
        parts others)
    (first : Nat) :
    List.Forall₂ (Matches related) (placed first parts) (placed first others) := by
  induction alike generalizing first with
  | nil =>
      exact .nil
  | cons head _ inductionHypothesis =>
      exact .cons ⟨rfl, head.2, head.1⟩ (inductionHypothesis (first + 1))

theorem items_matches
    {asked : α}
    {other : β}
    (holds : related asked other)
    (values : List Value) :
    List.Forall₂ (Matches related) (items asked values) (items other values) := by
  refine placed_matches ?_ 0
  rw [List.forall₂_map_left_iff, List.forall₂_map_right_iff, List.forall₂_same]
  exact fun item member => ⟨holds, rfl⟩

theorem slots_matches
    {asked : List α}
    {others : List β}
    (hold : List.Forall₂ related asked others)
    (values : List Value) :
    List.Forall₂ (Matches related) (slots asked values) (slots others values) := by
  refine placed_matches ?_ 0
  induction hold generalizing values with
  | nil =>
      exact .nil
  | cons head _ inductionHypothesis =>
      cases values with
      | nil =>
          exact .nil
      | cons item rest =>
          exact .cons ⟨head, rfl⟩ (inductionHypothesis rest)

theorem members_matches
    {asked : α}
    {other : β}
    (holds : related asked other)
    (values : List Value) :
    List.Forall₂ (Matches related) (members asked values) (members other values) := by
  rw [members, members, List.forall₂_map_left_iff, List.forall₂_map_right_iff,
    List.forall₂_same]
  exact fun member _ => ⟨rfl, rfl, holds⟩

theorem entries_matches
    {key content : α}
    {otherKey otherContent : β}
    (keyHolds : related key otherKey)
    (contentHolds : related content otherContent)
    (pairs : List (Value × Value)) :
    List.Forall₂ (Matches related)
      (entries key content pairs) (entries otherKey otherContent pairs) := by
  induction pairs with
  | nil =>
      exact .nil
  | cons pair rest inductionHypothesis =>
      exact .cons ⟨rfl, rfl, keyHolds⟩ (.cons ⟨rfl, rfl, contentHolds⟩ inductionHypothesis)

/-! ## Running components in turn -/

/-- Run the checker of a component on its part, labelled by that of the container. -/
def run
    (options : CheckOptions)
    (whole : String)
    (component : Component Checker) :
    Outcome :=
  component.asked.run options (some (component.step.label whole)) component.item

/-- Run components in turn, up to the first failure. -/
def runEach
    (options : CheckOptions)
    (whole : String) :
    List (Component Checker) →
    Outcome
  | [] => .ok ()
  | component :: rest =>
      match component.run options whole with
      | .error failure => .error failure
      | .ok () => runEach options whole rest

/-- The first failure comes from a component, and those in front of it pass. -/
theorem exists_first_failing
    {related : α → Checker → Prop}
    {components : List (Component α)}
    {checked : List (Component Checker)}
    (alike : List.Forall₂ (Matches related) components checked)
    {options : CheckOptions}
    {whole : String}
    {failure : Failure}
    (failed : runEach options whole checked = .error failure) :
    ∃ earlier component later checker,
      components = earlier ++ component :: later ∧
        (∀ passed ∈ earlier, ∃ passing : Checker,
          related passed.asked passing ∧
            passing.run options (some (passed.step.label whole)) passed.item = .ok ()) ∧
        related component.asked checker ∧
        checker.run options (some (component.step.label whole)) component.item =
          .error failure := by
  induction alike with
  | nil =>
      cases failed
  | @cons component other components checked head _ inductionHypothesis =>
      obtain ⟨sameStep, sameItem, holds⟩ := head
      have sameRun :
          other.run options whole =
            other.asked.run options (some (component.step.label whole)) component.item := by
        rw [run, sameStep, sameItem]
      rw [runEach, sameRun] at failed
      cases headRun :
          other.asked.run options (some (component.step.label whole)) component.item with
      | error headFailure =>
          simp only [headRun, Except.error.injEq] at failed
          obtain rfl := failed
          refine ⟨[], component, components, other.asked, rfl, ?_, holds, headRun⟩
          exact fun passed member => (List.not_mem_nil member).elim
      | ok passed =>
          simp only [headRun] at failed
          obtain ⟨earlier, found, later, checker, rfl, earlierPass, rest⟩ :=
            inductionHypothesis failed
          refine ⟨component :: earlier, found, later, checker, rfl, ?_, rest⟩
          exact List.forall_mem_cons.mpr ⟨⟨other.asked, holds, headRun⟩, earlierPass⟩

theorem runEach_of_isIdentity
    {components : List (Component Checker)}
    (identities : ∀ component ∈ components, component.asked.isIdentity = true)
    (options : CheckOptions)
    (whole : String) :
    runEach options whole components = .ok () := by
  induction components with
  | nil =>
      rfl
  | cons component rest inductionHypothesis =>
      obtain ⟨identity, restIdentities⟩ := List.forall_mem_cons.mp identities
      rw [runEach, run, Checker.run_of_isIdentity identity]
      exact inductionHypothesis restIdentities

theorem runEach_append
    (options : CheckOptions)
    (whole : String)
    (first second : List (Component Checker)) :
    runEach options whole (first ++ second) =
      match runEach options whole first with
      | .error failure => .error failure
      | .ok () => runEach options whole second := by
  induction first with
  | nil =>
      rfl
  | cons component rest inductionHypothesis =>
      rw [List.cons_append, runEach, runEach, inductionHypothesis]
      cases component.run options whole with
      | error failure =>
          rfl
      | ok passed =>
          rfl

theorem runEach_singleton
    (options : CheckOptions)
    (whole : String)
    (component : Component Checker) :
    runEach options whole [component] = component.run options whole := by
  rw [runEach]
  cases component.run options whole with
  | error failure =>
      rfl
  | ok passed =>
      rfl

/--
Testing things one after another runs the components of all of them, if each test runs
those of one.
-/
theorem testEach_eq_runEach
    {options : CheckOptions}
    {whole : String}
    {test : Nat → γ → Outcome}
    (ofOne : Nat → γ → List (Component Checker))
    (ofAll : Nat → List γ → List (Component Checker))
    (ends : ∀ place, ofAll place [] = [])
    (continues :
      ∀ place thing rest,
        ofAll place (thing :: rest) = ofOne place thing ++ ofAll (place + 1) rest)
    (tests : ∀ place thing, test place thing = runEach options whole (ofOne place thing))
    (first : Nat)
    (things : List γ) :
    testEach test first things = runEach options whole (ofAll first things) := by
  induction things generalizing first with
  | nil =>
      rw [ends]
      rfl
  | cons thing rest inductionHypothesis =>
      rw [testEach, continues, runEach_append, tests]
      cases runEach options whole (ofOne first thing) with
      | error failure =>
          rfl
      | ok passed =>
          exact inductionHypothesis (first + 1)

theorem testEach_items
    (options : CheckOptions)
    (whole : String)
    (element : Checker)
    (values : List Value) :
    testEach
        (fun place item => element.run options (some ((Step.index place).label whole)) item)
        0 values =
      runEach options whole (items element values) :=
  testEach_eq_runEach
    (fun place item => [⟨.index place, element, item⟩])
    (fun place rest => placed place (rest.map fun item => (element, item)))
    (fun _ => rfl) (fun _ _ _ => rfl) (fun _ _ => (runEach_singleton ..).symm) 0 values

theorem testEach_members
    (options : CheckOptions)
    (whole : String)
    (element : Checker)
    (values : List Value) :
    testEach
        (fun _ member => element.run options (some ((Step.element member).label whole)) member)
        0 values =
      runEach options whole (members element values) :=
  testEach_eq_runEach
    (fun _ member => [⟨.element member, element, member⟩])
    (fun _ rest => members element rest)
    (fun _ => rfl) (fun _ _ _ => rfl) (fun _ _ => (runEach_singleton ..).symm) 0 values

theorem testEach_entries
    (options : CheckOptions)
    (whole : String)
    (key content : Checker)
    (pairs : List (Value × Value)) :
    testEach
        (fun _ (pair : Value × Value) =>
          match key.run options (some ((Step.key pair.1).label whole)) pair.1 with
          | .error failure => .error failure
          | .ok () => content.run options (some ((Step.content pair.1).label whole)) pair.2)
        0 pairs =
      runEach options whole (entries key content pairs) := by
  refine testEach_eq_runEach
    (fun _ pair => [⟨.key pair.1, key, pair.1⟩, ⟨.content pair.1, content, pair.2⟩])
    (fun _ rest => entries key content rest)
    (fun _ => rfl) (fun _ _ _ => rfl) (fun _ pair => ?_) 0 pairs
  rw [runEach, runEach_singleton]
  rfl

/-- Slots run the components of their tuple in turn. -/
theorem runSlots_eq_runEach
    (options : CheckOptions)
    (whole : String)
    (checkers : List Checker)
    (first : Nat)
    (values : List Value) :
    Check.runSlots options (checkers.map Checker.check) whole first values =
      runEach options whole (placed first (checkers.zip values)) := by
  induction checkers generalizing first values with
  | nil =>
      rfl
  | cons checker rest inductionHypothesis =>
      cases values with
      | nil =>
          rfl
      | cons item others =>
          rw [List.map_cons, Check.runSlots, inductionHypothesis]
          rfl

end Component

namespace Checker

/-! ## The checkers of containers -/

/-- What is not of a kind is refused as such, before anything in it is looked at. -/
def WantsKind
    (checker : Checker)
    (tag : TypeTag) :
    Prop :=
  ∀ options name value,
    tag.admits value = false →
    checker.run options name value =
      .error ⟨options.label name value, .wrongType [tag] value.typeName⟩

theorem compose_kind_wantsKind
    (outer : Checker)
    (tag : TypeTag)
    (label : String) :
    ((compose outer (kind tag)).withLabel label).WantsKind tag := by
  intro options name value refused
  rw [withLabel_run, compose_run, kind_run_of_not_admits refused]

theorem compose_kind_run_of_admits
    (outer : Checker)
    {tag : TypeTag}
    (label : String)
    (options : CheckOptions)
    (name : Option String)
    {value : Value}
    (admitted : tag.admits value = true) :
    ((compose outer (kind tag)).withLabel label).run options name value =
      outer.run options name value := by
  rw [withLabel_run, compose_run, (kind_run_eq_ok_iff ..).mpr admitted]

theorem listOf_run
    (element : Checker)
    (options : CheckOptions)
    (name : Option String)
    (items : List Value) :
    (listOf element).run options name (.list items) =
      Component.runEach options (options.label name (.list items))
        (Component.items element items) := by
  rw [listOf, compose_kind_run_of_admits _ _ _ _ rfl, each_run _ _ _ rfl]
  exact Component.testEach_items ..

theorem tupleOf_run
    (element : Checker)
    (options : CheckOptions)
    (name : Option String)
    (items : List Value) :
    (tupleOf element).run options name (.tuple items) =
      Component.runEach options (options.label name (.tuple items))
        (Component.items element items) := by
  rw [tupleOf, compose_kind_run_of_admits _ _ _ _ rfl, each_run _ _ _ rfl]
  exact Component.testEach_items ..

theorem setOf_run
    (element : Checker)
    (options : CheckOptions)
    (name : Option String)
    (members : List Value) :
    (setOf element).run options name (.set members) =
      Component.runEach options (options.label name (.set members))
        (Component.members element members) := by
  rw [setOf, compose_kind_run_of_admits _ _ _ _ rfl, each_run _ _ _ rfl]
  exact Component.testEach_members ..

theorem mapOf_run
    (key content : Checker)
    (options : CheckOptions)
    (name : Option String)
    (pairs : List (Value × Value)) :
    (mapOf key content).run options name (.map pairs) =
      Component.runEach options (options.label name (.map pairs))
        (Component.entries key content pairs) := by
  unfold mapOf
  split
  case isTrue identities =>
    obtain ⟨keyIdentity, contentIdentity⟩ := Bool.and_eq_true_iff.mp identities
    have componentIdentities :
        ∀ component ∈ Component.entries key content pairs,
          component.asked.isIdentity = true := by
      intro component member
      obtain ⟨pair, -, isOne⟩ := List.mem_flatMap.mp member
      simp only [List.mem_cons, List.not_mem_nil, or_false] at isOne
      rcases isOne with rfl | rfl
      · exact keyIdentity
      · exact contentIdentity
    rw [withLabel_run, (kind_run_eq_ok_iff ..).mpr rfl,
      Component.runEach_of_isIdentity componentIdentities]
  case isFalse checked =>
    rw [compose_kind_run_of_admits _ _ _ _ rfl]
    exact Component.testEach_entries ..

theorem mapOf_wantsKind (key content : Checker) :
    (mapOf key content).WantsKind .map := by
  unfold mapOf
  split
  case isTrue identities =>
    exact fun options name value refused => kind_run_of_not_admits refused options name
  case isFalse checked =>
    exact compose_kind_wantsKind _ _ _

theorem slots_run
    {items : List Checker}
    {values : List Value}
    (sameLength : values.length = items.length)
    (options : CheckOptions)
    (name : Option String) :
    (slots items).run options name (.tuple values) =
      Component.runEach options (options.label name (.tuple values))
        (Component.slots items values) := by
  rw [slots, compose_kind_run_of_admits _ _ _ _ rfl, Component.slots,
    ← Component.runSlots_eq_runEach, run, ofCheck, Check.run]
  simp only [List.length_map, sameLength, ↓reduceIte]

theorem slots_run_of_length_ne
    {items : List Checker}
    {values : List Value}
    (otherLength : values.length ≠ items.length)
    (options : CheckOptions)
    (name : Option String) :
    (slots items).run options name (.tuple values) =
      .error
        ⟨options.label name (.tuple values),
          .wrongLength (.exactly items.length) values.length⟩ := by
  rw [slots, compose_kind_run_of_admits _ _ _ _ rfl, run, ofCheck, Check.run]
  simp only [List.length_map, otherLength, ↓reduceIte]

end Checker

end CallGuard
