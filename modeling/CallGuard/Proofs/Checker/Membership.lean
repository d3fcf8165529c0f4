import CallGuard.Proofs.Checker.Decision
import CallGuard.Proofs.Value.Twins

namespace CallGuard.Checker

/-!
# Membership

A container holds an item when one of its elements equals it.  Sets and maps keep one
of several twins only, which equals the same items as the others.  So it does not
matter to membership whether values are gathered in a list, in a tuple, in a set or as
the keys of a map.
-/

/-- The first of the items that equals none of the values. -/
def missing? (items values : List Value) : Option Value :=
  items.find? fun item => !values.any (·.looseEq item)

/-- Membership in a container is that in its elements; only a string has parts besides. -/
theorem contains_run
    {container : Value}
    {elements : List Value}
    (iterated : container.elements? = some elements)
    (notText : ∀ text, container ≠ .str text)
    (items : List Value)
    (options : CheckOptions)
    (name : Option String) :
    (contains items).run options name container =
      match missing? items elements with
      | none => .ok ()
      | some item => .error ⟨options.label name container, .notContained item⟩ := by
  have held (item : Value) :
      holdsItem container elements item = elements.any (·.looseEq item) := by
    unfold holdsItem
    split
    case h_1 text part => exact (notText text rfl).elim
    case h_2 => rfl
  have tested :
      (Rule.contains items).test? container =
        (missing? items elements).map .notContained := by
    simp only [Rule.test?, iterated, held, missing?]
  rw [contains, catalogue_run, Check.run, tested]
  cases missing? items elements <;> rfl

/-- The elements of a container built from values stand for them. -/
theorem exists_elements_of_gathered
    {values : List Value}
    {entries : List (Value × Value)}
    (keyed : entries.map Prod.fst = values)
    {container : Value}
    (gathered :
      container = .list values ∨
        container = .tuple values ∨
        container = Value.ofMembers values ∨
        container = Value.ofEntries entries) :
    ∃ elements,
      container.elements? = some elements ∧
        (∀ text, container ≠ .str text) ∧
        Value.StandFor elements values := by
  rcases gathered with rfl | rfl | rfl | rfl
  · exact ⟨values, rfl, (fun _ same => by cases same), .refl values⟩
  · exact ⟨values, rfl, (fun _ same => by cases same), .refl values⟩
  · exact ⟨_, rfl, (fun _ same => by cases same), Value.standFor_members values⟩
  · rw [← keyed]
    exact ⟨_, rfl, (fun _ same => by cases same), Value.standFor_keys entries⟩

/--
The verdict on membership is the same for a list, a tuple and a set of given values and
for a map with these values as its keys, whatever the contents under them are.  It says
what item is missing first among the given values, under the label of the container;
so under a name it is one and the same.
-/
theorem contains_collapsed
    {values : List Value}
    {entries : List (Value × Value)}
    (keyed : entries.map Prod.fst = values)
    {container : Value}
    (gathered :
      container = .list values ∨
        container = .tuple values ∨
        container = Value.ofMembers values ∨
        container = Value.ofEntries entries)
    (items : List Value)
    (options : CheckOptions) :
    (∀ name,
        (contains items).run options name container =
          match missing? items values with
          | none => .ok ()
          | some item => .error ⟨options.label name container, .notContained item⟩) ∧
      ∀ name,
        (contains items).run options (some name) container =
          (contains items).run options (some name) (.list values) := by
  obtain ⟨elements, iterated, notText, standFor⟩ :=
    exists_elements_of_gathered keyed gathered
  have sameMissing : missing? items elements = missing? items values := by
    simp only [missing?, standFor.any_looseEq]
  have verdict name := contains_run iterated notText items options name
  have listVerdict name : (contains items).run options name (.list values) = _ :=
    contains_run rfl (fun _ same => by cases same) items options name
  rw [sameMissing] at verdict
  exact ⟨verdict, fun name => (verdict (some name)).trans (listVerdict (some name)).symm⟩

/-- One number three times, as an integer, a float and a truth value, and a list. -/
def twinKeys : List Value :=
  [.int 1, .float ⟨0x3FF0000000000000⟩, .bool true, .list [.int 1]]

/-- The first three of `twinKeys` are one member, which equals each of them; lists differ. -/
theorem twinKeys_contains_collapsed :
    (Value.ofMembers twinKeys).size? = some 2 ∧
      ∀ options,
        (contains [.bool true, .list [.bool true]]).run options (some "xs")
            (Value.ofMembers twinKeys) =
          .error ⟨"xs", .notContained (.list [.bool true])⟩ := by
  refine ⟨by decide +kernel, fun options => ?_⟩
  have held : (twinKeys.any (·.looseEq (.bool true))) = true := by
    decide +kernel
  have lacking : (twinKeys.any (·.looseEq (.list [.bool true]))) = false := by
    decide +kernel
  have keyed : (twinKeys.map fun key => (key, Value.null)).map Prod.fst = twinKeys := rfl
  have verdict :=
    (contains_collapsed keyed (.inr (.inr (.inl rfl))) [.bool true, .list [.bool true]]
      options).1 (some "xs")
  rw [verdict]
  simp [missing?, held, lacking, CheckOptions.label]

end CallGuard.Checker
