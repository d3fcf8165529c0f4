import CallGuard.Checker.Rule

namespace CallGuard

/-!
# Checks

A check is a rule, a check brought along by a caller, or one put together from
others: for every element, for every entry, slot by slot, or one after another.
Running one either passes or gives the first failure. The parts of a value are
labelled by the label of the whole and their place in it.
-/

/-- What callers choose about the running of checks. -/
structure CheckOptions where
  /-- How many characters of a value its label may show. -/
  labelWidth : Nat
  deriving DecidableEq, Repr

/-- The label of a value: the name it goes by, or else its rendering. -/
def CheckOptions.label
    (options : CheckOptions)
    (name : Option String)
    (value : Value) :
    String :=
  match name with
  | some name => name
  | none => value.render options.labelWidth

/-- The outcome of a check. -/
abbrev Outcome :=
  Except Failure Unit

/-- What is tested of a value. -/
inductive Check where
  /-- Every value passes. -/
  | anything
  | rule (rule : Rule)
  /-- A check that a caller brings along. -/
  | custom (run : CheckOptions → Option String → Value → Outcome)
  /-- Every element passes. -/
  | each (element : Check)
  /-- Every key and every content of a map passes. -/
  | entries (key content : Check)
  /-- A tuple has as many items as there are checks, and each passes its own. -/
  | slots (checks : List Check)
  /-- The first passes, and then the second. -/
  | both (first second : Check)

/-- The label of an element: only ordered containers have places to name. -/
def elementLabel
    (container : Value)
    (label : String)
    (index : Nat) :
    String :=
  match container with
  | .set _ => "an element of " ++ label
  | .map _ => "a key of " ++ label
  | _ => label ++ "[" ++ toString index ++ "]"

/-- The label of a key of a map. -/
def keyLabel (label : String) : String :=
  "a key of " ++ label

/-- The label of the content under a key. -/
def contentLabel (label : String) (key : Value) : String :=
  label ++ "[" ++ key.text ++ "]"

/-- The label of an item of a tuple. -/
def slotLabel (label : String) (index : Nat) : String :=
  label ++ "[" ++ toString index ++ "]"

/-- Test items one after another, with their places counted from `index` on. -/
def testEach
    (test : Nat → α → Outcome)
    (index : Nat) :
    List α →
    Outcome
  | [] => .ok ()
  | item :: rest =>
      match test index item with
      | .error failure => .error failure
      | .ok () => testEach test (index + 1) rest

namespace Check

/-- Whether a check is the one that every value passes. -/
def isAnything : Check → Bool
  | .anything => true
  | _ => false

mutual

/-- Run a check on a value that may go by a name. -/
def run (options : CheckOptions) :
    Check →
    Option String →
    Value →
    Outcome
  | .anything, _, _ => .ok ()
  | .rule tested, name, value =>
      match tested.test? value with
      | none => .ok ()
      | some fault => .error ⟨options.label name value, fault⟩
  | .custom test, name, value => test options name value
  | .each element, name, value =>
      let label := options.label name value
      match value.elements? with
      | none => .error ⟨label, .notIterable value.typeName⟩
      | some elements =>
          testEach
            (fun index item =>
              element.run options (some (elementLabel value label index)) item)
            0 elements
  | .entries key content, name, value =>
      let label := options.label name value
      match value with
      | .map pairs =>
          testEach
            (fun _ (entry : Value × Value) =>
              match key.run options (some (keyLabel label)) entry.1 with
              | .error failure => .error failure
              | .ok () =>
                  content.run options (some (contentLabel label entry.1)) entry.2)
            0 pairs
      | _ => .ok ()
  | .slots checks, name, value =>
      let label := options.label name value
      match value with
      | .tuple items =>
          if items.length = checks.length then
            runSlots options checks label 0 items
          else
            .error ⟨label, .wrongLength (.exactly checks.length) items.length⟩
      | _ => .ok ()
  | .both first second, name, value =>
      match first.run options name value with
      | .error failure => .error failure
      | .ok () => second.run options name value
termination_by structural check => check

/-- Run each check on the item at its place. -/
def runSlots (options : CheckOptions) :
    List Check →
    String →
    Nat →
    List Value →
    Outcome
  | check :: checks, label, index, item :: items =>
      match check.run options (some (slotLabel label index)) item with
      | .error failure => .error failure
      | .ok () => runSlots options checks label (index + 1) items
  | _, _, _, _ => .ok ()
termination_by structural checks => checks

end

end Check

end CallGuard
