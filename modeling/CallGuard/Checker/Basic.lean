import CallGuard.Checker.Check
import CallGuard.Table
import CallGuard.Text.Parts

namespace CallGuard

/-!
# Checkers

A checker is a check under a label, with members found by name. Plain members
are data; chained members are checkers. A composite has a source besides, whose
chained members it offers as its own, each put behind the composite.
-/

/-- A labelled check with its members. -/
structure Checker where
  label : String
  check : Check
  plain : List (String × Value)
  chains : List (String × Checker)
  /-- The checker whose chained members a composite offers. -/
  source : Option Checker

/-- A member of a checker. -/
inductive Member where
  | plain (value : Value)
  | chain (checker : Checker)

/-- An operand of a composition. -/
inductive Side where
  | outer
  | inner
  deriving DecidableEq, Repr

/-- The name of an operand. -/
def Side.name : Side → String
  | .outer => "outer"
  | .inner => "inner"

/-- Why checkers cannot be put together. -/
inductive CompositionFault where
  | notAChecker (side : Side) (name : String)
  | noSuchMember (label name : String)
  deriving DecidableEq, Repr

/-- The wording of a fault. -/
def CompositionFault.message : CompositionFault → String
  | .notAChecker side name => s!"{side.name} operand `{name}` is not a valid checker"
  | .noSuchMember label name => s!"checker `{label}` has no member `{name}`"

namespace Checker

/-- A checker without members. -/
def ofCheck
    (label : String)
    (check : Check) :
    Checker where
  label := label
  check := check
  plain := []
  chains := []
  source := none

/-- The checker that every value passes. -/
def identity : Checker :=
  ofCheck "Identity" .anything

/-- Whether every value passes because nothing is checked. -/
def isIdentity (checker : Checker) : Bool :=
  checker.check.isAnything

/-- The same checker under another label. -/
def withLabel
    (checker : Checker)
    (label : String) :
    Checker :=
  { checker with label := label }

/-- Enter a plain member. -/
def withPlain
    (checker : Checker)
    (name : String)
    (value : Value) :
    Checker :=
  { checker with plain := Table.enter checker.plain name value }

/-- Enter a chained member. -/
def withChain
    (checker : Checker)
    (name : String)
    (chained : Checker) :
    Checker :=
  { checker with chains := Table.enter checker.chains name chained }

/-- The checker of a rule, with what the rule tells about itself as members. -/
def ofRule (rule : Rule) : Checker :=
  rule.members.foldl
    (fun checker member => checker.withPlain member.1 member.2)
    (ofCheck rule.label (.rule rule))

/-- Run the check of a checker. -/
def run
    (checker : Checker)
    (options : CheckOptions)
    (name : Option String)
    (value : Value) :
    Outcome :=
  checker.check.run options name value

/--
The composite that runs one check after another and takes its members from the
given source.
-/
def sequence
    (label : String)
    (first second source : Checker) :
    Checker where
  label := label
  check := .both first.check second.check
  plain := source.plain
  chains := []
  source := some source

/--
`inner` first and then `outer`, with the members of `inner`. The identity adds
nothing on either side.
-/
def compose (outer inner : Checker) : Checker :=
  if inner.isIdentity then
    outer
  else if outer.isIdentity then
    inner
  else
    sequence (inner.label ++ " >> " ++ outer.label) inner outer inner

/--
`head` first and then `member`, with the members of `member`. The identity adds
nothing on either side.
-/
def behind (head member : Checker) : Checker :=
  if member.isIdentity then
    head
  else if head.isIdentity then
    member
  else
    sequence (head.label ++ "." ++ member.label) head member member

/-- The names of all chained members: a checker's own, then those of its source. -/
def chainNames : Checker → List String
  | ⟨_, _, _, chains, none⟩ => Table.names chains
  | ⟨_, _, _, chains, some source⟩ =>
      let own := Table.names chains
      own ++ source.chainNames.filter fun name => !own.contains name
termination_by structural checker => checker

/--
The member of a given name: a plain member, a chained member, or one that the
source offers. A chained member of the source is put behind the composite.
-/
def member? : Checker → String → Option Member
  | ⟨label, check, plain, chains, source⟩, name =>
      match Table.get? plain name with
      | some value => some (.plain value)
      | none =>
          match Table.get? chains name with
          | some chained => some (.chain chained)
          | none =>
              match source with
              | none => none
              | some inner =>
                  match inner.member? name with
                  | some (.chain next) =>
                      some (.chain (behind ⟨label, check, plain, chains, some inner⟩ next))
                  | result => result
termination_by structural checker => checker

/-- The chained member that a list of names leads to, one member after another. -/
def follow
    (checker : Checker) :
    List String →
    Except CompositionFault Checker
  | [] => .ok checker
  | name :: rest =>
      match checker.member? name with
      | some (.chain next) => next.follow rest
      | some (.plain _) => .error (.notAChecker .inner name)
      | none => .error (.noSuchMember checker.label name)

/-- A checker as diagnostics show it, with the names of its members. -/
def diagnostic (checker : Checker) : String :=
  let label := Quoted.diagnostic checker.label
  let plain := bracketed ((Table.names checker.plain).map Quoted.diagnostic)
  let chains := bracketed (checker.chainNames.map Quoted.diagnostic)
  "Checker " ++ "\x7b " ++ s!"label: {label}, plain: {plain}, chains: {chains}" ++ " \x7d"

/-- The chained member that a path of names between dots leads to. -/
def chain
    (checker : Checker)
    (path : String) :
    Except CompositionFault Checker :=
  checker.follow (textParts '.' path)

/-- A member that stands as an operand of a composition. -/
def operand
    (side : Side)
    (name : String) :
    Member →
    Except CompositionFault Checker
  | .chain checker => .ok checker
  | .plain _ => .error (.notAChecker side name)

/-- Compose two members that go by names, refusing plain ones. -/
def composeMembers
    (outerName : String)
    (outer : Member)
    (innerName : String)
    (inner : Member) :
    Except CompositionFault Checker := do
  let outer ← operand .outer outerName outer
  let inner ← operand .inner innerName inner
  return compose outer inner

end Checker

end CallGuard
