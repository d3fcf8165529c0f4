import CallGuard.Table
import CallGuard.Value.Rendering

namespace CallGuard

/-!
# Specs

A spec is the shape in which a constraint on an argument is declared. Not every
shape has a meaning; which ones do is decided when a spec is compiled.
-/

/-- A declared shape. -/
inductive Spec where
  /-- The skip marker. -/
  | skip
  | type (tag : TypeTag)
  | value (value : Value)
  | tuple (entries : List Spec)
  | list (members : List Spec)
  | set (members : List Spec)
  | map (entries : List (Spec × Spec))
  deriving Inhabited

namespace Spec

/-- Whether a spec is the skip marker. -/
def isSkip : Spec → Bool
  | .skip => true
  | _ => false

/-- Whether a spec is a single type or a single bound. -/
def isConcrete : Spec → Bool
  | .type _ => true
  | .value _ => true
  | _ => false

/-- Whether a spec is made of others. -/
def isCollection : Spec → Bool
  | .tuple _ => true
  | .list _ => true
  | .set _ => true
  | .map _ => true
  | _ => false

mutual

/-- The text of a spec. -/
def text : Spec → String
  | .skip => "..."
  | .type tag => tag.name
  | .value content => content.text
  | .tuple entries => parenthesized (texts entries)
  | .list members => bracketed (texts members)
  | .set members => braced (texts members)
  | .map entries => braced (entryTexts entries)
termination_by structural spec => spec

/-- The texts of several specs. -/
def texts : List Spec → List String
  | [] => []
  | spec :: rest => spec.text :: texts rest
termination_by structural specs => specs

/-- The texts of the entries of a map spec. -/
def entryTexts : List (Spec × Spec) → List String
  | [] => []
  | entry :: rest => entryText entry :: entryTexts rest
termination_by structural entries => entries

/-- The text of one entry of a map spec. -/
def entryText : Spec × Spec → String
  | (key, content) => key.text ++ ": " ++ content.text
termination_by structural entry => entry

end

end Spec

/-- The two families of constraints: instances of types, and values in intervals. -/
inductive Family where
  | typed
  | bounded
  deriving DecidableEq, Repr

namespace Family

/-- The name that declarations select a family by. -/
def name : Family → String
  | .typed => "typed"
  | .bounded => "bounded"

/-- What a family declares. -/
def noun : Family → String
  | .typed => "type"
  | .bounded => "bounds"

/-- The family of a given name. -/
def ofName? (name : String) : Option Family :=
  [typed, bounded].find? fun family => family.name == name

end Family

/-- Where a spec was declared. -/
inductive SpecPlace where
  | position (index : Nat)
  | named (name : String)
  /-- Outside any declaration, by the named constructor of the catalogue. -/
  | constructor (name : String)
  deriving DecidableEq, Repr

/-- The text of a place. -/
def SpecPlace.text : SpecPlace → String
  | .position index => s!"positional spec #{index}"
  | .named name => s!"`{name}`"
  | .constructor name => name

/-- The specs of a declaration: some in order, some by name. -/
structure SpecTable where
  positional : List Spec
  named : Table Spec

end CallGuard
