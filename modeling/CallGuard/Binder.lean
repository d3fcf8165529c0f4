import CallGuard.Signature
import CallGuard.Spec.Compile
import CallGuard.Value.Collection

namespace CallGuard

/-!
# Binding

A binder holds the checkers of one declaration under the names of the parameters
they are for. For a call it finds out which argument goes by which name and runs
the checkers in that order up to the first failure.
-/

/-- The arguments of a call. A method receives its receiver at the first position. -/
structure CallArguments where
  positional : List Value
  named : Table Value

/-- A call refused because of one of its arguments. -/
structure ArgumentFailure where
  kind : CallableKind
  callable : String
  module : String
  argument : String
  cause : Failure

/-- The wording of a refused call. -/
def ArgumentFailure.message (failure : ArgumentFailure) : String :=
  s!"{failure.kind.name} `{failure.callable}` defined in module `{failure.module}`: "
    ++ s!"argument `{failure.argument}` failed validation: {failure.cause.message}"

/-- A spec together with where it was declared. -/
structure PlacedSpec where
  place : SpecPlace
  spec : Spec

namespace SpecTable

/-- The named specs with their places, in order. -/
def placedNamed (table : SpecTable) : Table PlacedSpec :=
  table.named.map fun entry => (entry.1, ⟨.named entry.1, entry.2⟩)

/-- The positional specs under the names that they fall to, with their places. -/
def placedPositional
    (table : SpecTable)
    (signature : Signature)
    (settings : Settings) :
    List (String × PlacedSpec) :=
  let names := signature.declaredNames.drop (signature.receiverOffset settings)
  names.zip (table.positional.zipIdx.map fun entry => ⟨.position entry.2, entry.1⟩)

/--
The specs of a declaration by name: the named ones first, and then the positional
ones on the declared parameters after the receiver, as far as no spec is there.
-/
def merged
    (table : SpecTable)
    (signature : Signature)
    (settings : Settings) :
    Table PlacedSpec :=
  (table.placedPositional signature settings).foldl
    (fun merged entry => Table.enterNew merged entry.1 entry.2)
    table.placedNamed

end SpecTable

/-- The checkers of specs under the same names, or the first refusal. -/
def compileEntries
    (family : Family) :
    List (String × PlacedSpec) →
    Except InvalidSpec (List (String × Checker))
  | [] => .ok []
  | (name, placed) :: rest => do
      let checker ← placed.spec.compile family placed.place
      let checkers ← compileEntries family rest
      return (name, checker) :: checkers

/-- The checkers of a declaration, and what is needed to bind the arguments of a call. -/
structure Binder where
  kind : CallableKind
  callable : String
  module : String
  positionalNames : List String
  declaredNames : List String
  receiverOffset : Nat
  surplusPositional : Option String
  surplusNamed : Option String
  checkers : Table Checker
  options : CheckOptions

namespace Binder

/-- The binder of a declaration for a callable, or the first refused spec. -/
def build
    (family : Family)
    (table : SpecTable)
    (signature : Signature)
    (settings : Settings) :
    Except InvalidSpec Binder := do
  let checkers ← compileEntries family (table.merged signature settings)
  return {
    kind := signature.kind settings
    callable := signature.name
    module := signature.module
    positionalNames := signature.positionalNames
    declaredNames := signature.declaredNames
    receiverOffset := signature.receiverOffset settings
    surplusPositional := signature.surplusPositionalName?
    surplusNamed := signature.surplusNamedName?
    checkers := checkers
    options := settings.checkOptions
  }

/-- How many positional arguments after the receiver have a parameter of their own. -/
def bindableCount (binder : Binder) : Nat :=
  binder.positionalNames.length - binder.receiverOffset

/-- The positional arguments that have a parameter of their own, with their positions. -/
def bindable
    (binder : Binder)
    (call : CallArguments) :
    List (Value × Nat) :=
  (call.positional.zipIdx.drop binder.receiverOffset).take binder.bindableCount

/-- Bind positional arguments to the parameters at their positions. -/
def bindPositional
    (binder : Binder)
    (bound : Table Value)
    (arguments : List (Value × Nat)) :
    Table Value :=
  arguments.foldl
    (fun bound (argument : Value × Nat) =>
      match binder.positionalNames[argument.2]? with
      | some name => Table.enterNew bound name argument.1
      | none => bound)
    bound

/-- The positional arguments that have no parameter of their own. -/
def surplusArguments
    (binder : Binder)
    (call : CallArguments) :
    List Value :=
  call.positional.drop (max binder.positionalNames.length binder.receiverOffset)

/-- The named arguments that have no parameter of their own. -/
def undeclaredArguments
    (binder : Binder)
    (call : CallArguments) :
    List (String × Value) :=
  call.named.filter fun argument => !binder.declaredNames.contains argument.1

/-- The name of a surplus parameter, if a checker is there for it. -/
def checkedName?
    (binder : Binder)
    (name : Option String) :
    Option String :=
  name.filter fun name => Table.has binder.checkers name

/-- Bind what a surplus parameter takes, if it is checked. -/
def bindSurplus
    (binder : Binder)
    (name : Option String)
    (value : Value)
    (bound : Table Value) :
    Table Value :=
  match binder.checkedName? name with
  | some name => Table.enterNew bound name value
  | none => bound

/--
The arguments of a call by name: named arguments first, then the positional ones
after the receiver that have a parameter of their own. Surplus arguments appear,
as a tuple and as a map, where a checker waits for them. An argument never
replaces one that goes by its name already.
-/
def bind
    (binder : Binder)
    (call : CallArguments) :
    Table Value :=
  let positional := binder.bindPositional call.named (binder.bindable call)
  let withTuple :=
    binder.bindSurplus binder.surplusPositional
      (.tuple (binder.surplusArguments call)) positional
  binder.bindSurplus binder.surplusNamed
    (Value.ofNamed (binder.undeclaredArguments call)) withTuple

/-- The failure of one argument as a refused call. -/
def refuse
    (binder : Binder)
    (argument : String)
    (cause : Failure) :
    ArgumentFailure where
  kind := binder.kind
  callable := binder.callable
  module := binder.module
  argument := argument
  cause := cause

/-- Run the checkers of bound arguments up to the first failure. -/
def enforceBound (binder : Binder) :
    List (String × Value) →
    Except ArgumentFailure Unit
  | [] => .ok ()
  | (name, value) :: rest =>
      match Table.get? binder.checkers name with
      | none => binder.enforceBound rest
      | some checker =>
          match checker.run binder.options (some name) value with
          | .error cause => .error (binder.refuse name cause)
          | .ok () => binder.enforceBound rest

/-- Check the arguments of a call. -/
def enforce
    (binder : Binder)
    (call : CallArguments) :
    Except ArgumentFailure Unit :=
  binder.enforceBound (binder.bind call)

end Binder

end CallGuard
