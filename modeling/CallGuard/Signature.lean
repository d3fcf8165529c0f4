import CallGuard.Settings

namespace CallGuard

/-!
# Signatures

The parameters of a callable, and what follows from their kinds and order.
-/

/-- What a callable is called in messages. -/
inductive CallableKind where
  | function
  | method
  deriving DecidableEq, Repr

/-- The name of a kind of callable. -/
def CallableKind.name : CallableKind → String
  | .function => "function"
  | .method => "method"

/-- How a parameter takes its argument. -/
inductive ParameterKind where
  /-- By position or by name. -/
  | positional
  | keywordOnly
  /-- All surplus positional arguments. -/
  | surplusPositional
  /-- All surplus named arguments. -/
  | surplusNamed
  deriving DecidableEq, Repr

/-- A parameter of a callable. -/
structure Parameter where
  kind : ParameterKind
  name : String
  default : Option Value

/-- Whether a parameter takes one argument of its own. -/
def Parameter.isDeclared (parameter : Parameter) : Bool :=
  parameter.kind == .positional || parameter.kind == .keywordOnly

/-- A callable as its callers see it. -/
structure Signature where
  name : String
  module : String
  parameters : List Parameter

namespace Signature

/-- The module of callables for which none is given. -/
def defaultModule : String :=
  "__main__"

/-- The names of the parameters that take one argument of their own, in order. -/
def declaredNames (signature : Signature) : List String :=
  (signature.parameters.filter Parameter.isDeclared).map Parameter.name

/-- The names of the parameters that take arguments by position, in order. -/
def positionalNames (signature : Signature) : List String :=
  (signature.parameters.filter (·.kind == .positional)).map Parameter.name

/-- The name of the first parameter of a kind. -/
def nameOf?
    (signature : Signature)
    (kind : ParameterKind) :
    Option String :=
  (signature.parameters.find? (·.kind == kind)).map Parameter.name

/-- The name of the parameter that takes surplus positional arguments. -/
def surplusPositionalName? (signature : Signature) : Option String :=
  signature.nameOf? .surplusPositional

/-- The name of the parameter that takes surplus named arguments. -/
def surplusNamedName? (signature : Signature) : Option String :=
  signature.nameOf? .surplusNamed

/-- A callable is a method if its first declared parameter is a receiver. -/
def kind
    (signature : Signature)
    (settings : Settings) :
    CallableKind :=
  match signature.declaredNames with
  | first :: _ => if settings.isReceiver first then .method else .function
  | [] => .function

/-- How many positions the receiver takes. -/
def receiverOffset
    (signature : Signature)
    (settings : Settings) :
    Nat :=
  match signature.kind settings with
  | .method => 1
  | .function => 0

end Signature

end CallGuard
