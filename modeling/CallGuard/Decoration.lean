import CallGuard.Binder

namespace CallGuard

/-!
# Decorated callables

A decoration adds a layer of checks around a callable. Layers are independent of
each other: every one binds the arguments by itself, and a layer that is added
later runs earlier.
-/

/-- A declaration waiting for a callable. -/
structure Decoration where
  family : Family
  table : SpecTable
  settings : Settings

/-- The binder of a decoration for a callable. -/
def Decoration.binder
    (decoration : Decoration)
    (signature : Signature) :
    Except InvalidSpec Binder :=
  Binder.build decoration.family decoration.table signature decoration.settings

/-- A callable behind layers of checks, the outermost first. -/
structure Decorated (α : Type) where
  signature : Signature
  layers : List Binder
  callable : CallArguments → α

namespace Decorated

/-- A callable behind its first layer. -/
def wrap
    (decoration : Decoration)
    (signature : Signature)
    (callable : CallArguments → α) :
    Except InvalidSpec (Decorated α) :=
  (decoration.binder signature).map fun binder => ⟨signature, [binder], callable⟩

/-- A callable behind one more layer, outside the others. -/
def stack
    (decoration : Decoration)
    (decorated : Decorated α) :
    Except InvalidSpec (Decorated α) :=
  (decoration.binder decorated.signature).map fun binder =>
    { decorated with layers := binder :: decorated.layers }

/-- A callable behind a layer for each decoration, the first one innermost. -/
def stackAll
    (decorations : List Decoration)
    (decorated : Decorated α) :
    Except InvalidSpec (Decorated α) :=
  match decorations with
  | [] => .ok decorated
  | decoration :: rest =>
      match decorated.stack decoration with
      | .error invalid => .error invalid
      | .ok outer => outer.stackAll rest

/-- A decorated callable as diagnostics show it. -/
def diagnostic (decorated : Decorated α) : String :=
  let name := Quoted.diagnostic decorated.signature.name
  "Checked " ++ "\x7b " ++ s!"callable: {name}, layers: {decorated.layers.length}" ++ " \x7d"

/-- Check a call against the given layers, one after another. -/
def validateLayers
    (call : CallArguments) :
    List Binder →
    Except ArgumentFailure Unit
  | [] => .ok ()
  | layer :: rest =>
      match layer.enforce call with
      | .error failure => .error failure
      | .ok () => validateLayers call rest

/-- Check a call against every layer, the outermost first. -/
def validate
    (decorated : Decorated α)
    (call : CallArguments) :
    Except ArgumentFailure Unit :=
  validateLayers call decorated.layers

/-- Check a call and, if it passes, hand the same arguments to the callable. -/
def call
    (decorated : Decorated α)
    (arguments : CallArguments) :
    Except ArgumentFailure α :=
  match decorated.validate arguments with
  | .error failure => .error failure
  | .ok () => .ok (decorated.callable arguments)

end Decorated

end CallGuard
