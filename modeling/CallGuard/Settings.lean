import CallGuard.Checker.Check

namespace CallGuard

/-!
# Settings

What the owner of a set of callables decides once for all of them.
-/

/-- How arguments are bound and failures are shown. -/
structure Settings where
  /-- The names of a first parameter that make a callable a method. -/
  receiverNames : List String
  /-- How many characters of a value its label may show. -/
  labelWidth : Nat
  /-- Whether failed checks are logged. -/
  logFailures : Bool
  deriving DecidableEq, Repr

namespace Settings

/-- The settings that hold where nothing else is said. -/
def standard : Settings where
  receiverNames := ["self", "cls", "mcs", "klass"]
  labelWidth := 40
  logFailures := true

/-- Whether a first parameter of this name is a receiver. -/
def isReceiver
    (settings : Settings)
    (name : String) :
    Bool :=
  settings.receiverNames.contains name

/-- The options that checks run with. -/
def checkOptions (settings : Settings) : CheckOptions where
  labelWidth := settings.labelWidth

end Settings

end CallGuard
