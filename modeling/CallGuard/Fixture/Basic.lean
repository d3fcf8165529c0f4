import CallGuard.Document.Declaration
import CallGuard.Failure

namespace CallGuard

/-!
# Fixtures

A fixture is a declaration together with calls and what is expected of them, or
with the claim that the declaration is refused.
-/

/-- What is expected of a call. -/
inductive Expected where
  | passes
  /-- The call fails, by the name of the kind of failure, on an argument, with a message. -/
  | fails (kind : String) (argument : Option String) (pattern : Option String)
  deriving DecidableEq, Repr

/-- A call with what is expected of it. -/
structure FixtureCase where
  call : Json
  expected : Expected

/-- A declaration with expectations. -/
structure Fixture where
  declaration : Declaration
  settings : Option Settings
  /-- Whether the declaration is expected to be refused. -/
  refused : Bool
  cases : List FixtureCase

namespace Expected

/-- The text of a field that may be missing or null, and that is written once. -/
def optionalText?
    (members : List (String × Json))
    (name : String) :
    Option (Option String) :=
  match ParameterDocument.contents members name with
  | [] => some none
  | [.null] => some none
  | [.string text] => some (some text)
  | _ => none

/-- An expected failure, if an object describes one. Other members do not matter. -/
def ofMembers? (members : List (String × Json)) : Option Expected := do
  let kind ←
    match ParameterDocument.contents members "kind" with
    | [.string kind] => some kind
    | _ => none
  let argument ← optionalText? members "argument"
  let pattern ← optionalText? members "message"
  return .fails kind argument pattern

/-- What is expected of a call. -/
def read : Json → Reading Expected
  | .string "ok" => .ok .passes
  | .object [("ok", .null)] => .ok .passes
  | .object members =>
      match ofMembers? members with
      | some expected => .ok expected
      | none => Reading.fail (.noVariant "Expect")
  | _ => Reading.fail (.noVariant "Expect")

end Expected

namespace FixtureCase

/-- A case of which some parts are not read yet. -/
structure Draft where
  call : Option Json
  expected : Option Expected

/-- The form of a case. -/
def form : RecordForm Draft FixtureCase where
  name := "Case"
  fields := [
    {
      name := "call"
      isRead := fun draft => draft.call.isSome
      read := fun json draft => do
        let call ← Reading.anything json
        return { draft with call := some call }
    },
    {
      name := "expect"
      isRead := fun draft => draft.expected.isSome
      read := fun json draft => do
        let expected ← Expected.read json
        return { draft with expected := some expected }
    }
  ]
  finish := fun draft =>
    match draft.call, draft.expected with
    | none, _ => .error "call"
    | some _, none => .error "expect"
    | some call, some expected => .ok ⟨call, expected⟩

/-- Read a case. -/
def read (json : Json) : Reading FixtureCase :=
  form.read ⟨none, none⟩ .text json

end FixtureCase

namespace Fixture

/-- A fixture of which some parts are not read yet. -/
structure Draft where
  declaration : Option Declaration
  settings : Option (Option Settings)
  refused : Option Bool
  cases : Option (List FixtureCase)

/-- The form of a fixture. -/
def form : RecordForm Draft Fixture where
  name := "Fixture"
  fields := [
    {
      name := "declaration"
      isRead := fun draft => draft.declaration.isSome
      read := fun json draft => do
        let declaration ← Declaration.read json
        return { draft with declaration := some declaration }
    },
    {
      name := "settings"
      isRead := fun draft => draft.settings.isSome
      read := fun json draft => do
        let settings ← Reading.optional (Settings.read .text) json
        return { draft with settings := some settings }
    },
    {
      name := "invalid_spec"
      isRead := fun draft => draft.refused.isSome
      read := fun json draft => do
        let refused ← Reading.flag json
        return { draft with refused := some refused }
    },
    {
      name := "calls"
      isRead := fun draft => draft.cases.isSome
      read := fun json draft => do
        let cases ← Reading.sequence FixtureCase.read json
        return { draft with cases := some cases }
    }
  ]
  finish := fun draft =>
    match draft.declaration with
    | none => .error "declaration"
    | some declaration => .ok {
        declaration := declaration
        settings := draft.settings.getD none
        refused := draft.refused.getD false
        cases := draft.cases.getD []
      }

/-- Read a fixture. -/
def read (json : Json) : Reading Fixture :=
  form.read ⟨none, none, none, none⟩ .text json

/-- The fixture that a text holds. -/
def ofText (text : String) : Except DocumentFault Fixture :=
  readRecord read text

end Fixture

end CallGuard
