import CallGuard.Binder
import CallGuard.Document.Form

namespace CallGuard

/-!
# Documents of calls

A call document lists positional arguments and names the others.
-/

/-- The parts of a call document. -/
structure CallDocument where
  positional : List Json
  named : Table Json

namespace CallDocument

/-- A call document of which some parts are not read yet. -/
structure Draft where
  positional : Option (List Json)
  named : Option (Table Json)

/-- The form of a call document. -/
def form : RecordForm Draft CallDocument where
  name := "CallDoc"
  fields := [
    {
      name := "args"
      isRead := fun draft => draft.positional.isSome
      read := fun json draft => do
        let positional ← Reading.sequence Reading.anything json
        return { draft with positional := some positional }
    },
    {
      name := "kwargs"
      isRead := fun draft => draft.named.isSome
      read := fun json draft => do
        let named ← Reading.table Reading.anything json
        return { draft with named := some named }
    }
  ]
  finish := fun draft => .ok {
    positional := draft.positional.getD []
    named := draft.named.getD []
  }

/-- Read a call document. -/
def read (json : Json) : Reading CallDocument :=
  form.read ⟨none, none⟩ .tree json.distinct

end CallDocument

namespace CallArguments

/-- The arguments that a document holds. -/
def ofJson (json : Json) : Except DocumentFault CallArguments := do
  let document ← (CallDocument.read json).mapError .form
  let positional ← (Value.ofItems document.positional).mapError .value
  let named ← (Value.ofMemberList document.named).mapError .value
  return ⟨positional, named⟩

end CallArguments

end CallGuard
