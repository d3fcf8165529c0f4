import CallGuard.Document.Form
import CallGuard.Settings

namespace CallGuard

/-!
# Documents of settings

A document of settings says only what departs from the standard.
-/

namespace Settings

/-- Settings of which some are not said yet. -/
structure Draft where
  receiverNames : Option (List String)
  labelWidth : Option Nat
  logFailures : Option Bool

/-- The form of settings. -/
def form : RecordForm Draft Settings where
  name := "Settings"
  fields := [
    {
      name := "receiver_names"
      isRead := fun draft => draft.receiverNames.isSome
      read := fun json draft => do
        let names ← Reading.sequence Reading.text json
        return { draft with receiverNames := some names }
    },
    {
      name := "label_width"
      isRead := fun draft => draft.labelWidth.isSome
      read := fun json draft => do
        let width ← Reading.natural json
        return { draft with labelWidth := some width }
    },
    {
      name := "log_failures"
      isRead := fun draft => draft.logFailures.isSome
      read := fun json draft => do
        let flag ← Reading.flag json
        return { draft with logFailures := some flag }
    }
  ]
  finish := fun draft => .ok {
    receiverNames := draft.receiverNames.getD standard.receiverNames
    labelWidth := draft.labelWidth.getD standard.labelWidth
    logFailures := draft.logFailures.getD standard.logFailures
  }

/-- Read settings. -/
def read
    (source : DocumentSource)
    (json : Json) :
    Reading Settings :=
  form.read ⟨none, none, none⟩ source json

end Settings

end CallGuard
