import CallGuard.Binder
import CallGuard.Document.Form
import CallGuard.Document.Settings
import CallGuard.Json.Reader

namespace CallGuard

/-!
# Documents of declarations

A declaration names a family, describes a callable and lists the specs of its
arguments, by position and by name.
-/

namespace Family

/-- The names of the families. -/
def names : List String :=
  [typed.name, bounded.name]

/-- The family of a written name. -/
def readName (name : String) : Reading Family :=
  match ofName? name with
  | some family => .ok family
  | none => Reading.fail (.unknownVariant name names)

/-- A family, by its name or as an object whose only member has that name and no content. -/
def read : Json → Reading Family
  | .string name => readName name
  | .object ((name, content) :: rest) => do
      let family ← readName name
      match content with
      | .null => .ok ()
      | found => Reading.inside (.member name) (Reading.fail (.wrongType found .nothing))
      if rest.isEmpty then
        return family
      else
        Reading.fail .notAVariant
  | _ => Reading.fail .notAVariant

end Family

namespace ParameterKind

/-- The kind of parameter of a written name. -/
def ofName? (name : String) : Option ParameterKind :=
  match name with
  | "positional" => some .positional
  | "keyword_only" => some .keywordOnly
  | "var_args" => some .surplusPositional
  | "var_kwargs" => some .surplusNamed
  | _ => none

/-- A kind of parameter, by its name or as an object whose only member has that name. -/
def ofJson? : Json → Option ParameterKind
  | .string name => ofName? name
  | .object [(name, .null)] => ofName? name
  | _ => none

end ParameterKind

/-- A parameter as a declaration writes it. -/
inductive ParameterDocument where
  /-- By its name, with stars in front if it takes surplus arguments. -/
  | short (name : String)
  | long (name : String) (kind : Option ParameterKind) (default : Option Json)

namespace ParameterDocument

/-- All contents that are written under a name. -/
def contents
    (members : List (String × Json))
    (name : String) :
    List Json :=
  (members.filter (·.1 == name)).map (·.2)

/-- The content of a field that may be missing or null, and that is written once. -/
def optionalContent?
    (members : List (String × Json))
    (name : String) :
    Option (Option Json) :=
  match contents members name with
  | [] => some none
  | [.null] => some none
  | [content] => some (some content)
  | _ => none

/-- The long form of a parameter, if an object has it. Other members do not matter. -/
def ofMembers? (members : List (String × Json)) : Option ParameterDocument := do
  let name ←
    match contents members "name" with
    | [.string name] => some name
    | _ => none
  let kind ← optionalContent? members "kind"
  let kind ←
    match kind with
    | none => some none
    | some json => (ParameterKind.ofJson? json).map some
  let default ← optionalContent? members "default"
  return .long name kind (default.map Json.distinct)

/-- A parameter in either of its forms. -/
def read : Json → Reading ParameterDocument
  | .string name => .ok (.short name)
  | .object members =>
      match ofMembers? members with
      | some document => .ok document
      | none => Reading.fail (.noVariant "ParamDoc")
  | _ => Reading.fail (.noVariant "ParamDoc")

/-- The parameter that a short form stands for: two stars, one star or none. -/
def ofShort (name : String) : Parameter :=
  match name.toList with
  | '*' :: '*' :: rest => ⟨.surplusNamed, String.ofList rest, none⟩
  | '*' :: rest => ⟨.surplusPositional, String.ofList rest, none⟩
  | _ => ⟨.positional, name, none⟩

/-- The parameter that a document describes. -/
def toParameter : ParameterDocument → Except ValueFault Parameter
  | .short name => .ok (ofShort name)
  | .long name kind default => do
      let default ←
        match default with
        | none => pure none
        | some json => (Value.ofJson json).map some
      return ⟨kind.getD .positional, name, default⟩

end ParameterDocument

/-- A callable as a declaration describes it. -/
structure SignatureDocument where
  name : String
  module : Option String
  parameters : List ParameterDocument

namespace SignatureDocument

/-- A description of which some parts are not read yet. -/
structure Draft where
  name : Option String
  module : Option (Option String)
  parameters : Option (List ParameterDocument)

/-- The form of the description of a callable. -/
def form : RecordForm Draft SignatureDocument where
  name := "SignatureDoc"
  fields := [
    {
      name := "name"
      isRead := fun draft => draft.name.isSome
      read := fun json draft => do
        let name ← Reading.text json
        return { draft with name := some name }
    },
    {
      name := "module"
      isRead := fun draft => draft.module.isSome
      read := fun json draft => do
        let module ← Reading.optional Reading.text json
        return { draft with module := some module }
    },
    {
      name := "params"
      isRead := fun draft => draft.parameters.isSome
      read := fun json draft => do
        let parameters ← Reading.sequence ParameterDocument.read json
        return { draft with parameters := some parameters }
    }
  ]
  finish := fun draft =>
    match draft.name with
    | none => .error "name"
    | some name => .ok {
        name := name
        module := draft.module.getD none
        parameters := draft.parameters.getD []
      }

/-- Read the description of a callable. -/
def read (json : Json) : Reading SignatureDocument :=
  form.read ⟨none, none, none⟩ .text json

/-- The signature that a description stands for. -/
def toSignature (document : SignatureDocument) : Except ValueFault Signature := do
  let parameters ← document.parameters.mapM ParameterDocument.toParameter
  return {
    name := document.name
    module := document.module.getD Signature.defaultModule
    parameters := parameters
  }

end SignatureDocument

/-- A declaration as it is written. -/
structure Declaration where
  family : Family
  signature : SignatureDocument
  positional : List Json
  named : Table Json

namespace Declaration

/-- A declaration of which some parts are not read yet. -/
structure Draft where
  family : Option Family
  signature : Option SignatureDocument
  positional : Option (List Json)
  named : Option (Table Json)

/-- The form of a declaration. -/
def form : RecordForm Draft Declaration where
  name := "Declaration"
  fields := [
    {
      name := "family"
      isRead := fun draft => draft.family.isSome
      read := fun json draft => do
        let family ← Family.read json
        return { draft with family := some family }
    },
    {
      name := "signature"
      isRead := fun draft => draft.signature.isSome
      read := fun json draft => do
        let signature ← SignatureDocument.read json
        return { draft with signature := some signature }
    },
    {
      name := "positional"
      isRead := fun draft => draft.positional.isSome
      read := fun json draft => do
        let positional ← Reading.sequence Reading.anything json
        return { draft with positional := some positional }
    },
    {
      name := "named"
      isRead := fun draft => draft.named.isSome
      read := fun json draft => do
        let named ← Reading.table Reading.anything json
        return { draft with named := some named }
    }
  ]
  finish := fun draft =>
    match draft.family, draft.signature with
    | none, _ => .error "family"
    | some _, none => .error "signature"
    | some family, some signature => .ok {
        family := family
        signature := signature
        positional := draft.positional.getD []
        named := draft.named.getD []
      }

/-- Read a declaration. -/
def read (json : Json) : Reading Declaration :=
  form.read ⟨none, none, none, none⟩ .text json

/-- The specs of named documents. -/
def namedSpecs
    (family : Family) :
    List (String × Json) →
    Except SpecReadingFault (List (String × Spec))
  | [] => .ok []
  | (name, json) :: rest => do
      let spec ← Spec.ofJson family json
      let specs ← namedSpecs family rest
      return (name, spec) :: specs

/-- The specs of a declaration. -/
def table (declaration : Declaration) : Except SpecReadingFault SpecTable := do
  let positional ← Spec.ofItems declaration.family declaration.positional
  let named ← namedSpecs declaration.family declaration.named
  return ⟨positional, named⟩

/-- Why a declaration has no binder. -/
inductive Fault where
  | document (fault : DocumentFault)
  | spec (invalid : InvalidSpec)

/-- The wording of a fault. -/
def Fault.message : Fault → String
  | .document fault => fault.message
  | .spec invalid => invalid.message

/-- The signature of the callable that a declaration is for. -/
def toSignature (declaration : Declaration) : Except DocumentFault Signature :=
  declaration.signature.toSignature.mapError .value

/-- The binder of a declaration. -/
def binder
    (declaration : Declaration)
    (settings : Settings) :
    Except Fault Binder := do
  let signature ← declaration.toSignature.mapError .document
  let table ← declaration.table.mapError fun fault => .document (.spec fault)
  (Binder.build declaration.family table signature settings).mapError .spec

end Declaration

/-- Read a record off the front of a text; what follows the first document is ignored. -/
def readRecord
    (read : Json → Reading Record)
    (text : String) :
    Except DocumentFault Record :=
  match Json.readLeading? text with
  | none => .error .syntaxError
  | some json => (read json).mapError .form

/-- The settings that a text holds. -/
def Settings.ofText (text : String) : Except DocumentFault Settings :=
  readRecord (Settings.read .text) text

/-- The declaration that a text holds. -/
def Declaration.ofText (text : String) : Except DocumentFault Declaration :=
  readRecord Declaration.read text

end CallGuard
