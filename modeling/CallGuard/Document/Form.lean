import CallGuard.Document.Fault

namespace CallGuard

/-!
# Forms of documents

Readers that turn documents into records. A record may be written as an object
of its fields or as an array of them in order. Members of an object are read in
the order in which they are written, and the first fault met is reported, with
the path that leads to it.
-/

/-- The result of reading a part of a document. -/
abbrev Reading (α : Type) :=
  Except FormError α

namespace Reading

/-- A fault at the very place that is being read. -/
def fail (fault : FormFault) : Reading α :=
  .error ⟨[], fault⟩

/-- The result of reading a part, with faults placed inside the whole. -/
def inside
    (segment : Segment)
    (reading : Reading α) :
    Reading α :=
  reading.mapError fun error => { error with path := segment :: error.path }

/-- A text. -/
def text : Json → Reading String
  | .string text => .ok text
  | found => fail (.wrongType found .text)

/-- A truth value. -/
def flag : Json → Reading Bool
  | .bool b => .ok b
  | found => fail (.wrongType found .flag)

/-- A natural number. -/
def natural : Json → Reading Nat
  | .integer n =>
      if 0 ≤ n then .ok n.toNat else fail (.wrongValue (.integer n) .natural)
  | found => fail (.wrongType found .natural)

/-- Any document, with repeated members settled. -/
def anything (json : Json) : Reading Json :=
  .ok json.distinct

/-- Either nothing or what another reader accepts. -/
def optional
    (reader : Json → Reading α) :
    Json →
    Reading (Option α)
  | .null => .ok none
  | json => (reader json).map some

/-- Items one after another, with their places counted from `index` on. -/
def items
    (reader : Json → Reading α)
    (index : Nat) :
    List Json →
    Reading (List α)
  | [] => .ok []
  | json :: rest => do
      let item ← inside (.item index) (reader json)
      let more ← items reader (index + 1) rest
      return item :: more

/-- An array of items. -/
def sequence
    (reader : Json → Reading α) :
    Json →
    Reading (List α)
  | .array contents => items reader 0 contents
  | found => fail (.wrongType found .sequence)

/-- Members one after another. -/
def members
    (reader : Json → Reading α) :
    List (String × Json) →
    Reading (List (String × α))
  | [] => .ok []
  | (name, json) :: rest => do
      let content ← inside (.member name) (reader json)
      let more ← members reader rest
      return (name, content) :: more

/-- An object of any members; of a repeated member the last content counts. -/
def table
    (reader : Json → Reading α) :
    Json →
    Reading (Table α)
  | .object contents => (members reader contents).map Table.ofEntries
  | found => fail (.wrongType found .table)

end Reading

/-- Whether a document is read off a text or is at hand as a tree. -/
inductive DocumentSource where
  | text
  | tree
  deriving DecidableEq, Repr

/-- A field of a record under construction. -/
structure Field (Draft : Type) where
  name : String
  /-- Whether the field has been read already. -/
  isRead : Draft → Bool
  /-- Read the field. -/
  read : Json → Draft → Reading Draft

/-- The form of a record: its fields in order, and how they make up the record. -/
structure RecordForm (Draft Record : Type) where
  name : String
  fields : List (Field Draft)
  /-- The record, or the name of the first field that is missing. -/
  finish : Draft → Except String Record

namespace RecordForm

variable {Draft Record : Type}

/-- The names of the fields, in order. -/
def fieldNames (form : RecordForm Draft Record) : List String :=
  form.fields.map Field.name

/-- Read one member of an object into the draft. -/
def readMember
    (form : RecordForm Draft Record)
    (draft : Draft)
    (member : String × Json) :
    Reading Draft :=
  match form.fields.find? (·.name == member.1) with
  | none =>
      Reading.inside (.member member.1)
        (Reading.fail (.unknownField member.1 form.fieldNames))
  | some field =>
      if field.isRead draft then
        Reading.fail (.duplicateField member.1)
      else
        Reading.inside (.member member.1) (field.read member.2 draft)

/-- Read the items of an array into the fields at their places. -/
def readItems
    (draft : Draft)
    (index : Nat) :
    List (Field Draft) →
    List Json →
    Reading Draft
  | field :: fields, json :: rest => do
      let draft ← Reading.inside (.item index) (field.read json draft)
      readItems draft (index + 1) fields rest
  | _, _ => .ok draft

/-- The record of a finished array form. -/
def finishItems
    (form : RecordForm Draft Record)
    (source : DocumentSource)
    (count : Nat)
    (draft : Draft) :
    Reading Record :=
  match form.finish draft with
  | .error name =>
      Reading.fail
        (.tooFewItems (form.fieldNames.idxOf name) form.name form.fields.length)
  | .ok record =>
      if count ≤ form.fields.length then
        .ok record
      else
        match source with
        | .text => Reading.fail .trailingItems
        | .tree => Reading.fail (.tooManyItems count)

/-- Read a record in either of its two forms, starting from an empty draft. -/
def read
    (form : RecordForm Draft Record)
    (empty : Draft)
    (source : DocumentSource) :
    Json →
    Reading Record
  | .object members => do
      let draft ← members.foldlM form.readMember empty
      match form.finish draft with
      | .ok record => return record
      | .error name => Reading.fail (.missingField name)
  | .array contents => do
      let draft ← readItems empty 0 form.fields contents
      form.finishItems source contents.length draft
  | found => Reading.fail (.wrongType found (.record form.name))

end RecordForm

end CallGuard
