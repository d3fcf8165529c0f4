import CallGuard.Value.Compare

namespace CallGuard

/-!
# Sets and maps

Sets and maps are built by entering one item after another. A number that equals
one already there falls onto it, whatever their kinds; other items fall onto the
one that is stored as the same.
-/

/--
Enter a content under a key into entries in ascending order of their keys. A key
that is there already stays and takes the new content.
-/
def insertSorted
    (order : κ → κ → Ordering)
    (key : κ)
    (content : α) :
    List (κ × α) →
    List (κ × α)
  | [] => [(key, content)]
  | (other, old) :: rest =>
      match order key other with
      | .lt => (key, content) :: (other, old) :: rest
      | .eq => (other, content) :: rest
      | .gt => (other, old) :: insertSorted order key content rest

namespace Value

/-- Enter a member into members in ascending order, unless it is there. -/
def insertMember (value : Value) : List Value → List Value
  | [] => [value]
  | other :: rest =>
      match value.order other with
      | .lt => value :: other :: rest
      | .eq => other :: rest
      | .gt => other :: insertMember value rest

/-- The first of the given values that is the same number as another value. -/
def twin?
    (seen : List Value)
    (value : Value) :
    Option Value :=
  if value.isNumber then
    seen.find? (·.looseEq value)
  else
    none

/-- Enter a member into a set. -/
def addMember
    (members : List Value)
    (value : Value) :
    List Value :=
  match twin? members value with
  | some _ => members
  | none => insertMember value members

/-- The set of the given values. -/
def ofMembers (values : List Value) : Value :=
  .set (values.foldl addMember [])

/-- Enter an entry into a map. -/
def addEntry
    (entries : List (Value × Value))
    (entry : Value × Value) :
    List (Value × Value) :=
  let key := (twin? (entries.map (·.1)) entry.1).getD entry.1
  insertSorted order key entry.2 entries

/-- The map of the given entries; of contents under one key the last counts. -/
def ofEntries (entries : List (Value × Value)) : Value :=
  .map (entries.foldl addEntry [])

/-- The map from names to values. -/
def ofNamed (entries : List (String × Value)) : Value :=
  ofEntries (entries.map fun entry => (.str entry.1, entry.2))

/-- The attributes of an object; of contents under one name the last counts. -/
def ofAttributes (attributes : List (String × Value)) : List (String × Value) :=
  attributes.foldl (fun entered pair => insertSorted compare pair.1 pair.2 entered) []

end Value

end CallGuard
