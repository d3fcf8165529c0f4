namespace CallGuard

/-!
# Tables

A table pairs names with contents and keeps the order in which the names were
first entered. A name entered again keeps its place and takes the new content.
-/

/-- Names with their contents, in the order of first entry. -/
abbrev Table (α : Type u) :=
  List (String × α)

namespace Table

/-- The names, in order. -/
def names (table : Table α) : List String :=
  table.map (·.1)

/-- The content under a name. -/
def get?
    (table : Table α)
    (name : String) :
    Option α :=
  match table with
  | [] => none
  | (other, content) :: rest =>
      if other = name then some content else get? rest name

/-- Whether a name has been entered. -/
def has
    (table : Table α)
    (name : String) :
    Bool :=
  (table.get? name).isSome

/-- Enter a content under a name, replacing what is there. -/
def enter
    (table : Table α)
    (name : String)
    (content : α) :
    Table α :=
  match table with
  | [] => [(name, content)]
  | (other, old) :: rest =>
      if other = name then
        (other, content) :: rest
      else
        (other, old) :: enter rest name content

/-- Enter a content under a name, unless the name is taken. -/
def enterNew
    (table : Table α)
    (name : String)
    (content : α) :
    Table α :=
  if table.has name then table else table ++ [(name, content)]

/-- The table of the given entries, entered one after another. -/
def ofEntries (entries : List (String × α)) : Table α :=
  entries.foldl (fun table entry => table.enter entry.1 entry.2) []

end Table

end CallGuard
