import CallGuard.Value.Collection
import Mathlib.Data.List.Nodup
import Mathlib.Data.List.Perm.Basic

namespace CallGuard

/-!
# Maps from names to values

Entering contents under different keys gives the same entries in any order.  So the
map from names to values does not depend on the order of the names.
-/

section insertSorted

variable {order : κ → κ → Ordering} [Std.TransCmp order]

/-- A smaller key and a larger one can be entered in either order. -/
theorem insertSorted_comm_of_lt
    {smaller larger : κ}
    (lt : order smaller larger = .lt)
    (content other : α)
    (entries : List (κ × α)) :
    insertSorted order smaller content (insertSorted order larger other entries) =
      insertSorted order larger other (insertSorted order smaller content entries) := by
  have gt : order larger smaller = .gt := Std.OrientedCmp.gt_of_lt lt
  induction entries with
  | nil =>
      simp only [insertSorted, lt, gt]
  | cons entry rest inductionHypothesis =>
      -- Where the larger key stops, the smaller one has stopped already.
      cases largerPlace : order larger entry.1 with
      | lt =>
          have smallerPlace : order smaller entry.1 = .lt :=
            Std.TransCmp.lt_trans lt largerPlace
          simp only [insertSorted, lt, gt, largerPlace, smallerPlace]
      | eq =>
          have smallerPlace : order smaller entry.1 = .lt :=
            Std.TransCmp.lt_of_lt_of_eq lt largerPlace
          simp only [insertSorted, gt, largerPlace, smallerPlace]
      | gt =>
          cases smallerPlace : order smaller entry.1 with
          | lt =>
              simp only [insertSorted, gt, largerPlace, smallerPlace]
          | eq =>
              simp only [insertSorted, largerPlace, smallerPlace]
          | gt =>
              simp only [insertSorted, largerPlace, smallerPlace, inductionHypothesis]

theorem insertSorted_comm
    {first second : κ}
    (apart : order first second ≠ .eq)
    (content other : α)
    (entries : List (κ × α)) :
    insertSorted order first content (insertSorted order second other entries) =
      insertSorted order second other (insertSorted order first content entries) := by
  cases compared : order first second with
  | lt =>
      exact insertSorted_comm_of_lt compared content other entries
  | eq =>
      exact (apart compared).elim
  | gt =>
      have reversed : order second first = .lt := Std.OrientedCmp.lt_of_gt compared
      exact (insertSorted_comm_of_lt reversed other content entries).symm

end insertSorted

namespace Value

/-- An entry of a map whose key is a name. -/
def namedEntry (entry : String × Value) : Value × Value :=
  (.str entry.1, entry.2)

/-- Names are ordered among keys as they are ordered among themselves. -/
theorem insertSorted_namedEntry
    (name : String)
    (content : Value)
    (entries : List (String × Value)) :
    insertSorted order (.str name) content (entries.map namedEntry) =
      (insertSorted compare name content entries).map namedEntry := by
  induction entries with
  | nil =>
      rfl
  | cons entry rest inductionHypothesis =>
      have sameOrder : order (.str name) (namedEntry entry).1 = compare name entry.1 := rfl
      simp only [List.map_cons, insertSorted, sameOrder]
      cases compare name entry.1 with
      | lt =>
          rfl
      | eq =>
          rfl
      | gt =>
          rw [List.map_cons, inductionHypothesis]

/-- The map from names to values is kept in the order of the names. -/
theorem ofNamed_eq (entries : List (String × Value)) :
    ofNamed entries = .map ((ofAttributes entries).map namedEntry) := by
  have entered (before : List (String × Value)) :
      (entries.map namedEntry).foldl addEntry (before.map namedEntry) =
        (entries.foldl (fun entered pair => insertSorted compare pair.1 pair.2 entered)
          before).map namedEntry := by
    induction entries generalizing before with
    | nil =>
        rfl
    | cons entry rest inductionHypothesis =>
        have step :
            addEntry (before.map namedEntry) (namedEntry entry) =
              (insertSorted compare entry.1 entry.2 before).map namedEntry :=
          insertSorted_namedEntry entry.1 entry.2 before
        rw [List.map_cons, List.foldl_cons, List.foldl_cons, step, inductionHypothesis]
  exact congrArg Value.map (entered [])

/-- Entries under different names make the same map in any order. -/
theorem ofNamed_perm
    {entries others : List (String × Value)}
    (distinct : (entries.map Prod.fst).Nodup)
    (rearranged : entries.Perm others) :
    ofNamed entries = ofNamed others := by
  rw [ofNamed_eq, ofNamed_eq]
  congr 2
  apply rearranged.foldl_eq'
  intro first firstMember second secondMember entered
  by_cases same : first = second
  · rw [same]
  · have apart : compare second.1 first.1 ≠ .eq := by
      intro equal
      have sameName : first.1 = second.1 := (Std.LawfulEqCmp.eq_of_compare equal).symm
      exact same (List.inj_on_of_nodup_map distinct firstMember secondMember sameName)
    exact insertSorted_comm apart second.2 first.2 entered

end Value

end CallGuard
