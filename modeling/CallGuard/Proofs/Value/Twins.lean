import CallGuard.Proofs.Value.Comparison
import CallGuard.Proofs.Value.StoredOrder
import CallGuard.Value.Collection
import Mathlib.Data.List.Induction

namespace CallGuard

/-!
# Values that fall onto one member

Two values that are the same number, or that are stored as one, equal the same values:
no comparison by the equality of callers tells them apart.  A set keeps one of them
only, and so does a map of its keys.  What is kept stands for all that was given.
-/

namespace Value

/-! ## Equality by points and by storage -/

theorem isNumber_of_point?
    {a : Value}
    {p : Extended}
    (point : a.point? = some p) :
    a.isNumber = true := by
  cases a <;> first | rfl | cases point

theorem compare?_of_isNumber
    {a b : Value}
    (number : a.isNumber = true) :
    a.compare? b =
      match a.point?, b.point? with
      | some p, some q => some (p.order q)
      | _, _ => none := by
  apply compare?_eq_points <;> rintro _ _ rfl - <;> cases number

/-- A number equals what denotes the same point. -/
theorem looseEq_of_isNumber_iff
    {a b : Value}
    (number : a.isNumber = true) :
    a.looseEq b = true ↔ ∃ p, a.point? = some p ∧ b.point? = some p := by
  unfold looseEq
  cases otherNumber : b.isNumber with
  | true =>
      rw [number, compare?_of_isNumber number]
      cases a.point? with
      | none =>
          simp
      | some p =>
          cases b.point? with
          | none =>
              simp
          | some q =>
              have samePoint : p.order q = .eq ↔ q = p :=
                Std.LawfulEqCmp.compare_eq_iff_eq.trans eq_comm
              simp [samePoint]
  | false =>
      have noPoint (p : Extended) : b.point? ≠ some p := by
        intro point
        rw [isNumber_of_point? point] at otherNumber
        cases otherNumber
      have apart : a.rank ≠ b.rank := by
        intro sameRank
        cases sameKind_of_rank_eq sameRank <;> simp_all [isNumber]
      have different : a.same b = false := by
        rw [same, order_of_rank_ne apart]
        simpa using apart
      simp [number, different, noPoint]

theorem looseEq_eq_same
    {a : Value}
    (notNumber : a.isNumber = false)
    (b : Value) :
    a.looseEq b = a.same b := by
  simp [looseEq, notNumber]

theorem same_comm (a b : Value) :
    a.same b = b.same a := by
  rw [Bool.eq_iff_iff, same, same, beq_iff_eq, beq_iff_eq]
  exact Std.OrientedCmp.eq_comm

theorem looseEq_comm (a b : Value) :
    a.looseEq b = b.looseEq a := by
  unfold looseEq
  rw [Bool.and_comm, same_comm, compare?_swap a b]
  cases a.compare? b with
  | none => rfl
  | some outcome => cases outcome <;> rfl

/-- What is stored as one value is a number together, at one point or at none. -/
theorem number_congr_of_same
    {a b : Value}
    (stored : a.same b = true) :
    a.isNumber = b.isNumber ∧ a.point? = b.point? := by
  have equal : a.order b = .eq := beq_iff_eq.mp stored
  cases sameKind_of_rank_eq (rank_eq_of_order_eq equal) with
  | bool a b =>
      obtain rfl : a = b := Std.LawfulEqOrd.eq_of_compare equal
      exact ⟨rfl, rfl⟩
  | int a b =>
      obtain rfl : a = b := Std.LawfulEqOrd.eq_of_compare equal
      exact ⟨rfl, rfl⟩
  | float a b =>
      exact ⟨rfl, Double.ofDouble?_eq_of_order_eq equal⟩
  | _ => exact ⟨rfl, rfl⟩

/-! ## Twins -/

/-- One value is the same number as another, or it is stored as the other. -/
def FallsOnto (value member : Value) : Prop :=
  member.looseEq value = true ∨ member.same value = true

/-- Equal values equal the same values. -/
theorem looseEq_congr
    {a b : Value}
    (fallen : b.FallsOnto a)
    (c : Value) :
    a.looseEq c = b.looseEq c := by
  have ofSame (stored : a.same b = true) : a.looseEq c = b.looseEq c := by
    obtain ⟨sameNumber, samePoint⟩ := number_congr_of_same stored
    cases number : a.isNumber with
    | true =>
        rw [Bool.eq_iff_iff, looseEq_of_isNumber_iff number,
          looseEq_of_isNumber_iff (sameNumber ▸ number), samePoint]
    | false =>
        rw [looseEq_eq_same number, looseEq_eq_same (sameNumber ▸ number), same, same,
          Std.TransCmp.congr_left (beq_iff_eq.mp stored)]
  rcases fallen with equal | stored
  · cases number : a.isNumber with
    | true =>
        obtain ⟨p, pointA, pointB⟩ := (looseEq_of_isNumber_iff number).mp equal
        rw [Bool.eq_iff_iff, looseEq_of_isNumber_iff number,
          looseEq_of_isNumber_iff (isNumber_of_point? pointB), pointA, pointB]
    | false =>
        exact ofSame (looseEq_eq_same number b ▸ equal)
  · exact ofSame stored

namespace FallsOnto

variable {a b c : Value}

theorem refl (a : Value) : a.FallsOnto a :=
  .inr (beq_iff_eq.mpr (order_self a))

theorem symm (fallen : a.FallsOnto b) : b.FallsOnto a :=
  fallen.imp (looseEq_comm a b).trans (same_comm a b).trans

theorem trans
    (first : a.FallsOnto b)
    (second : b.FallsOnto c) :
    a.FallsOnto c := by
  rcases first with equal | stored
  · exact .inl ((looseEq_congr second a).trans equal)
  · rcases second with equalNext | storedNext
    · left
      rw [looseEq_comm, ← looseEq_congr (.inr stored), looseEq_comm]
      exact equalNext
    · right
      exact beq_iff_eq.mpr
        (Std.TransCmp.eq_trans (beq_iff_eq.mp storedNext) (beq_iff_eq.mp stored))

end FallsOnto

/-! ## What sets and maps keep -/

theorem mem_insertMember_of_mem
    {member : Value}
    {members : List Value}
    (there : member ∈ members)
    (value : Value) :
    member ∈ insertMember value members := by
  induction members with
  | nil =>
      cases there
  | cons first rest inductionHypothesis =>
      rw [insertMember]
      cases value.order first with
      | lt => exact List.mem_cons_of_mem value there
      | eq => exact there
      | gt =>
          rcases List.mem_cons.mp there with rfl | inRest
          · exact List.mem_cons_self
          · exact List.mem_cons_of_mem first (inductionHypothesis inRest)

theorem eq_or_mem_of_mem_insertMember
    {member value : Value}
    {members : List Value}
    (entered : member ∈ insertMember value members) :
    member = value ∨ member ∈ members := by
  induction members with
  | nil =>
      exact .inl (List.mem_singleton.mp entered)
  | cons first rest inductionHypothesis =>
      rw [insertMember] at entered
      cases place : value.order first with
      | lt =>
          rw [place] at entered
          exact List.mem_cons.mp entered
      | eq =>
          rw [place] at entered
          exact .inr entered
      | gt =>
          rw [place] at entered
          rcases List.mem_cons.mp entered with rfl | inRest
          · exact .inr List.mem_cons_self
          · exact (inductionHypothesis inRest).imp_right (List.mem_cons_of_mem first)

/-- Whatever is entered is stored as one of the members then. -/
theorem exists_same_mem_insertMember
    (value : Value)
    (members : List Value) :
    ∃ member ∈ insertMember value members, member.same value = true := by
  induction members with
  | nil =>
      exact ⟨value, List.mem_singleton_self value, beq_iff_eq.mpr (order_self value)⟩
  | cons first rest inductionHypothesis =>
      rw [insertMember]
      cases place : value.order first with
      | lt => exact ⟨value, List.mem_cons_self, beq_iff_eq.mpr (order_self value)⟩
      | eq =>
          exact ⟨first, List.mem_cons_self, beq_iff_eq.mpr (Std.OrientedCmp.eq_symm place)⟩
      | gt =>
          obtain ⟨member, inRest, stored⟩ := inductionHypothesis
          exact ⟨member, List.mem_cons_of_mem first inRest, stored⟩

/-- The keys of a map are entered as the members of a set are. -/
theorem keys_insertSorted
    (key content : Value)
    (entries : List (Value × Value)) :
    (insertSorted order key content entries).map Prod.fst =
      insertMember key (entries.map Prod.fst) := by
  induction entries with
  | nil =>
      rfl
  | cons entry rest inductionHypothesis =>
      rw [insertSorted, List.map_cons, insertMember]
      cases key.order entry.1 with
      | lt => rfl
      | eq => rfl
      | gt => rw [List.map_cons, inductionHypothesis]

/-- Members that are among the given values, and onto which all of these fall. -/
structure StandFor (members values : List Value) : Prop where
  given : ∀ member ∈ members, member ∈ values
  fallen : ∀ value ∈ values, ∃ member ∈ members, value.FallsOnto member

namespace StandFor

variable {members values : List Value}

theorem refl (values : List Value) : StandFor values values where
  given _ member := member
  fallen value isGiven := ⟨value, isGiven, .refl value⟩

/-- A value that falls onto a member there needs no other. -/
theorem fall
    (standFor : StandFor members values)
    {value member : Value}
    (there : member ∈ members)
    (onto : value.FallsOnto member) :
    StandFor members (values ++ [value]) where
  given other inMembers := List.mem_append_left _ (standFor.given other inMembers)
  fallen := List.forall_mem_append.mpr
    ⟨standFor.fallen, List.forall_mem_singleton.mpr ⟨member, there, onto⟩⟩

theorem insertMember
    (standFor : StandFor members values)
    (value : Value) :
    StandFor (Value.insertMember value members) (values ++ [value]) where
  given member entered := by
    rcases eq_or_mem_of_mem_insertMember entered with rfl | inMembers
    · exact List.mem_append_right _ (List.mem_singleton_self member)
    · exact List.mem_append_left _ (standFor.given member inMembers)
  fallen := by
    refine List.forall_mem_append.mpr ⟨fun earlier isGiven => ?_, ?_⟩
    · obtain ⟨member, inMembers, onto⟩ := standFor.fallen earlier isGiven
      exact ⟨member, mem_insertMember_of_mem inMembers value, onto⟩
    · obtain ⟨member, entered, stored⟩ := exists_same_mem_insertMember value members
      exact List.forall_mem_singleton.mpr ⟨member, entered, .inr stored⟩

/-- A member that is entered again changes nothing. -/
theorem insertMember_of_mem
    (standFor : StandFor members values)
    {member : Value}
    (there : member ∈ members) :
    StandFor (Value.insertMember member members) values where
  given other entered := by
    rcases eq_or_mem_of_mem_insertMember entered with rfl | inMembers
    · exact standFor.given other there
    · exact standFor.given other inMembers
  fallen value isGiven := by
    obtain ⟨other, inMembers, onto⟩ := standFor.fallen value isGiven
    exact ⟨other, mem_insertMember_of_mem inMembers member, onto⟩

end StandFor

/-- A twin is one of the values seen, and the same number. -/
theorem of_twin?_eq_some
    {seen : List Value}
    {value twin : Value}
    (found : twin? seen value = some twin) :
    twin ∈ seen ∧ twin.looseEq value = true := by
  unfold twin? at found
  split at found
  case isTrue number =>
    have equal := List.find?_some found
    exact ⟨List.mem_of_find?_eq_some found, equal⟩
  case isFalse notNumber => cases found

namespace StandFor

variable {members values : List Value}

theorem addMember
    (standFor : StandFor members values)
    (value : Value) :
    StandFor (Value.addMember members value) (values ++ [value]) := by
  unfold Value.addMember
  cases found : twin? members value with
  | some twin =>
      obtain ⟨there, equal⟩ := of_twin?_eq_some found
      exact standFor.fall there (.inl equal)
  | none =>
      exact standFor.insertMember value

/-- Entering an entry does to the keys what entering a member does to a set. -/
theorem addEntry
    {entries : List (Value × Value)}
    (standFor : StandFor (entries.map Prod.fst) values)
    (entry : Value × Value) :
    StandFor ((Value.addEntry entries entry).map Prod.fst) (values ++ [entry.1]) := by
  unfold Value.addEntry
  rw [keys_insertSorted]
  cases found : twin? (entries.map Prod.fst) entry.1 with
  | some twin =>
      obtain ⟨there, equal⟩ := of_twin?_eq_some found
      exact (standFor.insertMember_of_mem there).fall
        (mem_insertMember_of_mem there twin) (.inl equal)
  | none =>
      exact standFor.insertMember entry.1

/-- No item tells the members from the values that they stand for. -/
theorem any_looseEq
    (standFor : StandFor members values)
    (item : Value) :
    members.any (·.looseEq item) = values.any (·.looseEq item) := by
  rw [Bool.eq_iff_iff, List.any_eq_true, List.any_eq_true]
  constructor
  · rintro ⟨member, inMembers, equal⟩
    exact ⟨member, standFor.given member inMembers, equal⟩
  · rintro ⟨value, isGiven, equal⟩
    obtain ⟨member, inMembers, onto⟩ := standFor.fallen value isGiven
    exact ⟨member, inMembers, (looseEq_congr onto item).trans equal⟩

end StandFor

/-- The members of a set stand for the values it was built from. -/
theorem standFor_members (values : List Value) :
    StandFor (values.foldl addMember []) values := by
  induction values using List.reverseRecOn with
  | nil =>
      exact .refl []
  | append_singleton earlier value inductionHypothesis =>
      rw [List.foldl_append]
      exact inductionHypothesis.addMember value

/-- The keys of a map stand for the keys of the entries it was built from. -/
theorem standFor_keys (entries : List (Value × Value)) :
    StandFor ((entries.foldl addEntry []).map Prod.fst) (entries.map Prod.fst) := by
  induction entries using List.reverseRecOn with
  | nil =>
      exact .refl []
  | append_singleton earlier entry inductionHypothesis =>
      rw [List.foldl_append, List.map_append]
      exact inductionHypothesis.addEntry entry

end Value

end CallGuard
