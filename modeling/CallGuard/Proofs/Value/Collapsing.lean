import CallGuard.Proofs.Value.Twins
import Mathlib.Data.List.Nodup

namespace CallGuard

/-!
# What sets and maps keep

Of values that fall onto each other a set keeps the one that was given first.  A map
keeps its keys like this, and under each of them the content that was given last.
Falling onto each other is an equivalence, although two notions of equality make it up:
between numbers it is to denote one point or none, and elsewhere to be stored as one.
So an item that is entered can be compared with the members instead of with all that
was given before it.
-/

/-- Keys in ascending order, no two of them alike. -/
def Ascending (order : κ → κ → Ordering) (keys : List κ) : Prop :=
  keys.Pairwise fun first second => order first second = .lt

/-- Lists in ascending order with the same members are one list. -/
theorem Ascending.eq_of_mem_iff
    {order : κ → κ → Ordering}
    [Std.TransCmp order]
    {keys others : List κ}
    (ascending : Ascending order keys)
    (othersAscending : Ascending order others)
    (sameMembers : ∀ key, key ∈ keys ↔ key ∈ others) :
    keys = others := by
  have distinct {list : List κ} (inOrder : Ascending order list) : list.Nodup := by
    refine List.Pairwise.imp (fun {first second} below => ?_) inOrder
    rintro rfl
    have itself : order first first = .eq := Std.ReflCmp.compare_self
    rw [itself] at below
    cases below
  have rearranged : keys.Perm others :=
    (List.perm_ext_iff_of_nodup (distinct ascending) (distinct othersAscending)).mpr
      sameMembers
  refine List.Perm.eq_of_pairwise (fun first second _ _ below above => ?_) ascending
    othersAscending rearranged
  rw [Std.OrientedCmp.gt_of_lt below] at above
  cases above

/-- What is under a key after entering a content: the old one elsewhere, the new one there. -/
theorem of_mem_insertSorted
    {order : κ → κ → Ordering}
    [Std.TransCmp order]
    {entries : List (κ × α)}
    (ascending : Ascending order (entries.map Prod.fst))
    {key : κ}
    {content : α}
    {entry : κ × α}
    (entered : entry ∈ insertSorted order key content entries) :
    (order key entry.1 ≠ .eq ∧ entry ∈ entries) ∨
      (order key entry.1 = .eq ∧ entry.2 = content) := by
  induction entries with
  | nil =>
      obtain rfl := List.mem_singleton.mp entered
      exact .inr ⟨Std.ReflCmp.compare_self, rfl⟩
  | cons first rest inductionHypothesis =>
      obtain ⟨firstBelow, restAscending⟩ := List.pairwise_cons.mp ascending
      have below : ∀ other ∈ rest, order first.1 other.1 = .lt :=
        fun other inRest => firstBelow other.1 (List.mem_map_of_mem inRest)
      rw [insertSorted] at entered
      cases place : order key first.1 with
      | lt =>
          rw [place] at entered
          rcases List.mem_cons.mp entered with rfl | there
          · exact .inr ⟨Std.ReflCmp.compare_self, rfl⟩
          · have above : order key entry.1 = .lt := by
              rcases List.mem_cons.mp there with rfl | inRest
              · exact place
              · exact Std.TransCmp.lt_trans place (below entry inRest)
            exact .inl ⟨by simp [above], there⟩
      | eq =>
          rw [place] at entered
          rcases List.mem_cons.mp entered with rfl | inRest
          · exact .inr ⟨place, rfl⟩
          · have above : order key entry.1 = .lt :=
              Std.TransCmp.lt_of_eq_of_lt place (below entry inRest)
            exact .inl ⟨by simp [above], List.mem_cons_of_mem first inRest⟩
      | gt =>
          rw [place] at entered
          rcases List.mem_cons.mp entered with rfl | inEntered
          · exact .inl ⟨by simp [place], List.mem_cons_self⟩
          · refine (inductionHypothesis restAscending inEntered).imp_left ?_
            exact And.imp_right (List.mem_cons_of_mem first)

namespace Value

/-! ## Entering a member -/

theorem mem_insertMember_iff
    {value : Value}
    {members : List Value}
    (ascending : Ascending order members)
    {member : Value} :
    member ∈ insertMember value members ↔
      member ∈ members ∨ (member = value ∧ ∀ other ∈ members, value.order other ≠ .eq) := by
  induction members with
  | nil =>
      simp [insertMember]
  | cons first rest inductionHypothesis =>
      obtain ⟨firstBelow, restAscending⟩ := List.pairwise_cons.mp ascending
      rw [insertMember]
      cases place : value.order first with
      | lt =>
          have fresh : ∀ other ∈ first :: rest, value.order other ≠ .eq := by
            refine List.forall_mem_cons.mpr ⟨by simp [place], fun other inRest => ?_⟩
            simp [Std.TransCmp.lt_trans place (firstBelow other inRest)]
          rw [List.mem_cons, or_comm]
          simp only [and_iff_left fresh]
      | eq =>
          simp [place]
      | gt =>
          simp [place, inductionHypothesis restAscending, or_assoc]

theorem insertMember_ascending
    {members : List Value}
    (ascending : Ascending order members)
    (value : Value) :
    Ascending order (insertMember value members) := by
  induction members with
  | nil =>
      exact List.pairwise_singleton _ value
  | cons first rest inductionHypothesis =>
      obtain ⟨firstBelow, restAscending⟩ := List.pairwise_cons.mp ascending
      rw [insertMember]
      cases place : value.order first with
      | lt =>
          refine List.pairwise_cons.mpr ⟨List.forall_mem_cons.mpr ⟨place, ?_⟩, ascending⟩
          exact fun other inRest => Std.TransCmp.lt_trans place (firstBelow other inRest)
      | eq =>
          exact ascending
      | gt =>
          refine List.pairwise_cons.mpr ⟨fun member entered => ?_,
            inductionHypothesis restAscending⟩
          rcases eq_or_mem_of_mem_insertMember entered with rfl | inRest
          · exact Std.OrientedCmp.lt_of_gt place
          · exact firstBelow member inRest

/-- A member that is there already is not entered again. -/
theorem insertMember_of_mem
    {members : List Value}
    (ascending : Ascending order members)
    {member : Value}
    (there : member ∈ members) :
    insertMember member members = members := by
  refine (insertMember_ascending ascending member).eq_of_mem_iff ascending fun other => ?_
  rw [mem_insertMember_iff ascending, or_iff_left]
  rintro ⟨-, fresh⟩
  exact fresh member there (order_self member)

/-- No member falls onto another one. -/
def Apart (members : List Value) : Prop :=
  ∀ first ∈ members, ∀ second ∈ members, first.FallsOnto second → first = second

/--
A value is entered as the number there that it equals, or else as itself.  It falls onto
whatever is stored as the one that it is entered as.
-/
theorem fallsOnto_of_order_entered
    {members : List Value}
    {value key : Value}
    (stored : ((twin? members value).getD value).order key = .eq) :
    value.FallsOnto key := by
  have onto : ((twin? members value).getD value).FallsOnto key :=
    .inr ((same_comm ..).trans (beq_iff_eq.mpr stored))
  cases found : twin? members value with
  | some twin =>
      rw [found, Option.getD_some] at onto
      exact .trans (.inl (of_twin?_eq_some found).2) onto
  | none =>
      rw [found, Option.getD_none] at onto
      exact onto

/-- A value falls onto that member alone as which it is entered. -/
theorem order_entered_eq_iff
    {members : List Value}
    (apart : Apart members)
    {member : Value}
    (there : member ∈ members)
    (value : Value) :
    ((twin? members value).getD value).order member = .eq ↔ value.FallsOnto member := by
  refine ⟨fallsOnto_of_order_entered, fun onto => ?_⟩
  cases found : twin? members value with
  | some twin =>
      obtain ⟨twinThere, equal⟩ := of_twin?_eq_some found
      have ontoTwin : value.FallsOnto twin := .inl equal
      rw [Option.getD_some, apart twin twinThere member there (ontoTwin.symm.trans onto)]
      exact order_self member
  | none =>
      rw [Option.getD_none]
      rcases onto with equal | stored
      · -- A number would have found its twin, and for others equality is that of storage.
        cases number : value.isNumber with
        | true =>
            rw [twin?, if_pos number] at found
            exact (List.find?_eq_none.mp found member there equal).elim
        | false =>
            rw [looseEq_comm, looseEq_eq_same number] at equal
            exact beq_iff_eq.mp equal
      · exact beq_iff_eq.mp ((same_comm ..).trans stored)

/-- A set takes in what a value is entered as, which may be there already. -/
theorem addMember_eq_insertMember
    {members : List Value}
    (ascending : Ascending order members)
    (value : Value) :
    addMember members value = insertMember ((twin? members value).getD value) members := by
  unfold addMember
  cases found : twin? members value with
  | some twin => exact (insertMember_of_mem ascending (of_twin?_eq_some found).1).symm
  | none => rfl

/-- Only a value that falls onto no member is taken in. -/
theorem mem_addMember_iff
    {members : List Value}
    (ascending : Ascending order members)
    (apart : Apart members)
    {value member : Value} :
    member ∈ addMember members value ↔
      member ∈ members ∨
        (member = value ∧ ∀ other ∈ members, ¬value.FallsOnto other) := by
  have fresh :
      (∀ other ∈ members, ((twin? members value).getD value).order other ≠ .eq) ↔
        ∀ other ∈ members, ¬value.FallsOnto other :=
    forall₂_congr fun other there => not_congr (order_entered_eq_iff apart there value)
  rw [addMember_eq_insertMember ascending, mem_insertMember_iff ascending, fresh]
  refine or_congr_right (and_congr_left fun notFallen => ?_)
  cases found : twin? members value with
  | some twin =>
      obtain ⟨there, equal⟩ := of_twin?_eq_some found
      exact (notFallen twin there (.inl equal)).elim
  | none => rfl

/-! ## The first of several twins -/

/-- A value of a list that falls onto none in front of it. -/
def ComesFirst (values : List Value) (value : Value) : Prop :=
  ∃ earlier later,
    values = earlier ++ value :: later ∧ ∀ other ∈ earlier, ¬value.FallsOnto other

theorem comesFirst_append_singleton_iff
    {values : List Value}
    {last value : Value} :
    ComesFirst (values ++ [last]) value ↔
      ComesFirst values value ∨
        (value = last ∧ ∀ other ∈ values, ¬last.FallsOnto other) := by
  constructor
  · rintro ⟨earlier, later, split, unmet⟩
    rcases List.eq_nil_or_concat later with rfl | ⟨between, other, rfl⟩
    · obtain ⟨rfl, same⟩ := List.append_inj' split rfl
      obtain rfl := List.singleton_inj.mp same
      exact .inr ⟨rfl, unmet⟩
    · rw [List.concat_eq_append, ← List.cons_append, ← List.append_assoc] at split
      exact .inl ⟨earlier, between, (List.append_inj' split rfl).1, unmet⟩
  · rintro (⟨earlier, later, rfl, unmet⟩ | ⟨rfl, unmet⟩)
    · exact ⟨earlier, later ++ [last], by rw [List.append_assoc, List.cons_append], unmet⟩
    · exact ⟨values, [], rfl, unmet⟩

/-- Of values that are apart each comes first. -/
theorem comesFirst_iff_mem
    {values : List Value}
    (apart : values.Pairwise fun first second => ¬second.FallsOnto first)
    {value : Value} :
    ComesFirst values value ↔ value ∈ values := by
  constructor
  · rintro ⟨earlier, later, rfl, -⟩
    exact List.mem_append_right earlier List.mem_cons_self
  · intro there
    obtain ⟨earlier, later, rfl⟩ := List.append_of_mem there
    obtain ⟨-, -, across⟩ := List.pairwise_append.mp apart
    exact ⟨earlier, later, rfl, fun other inEarlier =>
      across other inEarlier value List.mem_cons_self⟩

/--
The members that are kept of given values: in ascending order, apart, and each the first
of the values that fall onto it.
-/
structure Keeps (members values : List Value) : Prop extends StandFor members values where
  ascending : Ascending order members
  apart : Apart members
  first : ∀ value, value ∈ members ↔ ComesFirst values value

namespace Keeps

variable {members values : List Value}

theorem nil : Keeps [] [] where
  toStandFor := .refl []
  ascending := .nil
  apart := List.forall_mem_nil _
  first value := by simp [ComesFirst]

/-- Members and values tell alike whether a new value falls onto something. -/
theorem unmet_iff
    (keeps : Keeps members values)
    (value : Value) :
    (∀ member ∈ members, ¬value.FallsOnto member) ↔
      ∀ other ∈ values, ¬value.FallsOnto other := by
  constructor
  · intro unmet other isGiven onto
    obtain ⟨member, there, otherOnto⟩ := keeps.fallen other isGiven
    exact unmet member there (onto.trans otherOnto)
  · exact fun unmet member there => unmet member (keeps.given member there)

theorem addMember
    (keeps : Keeps members values)
    (value : Value) :
    Keeps (Value.addMember members value) (values ++ [value]) where
  toStandFor := keeps.toStandFor.addMember value
  ascending := by
    rw [addMember_eq_insertMember keeps.ascending]
    exact insertMember_ascending keeps.ascending _
  apart := by
    intro one there other otherThere onto
    rw [mem_addMember_iff keeps.ascending keeps.apart] at there otherThere
    rcases there with there | ⟨rfl, unmet⟩
    · rcases otherThere with otherThere | ⟨rfl, unmet⟩
      · exact keeps.apart one there other otherThere onto
      · exact (unmet one there onto.symm).elim
    · rcases otherThere with otherThere | ⟨rfl, -⟩
      · exact (unmet other otherThere onto).elim
      · rfl
  first other := by
    rw [mem_addMember_iff keeps.ascending keeps.apart, comesFirst_append_singleton_iff,
      keeps.first, keeps.unmet_iff]

/-- No two members are equal, in whichever of the two equalities. -/
theorem pairwise_apart (keeps : Keeps members values) :
    members.Pairwise fun first second => ¬second.FallsOnto first := by
  refine keeps.ascending.imp_of_mem fun {first second} there otherThere below onto => ?_
  rw [keeps.apart second otherThere first there onto, order_self] at below
  cases below

end Keeps

/-- A set keeps the first of several twins. -/
theorem keeps_members (values : List Value) :
    Keeps (values.foldl addMember []) values := by
  induction values using List.reverseRecOn with
  | nil =>
      exact .nil
  | append_singleton earlier value inductionHypothesis =>
      rw [List.foldl_append]
      exact inductionHypothesis.addMember value

/-- The members of a set make the same set again, in any order. -/
theorem ofMembers_perm
    {members values others : List Value}
    (keeps : Keeps members values)
    (rearranged : others.Perm members) :
    ofMembers others = .set members := by
  have othersApart : others.Pairwise fun first second => ¬second.FallsOnto first := by
    refine (rearranged.pairwise_iff fun {first second} apart onto => ?_).mpr
      keeps.pairwise_apart
    exact apart onto.symm
  have again := keeps_members others
  refine congrArg Value.set (again.ascending.eq_of_mem_iff keeps.ascending fun value => ?_)
  rw [again.first, comesFirst_iff_mem othersApart, rearranged.mem_iff]

/-! ## The last content under a key -/

/-- The content of the last entry whose key falls onto a given key. -/
def ComesLast (entries : List (Value × Value)) (key content : Value) : Prop :=
  ∃ earlier last later,
    entries = earlier ++ (last, content) :: later ∧
      last.FallsOnto key ∧ ∀ other ∈ later, ¬other.1.FallsOnto key

theorem ComesLast.append_singleton
    {entries : List (Value × Value)}
    {key content : Value}
    (comesLast : ComesLast entries key content)
    {entry : Value × Value}
    (apart : ¬entry.1.FallsOnto key) :
    ComesLast (entries ++ [entry]) key content := by
  obtain ⟨earlier, last, later, rfl, onto, unmet⟩ := comesLast
  refine ⟨earlier, last, later ++ [entry], by rw [List.append_assoc, List.cons_append], onto,
    List.forall_mem_append.mpr ⟨unmet, List.forall_mem_singleton.mpr apart⟩⟩

theorem keys_addEntry
    {entries : List (Value × Value)}
    (ascending : Ascending order (entries.map Prod.fst))
    (entry : Value × Value) :
    (addEntry entries entry).map Prod.fst = addMember (entries.map Prod.fst) entry.1 := by
  rw [addEntry, keys_insertSorted, addMember_eq_insertMember ascending]

/-- A map has the keys that a set keeps of the given keys. -/
theorem keys_ofEntries (pairs : List (Value × Value)) :
    (pairs.foldl addEntry []).map Prod.fst = (pairs.map Prod.fst).foldl addMember [] := by
  induction pairs using List.reverseRecOn with
  | nil =>
      rfl
  | append_singleton earlier pair inductionHypothesis =>
      have keeps := keeps_members (earlier.map Prod.fst)
      rw [List.foldl_append, List.map_append, List.foldl_append, ← inductionHypothesis]
      rw [← inductionHypothesis] at keeps
      exact keys_addEntry keeps.ascending pair

/-- A map has under each key what was given last for it. -/
theorem comesLast_of_mem_ofEntries
    {pairs : List (Value × Value)}
    {entry : Value × Value}
    (member : entry ∈ pairs.foldl addEntry []) :
    ComesLast pairs entry.1 entry.2 := by
  induction pairs using List.reverseRecOn generalizing entry with
  | nil =>
      cases member
  | append_singleton earlier pair inductionHypothesis =>
      have keeps : Keeps ((earlier.foldl addEntry []).map Prod.fst) (earlier.map Prod.fst) := by
        rw [keys_ofEntries]
        exact keeps_members (earlier.map Prod.fst)
      rw [List.foldl_append] at member
      have entered : entry ∈ addEntry (earlier.foldl addEntry []) pair := member
      rcases of_mem_insertSorted keeps.ascending entered with ⟨apart, there⟩ | ⟨onto, same⟩
      · refine (inductionHypothesis there).append_singleton fun onto => apart ?_
        exact (order_entered_eq_iff keeps.apart (List.mem_map_of_mem there) pair.1).mpr onto
      · exact ⟨earlier, pair.1, [], by rw [same], fallsOnto_of_order_entered onto,
          List.forall_mem_nil _⟩

/--
A set built from given values keeps exactly those that are neither equal to one in front
of them nor stored as one.  So no two members are equal, every given value is equal to a
member or stored as one, and the members make the same set again in any order.  A map
built from given entries has the keys that a set keeps of the given keys, and under each
of them the content of the last entry whose key is equal to it or stored as it.
-/
theorem ofMembers_ofEntries_collapse :
    (∀ values, ∃ members,
      ofMembers values = .set members ∧
        (∀ value, value ∈ members ↔ ComesFirst values value) ∧
        (members.Pairwise fun first second => ¬second.FallsOnto first) ∧
        (∀ value ∈ values, ∃ member ∈ members, value.FallsOnto member) ∧
        ∀ others, others.Perm members → ofMembers others = ofMembers values) ∧
      ∀ pairs, ∃ entries,
        ofEntries pairs = .map entries ∧
          ofMembers (pairs.map Prod.fst) = .set (entries.map Prod.fst) ∧
          ∀ entry ∈ entries, ComesLast pairs entry.1 entry.2 := by
  constructor
  · intro values
    have keeps := keeps_members values
    exact ⟨_, rfl, keeps.first, keeps.pairwise_apart, keeps.fallen,
      fun others rearranged => ofMembers_perm keeps rearranged⟩
  · intro pairs
    exact ⟨_, rfl, congrArg Value.set (keys_ofEntries pairs).symm,
      fun entry member => comesLast_of_mem_ofEntries member⟩

end Value

end CallGuard
