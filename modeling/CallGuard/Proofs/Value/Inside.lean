import CallGuard.Proofs.Value.Naming
import CallGuard.Proofs.Value.Twins

namespace CallGuard

/-!
# Values inside values

Values hold others as items, members, keys, contents and attributes.  However deep a set
lies inside a value, no number is in it twice: a set that is built from given values
takes in no number that it has, and a map or an object adds nothing to what it is
built from.
-/

/-- What lies inside a whole: the whole itself, and what lies inside its parts. -/
inductive Inside (parts : α → List α) (inner : α) : α → Prop where
  | self : Inside parts inner inner
  | deeper {whole part : α} :
      part ∈ parts whole →
      Inside parts inner part →
      Inside parts inner whole

/-- What holds of a whole, and of all that lies inside its parts, holds everywhere inside. -/
theorem Inside.forall_of_parts
    {parts : α → List α}
    {property : α → Prop}
    {whole : α}
    (own : property whole)
    (partwise : ∀ part ∈ parts whole, ∀ inner, Inside parts inner part → property inner)
    (inner : α)
    (inside : Inside parts inner whole) :
    property inner := by
  cases inside with
  | self => exact own
  | deeper member inPart => exact partwise _ member inner inPart

/-- A name is entered once when it is not there, so nothing of the entries is lost. -/
theorem insertSorted_perm
    {order : κ → κ → Ordering}
    {key : κ}
    {entries : List (κ × α)}
    (fresh : ∀ entry ∈ entries, order key entry.1 ≠ .eq)
    (content : α) :
    (insertSorted order key content entries).Perm ((key, content) :: entries) := by
  induction entries with
  | nil =>
      exact .refl _
  | cons entry rest inductionHypothesis =>
      obtain ⟨other, restFresh⟩ := List.forall_mem_cons.mp fresh
      rw [insertSorted]
      cases place : order key entry.1 with
      | lt => exact .refl _
      | eq => exact (other place).elim
      | gt => exact ((inductionHypothesis restFresh).cons entry).trans (.swap _ _ rest)

/-- Entering a content leaves the other contents as they are. -/
theorem mem_of_mem_insertSorted
    {order : κ → κ → Ordering}
    {key : κ}
    {content : α}
    {entries : List (κ × α)}
    {entry : κ × α}
    (entered : entry ∈ insertSorted order key content entries) :
    entry ∈ entries ∨ entry.2 = content := by
  induction entries with
  | nil =>
      obtain rfl := List.mem_singleton.mp entered
      exact .inr rfl
  | cons first rest inductionHypothesis =>
      rw [insertSorted] at entered
      cases place : order key first.1 with
      | lt =>
          rw [place] at entered
          rcases List.mem_cons.mp entered with rfl | inEntries
          · exact .inr rfl
          · exact .inl inEntries
      | eq =>
          rw [place] at entered
          rcases List.mem_cons.mp entered with rfl | inRest
          · exact .inr rfl
          · exact .inl (List.mem_cons_of_mem first inRest)
      | gt =>
          rw [place] at entered
          rcases List.mem_cons.mp entered with rfl | inRest
          · exact .inl List.mem_cons_self
          · exact (inductionHypothesis inRest).imp_left (List.mem_cons_of_mem first)

namespace Value

/-- The values that a value is made of. -/
def parts : Value → List Value
  | .list items => items
  | .tuple items => items
  | .set members => members
  | .map entries => entries.map (·.1) ++ entries.map (·.2)
  | .object _ _ attributes _ => attributes.map (·.2)
  | _ => []

/-- Two values are one number, whatever their kinds. -/
def SameNumber (a b : Value) : Prop :=
  a.isNumber = true ∧ b.isNumber = true ∧ a.compare? b = some .eq

/-- No two members are one number. -/
def NumbersApart (members : List Value) : Prop :=
  members.Pairwise fun a b => ¬a.SameNumber b

/-- In every set inside a value, and in the value if it is a set, numbers are apart. -/
def Collapsed (value : Value) : Prop :=
  ∀ inner, Inside parts inner value → ∀ members, inner = .set members → NumbersApart members

/-! ## Sets -/

/-- What has no twin is no number that is there. -/
theorem not_sameNumber_of_twin?_eq_none
    {members : List Value}
    {value : Value}
    (noTwin : twin? members value = none)
    {member : Value}
    (there : member ∈ members) :
    ¬member.SameNumber value := by
  rintro ⟨memberNumber, number, equal⟩
  have twins : member.looseEq value = true := by
    rw [looseEq, memberNumber, number, equal]
    rfl
  rw [twin?, if_pos number] at noTwin
  exact List.find?_eq_none.mp noTwin member there twins

theorem SameNumber.symm
    {a b : Value}
    (same : a.SameNumber b) :
    b.SameNumber a := by
  obtain ⟨numberA, numberB, equal⟩ := same
  refine ⟨numberB, numberA, ?_⟩
  rw [compare?_swap a b, equal]
  rfl

theorem NumbersApart.insertMember
    {members : List Value}
    (apart : NumbersApart members)
    {value : Value}
    (new : ∀ member ∈ members, ¬member.SameNumber value) :
    NumbersApart (Value.insertMember value members) := by
  induction members with
  | nil =>
      exact List.pairwise_singleton _ value
  | cons first rest inductionHypothesis =>
      obtain ⟨firstApart, restApart⟩ := List.pairwise_cons.mp apart
      obtain ⟨firstNew, restNew⟩ := List.forall_mem_cons.mp new
      rw [Value.insertMember]
      cases value.order first with
      | lt =>
          exact List.pairwise_cons.mpr
            ⟨fun member there same => new member there same.symm, apart⟩
      | eq =>
          exact apart
      | gt =>
          refine List.pairwise_cons.mpr ⟨fun member entered => ?_,
            inductionHypothesis restApart restNew⟩
          rcases eq_or_mem_of_mem_insertMember entered with rfl | inRest
          · exact firstNew
          · exact firstApart member inRest

theorem NumbersApart.addMember
    {members : List Value}
    (apart : NumbersApart members)
    (value : Value) :
    NumbersApart (Value.addMember members value) := by
  unfold Value.addMember
  cases noTwin : twin? members value with
  | some twin => exact apart
  | none =>
      exact apart.insertMember fun _ there =>
        not_sameNumber_of_twin?_eq_none noTwin there

/-- A set that is built from given values holds no number twice. -/
theorem numbersApart_foldl
    (values : List Value)
    {entered : List Value}
    (apart : NumbersApart entered) :
    NumbersApart (values.foldl addMember entered) := by
  induction values generalizing entered with
  | nil => exact apart
  | cons value rest inductionHypothesis => exact inductionHypothesis (apart.addMember value)

/-! ## Contents under names -/

/-- What holds of all contents that are given holds of all that are kept. -/
theorem forall_mem_ofAttributes
    {attributes : List (String × Value)}
    {property : Value → Prop}
    (given : ∀ pair ∈ attributes, property pair.2) :
    ∀ pair ∈ ofAttributes attributes, property pair.2 := by
  refine List.foldlRecOn
    (motive := fun entered : List (String × Value) => ∀ pair ∈ entered, property pair.2)
    attributes _ (List.forall_mem_nil _) ?_
  intro entered kept pair member other inEntered
  rcases mem_of_mem_insertSorted inEntered with earlier | same
  · exact kept other earlier
  · rw [same]
    exact given pair member

/-- Under different names everything is kept. -/
theorem ofAttributes_perm
    {attributes : List (String × Value)}
    (distinct : (attributes.map Prod.fst).Nodup) :
    (ofAttributes attributes).Perm attributes := by
  have entered
      (before : List (String × Value))
      (allDistinct : ((before ++ attributes).map Prod.fst).Nodup) :
      (attributes.foldl (fun entered given => insertSorted compare given.1 given.2 entered)
        before).Perm (before ++ attributes) := by
    clear distinct
    induction attributes generalizing before with
    | nil =>
        rw [List.append_nil]
        exact .refl before
    | cons first rest inductionHypothesis =>
        have moved : (before ++ first :: rest).Perm (first :: before ++ rest) :=
          List.perm_middle
        have movedDistinct := (moved.map Prod.fst).nodup_iff.mp allDistinct
        rw [List.cons_append, List.map_cons, List.nodup_cons, List.map_append]
          at movedDistinct
        have fresh : ∀ entry ∈ before, compare first.1 entry.1 ≠ .eq := by
          intro entry member equal
          refine movedDistinct.1 (List.mem_append_left _ ?_)
          rw [Std.LawfulEqCmp.eq_of_compare equal]
          exact List.mem_map_of_mem member
        have next := (insertSorted_perm fresh first.2).append_right rest
        refine (inductionHypothesis _ ?_).trans (next.trans moved.symm)
        exact ((next.trans moved.symm).map Prod.fst).nodup_iff.mpr allDistinct
  exact entered [] distinct

/-! ## Built values -/

theorem collapsed_of_parts
    {value : Value}
    (notSet : ∀ members, value ≠ .set members)
    (partwise : ∀ part ∈ value.parts, part.Collapsed) :
    value.Collapsed :=
  Inside.forall_of_parts (fun members same => (notSet members same).elim) partwise

/-- What has no parts holds no set, unless it is the empty one. -/
theorem collapsed_of_parts_eq_nil
    {value : Value}
    (notSet : ∀ members, value ≠ .set members)
    (noParts : value.parts = []) :
    value.Collapsed := by
  refine collapsed_of_parts notSet fun part member => ?_
  rw [noParts] at member
  exact (List.not_mem_nil member).elim

theorem collapsed_ofMembers
    {values : List Value}
    (each : ∀ value ∈ values, value.Collapsed) :
    (ofMembers values).Collapsed := by
  refine Inside.forall_of_parts ?_ fun member there => ?_
  · rintro members ⟨⟩
    exact numbersApart_foldl values .nil
  · exact each member ((standFor_members values).given member there)

theorem collapsed_ofNamed
    {entries : List (String × Value)}
    (each : ∀ entry ∈ entries, entry.2.Collapsed) :
    (ofNamed entries).Collapsed := by
  rw [ofNamed_eq]
  refine collapsed_of_parts (by rintro _ ⟨⟩) (List.forall_mem_append.mpr ⟨?_, ?_⟩)
  · rw [List.map_map]
    refine List.forall_mem_map.mpr fun entry _ => ?_
    exact collapsed_of_parts_eq_nil (by rintro _ ⟨⟩) rfl
  · rw [List.map_map]
    exact List.forall_mem_map.mpr (forall_mem_ofAttributes each)

theorem collapsed_object
    {attributes : List (String × Value)}
    (each : ∀ pair ∈ attributes, pair.2.Collapsed)
    (className : String)
    (bases : List String)
    (callable : Bool) :
    (Value.object className bases (ofAttributes attributes) callable).Collapsed :=
  collapsed_of_parts (by rintro _ ⟨⟩)
    (List.forall_mem_map.mpr (forall_mem_ofAttributes each))

end Value

end CallGuard
