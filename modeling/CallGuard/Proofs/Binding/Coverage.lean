import CallGuard.Proofs.Binding.Offers
import CallGuard.Proofs.Result

namespace CallGuard.Binder

/-!
# Which arguments of a call are checked

When no two parameters share a name, an accepted call has every argument checked
by the checker of the parameter that it goes to, with one exception: if a named
argument has the name of a parameter that takes arguments by position or in
surplus, the checker sees the named argument alone.  What else goes to that
parameter may then be anything.
-/

/-- No two parameters that take arguments without naming them share a name. -/
structure DistinctNames (binder : Binder) : Prop where
  positional : binder.positionalNames.Nodup
  surplusPositional :
    ∀ name, binder.surplusPositional = some name → name ∉ binder.positionalNames
  surplusNamed :
    ∀ name, binder.surplusNamed = some name → name ∉ binder.positionalNames
  surplus :
    ∀ name, binder.surplusNamed = some name → binder.surplusPositional ≠ some name

/-- A call supplies a value to a parameter otherwise than by naming it. -/
inductive Supplies
    (binder : Binder)
    (call : CallArguments) :
    String → Value → Prop where
  /-- By position, after the receiver. -/
  | positional
      {index : Nat}
      {name : String}
      {value : Value}
      (afterReceiver : binder.receiverOffset ≤ index)
      (parameter : binder.positionalNames[index]? = some name)
      (argument : call.positional[index]? = some value) :
      Supplies binder call name value
  /-- As the tuple of the surplus positional arguments. -/
  | surplusPositional
      {name : String}
      (parameter : binder.surplusPositional = some name) :
      Supplies binder call name (.tuple (binder.surplusArguments call))
  /-- As the map of the surplus named arguments. -/
  | surplusNamed
      {name : String}
      (parameter : binder.surplusNamed = some name) :
      Supplies binder call name (Value.ofNamed (binder.undeclaredArguments call))

/-- Whatever is offered under a name is supplied to the parameter of that name. -/
theorem supplies_of_mem_offers
    {binder : Binder}
    {call : CallArguments}
    {name : String}
    {value : Value}
    (offered : (name, value) ∈ binder.offers call) :
    binder.Supplies call name value := by
  have surplus
      {parameter : Option String}
      {taken : Value}
      (member : (name, value) ∈ binder.surplusOffer parameter taken) :
      parameter = some name ∧ value = taken := by
    simp only [surplusOffer, checkedName?, List.mem_map, Option.mem_toList,
      Option.filter_eq_some_iff, Prod.mk.injEq] at member
    obtain ⟨other, ⟨same, -⟩, rfl, rfl⟩ := member
    exact ⟨same, rfl⟩
  simp only [offers, List.mem_append] at offered
  rcases offered with positional | surplusTuple | surplusMap
  · obtain ⟨index, found⟩ := List.mem_iff_getElem?.mp positional
    rw [positionalOffers, List.getElem?_drop, List.getElem?_zip_eq_some] at found
    exact .positional (Nat.le_add_right _ index) found.1 found.2
  · obtain ⟨parameter, rfl⟩ := surplus surplusTuple
    exact .surplusPositional parameter
  · obtain ⟨parameter, rfl⟩ := surplus surplusMap
    exact .surplusNamed parameter

/-- For a checked parameter, the first offer is what the call supplies to it. -/
theorem get?_offers_eq_some_iff
    {binder : Binder}
    (distinct : binder.DistinctNames)
    {call : CallArguments}
    {name : String}
    {value : Value}
    {checker : Checker}
    (checked : Table.get? binder.checkers name = some checker) :
    Table.get? (binder.offers call) name = some value ↔
      binder.Supplies call name value := by
  constructor
  · exact fun found => supplies_of_mem_offers (Table.mem_of_get?_eq_some found)
  · intro supplies
    cases supplies with
    | positional afterReceiver parameter argument =>
        exact get?_offers_positional distinct.positional afterReceiver parameter argument
    | surplusPositional parameter =>
        exact get?_offers_surplusPositional parameter checked
          (distinct.surplusPositional name parameter)
    | surplusNamed parameter =>
        exact get?_offers_surplusNamed parameter checked
          (distinct.surplusNamed name parameter) (distinct.surplus name parameter)

/--
A call is accepted exactly when its named arguments pass, and so does what it
supplies otherwise to the parameters that it does not name.
-/
theorem enforce_eq_ok_iff_supplies
    {binder : Binder}
    (distinct : binder.DistinctNames)
    {call : CallArguments} :
    binder.enforce call = .ok () ↔
      (∀ argument ∈ call.named, binder.Admits argument.1 argument.2) ∧
        ∀ name value,
          name ∉ Table.names call.named →
          binder.Supplies call name value →
          binder.Admits name value := by
  rw [enforce_eq_ok_iff]
  refine and_congr_right fun _ => forall₂_congr fun name value =>
    imp_congr_right fun _ => ?_
  constructor
  · intro admits supplies checker checked
    exact admits ((get?_offers_eq_some_iff distinct checked).mpr supplies) checker checked
  · intro admits offered checker checked
    exact admits ((get?_offers_eq_some_iff distinct checked).mp offered) checker checked

/-! ## What a parameter is supplied with -/

/-- A parameter at a position is supplied with the argument at that position. -/
theorem supplies_positional_iff
    {binder : Binder}
    (distinct : binder.DistinctNames)
    {call : CallArguments}
    {index : Nat}
    {name : String}
    {value : Value}
    (afterReceiver : binder.receiverOffset ≤ index)
    (parameter : binder.positionalNames[index]? = some name) :
    binder.Supplies call name value ↔ call.positional[index]? = some value := by
  have isPositional : name ∈ binder.positionalNames := List.mem_of_getElem? parameter
  constructor
  · intro supplied
    cases supplied with
    | @positional place _ _ _ samePlace argument =>
        have within : index < binder.positionalNames.length :=
          (List.getElem?_eq_some_iff.mp parameter).1
        have unique : index = place :=
          (List.getElem?_inj within distinct.positional).mp (parameter.trans samePlace.symm)
        rw [unique]
        exact argument
    | surplusPositional surplus =>
        exact (distinct.surplusPositional name surplus isPositional).elim
    | surplusNamed surplus =>
        exact (distinct.surplusNamed name surplus isPositional).elim
  · exact fun argument => .positional afterReceiver parameter argument

theorem supplies_surplusPositional_iff
    {binder : Binder}
    (distinct : binder.DistinctNames)
    {call : CallArguments}
    {name : String}
    {value : Value}
    (parameter : binder.surplusPositional = some name) :
    binder.Supplies call name value ↔
      value = .tuple (binder.surplusArguments call) := by
  constructor
  · intro supplied
    cases supplied with
    | positional _ position _ =>
        exact (distinct.surplusPositional name parameter
          (List.mem_of_getElem? position)).elim
    | surplusPositional _ =>
        rfl
    | surplusNamed surplus =>
        exact (distinct.surplus name surplus parameter).elim
  · rintro rfl
    exact .surplusPositional parameter

theorem supplies_surplusNamed_iff
    {binder : Binder}
    (distinct : binder.DistinctNames)
    {call : CallArguments}
    {name : String}
    {value : Value}
    (parameter : binder.surplusNamed = some name) :
    binder.Supplies call name value ↔
      value = Value.ofNamed (binder.undeclaredArguments call) := by
  constructor
  · intro supplied
    cases supplied with
    | positional _ position _ =>
        exact (distinct.surplusNamed name parameter (List.mem_of_getElem? position)).elim
    | surplusPositional surplus =>
        exact (distinct.surplus name parameter surplus).elim
    | surplusNamed _ =>
        rfl
  · rintro rfl
    exact .surplusNamed parameter

/-- What one call supplies to a parameter, a call that agrees on it supplies as well. -/
private theorem supplies_of_agreement
    {binder : Binder}
    {call changed : CallArguments}
    {name : String}
    {value : Value}
    (samePositional :
      ∀ index : Nat,
        binder.positionalNames[index]? = some name →
        changed.positional[index]? = call.positional[index]?)
    (sameSurplus :
      binder.surplusPositional = some name →
      binder.surplusArguments changed = binder.surplusArguments call)
    (sameUndeclared :
      binder.surplusNamed = some name →
      binder.undeclaredArguments changed = binder.undeclaredArguments call)
    (supplied : binder.Supplies changed name value) :
    binder.Supplies call name value := by
  cases supplied with
  | positional afterReceiver parameter argument =>
      rw [samePositional _ parameter] at argument
      exact .positional afterReceiver parameter argument
  | surplusPositional parameter =>
      rw [sameSurplus parameter]
      exact .surplusPositional parameter
  | surplusNamed parameter =>
      rw [sameUndeclared parameter]
      exact .surplusNamed parameter

/-- Calls that agree on what goes to a parameter supply it with the same values. -/
theorem supplies_congr
    {binder : Binder}
    {call changed : CallArguments}
    {name : String}
    {value : Value}
    (samePositional :
      ∀ index : Nat,
        binder.positionalNames[index]? = some name →
        changed.positional[index]? = call.positional[index]?)
    (sameSurplus :
      binder.surplusPositional = some name →
      binder.surplusArguments changed = binder.surplusArguments call)
    (sameUndeclared :
      binder.surplusNamed = some name →
      binder.undeclaredArguments changed = binder.undeclaredArguments call) :
    binder.Supplies changed name value ↔ binder.Supplies call name value := by
  constructor
  · exact supplies_of_agreement samePositional sameSurplus sameUndeclared
  · exact supplies_of_agreement
      (fun index parameter => (samePositional index parameter).symm)
      (fun parameter => (sameSurplus parameter).symm)
      (fun parameter => (sameUndeclared parameter).symm)

/-! ## What a changed argument changes -/

/--
A changed call names the same checked parameters with the same values, and differs
otherwise in supplying one parameter with another value.
-/
structure Resupplies
    (binder : Binder)
    (call changed : CallArguments)
    (name : String)
    (value : Value) :
    Prop where
  kept : ∀ argument ∈ call.named, argument ∈ changed.named
  added :
    ∀ argument ∈ changed.named,
      argument ∈ call.named ∨ Table.get? binder.checkers argument.1 = none
  supplies :
    ∀ other content,
      binder.Supplies changed other content ↔
        if other = name then content = value else binder.Supplies call other content

/--
A value for one parameter of an accepted call can be replaced exactly when the new
value passes, or when a named argument hides it from the checker.
-/
theorem enforce_resupplied_eq_ok_iff
    {binder : Binder}
    (distinct : binder.DistinctNames)
    {call changed : CallArguments}
    (accepted : binder.enforce call = .ok ())
    {name : String}
    {value : Value}
    (resupplies : binder.Resupplies call changed name value) :
    binder.enforce changed = .ok () ↔
      name ∈ Table.names call.named ∨ binder.Admits name value := by
  rw [enforce_eq_ok_iff_supplies distinct] at accepted ⊢
  obtain ⟨namedAdmitted, suppliedAdmitted⟩ := accepted
  have stillNamed : ∀ other,
      other ∈ Table.names call.named → other ∈ Table.names changed.named := by
    intro other member
    obtain ⟨argument, inCall, same⟩ := List.mem_map.mp member
    exact List.mem_map.mpr ⟨argument, resupplies.kept argument inCall, same⟩
  constructor
  · rintro ⟨-, changedAdmitted⟩
    by_cases hidden : name ∈ Table.names call.named
    · exact .inl hidden
    · refine .inr fun checker checked => ?_
      -- The name has a checker, so no argument added to the call goes by it.
      have free : name ∉ Table.names changed.named := by
        intro member
        obtain ⟨argument, inChanged, same⟩ := List.mem_map.mp member
        rcases resupplies.added argument inChanged with inCall | unchecked
        · exact hidden (List.mem_map.mpr ⟨argument, inCall, same⟩)
        · rw [same, checked] at unchecked
          cases unchecked
      have supplied : binder.Supplies changed name value := by
        rw [resupplies.supplies, if_pos rfl]
      exact changedAdmitted name value free supplied checker checked
  · intro harmless
    refine ⟨fun argument inChanged => ?_, fun other content free supplied => ?_⟩
    · rcases resupplies.added argument inChanged with inCall | unchecked
      · exact namedAdmitted argument inCall
      · intro checker checked
        rw [unchecked] at checked
        cases checked
    · have wasFree : other ∉ Table.names call.named :=
        fun member => free (stillNamed other member)
      rw [resupplies.supplies] at supplied
      by_cases same : other = name
      · subst same
        rw [if_pos rfl] at supplied
        subst supplied
        exact harmless.resolve_left wasFree
      · rw [if_neg same] at supplied
        exact suppliedAdmitted other content wasFree supplied

/-- Replacing a positional argument resupplies the parameter at its position. -/
theorem resupplies_positional
    {binder : Binder}
    (distinct : binder.DistinctNames)
    {call : CallArguments}
    {index : Nat}
    {name : String}
    (afterReceiver : binder.receiverOffset ≤ index)
    (parameter : binder.positionalNames[index]? = some name)
    (present : index < call.positional.length)
    (value : Value) :
    binder.Resupplies call
      { call with positional := call.positional.set index value } name value := by
  refine ⟨fun _ member => member, fun _ member => .inl member, fun other content => ?_⟩
  split
  case isTrue same =>
    subst same
    rw [supplies_positional_iff distinct afterReceiver parameter]
    simp [present, eq_comm]
  case isFalse apart =>
    apply supplies_congr
    · intro place elsewhere
      have differs : index ≠ place := by
        rintro rfl
        rw [parameter, Option.some.injEq] at elsewhere
        exact apart elsewhere.symm
      exact List.getElem?_set_ne differs
    · intro _
      have within : index < binder.positionalNames.length :=
        (List.getElem?_eq_some_iff.mp parameter).1
      simp only [surplusArguments, List.drop_set]
      rw [if_pos (Nat.lt_of_lt_of_le within (Nat.le_max_left ..))]
    · exact fun _ => rfl

/-- Replacing the surplus positional arguments resupplies their parameter. -/
theorem resupplies_surplusPositional
    {binder : Binder}
    (distinct : binder.DistinctNames)
    {call : CallArguments}
    {name : String}
    (parameter : binder.surplusPositional = some name)
    (enough :
      max binder.positionalNames.length binder.receiverOffset ≤ call.positional.length)
    (surplus : List Value) :
    binder.Resupplies call
      { call with
        positional :=
          call.positional.take (max binder.positionalNames.length binder.receiverOffset) ++
            surplus }
      name (.tuple surplus) := by
  refine ⟨fun _ member => member, fun _ member => .inl member, fun other content => ?_⟩
  have fills :
      (call.positional.take
        (max binder.positionalNames.length binder.receiverOffset)).length =
        max binder.positionalNames.length binder.receiverOffset :=
    List.length_take_of_le enough
  split
  case isTrue same =>
    subst same
    rw [supplies_surplusPositional_iff distinct parameter, surplusArguments,
      List.drop_left' fills]
  case isFalse apart =>
    apply supplies_congr
    · intro place elsewhere
      have within : place < max binder.positionalNames.length binder.receiverOffset := by
        have inNames := (List.getElem?_eq_some_iff.mp elsewhere).1
        omega
      rw [List.getElem?_append_left (by omega), List.getElem?_take_of_lt within]
    · intro alsoSurplus
      rw [parameter, Option.some.injEq] at alsoSurplus
      exact (apart alsoSurplus.symm).elim
    · exact fun _ => rfl

/-- Adding undeclared named arguments resupplies the parameter that takes them. -/
theorem resupplies_surplusNamed
    {binder : Binder}
    (distinct : binder.DistinctNames)
    {call : CallArguments}
    {name : String}
    (parameter : binder.surplusNamed = some name)
    {others : List (String × Value)}
    (undeclared : ∀ argument ∈ others, argument.1 ∉ binder.declaredNames)
    (unchecked :
      ∀ argument ∈ others, Table.get? binder.checkers argument.1 = none) :
    binder.Resupplies call { call with named := call.named ++ others } name
      (Value.ofNamed (binder.undeclaredArguments call ++ others)) := by
  refine ⟨fun _ member => List.mem_append_left _ member, ?_, fun other content => ?_⟩
  · intro argument member
    rcases List.mem_append.mp member with inCall | inOthers
    · exact .inl inCall
    · exact .inr (unchecked argument inOthers)
  split
  case isTrue same =>
    subst same
    have allKept :
        others.filter (fun argument => !binder.declaredNames.contains argument.1) =
          others := by
      rw [List.filter_eq_self]
      intro argument member
      simpa using undeclared argument member
    rw [supplies_surplusNamed_iff distinct parameter, undeclaredArguments,
      List.filter_append, allKept]
    rfl
  case isFalse apart =>
    apply supplies_congr
    · exact fun _ _ => rfl
    · exact fun _ => rfl
    · intro alsoSurplus
      rw [parameter, Option.some.injEq] at alsoSurplus
      exact (apart alsoSurplus.symm).elim

end CallGuard.Binder
