import CallGuard.Proofs.Binding.Ordinary

namespace CallGuard

/-!
# Where positional arguments arrive

A positional argument is the receiver, goes to the parameter at its position, or is
surplus.  The receiver is the first declared parameter, though, and positions belong
to the positional parameters alone.  Where the receiver is passed by name, the first
positional argument is taken for it and arrives nowhere; everywhere else every
positional argument arrives at one place.
-/

/-- Where a positional argument is found once a call is bound. -/
inductive Destination where
  | receiver
  | parameter (name : String)
  | surplus (place : Nat)

namespace Signature

/--
Among bound arguments the positional argument of an index is found at a destination,
where the parameter of the given name takes the surplus.
-/
inductive Arrives
    (signature : Signature)
    (settings : Settings)
    (surplusName : String)
    (bound : Table Value)
    (index : Nat)
    (value : Value) :
    Destination → Prop where
  /-- The first positional parameter is a receiver and left alone. -/
  | receiver
      {name : String}
      (isFirst : index = 0)
      (parameter : signature.positionalNames[0]? = some name)
      (isReceiver : settings.isReceiver name = true)
      (unbound : Table.get? bound name = none) :
      Arrives signature settings surplusName bound index value .receiver
  | parameter
      {name : String}
      (parameter : signature.positionalNames[index]? = some name)
      (isBound : Table.get? bound name = some value) :
      Arrives signature settings surplusName bound index value (.parameter name)
  | surplus
      {items : List Value}
      {place : Nat}
      (isBound : Table.get? bound surplusName = some (.tuple items))
      (behind : index = signature.positionalNames.length + place)
      (isItem : items[place]? = some value) :
      Arrives signature settings surplusName bound index value (.surplus place)

/--
Every positional argument of a call arrives, at one place only; no two arrive at the
same place, and the surplus has no room for anything else.
-/
structure AllArrive
    (signature : Signature)
    (settings : Settings)
    (surplusName : String)
    (call : CallArguments)
    (bound : Table Value) :
    Prop where
  once :
    ∀ (index : Nat) value,
      call.positional[index]? = some value →
      ∃! destination,
        signature.Arrives settings surplusName bound index value destination
  apart :
    ∀ index value other another destination,
      signature.Arrives settings surplusName bound index value destination →
      signature.Arrives settings surplusName bound other another destination →
      index = other
  surplus :
    ∀ items,
      Table.get? bound surplusName = some (.tuple items) →
      items.length = call.positional.length - signature.positionalNames.length

/-- A receiver, if there is one, comes first among the positional parameters. -/
def ReceiverLeads
    (signature : Signature)
    (settings : Settings) :
    Prop :=
  signature.kind settings = .method →
    ∃ name,
      signature.positionalNames[0]? = some name ∧ settings.isReceiver name = true

/-- Only a method has a receiver to pass over, and it is the first argument. -/
theorem method_of_lt_receiverOffset
    {signature : Signature}
    {settings : Settings}
    {index : Nat}
    (passedOver : index < signature.receiverOffset settings) :
    signature.kind settings = .method ∧ index = 0 := by
  unfold receiverOffset at passedOver
  cases kind : signature.kind settings with
  | method =>
      simpa [kind] using passedOver
  | function =>
      simp [kind] at passedOver

theorem ReceiverLeads.receiverOffset_le
    {signature : Signature}
    {settings : Settings}
    (leads : signature.ReceiverLeads settings) :
    signature.receiverOffset settings ≤ signature.positionalNames.length := by
  apply Nat.le_of_not_lt
  intro beyond
  obtain ⟨isMethod, noParameter⟩ := method_of_lt_receiverOffset beyond
  obtain ⟨name, parameter, -⟩ := leads isMethod
  have room := (List.getElem?_eq_some_iff.mp parameter).1
  omega

namespace Arrives

variable
  {signature : Signature}
  {settings : Settings}
  {surplusName : String}
  {bound : Table Value}
  {index : Nat}
  {value : Value}

/-- An argument arrives at one place only. -/
theorem destination_eq
    {destination other : Destination}
    (first : signature.Arrives settings surplusName bound index value destination)
    (second : signature.Arrives settings surplusName bound index value other) :
    destination = other := by
  have positionalOfParameter
      {place : Nat}
      {name : String}
      (parameter : signature.positionalNames[place]? = some name) :
      place < signature.positionalNames.length :=
    (List.getElem?_eq_some_iff.mp parameter).1
  cases first with
  | receiver isFirst parameter isReceiver unbound =>
      subst isFirst
      have room := positionalOfParameter parameter
      cases second with
      | receiver =>
          rfl
      | parameter alsoParameter isBound =>
          obtain rfl := Option.some.inj (parameter.symm.trans alsoParameter)
          rw [unbound] at isBound
          cases isBound
      | surplus _ behind _ =>
          omega
  | parameter parameter isBound =>
      have room := positionalOfParameter parameter
      cases second with
      | receiver isFirst alsoParameter _ unbound =>
          subst isFirst
          obtain rfl := Option.some.inj (parameter.symm.trans alsoParameter)
          rw [unbound] at isBound
          cases isBound
      | parameter alsoParameter _ =>
          rw [Option.some.inj (parameter.symm.trans alsoParameter)]
      | surplus _ behind _ =>
          omega
  | @surplus items place isBound behind isItem =>
      cases second with
      | receiver isFirst parameter _ _ =>
          have room := positionalOfParameter parameter
          omega
      | parameter parameter _ =>
          have room := positionalOfParameter parameter
          omega
      | @surplus _ otherPlace _ otherBehind _ =>
          have samePlace : place = otherPlace := by
            omega
          rw [samePlace]

/-- No two arguments arrive at the same place. -/
theorem index_eq
    (distinct : signature.positionalNames.Nodup)
    {other : Nat}
    {another : Value}
    {destination : Destination}
    (first : signature.Arrives settings surplusName bound index value destination)
    (second : signature.Arrives settings surplusName bound other another destination) :
    index = other := by
  cases first with
  | receiver isFirst =>
      cases second with
      | receiver otherFirst =>
          rw [isFirst, otherFirst]
  | parameter parameter =>
      cases second with
      | parameter otherParameter =>
          have within : index < signature.positionalNames.length :=
            (List.getElem?_eq_some_iff.mp parameter).1
          exact (List.getElem?_inj within distinct).mp
            (parameter.trans otherParameter.symm)
  | surplus _ behind _ =>
      cases second with
      | surplus _ otherBehind _ =>
          rw [behind, otherBehind]

end Arrives

end Signature

namespace Binder

/-! ## What the parameters are bound to -/

/-- A positional parameter is offered what stands at its position after the receiver. -/
theorem get?_offers_parameter_eq_some_iff
    {binder : Binder}
    (distinct : binder.DistinctNames)
    {call : CallArguments}
    {index : Nat}
    {name : String}
    {value : Value}
    (parameter : binder.positionalNames[index]? = some name) :
    Table.get? (binder.offers call) name = some value ↔
      binder.receiverOffset ≤ index ∧ call.positional[index]? = some value := by
  have isPositional : name ∈ binder.positionalNames := List.mem_of_getElem? parameter
  constructor
  · intro offered
    cases supplies_of_mem_offers (Table.mem_of_get?_eq_some offered) with
    | @positional place _ _ afterReceiver samePlace argument =>
        have within : index < binder.positionalNames.length :=
          (List.getElem?_eq_some_iff.mp parameter).1
        obtain rfl : index = place :=
          (List.getElem?_inj within distinct.positional).mp (parameter.trans samePlace.symm)
        exact ⟨afterReceiver, argument⟩
    | surplusPositional surplus =>
        exact (distinct.surplusPositional name surplus isPositional).elim
    | surplusNamed surplus =>
        exact (distinct.surplusNamed name surplus isPositional).elim
  · rintro ⟨afterReceiver, argument⟩
    exact get?_offers_positional distinct.positional afterReceiver parameter argument

/-- What no named argument hides is bound as it is offered. -/
theorem get?_bind_of_not_named
    {binder : Binder}
    {call : CallArguments}
    {name : String}
    (free : name ∉ Table.names call.named) :
    Table.get? (binder.bind call) name = Table.get? (binder.offers call) name := by
  rw [bind_eq_enterAll, Table.get?_enterAll, Table.get?_eq_none_iff.mpr free, Option.none_or]

section built

variable
  {family : Family}
  {table : SpecTable}
  {signature : Signature}
  {settings : Settings}
  {binder : Binder}
  {surplusName : String}
  {call : CallArguments}

/-- A positional parameter that a call fills is bound to the argument after the receiver. -/
theorem get?_bind_parameter_eq_some_iff
    (built : build family table signature settings = .ok binder)
    (distinct : (signature.parameters.map Parameter.name).Nodup)
    (free :
      ∀ name ∈ signature.positionalNames.take call.positional.length,
        name ∉ Table.names call.named)
    {index : Nat}
    {name : String}
    {value : Value}
    (parameter : signature.positionalNames[index]? = some name)
    (filled : index < call.positional.length) :
    Table.get? (binder.bind call) name = some value ↔
      signature.receiverOffset settings ≤ index ∧
        call.positional[index]? = some value := by
  have distinctNames := distinctNames_of_build built distinct
  obtain ⟨checkers, -, rfl⟩ := build_eq_ok_iff.mp built
  have isFilled : name ∈ signature.positionalNames.take call.positional.length := by
    apply List.mem_of_getElem? (i := index)
    rw [List.getElem?_take_of_lt filled, parameter]
  rw [get?_bind_of_not_named (free name isFilled),
    get?_offers_parameter_eq_some_iff distinctNames parameter]

/-- The checked surplus holds the positional arguments past parameters and receiver. -/
theorem get?_bind_surplusPositional
    (built : build family table signature settings = .ok binder)
    (distinct : (signature.parameters.map Parameter.name).Nodup)
    (parameter : signature.surplusPositionalName? = some surplusName)
    (checked : Table.has binder.checkers surplusName = true)
    (free : surplusName ∉ Table.names call.named) :
    Table.get? (binder.bind call) surplusName =
      some (.tuple
        (call.positional.drop
          (max signature.positionalNames.length (signature.receiverOffset settings)))) := by
  have distinctNames := distinctNames_of_build built distinct
  obtain ⟨checkers, -, rfl⟩ := build_eq_ok_iff.mp built
  obtain ⟨checker, found⟩ := Option.isSome_iff_exists.mp checked
  rw [get?_bind_of_not_named free, get?_offers_surplusPositional parameter found
    (distinctNames.surplusPositional surplusName parameter)]
  rfl

/-- With a receiver in front, every positional argument arrives. -/
theorem allArrive_of_receiverLeads
    (built : build family table signature settings = .ok binder)
    (distinct : (signature.parameters.map Parameter.name).Nodup)
    (parameter : signature.surplusPositionalName? = some surplusName)
    (checked : Table.has binder.checkers surplusName = true)
    (free :
      ∀ name ∈ signature.positionalNames.take call.positional.length,
        name ∉ Table.names call.named)
    (surplusFree : surplusName ∉ Table.names call.named)
    (leads : signature.ReceiverLeads settings) :
    signature.AllArrive settings surplusName call (binder.bind call) := by
  have surplusBound := get?_bind_surplusPositional built distinct parameter checked surplusFree
  rw [Nat.max_eq_left leads.receiverOffset_le] at surplusBound
  constructor
  case once =>
    intro index value argument
    have filled : index < call.positional.length :=
      (List.getElem?_eq_some_iff.mp argument).1
    suffices arrives :
        ∃ destination,
          signature.Arrives settings surplusName (binder.bind call) index value
            destination by
      obtain ⟨destination, arrived⟩ := arrives
      exact ⟨destination, arrived, fun other alsoArrived => alsoArrived.destination_eq arrived⟩
    by_cases afterReceiver : signature.receiverOffset settings ≤ index
    · by_cases within : index < signature.positionalNames.length
      · have named := List.getElem?_eq_getElem within
        have bound :=
          (get?_bind_parameter_eq_some_iff built distinct free named filled).mpr
            ⟨afterReceiver, argument⟩
        exact ⟨_, .parameter named bound⟩
      · have behind : signature.positionalNames.length ≤ index := Nat.le_of_not_lt within
        refine ⟨_, .surplus surplusBound (Nat.add_sub_cancel' behind).symm ?_⟩
        rw [List.getElem?_drop, Nat.add_sub_cancel' behind, argument]
    · obtain ⟨isMethod, isFirst⟩ :=
        Signature.method_of_lt_receiverOffset (Nat.lt_of_not_le afterReceiver)
      obtain ⟨name, named, isReceiver⟩ := leads isMethod
      subst isFirst
      refine ⟨_, .receiver rfl named isReceiver (Option.eq_none_iff_forall_ne_some.mpr ?_)⟩
      intro content bound
      exact afterReceiver
        ((get?_bind_parameter_eq_some_iff built distinct free named filled).mp bound).1
  case apart =>
    intro index value other another destination first second
    exact first.index_eq (Signature.nodup_positionalNames distinct) second
  case surplus =>
    intro items bound
    cases surplusBound.symm.trans bound
    exact List.length_drop

/-- Where every positional argument arrives, no receiver is passed by name. -/
theorem receiverLeads_of_allArrive
    (built : build family table signature settings = .ok binder)
    (distinct : (signature.parameters.map Parameter.name).Nodup)
    (parameter : signature.surplusPositionalName? = some surplusName)
    (checked : Table.has binder.checkers surplusName = true)
    (free :
      ∀ name ∈ signature.positionalNames.take call.positional.length,
        name ∉ Table.names call.named)
    (surplusFree : surplusName ∉ Table.names call.named)
    (allArrive : signature.AllArrive settings surplusName call (binder.bind call))
    (nonempty : call.positional ≠ []) :
    signature.ReceiverLeads settings := by
  intro isMethod
  have oneOffset : signature.receiverOffset settings = 1 := by
    rw [Signature.receiverOffset, isMethod]
  have filled : 0 < call.positional.length := List.length_pos_iff.mpr nonempty
  obtain ⟨destination, arrives, -⟩ :=
    allArrive.once 0 _ (List.getElem?_eq_getElem filled)
  cases arrives with
  | @receiver name _ named isReceiver _ =>
      exact ⟨name, named, isReceiver⟩
  | parameter named bound =>
      have afterReceiver :=
        ((get?_bind_parameter_eq_some_iff built distinct free named filled).mp bound).1
      omega
  | surplus _ behind _ =>
      -- Without positional parameters the surplus lacks the argument taken for a receiver.
      have noParameters : signature.positionalNames.length = 0 := by
        omega
      have surplusBound :=
        get?_bind_surplusPositional built distinct parameter checked surplusFree
      have sameLength := allArrive.surplus _ surplusBound
      rw [List.length_drop, noParameters, oneOffset] at sameLength
      omega

/-- The first argument of a method leaves no trace among the bound arguments. -/
theorem bind_set_first_of_method
    (built : build family table signature settings = .ok binder)
    (isMethod : signature.kind settings = .method)
    (other : Value) :
    binder.bind { call with positional := call.positional.set 0 other } =
      binder.bind call := by
  obtain ⟨checkers, -, rfl⟩ := build_eq_ok_iff.mp built
  have oneOffset : signature.receiverOffset settings = 1 := by
    rw [Signature.receiverOffset, isMethod]
  have behindFirst
      {count : Nat}
      (positive : 0 < count) :
      (call.positional.set 0 other).drop count = call.positional.drop count := by
    rw [List.drop_set, if_pos positive]
  have samePositional :
      (signature.positionalNames.zip (call.positional.set 0 other)).drop 1 =
        (signature.positionalNames.zip call.positional).drop 1 := by
    rw [List.zip, List.drop_zipWith, List.drop_zipWith, behindFirst Nat.one_pos]
  simp only [bind_eq_enterAll, offers, positionalOffers, surplusArguments,
    undeclaredArguments, oneOffset, samePositional,
    behindFirst (Nat.lt_of_lt_of_le Nat.one_pos (Nat.le_max_right ..))]

/--
If a call names no parameter that it fills otherwise, and the surplus is checked, then
every positional argument arrives at its place exactly when the receiver, if there is
one, is the first positional parameter, or when there is no positional argument at all.
The first argument of a method does not matter for what is bound.
-/
theorem positional_arrive_iff
    (built : build family table signature settings = .ok binder)
    (distinct : (signature.parameters.map Parameter.name).Nodup)
    (parameter : signature.surplusPositionalName? = some surplusName)
    (checked : Table.has binder.checkers surplusName = true)
    (free :
      ∀ name ∈ signature.positionalNames.take call.positional.length,
        name ∉ Table.names call.named)
    (surplusFree : surplusName ∉ Table.names call.named) :
    (signature.AllArrive settings surplusName call (binder.bind call) ↔
        signature.ReceiverLeads settings ∨ call.positional = []) ∧
      (signature.kind settings = .method →
        ∀ other,
          binder.bind { call with positional := call.positional.set 0 other } =
            binder.bind call) := by
  refine ⟨⟨fun allArrive => ?_, ?_⟩, bind_set_first_of_method built⟩
  · by_cases empty : call.positional = []
    · exact .inr empty
    · exact .inl (receiverLeads_of_allArrive built distinct parameter checked free
        surplusFree allArrive empty)
  · rintro (leads | empty)
    · exact allArrive_of_receiverLeads built distinct parameter checked free surplusFree leads
    · constructor
      case once =>
        intro index value argument
        rw [empty] at argument
        cases argument
      case apart =>
        intro index value other another destination first second
        exact first.index_eq (Signature.nodup_positionalNames distinct) second
      case surplus =>
        intro items bound
        have surplusBound :=
          get?_bind_surplusPositional built distinct parameter checked surplusFree
        cases surplusBound.symm.trans bound
        rw [empty, List.drop_nil, List.length_nil, Nat.zero_sub]

end built

/-- A function of any arguments and a class that is passed by name. -/
def classByName : Signature :=
  ⟨"f", Signature.defaultModule,
    [⟨.surplusPositional, "args", none⟩, ⟨.keywordOnly, "cls", none⟩]⟩

/-- Numbers as surplus arguments. -/
def surplusNumbers : SpecTable :=
  ⟨[], [("args", .tuple [.type .int, .skip])]⟩

/-- A call with a text alone. -/
def loneText : CallArguments :=
  ⟨[.str "a"], []⟩

/-- The arguments of `tallyCall` all arrive, and that of `loneText` does not. -/
theorem tallyCall_positional_arrive :
    (∃ binder,
      build .typed tallyTable tallyMethod Settings.standard = .ok binder ∧
        tallyMethod.AllArrive Settings.standard "rest" (tallyCall (.int 2) (.int 3))
          (binder.bind (tallyCall (.int 2) (.int 3)))) ∧
      ∃ binder,
        build .typed surplusNumbers classByName Settings.standard = .ok binder ∧
          ¬classByName.AllArrive Settings.standard "args" loneText (binder.bind loneText) ∧
          ∀ other, binder.bind ⟨[other], []⟩ = binder.bind loneText := by
  constructor
  · have built : build .typed tallyTable tallyMethod Settings.standard = .ok _ := rfl
    have leads : tallyMethod.ReceiverLeads Settings.standard :=
      fun _ => ⟨"self", rfl, by decide⟩
    have free :
        ∀ name ∈ tallyMethod.positionalNames.take
            (tallyCall (.int 2) (.int 3)).positional.length,
          name ∉ Table.names (tallyCall (.int 2) (.int 3)).named := by
      decide
    have surplusFree : "rest" ∉ Table.names (tallyCall (.int 2) (.int 3)).named := by
      decide
    have arrive := positional_arrive_iff built (by decide) rfl rfl free surplusFree
    exact ⟨_, built, arrive.1.mpr (.inl leads)⟩
  · have built : build .typed surplusNumbers classByName Settings.standard = .ok _ := rfl
    have free :
        ∀ name ∈ classByName.positionalNames.take loneText.positional.length,
          name ∉ Table.names loneText.named := by
      decide
    have surplusFree : "args" ∉ Table.names loneText.named := by
      decide
    have arrive := positional_arrive_iff built (by decide) rfl rfl free surplusFree
    refine ⟨_, built, fun allArrive => ?_, arrive.2 rfl⟩
    rcases arrive.1.mp allArrive with leads | empty
    · obtain ⟨name, parameter, -⟩ := leads rfl
      cases parameter
    · cases empty

/-- The text of `loneText` arrives nowhere, and no checker ever sees it. -/
theorem loneText_lost :
    ∃ binder,
      build .typed surplusNumbers classByName Settings.standard = .ok binder ∧
        (classByName.parameters.map Parameter.name).Nodup ∧
        classByName.surplusPositionalName? = some "args" ∧
        Table.has binder.checkers "args" = true ∧
        Table.names loneText.named = [] ∧
        binder.bind loneText = [("args", .tuple [])] ∧
        (∀ destination,
          ¬classByName.Arrives Settings.standard "args" (binder.bind loneText) 0 (.str "a")
            destination) ∧
        binder.enforce loneText = .ok () ∧
        ¬binder.Admits "args" (.tuple loneText.positional) := by
  have built : build .typed surplusNumbers classByName Settings.standard = .ok _ := rfl
  refine ⟨_, built, by decide, rfl, rfl, rfl, rfl, fun destination arrives => ?_, rfl,
    fun admitted => ?_⟩
  · cases arrives with
    | receiver _ parameter =>
        cases parameter
    | parameter parameter =>
        cases parameter
    | surplus isBound _ isItem =>
        cases isBound
        cases isItem
  · cases admitted _ rfl

end Binder

end CallGuard
