import CallGuard.Binder
import CallGuard.Proofs.Table

namespace CallGuard.Binder

/-!
# What a call offers beside its named arguments

Binding starts from the named arguments of a call and enters further offers where
their names are free: positional arguments under the parameters at their positions,
then what the checked surplus parameters take.  A call is accepted exactly when
every named argument passes its checker and so does the first offer under every
name that no named argument has.
-/

/-- The positional arguments with a parameter of their own, under its name. -/
def positionalOffers
    (binder : Binder)
    (call : CallArguments) :
    List (String × Value) :=
  (binder.positionalNames.zip call.positional).drop binder.receiverOffset

/-- What a surplus parameter takes, if it is checked. -/
def surplusOffer
    (binder : Binder)
    (name : Option String)
    (value : Value) :
    List (String × Value) :=
  (binder.checkedName? name).toList.map fun name => (name, value)

/-- Everything that a call offers beside its named arguments, in order. -/
def offers
    (binder : Binder)
    (call : CallArguments) :
    List (String × Value) :=
  binder.positionalOffers call ++
    (binder.surplusOffer binder.surplusPositional
        (.tuple (binder.surplusArguments call)) ++
      binder.surplusOffer binder.surplusNamed
        (Value.ofNamed (binder.undeclaredArguments call)))

/-- Binding positions that all have names is entering the arguments under them. -/
theorem bindPositional_eq_enterAll
    {binder : Binder}
    {bound : Table Value}
    {arguments : List (Value × Nat)}
    {entries : List (String × Value)}
    (named :
      arguments.map (fun argument =>
          binder.positionalNames[argument.2]?.map fun name => (name, argument.1)) =
        entries.map some) :
    binder.bindPositional bound arguments = Table.enterAll bound entries := by
  induction arguments generalizing bound entries with
  | nil =>
      cases entries with
      | nil =>
          rfl
      | cons entry rest =>
          cases named
  | cons argument others inductionHypothesis =>
      cases entries with
      | nil =>
          cases named
      | cons entry rest =>
          simp only [List.map_cons, List.cons.injEq] at named
          obtain ⟨name, found, rfl⟩ := Option.map_eq_some_iff.mp named.1
          have step :
              binder.bindPositional (bound.enterNew name argument.1) others =
                Table.enterAll (bound.enterNew name argument.1) rest :=
            inductionHypothesis named.2
          simpa [bindPositional, found, Table.enterAll] using step

/-- The bindable arguments stand at the positions of their parameters. -/
theorem bindable_named
    (binder : Binder)
    (call : CallArguments) :
    (binder.bindable call).map (fun argument =>
        binder.positionalNames[argument.2]?.map fun name => (name, argument.1)) =
      (binder.positionalOffers call).map some := by
  apply List.ext_getElem?
  intro place
  simp only [bindable, positionalOffers, bindableCount, List.getElem?_map,
    List.getElem?_take, List.getElem?_drop, List.getElem?_zipIdx, Nat.zero_add,
    List.zip, List.getElem?_zipWith]
  by_cases within : place < binder.positionalNames.length - binder.receiverOffset
  · have position : binder.receiverOffset + place < binder.positionalNames.length := by
      omega
    rw [if_pos within, List.getElem?_eq_getElem position]
    cases argument : call.positional[binder.receiverOffset + place]? with
    | none =>
        simp
    | some value =>
        simp [position]
  · have beyond : binder.positionalNames.length ≤ binder.receiverOffset + place := by
      omega
    rw [if_neg within, List.getElem?_eq_none beyond]
    rfl

theorem bindSurplus_eq_enterAll
    (binder : Binder)
    (name : Option String)
    (value : Value)
    (bound : Table Value) :
    binder.bindSurplus name value bound =
      Table.enterAll bound (binder.surplusOffer name value) := by
  unfold bindSurplus surplusOffer
  cases binder.checkedName? name with
  | none =>
      rfl
  | some checked =>
      rfl

/-- Binding enters all offers where the named arguments leave their names free. -/
theorem bind_eq_enterAll
    (binder : Binder)
    (call : CallArguments) :
    binder.bind call = Table.enterAll call.named (binder.offers call) := by
  simp only [bind, bindSurplus_eq_enterAll,
    bindPositional_eq_enterAll (binder.bindable_named call), offers, Table.enterAll,
    List.foldl_append]

/-- A value passes the checker that a binder holds under a name, if there is one. -/
def Admits
    (binder : Binder)
    (name : String)
    (value : Value) :
    Prop :=
  ∀ checker, Table.get? binder.checkers name = some checker →
    checker.run binder.options (some name) value = .ok ()

theorem enforceBound_eq_ok_iff
    {binder : Binder}
    {bound : List (String × Value)} :
    binder.enforceBound bound = .ok () ↔
      ∀ entry ∈ bound, binder.Admits entry.1 entry.2 := by
  induction bound with
  | nil =>
      simp [enforceBound]
  | cons entry rest inductionHypothesis =>
      rw [List.forall_mem_cons, ← inductionHypothesis, enforceBound, Admits]
      cases Table.get? binder.checkers entry.1 with
      | none =>
          simp
      | some checker =>
          simp only [Option.some.injEq, forall_eq']
          cases checker.run binder.options (some entry.1) entry.2 with
          | error cause =>
              simp
          | ok passed =>
              simp

/--
A call is accepted exactly when its named arguments pass, and so does what it
offers first under each name that they leave free.
-/
theorem enforce_eq_ok_iff
    {binder : Binder}
    {call : CallArguments} :
    binder.enforce call = .ok () ↔
      (∀ argument ∈ call.named, binder.Admits argument.1 argument.2) ∧
        ∀ name value,
          name ∉ Table.names call.named →
          Table.get? (binder.offers call) name = some value →
          binder.Admits name value := by
  rw [enforce, enforceBound_eq_ok_iff, bind_eq_enterAll]
  constructor
  · intro admitted
    refine ⟨fun argument member => ?_, fun name value free offered => ?_⟩
    · exact admitted argument (Table.mem_enterAll_iff.mpr (.inl member))
    · exact admitted (name, value) (Table.mem_enterAll_iff.mpr (.inr ⟨free, offered⟩))
  · rintro ⟨namedAdmitted, offersAdmitted⟩ ⟨name, value⟩ member
    rcases Table.mem_enterAll_iff.mp member with named | ⟨free, offered⟩
    · exact namedAdmitted (name, value) named
    · exact offersAdmitted name value free offered

/-! ## Which offer comes first -/

theorem names_positionalOffers_sublist
    (binder : Binder)
    (call : CallArguments) :
    (Table.names (binder.positionalOffers call)).Sublist binder.positionalNames := by
  have zipped
      (names : List String)
      (values : List Value) :
      (Table.names (names.zip values)).Sublist names := by
    induction names generalizing values with
    | nil =>
        exact .slnil
    | cons name rest inductionHypothesis =>
        cases values with
        | nil =>
            exact List.nil_sublist _
        | cons value others =>
            exact (inductionHypothesis others).cons_cons name
  exact ((List.drop_sublist _ _).map _).trans
    (zipped binder.positionalNames call.positional)

/-- A positional argument is the first offer under the name of its parameter. -/
theorem get?_offers_positional
    {binder : Binder}
    (distinct : binder.positionalNames.Nodup)
    {call : CallArguments}
    {index : Nat}
    {name : String}
    {value : Value}
    (afterReceiver : binder.receiverOffset ≤ index)
    (parameter : binder.positionalNames[index]? = some name)
    (argument : call.positional[index]? = some value) :
    Table.get? (binder.offers call) name = some value := by
  have offered : (name, value) ∈ binder.positionalOffers call := by
    apply List.mem_of_getElem? (i := index - binder.receiverOffset)
    rw [positionalOffers, List.getElem?_drop, Nat.add_sub_cancel' afterReceiver,
      List.getElem?_zip_eq_some]
    exact ⟨parameter, argument⟩
  have offersDistinct : (Table.names (binder.positionalOffers call)).Nodup :=
    (binder.names_positionalOffers_sublist call).nodup distinct
  rw [offers, Table.get?_append, Table.get?_eq_some_of_mem offersDistinct offered,
    Option.some_or]

/-- Parameters for surplus arguments get no positional offer. -/
theorem get?_positionalOffers_eq_none
    {binder : Binder}
    {call : CallArguments}
    {name : String}
    (apart : name ∉ binder.positionalNames) :
    Table.get? (binder.positionalOffers call) name = none := by
  rw [Table.get?_eq_none_iff]
  exact fun member =>
    apart ((binder.names_positionalOffers_sublist call).subset member)

theorem get?_surplusOffer_self
    {binder : Binder}
    {name : String}
    {checker : Checker}
    (checked : Table.get? binder.checkers name = some checker)
    (value : Value) :
    Table.get? (binder.surplusOffer (some name) value) name = some value := by
  have present : Table.has binder.checkers name = true := by
    rw [Table.has, checked]
    rfl
  rw [surplusOffer, checkedName?, Option.filter_some, if_pos present]
  simp [Table.get?]

theorem get?_surplusOffer_of_ne
    {binder : Binder}
    {parameter : Option String}
    {name : String}
    (apart : parameter ≠ some name)
    (value : Value) :
    Table.get? (binder.surplusOffer parameter value) name = none := by
  cases parameter with
  | none =>
      rfl
  | some other =>
      have different : other ≠ name := fun same => apart (congrArg some same)
      rw [surplusOffer, checkedName?, Option.filter_some]
      split
      case isTrue present =>
        simp [Table.get?, different]
      case isFalse absent =>
        rfl

/-- The surplus positional arguments come first under the name of their parameter. -/
theorem get?_offers_surplusPositional
    {binder : Binder}
    {call : CallArguments}
    {name : String}
    {checker : Checker}
    (parameter : binder.surplusPositional = some name)
    (checked : Table.get? binder.checkers name = some checker)
    (apart : name ∉ binder.positionalNames) :
    Table.get? (binder.offers call) name =
      some (.tuple (binder.surplusArguments call)) := by
  rw [offers, Table.get?_append, Table.get?_append,
    get?_positionalOffers_eq_none apart, parameter, get?_surplusOffer_self checked,
    Option.none_or, Option.some_or]

/-- The surplus named arguments come first under the name of their parameter. -/
theorem get?_offers_surplusNamed
    {binder : Binder}
    {call : CallArguments}
    {name : String}
    {checker : Checker}
    (parameter : binder.surplusNamed = some name)
    (checked : Table.get? binder.checkers name = some checker)
    (apart : name ∉ binder.positionalNames)
    (notPositional : binder.surplusPositional ≠ some name) :
    Table.get? (binder.offers call) name =
      some (Value.ofNamed (binder.undeclaredArguments call)) := by
  rw [offers, Table.get?_append, Table.get?_append,
    get?_positionalOffers_eq_none apart, get?_surplusOffer_of_ne notPositional,
    parameter, get?_surplusOffer_self checked, Option.none_or, Option.none_or]

end CallGuard.Binder
