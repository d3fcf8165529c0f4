import CallGuard.Proofs.Binding.Precedence

namespace CallGuard

/-!
# Ordinary calls

An ordinary call names no parameter that it supplies otherwise.  Nothing is hidden in
it then.  The named arguments are checked in the order of the call, after them the
positional ones by their parameters, and at last what is left of both as a tuple and
as a map.  The first of these that its checker refuses is what the call is refused for.
-/

namespace Signature

/-- What a call supplies by name, then by position after the receiver, then in surplus. -/
def suppliedArguments
    (signature : Signature)
    (settings : Settings)
    (call : CallArguments) :
    List (String × Value) :=
  call.named ++
    ((signature.positionalNames.zip call.positional).drop
        (signature.receiverOffset settings) ++
      ((signature.surplusPositionalName?.map fun name =>
            (name, .tuple (call.positional.drop signature.positionalNames.length))).toList ++
        (signature.surplusNamedName?.map fun name =>
            (name,
              Value.ofNamed (call.named.filter fun argument =>
                !signature.declaredNames.contains argument.1))).toList))

/-- No parameter is named that the call supplies by position or in surplus. -/
structure OrdinaryCall
    (signature : Signature)
    (settings : Settings)
    (call : CallArguments) :
    Prop where
  positional :
    ∀ (index : Nat) (name : String),
      signature.receiverOffset settings ≤ index →
      signature.positionalNames[index]? = some name →
      index < call.positional.length →
      name ∉ Table.names call.named
  surplusPositional :
    ∀ name, signature.surplusPositionalName? = some name → name ∉ Table.names call.named
  surplusNamed :
    ∀ name, signature.surplusNamedName? = some name → name ∉ Table.names call.named

end Signature

namespace Binder

/-! ## What is bound -/

theorem names_surplusOffer
    (binder : Binder)
    (name : Option String)
    (value : Value) :
    Table.names (binder.surplusOffer name value) = (binder.checkedName? name).toList := by
  cases checked : binder.checkedName? name with
  | none =>
      simp [surplusOffer, checked, Table.names]
  | some found =>
      simp [surplusOffer, checked, Table.names]

theorem eq_some_of_mem_checkedName?
    {binder : Binder}
    {parameter : Option String}
    {name : String}
    (member : name ∈ (binder.checkedName? parameter).toList) :
    parameter = some name := by
  rw [Option.mem_toList, checkedName?, Option.filter_eq_some_iff] at member
  exact member.1

/-- No two offers go by one name. -/
theorem nodup_names_offers
    {binder : Binder}
    (distinct : binder.DistinctNames)
    (call : CallArguments) :
    (Table.names (binder.offers call)).Nodup := by
  have positionalSublist := binder.names_positionalOffers_sublist call
  have nodupToList (name : Option String) : name.toList.Nodup := by
    cases name <;> simp
  rw [offers, Table.names_append, Table.names_append, names_surplusOffer,
    names_surplusOffer]
  refine List.nodup_append'.mpr ⟨positionalSublist.nodup distinct.positional,
    List.nodup_append'.mpr ⟨nodupToList _, nodupToList _, ?_⟩, ?_⟩
  · intro name asTuple asMap
    exact distinct.surplus name (eq_some_of_mem_checkedName? asMap)
      (eq_some_of_mem_checkedName? asTuple)
  · intro name asPositional asSurplus
    have isPositional : name ∈ binder.positionalNames := positionalSublist.subset asPositional
    rcases List.mem_append.mp asSurplus with asTuple | asMap
    · exact distinct.surplusPositional name (eq_some_of_mem_checkedName? asTuple) isPositional
    · exact distinct.surplusNamed name (eq_some_of_mem_checkedName? asMap) isPositional

/-- If no offer is named, all of them are bound behind the named arguments. -/
theorem bind_of_unnamed_supplies
    {binder : Binder}
    (distinct : binder.DistinctNames)
    {call : CallArguments}
    (unnamed :
      ∀ name value, binder.Supplies call name value → name ∉ Table.names call.named) :
    binder.bind call = call.named ++ binder.offers call := by
  rw [bind_eq_enterAll]
  apply Table.enterAll_of_fresh (nodup_names_offers distinct call)
  intro name offered
  obtain ⟨offer, member, rfl⟩ := List.mem_map.mp offered
  exact unnamed offer.1 offer.2 (supplies_of_mem_offers member)

/-! ## Checking one after another -/

theorem enforceBound_append
    (binder : Binder)
    (first second : List (String × Value)) :
    binder.enforceBound (first ++ second) =
      match binder.enforceBound first with
      | .error failure => .error failure
      | .ok () => binder.enforceBound second := by
  induction first with
  | nil =>
      rfl
  | cons argument rest inductionHypothesis =>
      rw [List.cons_append, enforceBound, enforceBound, inductionHypothesis]
      cases Table.get? binder.checkers argument.1 with
      | none =>
          rfl
      | some checker =>
          cases passes : checker.run binder.options (some argument.1) argument.2 with
          | error cause =>
              simp only [passes]
          | ok passed =>
              simp only [passes]

/-- An argument without a checker does not matter. -/
theorem enforceBound_surplusOffer
    (binder : Binder)
    (parameter : Option String)
    (value : Value) :
    binder.enforceBound (binder.surplusOffer parameter value) =
      binder.enforceBound (parameter.map fun name => (name, value)).toList := by
  cases parameter with
  | none =>
      rfl
  | some name =>
      rw [surplusOffer, checkedName?, Option.filter_some]
      cases checked : Table.get? binder.checkers name with
      | none =>
          simp [Table.has, checked, enforceBound]
      | some checker =>
          simp [Table.has, checked]

theorem enforceBound_cons_of_admits
    {binder : Binder}
    {argument : String × Value}
    (admitted : binder.Admits argument.1 argument.2)
    (rest : List (String × Value)) :
    binder.enforceBound (argument :: rest) = binder.enforceBound rest := by
  rw [enforceBound]
  cases checked : Table.get? binder.checkers argument.1 with
  | none =>
      rfl
  | some checker =>
      simp only [admitted checker checked]

/-- What is not admitted has a checker that rejects it. -/
theorem exists_rejecting_of_not_admits
    {binder : Binder}
    {name : String}
    {value : Value}
    (notAdmitted : ¬binder.Admits name value) :
    ∃ checker cause,
      Table.get? binder.checkers name = some checker ∧
        checker.run binder.options (some name) value = .error cause := by
  obtain ⟨checker, refuses⟩ := not_forall.mp notAdmitted
  obtain ⟨checked, notOk⟩ := Classical.not_imp.mp refuses
  cases ran : checker.run binder.options (some name) value with
  | error cause =>
      exact ⟨checker, cause, checked, ran⟩
  | ok passed =>
      exact (notOk ran).elim

/-- A failure is that of the first argument that its checker rejects. -/
theorem exists_rejected_of_enforceBound
    {binder : Binder}
    {bound : List (String × Value)}
    {failure : ArgumentFailure}
    (refused : binder.enforceBound bound = .error failure) :
    ∃ earlier name value later checker cause,
      bound = earlier ++ (name, value) :: later ∧
        (∀ argument ∈ earlier, binder.Admits argument.1 argument.2) ∧
        Table.get? binder.checkers name = some checker ∧
        checker.run binder.options (some name) value = .error cause ∧
        failure = binder.refuse name cause := by
  induction bound with
  | nil =>
      cases refused
  | cons argument rest inductionHypothesis =>
      -- An argument that passes joins the earlier ones; another ends the search.
      by_cases admitted : binder.Admits argument.1 argument.2
      · rw [enforceBound_cons_of_admits admitted] at refused
        obtain ⟨earlier, name, value, later, checker, cause, rfl, passed, found⟩ :=
          inductionHypothesis refused
        exact ⟨argument :: earlier, name, value, later, checker, cause, rfl,
          List.forall_mem_cons.mpr ⟨admitted, passed⟩, found⟩
      · obtain ⟨checker, cause, checked, rejects⟩ :=
          exists_rejecting_of_not_admits admitted
        rw [enforceBound, checked] at refused
        simp only [rejects, Except.error.injEq] at refused
        exact ⟨[], argument.1, argument.2, rest, checker, cause, rfl, by simp, checked,
          rejects, refused.symm⟩

/-! ## The arguments of an ordinary call -/

/-- An ordinary call is checked argument by argument as it is supplied. -/
theorem enforce_eq_enforceBound_supplied
    {family : Family}
    {table : SpecTable}
    {signature : Signature}
    {settings : Settings}
    {binder : Binder}
    (built : build family table signature settings = .ok binder)
    (distinct : (signature.parameters.map Parameter.name).Nodup)
    (receiver : signature.HasPositionalReceiver settings)
    {call : CallArguments}
    (ordinary : signature.OrdinaryCall settings call) :
    binder.enforce call =
      binder.enforceBound (signature.suppliedArguments settings call) := by
  have distinctNames := distinctNames_of_build built distinct
  have receiverFits := Signature.receiverOffset_le_length receiver
  obtain ⟨checkers, -, rfl⟩ := build_eq_ok_iff.mp built
  rw [enforce, bind_of_unnamed_supplies distinctNames]
  · -- The receiver is a positional parameter, so the surplus starts behind all of them.
    simp only [offers, Signature.suppliedArguments, enforceBound_append,
      enforceBound_surplusOffer, positionalOffers, surplusArguments, undeclaredArguments,
      Nat.max_eq_left receiverFits]
  · intro name value supplies
    cases supplies with
    | positional afterReceiver parameter argument =>
        exact ordinary.positional _ name afterReceiver parameter
          (List.getElem?_eq_some_iff.mp argument).1
    | surplusPositional parameter =>
        exact ordinary.surplusPositional name parameter
    | surplusNamed parameter =>
        exact ordinary.surplusNamed name parameter

/--
An ordinary call is accepted exactly when every argument that it supplies passes the
checker of its name, if there is one.  A refused call fails for the first argument
that does not pass, with the failure of the checker.
-/
theorem enforce_ordinary_call
    {family : Family}
    {table : SpecTable}
    {signature : Signature}
    {settings : Settings}
    {binder : Binder}
    (built : build family table signature settings = .ok binder)
    (distinct : (signature.parameters.map Parameter.name).Nodup)
    (receiver : signature.HasPositionalReceiver settings)
    {call : CallArguments}
    (ordinary : signature.OrdinaryCall settings call) :
    (binder.enforce call = .ok () ↔
        ∀ argument ∈ signature.suppliedArguments settings call,
          ∀ checker, Table.get? binder.checkers argument.1 = some checker →
            checker.run settings.checkOptions (some argument.1) argument.2 = .ok ()) ∧
      ∀ failure, binder.enforce call = .error failure →
        failure.callable = signature.name ∧
          failure.module = signature.module ∧
          failure.kind = signature.kind settings ∧
          ∃ earlier value later checker,
            signature.suppliedArguments settings call =
                earlier ++ (failure.argument, value) :: later ∧
              Table.get? binder.checkers failure.argument = some checker ∧
              checker.run settings.checkOptions (some failure.argument) value =
                .error failure.cause ∧
              ∀ argument ∈ earlier,
                ∀ checker, Table.get? binder.checkers argument.1 = some checker →
                  checker.run settings.checkOptions (some argument.1) argument.2 =
                    .ok () := by
  have supplied := enforce_eq_enforceBound_supplied built distinct receiver ordinary
  obtain ⟨checkers, -, rfl⟩ := build_eq_ok_iff.mp built
  rw [supplied]
  constructor
  · exact enforceBound_eq_ok_iff
  · intro failure refused
    obtain ⟨earlier, name, value, later, checker, cause, split, passed, checked, rejects,
      rfl⟩ := exists_rejected_of_enforceBound refused
    exact ⟨rfl, rfl, rfl, earlier, value, later, checker, split, checked, rejects, passed⟩

/-- A method of one number that also takes a flag and any further arguments. -/
def tallyMethod : Signature :=
  ⟨"tally", Signature.defaultModule,
    [⟨.positional, "self", none⟩, ⟨.positional, "x", none⟩,
      ⟨.surplusPositional, "rest", none⟩, ⟨.keywordOnly, "flag", none⟩,
      ⟨.surplusNamed, "extra", none⟩]⟩

/-- A number, a truth value for the flag, and numbers as further arguments. -/
def tallyTable : SpecTable :=
  ⟨[.type .int, .type .bool],
    [("rest", .tuple [.type .int, .skip]), ("extra", .map [(.type .str, .type .int)])]⟩

/-- A call of `tallyMethod` with one further argument by position and one by name. -/
def tallyCall (more other : Value) : CallArguments :=
  ⟨[.null, .int 1, more], [("flag", .bool true), ("b", other)]⟩

/-- Further numbers are accepted, and of two texts the one by position is refused. -/
theorem tallyCall_enforce_ordinary :
    ∃ binder,
      build .typed tallyTable tallyMethod Settings.standard = .ok binder ∧
        binder.enforce (tallyCall (.int 2) (.int 3)) = .ok () ∧
        binder.Admits "rest" (.tuple [.int 2]) ∧
        binder.Admits "extra" (Value.ofNamed [("b", .int 3)]) ∧
        ∃ failure,
          binder.enforce (tallyCall (.str "a") (.str "c")) = .error failure ∧
            failure.kind = .method ∧
            failure.argument = "rest" ∧
            ∃ value,
              (failure.argument, value) ∈
                  tallyMethod.suppliedArguments Settings.standard
                    (tallyCall (.str "a") (.str "c")) ∧
                ¬binder.Admits failure.argument value := by
  have built : build .typed tallyTable tallyMethod Settings.standard = .ok _ := rfl
  have receiver : tallyMethod.HasPositionalReceiver Settings.standard := by
    rintro _ ⟨⟩ _
    rfl
  have ordinary (more other : Value) :
      tallyMethod.OrdinaryCall Settings.standard (tallyCall more other) := by
    constructor
    case positional =>
      intro index name _ parameter _
      have unnamed : ∀ name ∈ tallyMethod.positionalNames, name ∉ ["flag", "b"] := by
        decide
      exact unnamed name (List.mem_of_getElem? parameter)
    case surplusPositional =>
      rintro _ ⟨⟩
      exact (by decide : "rest" ∉ ["flag", "b"])
    case surplusNamed =>
      rintro _ ⟨⟩
      exact (by decide : "extra" ∉ ["flag", "b"])
  have supplied (more other : Value) :
      tallyMethod.suppliedArguments Settings.standard (tallyCall more other) =
        [("flag", .bool true), ("b", other), ("x", .int 1), ("rest", .tuple [more]),
          ("extra", Value.ofNamed [("b", other)])] := by
    rfl
  have calls (more other : Value) :=
    enforce_ordinary_call built (by decide) receiver (ordinary more other)
  have passed := (calls (.int 2) (.int 3)).1.mp rfl
  rw [supplied] at passed
  obtain ⟨-, -, isMethod, earlier, value, later, checker, split, checked, rejects, -⟩ :=
    (calls (.str "a") (.str "c")).2 _ rfl
  refine ⟨_, built, rfl, passed ("rest", .tuple [.int 2]) (by simp),
    passed ("extra", Value.ofNamed [("b", .int 3)]) (by simp), _, rfl, isMethod, rfl, value,
    ?_, fun admitted => ?_⟩
  · rw [split]
    exact List.mem_append_right earlier (.head later)
  · cases rejects.symm.trans (admitted checker checked)

end Binder

end CallGuard
