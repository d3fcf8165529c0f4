import CallGuard.Proofs.Binding.Coverage
import CallGuard.Proofs.Signature

namespace CallGuard.Binder

/-!
# Arguments that a named argument hides

A named argument stands for its parameter alone, whatever else the call supplies to
that parameter.  So an accepted call has been checked in full as far as it names no
parameter that it supplies otherwise as well; where it does, the callable receives
a value that no checker has seen.
-/

/-- A built binder holds what its signature says about the parameters. -/
theorem build_eq_ok_iff
    {family : Family}
    {table : SpecTable}
    {signature : Signature}
    {settings : Settings}
    {binder : Binder} :
    build family table signature settings = .ok binder ↔
      ∃ checkers,
        compileEntries family (table.merged signature settings) = .ok checkers ∧
          binder =
            { kind := signature.kind settings
              callable := signature.name
              module := signature.module
              positionalNames := signature.positionalNames
              declaredNames := signature.declaredNames
              receiverOffset := signature.receiverOffset settings
              surplusPositional := signature.surplusPositionalName?
              surplusNamed := signature.surplusNamedName?
              checkers := checkers
              options := settings.checkOptions } := by
  simp only [build, Result.bind_eq_ok_iff, Result.pure_eq_ok_iff]
  exact exists_congr fun checkers => and_congr_right fun _ => eq_comm

/-- Parameters with names of their own keep them in the binder. -/
theorem distinctNames_of_build
    {family : Family}
    {table : SpecTable}
    {signature : Signature}
    {settings : Settings}
    {binder : Binder}
    (built : build family table signature settings = .ok binder)
    (distinct : (signature.parameters.map Parameter.name).Nodup) :
    binder.DistinctNames := by
  obtain ⟨checkers, -, rfl⟩ := build_eq_ok_iff.mp built
  constructor
  case positional =>
    exact Signature.nodup_positionalNames distinct
  case surplusPositional =>
    intro name found
    exact Signature.nameOf?_not_mem_positionalNames distinct (by decide) found
  case surplusNamed =>
    intro name found
    exact Signature.nameOf?_not_mem_positionalNames distinct (by decide) found
  case surplus =>
    intro name found alsoFound
    cases Signature.kind_eq_of_nameOf? distinct found alsoFound

/-! ## Positional arguments -/

/--
In an accepted call every named argument passes, and so does every positional
argument whose parameter the call does not name as well.  Another value in the
place of a positional argument is accepted exactly when it passes or when the call
also names the parameter.
-/
theorem positional_checked_unless_named
    {binder : Binder}
    (distinct : binder.DistinctNames)
    {call : CallArguments}
    (accepted : binder.enforce call = .ok ()) :
    (∀ argument ∈ call.named, binder.Admits argument.1 argument.2) ∧
      ∀ (index : Nat) (name : String) (value : Value),
        binder.receiverOffset ≤ index →
        binder.positionalNames[index]? = some name →
        call.positional[index]? = some value →
        (name ∉ Table.names call.named → binder.Admits name value) ∧
          ∀ other,
            binder.enforce { call with positional := call.positional.set index other } =
                .ok () ↔
              name ∈ Table.names call.named ∨ binder.Admits name other := by
  have passed := (enforce_eq_ok_iff_supplies distinct).mp accepted
  refine ⟨passed.1, fun index name value afterReceiver parameter argument => ⟨?_, ?_⟩⟩
  · intro free
    exact passed.2 name value free (.positional afterReceiver parameter argument)
  · intro other
    have present : index < call.positional.length :=
      (List.getElem?_eq_some_iff.mp argument).1
    exact enforce_resupplied_eq_ok_iff distinct accepted
      (resupplies_positional distinct afterReceiver parameter present other)

/-- A function of two parameters. -/
def twoParameters : Signature :=
  ⟨"f", Signature.defaultModule, [⟨.positional, "x", none⟩, ⟨.positional, "y", none⟩]⟩

/-- A number for each of the first two parameters. -/
def twoNumbers : SpecTable :=
  ⟨[.type .int, .type .int], []⟩

/-- Two arguments by position, the second of which the call names as well. -/
def namedTwice : CallArguments :=
  ⟨[.int 1, .str "a"], [("y", .int 2)]⟩

/-- The first argument of `namedTwice` is checked, and the second may be anything. -/
theorem namedTwice_positional_checked :
    ∃ binder,
      build .typed twoNumbers twoParameters Settings.standard = .ok binder ∧
        binder.enforce namedTwice = .ok () ∧
        binder.Admits "x" (.int 1) ∧
        (∀ other,
          binder.enforce { namedTwice with positional := [other, .str "a"] } = .ok () ↔
            binder.Admits "x" other) ∧
        ∀ other,
          binder.enforce { namedTwice with positional := [.int 1, other] } = .ok () := by
  have built : build .typed twoNumbers twoParameters Settings.standard = .ok _ := rfl
  have distinct := distinctNames_of_build built (by decide)
  obtain ⟨-, positional⟩ :=
    positional_checked_unless_named distinct
      (show enforce _ namedTwice = .ok () from rfl)
  obtain ⟨checked, firstReplaced⟩ := positional 0 "x" (.int 1) (by decide) rfl rfl
  obtain ⟨-, secondReplaced⟩ := positional 1 "y" (.str "a") (by decide) rfl rfl
  refine ⟨_, built, rfl, checked (by decide), fun other => ?_, fun other => ?_⟩
  · simpa [namedTwice, Table.names] using firstReplaced other
  · exact (secondReplaced other).mpr (.inl (by decide))

/-- The call `namedTwice` is accepted with a text in the place of a number. -/
theorem namedTwice_accepted_unchecked :
    ∃ binder,
      build .typed twoNumbers twoParameters Settings.standard = .ok binder ∧
        binder.DistinctNames ∧
        binder.enforce namedTwice = .ok () ∧
        binder.receiverOffset ≤ 1 ∧
        binder.positionalNames[1]? = some "y" ∧
        namedTwice.positional[1]? = some (.str "a") ∧
        ¬binder.Admits "y" (.str "a") := by
  have built : build .typed twoNumbers twoParameters Settings.standard = .ok _ := rfl
  refine ⟨_, built, distinctNames_of_build built (by decide), rfl, by decide, rfl, rfl, ?_⟩
  intro admitted
  cases admitted _ rfl

/-! ## Surplus arguments -/

/--
In an accepted call the surplus positional arguments pass as a tuple, and the named
arguments without a parameter of their own as a map, wherever the parameters that
take them are checked and the call names no such parameter.  Other surplus arguments
are accepted exactly when they pass in the same form or when the call names the
parameter that takes them.
-/
theorem surplus_checked_unless_named
    {family : Family}
    {table : SpecTable}
    {signature : Signature}
    {settings : Settings}
    {binder : Binder}
    (built : build family table signature settings = .ok binder)
    (distinct : (signature.parameters.map Parameter.name).Nodup)
    {call : CallArguments}
    (accepted : binder.enforce call = .ok ()) :
    (∀ name,
        signature.surplusPositionalName? = some name →
        (name ∉ Table.names call.named →
            binder.Admits name
              (.tuple (call.positional.drop
                (max signature.positionalNames.length
                  (signature.receiverOffset settings))))) ∧
          (max signature.positionalNames.length (signature.receiverOffset settings) ≤
              call.positional.length →
            ∀ surplus,
              binder.enforce
                  { call with
                    positional :=
                      call.positional.take
                          (max signature.positionalNames.length
                            (signature.receiverOffset settings)) ++
                        surplus } = .ok () ↔
                name ∈ Table.names call.named ∨ binder.Admits name (.tuple surplus))) ∧
      ∀ name,
        signature.surplusNamedName? = some name →
        (name ∉ Table.names call.named →
            binder.Admits name
              (Value.ofNamed (call.named.filter fun argument =>
                !signature.declaredNames.contains argument.1))) ∧
          ∀ others : List (String × Value),
            (∀ argument ∈ others,
              argument.1 ∉ signature.declaredNames ∧
                Table.get? binder.checkers argument.1 = none) →
            (binder.enforce { call with named := call.named ++ others } = .ok () ↔
              name ∈ Table.names call.named ∨
                binder.Admits name
                  (Value.ofNamed
                    ((call.named.filter fun argument =>
                        !signature.declaredNames.contains argument.1) ++ others))) := by
  have distinctNames := distinctNames_of_build built distinct
  obtain ⟨checkers, -, rfl⟩ := build_eq_ok_iff.mp built
  have passed := ((enforce_eq_ok_iff_supplies distinctNames).mp accepted).2
  constructor
  · intro name parameter
    constructor
    · intro free
      exact passed name _ free (.surplusPositional parameter)
    · intro enough surplus
      exact enforce_resupplied_eq_ok_iff distinctNames accepted
        (resupplies_surplusPositional distinctNames parameter enough surplus)
  · intro name parameter
    constructor
    · intro free
      exact passed name _ free (.surplusNamed parameter)
    · intro others apart
      exact enforce_resupplied_eq_ok_iff distinctNames accepted
        (resupplies_surplusNamed distinctNames parameter
          (fun argument member => (apart argument member).1)
          (fun argument member => (apart argument member).2))

/-- A function that takes any arguments. -/
def anyParameters : Signature :=
  ⟨"f", Signature.defaultModule,
    [⟨.surplusPositional, "rest", none⟩, ⟨.surplusNamed, "extra", none⟩]⟩

/-- Numbers for the surplus positional arguments, and for the surplus named ones. -/
def numbersOnly : SpecTable :=
  ⟨[], [("rest", .tuple [.type .int, .skip]), ("extra", .map [(.type .str, .type .int)])]⟩

/-- Two texts as surplus arguments, and numbers under the names of their parameters. -/
def namedSurplus : CallArguments :=
  ⟨[.str "a"],
    [("rest", .tuple [.int 1]), ("extra", Value.ofNamed [("k", .int 1)]), ("b", .str "c")]⟩

/-- Surplus numbers are checked, and beside `namedSurplus` anything is accepted. -/
theorem numbersOnly_surplus_checked :
    ∃ binder,
      build .typed numbersOnly anyParameters Settings.standard = .ok binder ∧
        binder.enforce ⟨[.int 1], [("b", .int 2)]⟩ = .ok () ∧
        binder.Admits "rest" (.tuple [.int 1]) ∧
        binder.Admits "extra" (Value.ofNamed [("b", .int 2)]) ∧
        binder.enforce namedSurplus = .ok () ∧
        (∀ surplus, binder.enforce { namedSurplus with positional := surplus } = .ok ()) ∧
        ∀ value,
          binder.enforce
            { namedSurplus with named := namedSurplus.named ++ [("d", value)] } =
              .ok () := by
  have built : build .typed numbersOnly anyParameters Settings.standard = .ok _ := rfl
  have distinct : (anyParameters.parameters.map Parameter.name).Nodup := by
    decide
  obtain ⟨restPasses, extraPasses⟩ :=
    surplus_checked_unless_named built distinct
      (show enforce _ ⟨[.int 1], [("b", .int 2)]⟩ = .ok () from rfl)
  obtain ⟨restHidden, extraHidden⟩ :=
    surplus_checked_unless_named built distinct
      (show enforce _ namedSurplus = .ok () from rfl)
  refine ⟨_, built, rfl, ?_, ?_, rfl, fun surplus => ?_, fun value => ?_⟩
  · exact (restPasses "rest" rfl).1 (by decide)
  · exact (extraPasses "extra" rfl).1 (by decide)
  · exact ((restHidden "rest" rfl).2 (by decide) surplus).mpr (.inl (by decide))
  · refine ((extraHidden "extra" rfl).2 [("d", value)] ?_).mpr (.inl (by decide))
    intro argument member
    obtain rfl := List.mem_singleton.mp member
    exact ⟨List.not_mem_nil, rfl⟩

/-- The call `namedSurplus` is accepted with texts in surplus in the place of numbers. -/
theorem namedSurplus_accepted_unchecked :
    ∃ binder,
      build .typed numbersOnly anyParameters Settings.standard = .ok binder ∧
        (anyParameters.parameters.map Parameter.name).Nodup ∧
        binder.enforce namedSurplus = .ok () ∧
        ¬binder.Admits "rest" (.tuple (binder.surplusArguments namedSurplus)) ∧
        ¬binder.Admits "extra"
          (Value.ofNamed (binder.undeclaredArguments namedSurplus)) := by
  have built : build .typed numbersOnly anyParameters Settings.standard = .ok _ := rfl
  refine ⟨_, built, by decide, rfl, fun admitted => ?_, fun admitted => ?_⟩
  · cases admitted _ rfl
  · cases admitted _ rfl

end CallGuard.Binder
