import CallGuard.Proofs.Binding.Ordinary
import CallGuard.Proofs.Value.Naming

namespace CallGuard

namespace Binder

/-!
# Arguments without a checker

Only arguments with a checker matter to a binder.  Two calls that agree on these are
both accepted or both refused for the same argument with the same failure, however
they differ in the receiver, in other parameters, and in surplus that is not checked.
-/

/-- The arguments among the given ones that have a checker. -/
def checkedAmong
    (binder : Binder)
    (arguments : List (String × Value)) :
    List (String × Value) :=
  arguments.filter fun argument => Table.has binder.checkers argument.1

/-- Two calls that agree on every argument with a checker. -/
structure SameChecked
    (binder : Binder)
    (call other : CallArguments) :
    Prop where
  named :
    binder.checkedAmong call.named = binder.checkedAmong other.named
  positional :
    ∀ (index : Nat) name,
      binder.receiverOffset ≤ index →
      binder.positionalNames[index]? = some name →
      Table.has binder.checkers name = true →
      call.positional[index]? = other.positional[index]?
  surplusPositional :
    ∀ name,
      binder.surplusPositional = some name →
      Table.has binder.checkers name = true →
      binder.surplusArguments call = binder.surplusArguments other
  /-- The order of the undeclared arguments may differ. -/
  surplusNamed :
    ∀ name,
      binder.surplusNamed = some name →
      Table.has binder.checkers name = true →
      ∀ argument, argument ∉ binder.declaredNames →
        Table.get? call.named argument = Table.get? other.named argument

/-- Checking passes over arguments without a checker. -/
theorem enforceBound_checkedAmong
    (binder : Binder)
    (bound : List (String × Value)) :
    binder.enforceBound (binder.checkedAmong bound) = binder.enforceBound bound := by
  induction bound with
  | nil =>
      rfl
  | cons argument rest inductionHypothesis =>
      unfold checkedAmong at inductionHypothesis ⊢
      cases checked : Table.get? binder.checkers argument.1 with
      | none =>
          have skipped : Table.has binder.checkers argument.1 = false := by
            rw [Table.has, checked, Option.isSome_none]
          simp only [List.filter_cons, skipped, Bool.false_eq_true, ↓reduceIte,
            enforceBound, checked, inductionHypothesis]
      | some checker =>
          have kept : Table.has binder.checkers argument.1 = true := by
            rw [Table.has, checked, Option.isSome_some]
          simp only [List.filter_cons, kept, ↓reduceIte, enforceBound, inductionHypothesis]

theorem checkedAmong_append
    (binder : Binder)
    (first second : List (String × Value)) :
    binder.checkedAmong (first ++ second) =
      binder.checkedAmong first ++ binder.checkedAmong second :=
  List.filter_append ..

/-- The checked arguments are bound as if no others were there. -/
theorem checkedAmong_bind
    (binder : Binder)
    (call : CallArguments) :
    binder.checkedAmong (binder.bind call) =
      Table.enterAll (binder.checkedAmong call.named)
        (binder.checkedAmong (binder.offers call)) := by
  rw [bind_eq_enterAll]
  exact Table.filter_enterAll (Table.has binder.checkers) _ _

/-! ## What calls that agree offer -/

/-- Calls that agree on the checked parameters offer the same to them by position. -/
theorem checkedAmong_positionalOffers_congr
    {binder : Binder}
    {call other : CallArguments}
    (same :
      ∀ (index : Nat) name,
        binder.receiverOffset ≤ index →
        binder.positionalNames[index]? = some name →
        Table.has binder.checkers name = true →
        call.positional[index]? = other.positional[index]?) :
    binder.checkedAmong (binder.positionalOffers call) =
      binder.checkedAmong (binder.positionalOffers other) := by
  have dropped (values : List Value) :
      (binder.positionalNames.zip values).drop binder.receiverOffset =
        (binder.positionalNames.drop binder.receiverOffset).zip
          (values.drop binder.receiverOffset) :=
    List.drop_zipWith
  rw [positionalOffers, positionalOffers, dropped, dropped]
  apply Table.filter_zip_congr
  intro index name parameter checked
  rw [List.getElem?_drop] at parameter
  rw [List.getElem?_drop, List.getElem?_drop]
  exact same _ name (Nat.le_add_right ..) parameter checked

/-- Surplus matters only if its parameter has a checker. -/
theorem surplusOffer_congr
    {binder : Binder}
    {parameter : Option String}
    {value other : Value}
    (same :
      ∀ name,
        parameter = some name →
        Table.has binder.checkers name = true →
        value = other) :
    binder.surplusOffer parameter value = binder.surplusOffer parameter other := by
  unfold surplusOffer
  cases checked : binder.checkedName? parameter with
  | none =>
      rfl
  | some name =>
      rw [checkedName?, Option.filter_eq_some_iff] at checked
      rw [same name checked.1 checked.2]

/-- Calls with the same undeclared arguments make the same map of them, in any order. -/
theorem ofNamed_undeclaredArguments_congr
    {binder : Binder}
    {call other : CallArguments}
    (distinct : (Table.names call.named).Nodup)
    (otherDistinct : (Table.names other.named).Nodup)
    (same :
      ∀ argument, argument ∉ binder.declaredNames →
        Table.get? call.named argument = Table.get? other.named argument) :
    Value.ofNamed (binder.undeclaredArguments call) =
      Value.ofNamed (binder.undeclaredArguments other) := by
  have undeclaredDistinct
      {arguments : Table Value}
      (argumentsDistinct : (Table.names arguments).Nodup) :
      (Table.names (arguments.filter fun argument =>
        !binder.declaredNames.contains argument.1)).Nodup :=
    (List.filter_sublist.map _).nodup argumentsDistinct
  apply Value.ofNamed_perm (undeclaredDistinct distinct)
  apply (List.perm_ext_iff_of_nodup (.of_map _ (undeclaredDistinct distinct))
    (.of_map _ (undeclaredDistinct otherDistinct))).mpr
  rintro ⟨name, value⟩
  rw [List.mem_filter, List.mem_filter]
  refine and_congr_left fun undeclared => ?_
  rw [← Table.get?_eq_some_iff distinct, ← Table.get?_eq_some_iff otherDistinct,
    same name (by simpa using undeclared)]

/-- Calls that agree on what is checked offer the same to the checked parameters. -/
theorem SameChecked.offers_eq
    {binder : Binder}
    {call other : CallArguments}
    (same : binder.SameChecked call other)
    (distinct : (Table.names call.named).Nodup)
    (otherDistinct : (Table.names other.named).Nodup) :
    binder.checkedAmong (binder.offers call) = binder.checkedAmong (binder.offers other) := by
  have samePositional := checkedAmong_positionalOffers_congr same.positional
  have sameTuple :
      binder.surplusOffer binder.surplusPositional (.tuple (binder.surplusArguments call)) =
        binder.surplusOffer binder.surplusPositional
          (.tuple (binder.surplusArguments other)) := by
    apply surplusOffer_congr
    intro name parameter checked
    rw [same.surplusPositional name parameter checked]
  have sameMap :
      binder.surplusOffer binder.surplusNamed
          (Value.ofNamed (binder.undeclaredArguments call)) =
        binder.surplusOffer binder.surplusNamed
          (Value.ofNamed (binder.undeclaredArguments other)) := by
    apply surplusOffer_congr
    intro name parameter checked
    exact ofNamed_undeclaredArguments_congr distinct otherDistinct
      (same.surplusNamed name parameter checked)
  simp only [offers, checkedAmong_append, samePositional, sameTuple, sameMap]

/--
Arguments without a checker are irrelevant.  Two calls, neither of which names an
argument twice, have the same outcome if they agree on the named arguments with a
checker and their order, on what stands at the positions of checked parameters behind
the receiver, and on surplus arguments as far as a checker waits for them.
-/
theorem enforce_eq_of_sameChecked
    {binder : Binder}
    {call other : CallArguments}
    (distinct : (Table.names call.named).Nodup)
    (otherDistinct : (Table.names other.named).Nodup)
    (same : binder.SameChecked call other) :
    binder.enforce call = binder.enforce other := by
  calc
    binder.enforce call = binder.enforceBound (binder.checkedAmong (binder.bind call)) :=
      (binder.enforceBound_checkedAmong _).symm
    _ = binder.enforceBound (binder.checkedAmong (binder.bind other)) := by
      rw [checkedAmong_bind, checkedAmong_bind, same.named,
        same.offers_eq distinct otherDistinct]
    _ = binder.enforce other :=
      binder.enforceBound_checkedAmong _

/-- Numbers for `x` and for the surplus named arguments of `tallyMethod`. -/
def tallyNumbers : SpecTable :=
  ⟨[.type .int], [("extra", .map [(.type .str, .type .int)])]⟩

/-- A call of `tallyMethod` with two named arguments in surplus. -/
def plainTally : CallArguments :=
  ⟨[.null, .int 1], [("a", .int 2), ("b", .str "c")]⟩

/-- The call `plainTally` on another receiver, with more arguments, in another order. -/
def noisyTally : CallArguments :=
  ⟨[.int 9, .int 1, .null, .str "d"], [("b", .str "c"), ("flag", .null), ("a", .int 2)]⟩

/-- Both tallies are refused for the text among the surplus, with the same failure. -/
theorem noisyTally_enforce_eq :
    ∃ binder failure,
      build .typed tallyNumbers tallyMethod Settings.standard = .ok binder ∧
        binder.SameChecked plainTally noisyTally ∧
        failure.argument = "extra" ∧
        binder.enforce plainTally = .error failure ∧
        binder.enforce noisyTally = .error failure := by
  have same
      {binder : Binder}
      (built : build .typed tallyNumbers tallyMethod Settings.standard = .ok binder) :
      binder.SameChecked plainTally noisyTally := by
    cases built
    constructor
    case named =>
      rfl
    case positional =>
      rintro (_ | _ | index) name afterReceiver parameter -
      · cases afterReceiver
      · rfl
      · cases parameter
    case surplusPositional =>
      rintro _ ⟨⟩ ⟨⟩
    case surplusNamed =>
      rintro _ ⟨⟩ - argument undeclared
      have notFlag : "flag" ≠ argument := by
        rintro rfl
        exact undeclared (by decide)
      by_cases isA : "a" = argument
      · subst isA
        rfl
      · simp [plainTally, noisyTally, Table.get?, isA, notFlag]
  have built : build .typed tallyNumbers tallyMethod Settings.standard = .ok _ := rfl
  have alike : enforce _ plainTally = enforce _ noisyTally :=
    enforce_eq_of_sameChecked (by decide) (by decide) (same built)
  exact ⟨_, _, built, same built, rfl, rfl, alike.symm.trans rfl⟩

end Binder

end CallGuard
