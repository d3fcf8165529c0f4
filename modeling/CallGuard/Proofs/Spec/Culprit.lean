import CallGuard.Proofs.Spec.Components
import CallGuard.Proofs.Spec.Families

namespace CallGuard.Spec

/-!
# The first culprit

When a compiled checker rejects a value, a path leads from the value to the part that is
to blame, and along with it from the spec to what is asked of that part.  At each step
whatever is visited earlier is accepted.  The failure is one of the part itself, and its
label tells the steps of the path.
-/

/-- A spec compiles to a checker that accepts a value, whatever its name and the options. -/
def Accepts
    (family : Family)
    (spec : Spec)
    (value : Value) :
    Prop :=
  ∃ checker, CompilesTo family spec checker ∧
    ∀ options name, checker.run options name value = .ok ()

/--
A path from a spec and a value to what is asked of a part, and that part.  At each step
the container has the kind and the length that is asked for, and what is visited earlier
is accepted.  If the container is in order, it is visited in that order.
-/
inductive Leads (family : Family) : Spec → Value → List Step → Spec → Value → Prop where
  | here {spec : Spec} {value : Value} :
      Leads family spec value [] spec value
  | inside {spec asked target : Spec} {value item culprit : Value} {step : Step}
      {path : List Step} {earlier later : List (Component Spec)} :
      spec.Parts family value (earlier ++ ⟨step, asked, item⟩ :: later) →
      (∀ component ∈ earlier, component.asked.Accepts family component.item) →
      (value.InOrder →
        (∀ component ∈ earlier, component.step.Before step) ∧
          ∀ component ∈ later, step.Before component.step) →
      Leads family asked item path target culprit →
      Leads family spec value (step :: path) target culprit

variable {family : Family} {spec : Spec} {checker : Checker} {value : Value}

/-- A compiled checker that accepts a value once accepts it always. -/
theorem CompilesTo.accepts
    (compiled : CompilesTo family spec checker)
    {options : CheckOptions}
    {name : Option String}
    (passed : checker.run options name value = .ok ()) :
    spec.Accepts family value := by
  obtain ⟨meaning, -, decides⟩ := compileShape_sound spec compiled
  have meant : meaning value := (decides options name value).mp passed
  exact ⟨checker, compiled, fun others other => (decides others other value).mpr meant⟩

/-- What comes before a component in the order of visits, and what comes after it. -/
theorem Parts.around
    {earlier later : List (Component Spec)}
    {component : Component Spec}
    (parts : spec.Parts family value (earlier ++ component :: later))
    (inOrder : value.InOrder) :
    (∀ other ∈ earlier, other.step.Before component.step) ∧
      ∀ other ∈ later, component.step.Before other.step := by
  obtain ⟨-, behind, across⟩ := List.pairwise_append.mp (parts.ascending inOrder)
  exact ⟨fun other member => across other member component List.mem_cons_self,
    (List.pairwise_cons.mp behind).1⟩

/-- The failure of a compiled checker, followed to the part that is to blame. -/
theorem CompilesTo.exists_culprit
    (compiled : CompilesTo family spec checker)
    {options : CheckOptions}
    {name : Option String}
    {failure : Failure}
    (rejected : checker.run options name value = .error failure) :
    ∃ path target culprit targetChecker,
      spec.Leads family value path target culprit ∧
        target.OwnFault family culprit failure.fault ∧
        failure.label = Step.labelAlong (options.label name value) path ∧
        CompilesTo family target targetChecker ∧
        targetChecker.run options (some failure.label) culprit = .error failure := by
  -- A flat tuple beside a skip marker is no part of its spec, so the value gets smaller.
  induction isSize : sizeOf value using Nat.strongRecOn
    generalizing spec checker value name with
  | _ size inductionHypothesis =>
      cases compiled.runsAs value with
      | passes run =>
          rw [run] at rejected
          cases rejected
      | faulty own run =>
          have isFailure := (run options name).symm.trans rejected
          cases isFailure
          exact ⟨[], spec, value, checker, .here, own, rfl, compiled, run options _⟩
      | opens parts alike run =>
          rw [run] at rejected
          obtain ⟨earlier, component, later, inner, rfl, passed, innerCompiled, failed⟩ :=
            Component.exists_first_failing alike rejected
          have smaller : sizeOf component.item < size := by
            rw [← isSize]
            exact parts.sizeOf_item_lt (List.mem_append_right _ List.mem_cons_self)
          obtain ⟨path, target, culprit, targetChecker, leads, own, labelled, rest⟩ :=
            inductionHypothesis _ smaller innerCompiled failed rfl
          refine ⟨component.step :: path, target, culprit, targetChecker,
            .inside parts (fun other member => ?_) parts.around leads, own, labelled, rest⟩
          obtain ⟨passing, passingCompiled, passes⟩ := passed other member
          exact passingCompiled.accepts passes

/--
A rejection points at the first culprit.  Whenever a compiled checker fails on a value,
a path leads to a part and to what is asked of it, past nothing but accepted parts.  The
failure is the one that the checker of what is asked there gives for the part itself, and
its label is that of the value with one more piece for each step.
-/
theorem compile_rejection_culprit
    {place : SpecPlace}
    (compiled : spec.compile family place = .ok checker)
    {options : CheckOptions}
    {name : Option String}
    {failure : Failure}
    (rejected : checker.run options name value = .error failure) :
    ∃ path target culprit targetChecker,
      spec.Leads family value path target culprit ∧
        target.OwnFault family culprit failure.fault ∧
        failure.label = Step.labelAlong (options.label name value) path ∧
        target.compile family place = .ok targetChecker ∧
        targetChecker.run options (some failure.label) culprit = .error failure := by
  have compilesTo : CompilesTo family spec checker := compile_eq_ok_iff.mp compiled
  obtain ⟨path, target, culprit, targetChecker, leads, own, labelled, targetCompiled,
    same⟩ := compilesTo.exists_culprit rejected
  exact ⟨path, target, culprit, targetChecker, leads, own, labelled,
    compile_eq_ok_iff.mpr targetCompiled, same⟩

/-- Lists of pairs of a number and a tuple of texts, under names. -/
def scoreSheet : Spec :=
  .map [(.type .str,
    .list [.tuple [.tuple [.value (.type .int), .type .float], .tuple [.type .str, .skip]]])]

/-- Under `b` there is a number among the texts, and behind it more that is wrong. -/
def spoiltScores : Value :=
  .map
    [(.str "a", .list [.tuple [.int 1, .tuple []]]),
      (.str "b", .list [.tuple [.int 2, .tuple [.str "x", .int 3, .null]], .null])]

/-- Of several defects the first is found, and its label leads to it. -/
theorem spoiltScores_rejection_culprit :
    ∃ checker failure,
      scoreSheet.compile .typed (.named "scores") = .ok checker ∧
        checker.run ⟨40⟩ (some "scores") spoiltScores = .error failure ∧
        failure.message = "Type of scores['b'][0][1][1] must be str, not int!" ∧
        ∃ path target culprit targetChecker,
          scoreSheet.Leads .typed spoiltScores path target culprit ∧
            target.OwnFault .typed culprit failure.fault ∧
            failure.label = Step.labelAlong "scores" path ∧
            target.compile .typed (.named "scores") = .ok targetChecker ∧
            targetChecker.run ⟨40⟩ (some failure.label) culprit = .error failure := by
  let checker : Checker :=
    .mapOf (.just [.str])
      (.listOf (.slots [.just [.int, .float], .tupleOf (.just [.str])]))
  have compiled : scoreSheet.compile .typed (.named "scores") = .ok checker := rfl
  have rejected :
      checker.run ⟨40⟩ (some "scores") spoiltScores =
        .error ⟨"scores['b'][0][1][1]", .wrongType [.str] "int"⟩ := rfl
  exact ⟨_, _, compiled, rejected, rfl, compile_rejection_culprit compiled rejected⟩

end CallGuard.Spec
