import CallGuard.Checker.Catalogue
import CallGuard.Spec.Basic

namespace CallGuard

/-!
# Compiled specs

The meaning of a spec as a checker. The skip marker lets everything pass; lists,
sets and maps constrain their parts; a tuple is read by what it holds: a pair of
bounds, alternatives, one entry for each place, or, with a skip marker, one for
every place. Every other shape is refused with a reason.
-/

/-- Why a spec has no meaning. -/
inductive SpecFault where
  | listSize (spec : Spec)
  | setSize (spec : Spec)
  | mapSize (spec : Spec)
  | emptyTuple
  | manySkips (entries : List Spec) (count : Nat)
  | mixedRepetition (entries : List Spec)
  | mixedTuple (entries : List Spec)
  | notAType (spec : Spec)
  | typeAsBound (tag : TypeTag)
  | bareBound (spec : Spec)
  | notAPair (entries : List Spec)
  | interval (fault : IntervalFault)

/-- The wording of a fault. -/
def SpecFault.message : SpecFault → String
  | .listSize spec => s!"list spec {spec.text} must have exactly one member"
  | .setSize spec => s!"set spec {spec.text} must have exactly one member"
  | .mapSize spec => s!"map spec {spec.text} must have exactly one entry"
  | .emptyTuple => "empty tuple spec constrains nothing"
  | .manySkips entries count =>
      s!"tuple spec {(Spec.tuple entries).text} has {count} skip markers; "
        ++ "at most one is allowed"
  | .mixedRepetition entries =>
      s!"repeating tuple spec {(Spec.tuple entries).text} mixes entry kinds"
  | .mixedTuple entries =>
      s!"tuple spec {(Spec.tuple entries).text} mixes concrete constraints "
        ++ "and nested collections"
  | .notAType spec => s!"{spec.text} is not a type"
  | .typeAsBound tag => s!"type {tag.name} cannot bound an interval"
  | .bareBound spec => s!"bare bound {spec.text}; expected a (lo, hi) pair"
  | .notAPair entries =>
      s!"{(Spec.tuple entries).text} is not a (lo, hi) pair; "
        ++ "bounds do not form alternatives"
  | .interval fault => fault.message

/-- A refused spec: the family it was declared for, where, and the reason. -/
structure InvalidSpec where
  family : Family
  place : SpecPlace
  reason : SpecFault

/-- The wording of a refusal. -/
def InvalidSpec.message (invalid : InvalidSpec) : String :=
  s!"invalid {invalid.family.noun} spec for {invalid.place.text}: "
    ++ invalid.reason.message

/-- The type that a concrete spec names. -/
def Spec.asType : Spec → Except SpecFault TypeTag
  | .type tag => .ok tag
  | .value (.type tag) => .ok tag
  | other => .error (.notAType other)

/-- Whether a spec may be one side of a pair of bounds. -/
def Spec.isSide : Spec → Bool
  | .value _ => true
  | .skip => true
  | _ => false

/-- The bound that one side of a pair gives; a skip marker leaves it open. -/
def Spec.bound? : Spec → Option Value
  | .value bound => some bound
  | _ => none

namespace Family

/-- The checker of the interval between two bounds. -/
def interval (low high : Option Value) : Except SpecFault Checker :=
  (Checker.within low high).mapError .interval

/--
The checker of a tuple that a family takes as a whole: bounds take two sides, of
which at least one is present.
-/
def pair? (family : Family) (entries : List Spec) : Option (Except SpecFault Checker) :=
  match family, entries with
  | .bounded, [low, high] =>
      if low.isSide && high.isSide && !(low.isSkip && high.isSkip) then
        some (interval low.bound? high.bound?)
      else
        none
  | _, _ => none

/-- The checker of a bare concrete spec. -/
def single : Family → Spec → Except SpecFault Checker
  | .typed, spec => spec.asType.map fun tag => Checker.just [tag]
  | .bounded, .type tag => .error (.typeAsBound tag)
  | .bounded, other => .error (.bareBound other)

/-- The checker of several concrete specs to choose from. -/
def alternatives : Family → List Spec → Except SpecFault Checker
  | .typed, entries => (entries.mapM Spec.asType).map Checker.just
  | .bounded, entries => .error (.notAPair entries)

/-- The checker of a tuple of concrete specs. -/
def flat (family : Family) (entries : List Spec) : Except SpecFault Checker :=
  match family.pair? entries with
  | some result => result
  | none => family.alternatives entries

end Family

/-- How a tuple of specs is to be read. -/
inductive TupleReading where
  /-- The whole tuple is one constraint. -/
  | whole (result : Except SpecFault Checker)
  /-- Every tuple passes. -/
  | anyTuple
  /-- The one collection in the tuple constrains every item. -/
  | everyItem
  /-- The concrete entries constrain every item together. -/
  | everyItemFlat (entries : List Spec)
  /-- Each entry constrains the item at its place. -/
  | eachPlace
  | refused (fault : SpecFault)

/-- The reading of a tuple in which the entries beside its one skip marker are given. -/
def Spec.repeatReading (entries rest : List Spec) : TupleReading :=
  match rest with
  | [] => .anyTuple
  | [only] =>
      if only.isCollection then
        .everyItem
      else if only.isConcrete then
        .everyItemFlat [only]
      else
        .refused (.mixedRepetition entries)
  | many =>
      if many.all Spec.isConcrete then
        .everyItemFlat many
      else
        .refused (.mixedRepetition entries)

/-- The reading of a tuple in a family. -/
def Spec.tupleReading (family : Family) (entries : List Spec) : TupleReading :=
  match family.pair? entries with
  | some result => .whole result
  | none =>
      let skips := entries.countP Spec.isSkip
      if entries.isEmpty then
        .refused .emptyTuple
      else if 1 < skips then
        .refused (.manySkips entries skips)
      else if skips = 1 then
        Spec.repeatReading entries (entries.filter fun spec => !spec.isSkip)
      else if entries.all Spec.isCollection then
        .eachPlace
      else if entries.all Spec.isConcrete then
        .whole (family.alternatives entries)
      else
        .refused (.mixedTuple entries)

namespace Spec

mutual

/-- The checker of a spec. -/
def compileShape (family : Family) : Spec → Except SpecFault Checker
  | .skip => .ok Checker.identity
  | .tuple entries =>
      match tupleReading family entries with
      | .whole result => result
      | .anyTuple => .ok (Checker.kind .tuple)
      | .everyItem => (compileUnskipped family entries).map Checker.tupleOf
      | .everyItemFlat rest => (family.flat rest).map Checker.tupleOf
      | .eachPlace => (compileAll family entries).map Checker.slots
      | .refused fault => .error fault
  | .list [element] => (compileShape family element).map Checker.listOf
  | .list members => .error (.listSize (.list members))
  | .set [element] => (compileShape family element).map Checker.setOf
  | .set members => .error (.setSize (.set members))
  | .map [entry] => compileEntry family entry
  | .map entries => .error (.mapSize (.map entries))
  | .type tag => family.single (.type tag)
  | .value bound => family.single (.value bound)
termination_by structural spec => spec

/-- The checkers of several specs. -/
def compileAll (family : Family) : List Spec → Except SpecFault (List Checker)
  | [] => .ok []
  | spec :: rest => do
      let checker ← compileShape family spec
      let checkers ← compileAll family rest
      return checker :: checkers
termination_by structural specs => specs

/-- The checker of the first spec that is no skip marker. -/
def compileUnskipped (family : Family) : List Spec → Except SpecFault Checker
  | [] => .ok Checker.identity
  | spec :: rest =>
      if spec.isSkip then
        compileUnskipped family rest
      else
        compileShape family spec
termination_by structural specs => specs

/-- The checker of a map of the given entry. -/
def compileEntry (family : Family) : Spec × Spec → Except SpecFault Checker
  | (key, content) => do
      let key ← compileShape family key
      let content ← compileShape family content
      return Checker.mapOf key content
termination_by structural entry => entry

end

/-- The checker of a declared spec, or its refusal. -/
def compile
    (family : Family)
    (place : SpecPlace)
    (spec : Spec) :
    Except InvalidSpec Checker :=
  (compileShape family spec).mapError fun reason => ⟨family, place, reason⟩

end Spec

end CallGuard
