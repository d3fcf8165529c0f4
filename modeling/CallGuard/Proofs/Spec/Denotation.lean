import CallGuard.Proofs.Checker.Decision
import CallGuard.Spec.Compile

namespace CallGuard

/-!
# What specs mean

Which shapes are well formed, and which values they mean, is said here without
mention of compilation.  A shape has a meaning through its parts: the skip marker
means everything, containers mean containers of what their parts mean, and a
tuple is one constraint as a whole, a tuple of any length, or one item for each
place.  The two families differ in `DenotesBare` and `DenotesFlat` alone.
-/

/-- The type that an entry names: the type itself, or one given as a value. -/
inductive Spec.NamesType : Spec → TypeTag → Prop where
  | type (tag : TypeTag) : NamesType (.type tag) tag
  | value (tag : TypeTag) : NamesType (.value (.type tag)) tag

/-- One side of a pair of bounds: a bound, or a skip marker for an open side. -/
inductive Spec.Side : Spec → Option Value → Prop where
  | bound (bound : Value) : Side (.value bound) (some bound)
  | opened : Side .skip none

/-- Entries with exactly one skip marker, and those that are left without it. -/
structure Spec.SkipsOnce (entries rest : List Spec) : Prop where
  once : entries.countP Spec.isSkip = 1
  left : entries.filter (fun spec => !spec.isSkip) = rest

/-- What a constraint means that stands alone. Bounds come in pairs only. -/
inductive Family.DenotesBare : Family → Spec → Meaning → Prop where
  | type {spec : Spec} {tag : TypeTag} :
      spec.NamesType tag →
      DenotesBare .typed spec (.instanceOf [tag])

/--
What entries mean that are one constraint together: alternatives for types, and
for bounds the two ends of an interval, of which one may be open.
-/
inductive Family.DenotesFlat : Family → List Spec → Meaning → Prop where
  | alternatives {entries : List Spec} {tags : List TypeTag} :
      entries ≠ [] →
      List.Forall₂ Spec.NamesType entries tags →
      DenotesFlat .typed entries (.instanceOf tags)
  | pair {low high : Spec} {lowBound highBound : Option Value} :
      low.Side lowBound →
      high.Side highBound →
      ¬(lowBound = none ∧ highBound = none) →
      Interval.ofBounds lowBound highBound = .ok ⟨lowBound, highBound⟩ →
      DenotesFlat .bounded [low, high] (.within ⟨lowBound, highBound⟩)

/-- A shape that is well formed in a family, with its meaning. -/
inductive Spec.Denotes (family : Family) : Spec → Meaning → Prop where
  | skip :
      Denotes family .skip .anything
  | bare {spec : Spec} {meaning : Meaning} :
      family.DenotesBare spec meaning →
      Denotes family spec meaning
  | list {member : Spec} {meaning : Meaning} :
      Denotes family member meaning →
      Denotes family (.list [member]) (.listOf meaning)
  | set {member : Spec} {meaning : Meaning} :
      Denotes family member meaning →
      Denotes family (.set [member]) (.setOf meaning)
  | map {key content : Spec} {keyMeaning contentMeaning : Meaning} :
      Denotes family key keyMeaning →
      Denotes family content contentMeaning →
      Denotes family (.map [(key, content)]) (.mapOf keyMeaning contentMeaning)
  | flat {entries : List Spec} {meaning : Meaning} :
      family.DenotesFlat entries meaning →
      Denotes family (.tuple entries) meaning
  /-- The skip marker alone: tuples of anything. -/
  | anyTuple {entries : List Spec} :
      Spec.SkipsOnce entries [] →
      Denotes family (.tuple entries) (.tupleOf .anything)
  /-- One collection beside the skip marker: tuples of it, of any length. -/
  | everyItem {entries : List Spec} {item : Spec} {meaning : Meaning} :
      Spec.SkipsOnce entries [item] →
      item.isCollection = true →
      Denotes family item meaning →
      Denotes family (.tuple entries) (.tupleOf meaning)
  /-- One constraint beside the skip marker: tuples of it, of any length. -/
  | everyItemFlat {entries rest : List Spec} {meaning : Meaning} :
      Spec.SkipsOnce entries rest →
      family.DenotesFlat rest meaning →
      Denotes family (.tuple entries) (.tupleOf meaning)
  /-- Collections only: tuples with one item for each. -/
  | eachPlace {entries : List Spec} {meanings : List Meaning} :
      entries ≠ [] →
      (∀ entry ∈ entries, entry.isCollection = true) →
      List.Forall₂ (Denotes family) entries meanings →
      Denotes family (.tuple entries) (.slots meanings)

/-- A spec has a meaning in a family. -/
def Spec.WellFormed (family : Family) (spec : Spec) : Prop :=
  ∃ meaning, spec.Denotes family meaning

end CallGuard
