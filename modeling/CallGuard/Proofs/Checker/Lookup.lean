import CallGuard.Checker.Basic

namespace CallGuard

/-!
# Looking up members one after another

A path of names leads from a checker to a member of a member, or to nothing.  A
composite has no members of its own.  It exposes those of its source: looking a
name up in it is looking it up in the source, and putting the composite in front
of what is found.
-/

namespace Checker

/-- The member at the end of a path of names; a plain member has no members. -/
def memberAt?
    (checker : Checker) :
    List String →
    Option Member
  | [] => some (.chain checker)
  | name :: rest =>
      match checker.member? name with
      | some (.chain next) => next.memberAt? rest
      | some (.plain value) => if rest.isEmpty then some (.plain value) else none
      | none => none

theorem member?_of_plain
    {checker : Checker}
    {name : String}
    {value : Value}
    (registered : Table.get? checker.plain name = some value) :
    checker.member? name = some (.plain value) := by
  rcases checker with ⟨label, check, plain, chains, source⟩
  unfold member?
  simp only [registered]

/-- A registered checker is found unless plain data stands in front of it. -/
theorem member?_of_registered
    {checker chained : Checker}
    {name : String}
    (notPlain : Table.get? checker.plain name = none)
    (registered : Table.get? checker.chains name = some chained) :
    checker.member? name = some (.chain chained) := by
  rcases checker with ⟨label, check, plain, chains, source⟩
  unfold member?
  simp only [notPlain, registered]

/-- A chained member is registered, or it is one of the source behind the checker. -/
theorem registered_or_behind_of_member?
    {checker next : Checker}
    {name : String}
    (found : checker.member? name = some (.chain next)) :
    Table.get? checker.chains name = some next ∨
      ∃ origin further,
        checker.source = some origin ∧
          origin.member? name = some (.chain further) ∧
          next = behind checker further := by
  rcases checker with ⟨label, check, plain, chains, source⟩
  unfold member? at found
  split at found
  case h_1 value isPlain =>
    cases found
  case h_2 notPlain =>
    split at found
    case h_1 chained registered =>
      cases found
      exact .inl registered
    case h_2 unregistered =>
      cases source with
      | none =>
          cases found
      | some origin =>
          cases offered : origin.member? name with
          | none =>
              simp only [offered, reduceCtorEq] at found
          | some member =>
              cases member with
              | plain value =>
                  simp only [offered, Option.some.injEq, reduceCtorEq] at found
              | chain further =>
                  simp only [offered, Option.some.injEq, Member.chain.injEq] at found
                  exact .inr ⟨origin, further, rfl, offered, found.symm⟩

/-- Data is registered, or it is data of the source that nothing stands in front of. -/
theorem registered_or_offered_of_member?
    {checker : Checker}
    {name : String}
    {value : Value}
    (found : checker.member? name = some (.plain value)) :
    Table.get? checker.plain name = some value ∨
      ∃ origin,
        checker.source = some origin ∧
          Table.get? checker.plain name = none ∧
          origin.member? name = some (.plain value) := by
  rcases checker with ⟨label, check, plain, chains, source⟩
  unfold member? at found
  split at found
  case h_1 other registered =>
    cases found
    exact .inl registered
  case h_2 notPlain =>
    split at found
    case h_1 chained registered =>
      cases found
    case h_2 unregistered =>
      cases source with
      | none =>
          cases found
      | some origin =>
          refine .inr ⟨origin, rfl, notPlain, ?_⟩
          cases offered : origin.member? name with
          | none =>
              simp only [offered, reduceCtorEq] at found
          | some member =>
              cases member with
              | plain other =>
                  simpa only [offered] using found
              | chain further =>
                  simp only [offered, Option.some.injEq, reduceCtorEq] at found

/-- Where a checker has no member of its own, it has the chained members of its source. -/
theorem exists_member?_eq_chain_iff_offered
    {checker : Checker}
    {name : String}
    (notPlain : Table.get? checker.plain name = none)
    (unregistered : Table.get? checker.chains name = none) :
    (∃ next, checker.member? name = some (.chain next)) ↔
      ∃ origin,
        checker.source = some origin ∧
          ∃ further, origin.member? name = some (.chain further) := by
  constructor
  · rintro ⟨next, found⟩
    rcases registered_or_behind_of_member? found with
      registered | ⟨origin, further, isSource, offered, -⟩
    · rw [unregistered] at registered
      cases registered
    · exact ⟨origin, isSource, further, offered⟩
  · rintro ⟨origin, isSource, further, offered⟩
    rcases checker with ⟨label, check, plain, chains, source⟩
    cases isSource
    unfold member?
    simp only [notPlain, unregistered, offered]
    exact ⟨_, rfl⟩

/-- What every lookup keeps of a checker is so of the one at the end of a path of names. -/
theorem follow_keeps
    {Holds : Checker → Prop}
    (kept :
      ∀ checker name next,
        Holds checker → checker.member? name = some (.chain next) → Holds next)
    {checker reached : Checker}
    (holds : Holds checker)
    {names : List String}
    (found : checker.follow names = .ok reached) :
    Holds reached := by
  induction names generalizing checker with
  | nil =>
      cases found
      exact holds
  | cons name rest inductionHypothesis =>
      rw [follow] at found
      split at found
      case h_1 next isMember =>
        exact inductionHypothesis (kept checker name next holds isMember) found
      case h_2 =>
        cases found
      case h_3 =>
        cases found

/-- Chained members are registered or offered by the source. -/
theorem mem_chainNames_iff
    {checker : Checker}
    {name : String} :
    name ∈ checker.chainNames ↔
      name ∈ Table.names checker.chains ∨
        ∃ origin, checker.source = some origin ∧ name ∈ origin.chainNames := by
  rcases checker with ⟨label, check, plain, chains, source⟩
  cases source with
  | none =>
      simp [chainNames]
  | some origin =>
      simp only [chainNames, List.mem_append, List.mem_filter, Option.some.injEq,
        exists_eq_left']
      by_cases there : name ∈ Table.names chains
      · simp [there]
      · simp [there]

/-- No name is listed twice if the names of either part are not. -/
theorem nodup_chainNames_iff
    {checker : Checker} :
    checker.chainNames.Nodup ↔
      (Table.names checker.chains).Nodup ∧
        ∀ origin,
          checker.source = some origin →
          (origin.chainNames.filter
            fun name => !(Table.names checker.chains).contains name).Nodup := by
  rcases checker with ⟨label, check, plain, chains, source⟩
  cases source with
  | none =>
      simp [chainNames]
  | some origin =>
      have apart :
          ∀ registered ∈ Table.names chains,
            ∀ offered ∈ origin.chainNames.filter
              (fun name => !(Table.names chains).contains name),
            registered ≠ offered := by
        rintro name there other offered rfl
        have absent := (List.mem_filter.mp offered).2
        simp [there] at absent
      simp only [chainNames, List.nodup_append, Option.some.injEq, forall_eq']
      exact and_congr_right fun _ => and_iff_left apart

/-- All members of one checker are those of another, behind the first. -/
structure Exposes
    (head origin : Checker) :
    Prop where
  plain : head.plain = origin.plain
  chains : head.chains = []
  source : head.source = some origin

theorem sequence_exposes
    (label : String)
    (first second origin : Checker) :
    (sequence label first second origin).Exposes origin :=
  ⟨rfl, rfl, rfl⟩

namespace Exposes

variable {head origin : Checker}

theorem chainNames_eq (exposes : head.Exposes origin) :
    head.chainNames = origin.chainNames := by
  rcases head with ⟨label, check, plain, chains, source⟩
  obtain ⟨-, rfl, rfl⟩ := exposes
  simp [chainNames, Table.names]

/-- A lookup finds what the origin has, chained members behind the head. -/
theorem member?_eq
    (exposes : head.Exposes origin)
    (name : String) :
    head.member? name =
      match origin.member? name with
      | some (.chain next) => some (.chain (behind head next))
      | found => found := by
  rcases head with ⟨label, check, plain, chains, source⟩
  obtain ⟨rfl, rfl, rfl⟩ := exposes
  cases registered : Table.get? origin.plain name with
  | some value =>
      simp only [member?, registered, member?_of_plain registered]
  | none =>
      cases offered : origin.member? name with
      | none =>
          simp only [member?, registered, Table.get?, offered]
      | some member =>
          cases member with
          | plain value =>
              simp only [member?, registered, Table.get?, offered]
          | chain next =>
              simp only [member?, registered, Table.get?, offered]

end Exposes

/-! ## What a composite runs -/

/-- The second check decides once the first has passed. -/
theorem sequence_run
    (label : String)
    (first second origin : Checker)
    (options : CheckOptions)
    (name : Option String)
    (value : Value) :
    (sequence label first second origin).run options name value =
      match first.run options name value with
      | .error failure => .error failure
      | .ok () => second.run options name value := by
  rfl

/-- Checking again what has passed already changes nothing. -/
theorem sequence_run_of_covered
    {first second : Checker}
    {options : CheckOptions}
    {name : Option String}
    {value : Value}
    (covered :
      first.run options name value = .ok () → second.run options name value = .ok ())
    (label : String)
    (origin : Checker) :
    (sequence label first second origin).run options name value =
      first.run options name value := by
  rw [sequence_run]
  cases passes : first.run options name value with
  | error failure =>
      rfl
  | ok passed =>
      exact covered passes

/-- A composite passes nothing that one of its checks refuses. -/
theorem sequence_run_eq_ok_iff
    (label : String)
    (first second origin : Checker)
    (options : CheckOptions)
    (name : Option String)
    (value : Value) :
    (sequence label first second origin).run options name value = .ok () ↔
      first.run options name value = .ok () ∧
        second.run options name value = .ok () := by
  rw [sequence_run]
  cases first.run options name value with
  | error failure =>
      simp
  | ok passed =>
      simp

theorem compose_of_innerIdentity
    {inner : Checker}
    (innerIdentity : inner.isIdentity = true)
    (outer : Checker) :
    compose outer inner = outer := by
  rw [compose, if_pos innerIdentity]

theorem compose_of_outerIdentity
    {outer inner : Checker}
    (innerChecks : inner.isIdentity = false)
    (outerIdentity : outer.isIdentity = true) :
    compose outer inner = inner := by
  simp only [compose, innerChecks, outerIdentity, Bool.false_eq_true, ↓reduceIte]

theorem compose_of_checks
    {outer inner : Checker}
    (innerChecks : inner.isIdentity = false)
    (outerChecks : outer.isIdentity = false) :
    compose outer inner =
      sequence (inner.label ++ " >> " ++ outer.label) inner outer inner := by
  simp only [compose, innerChecks, outerChecks, Bool.false_eq_true, ↓reduceIte]

theorem behind_of_isIdentity
    {member : Checker}
    (memberIdentity : member.isIdentity = true)
    (head : Checker) :
    behind head member = head := by
  rw [behind, if_pos memberIdentity]

theorem behind_of_checks
    {head member : Checker}
    (headChecks : head.isIdentity = false)
    (memberChecks : member.isIdentity = false) :
    behind head member =
      sequence (head.label ++ "." ++ member.label) head member member := by
  simp only [behind, headChecks, memberChecks, Bool.false_eq_true, ↓reduceIte]

end Checker

end CallGuard
