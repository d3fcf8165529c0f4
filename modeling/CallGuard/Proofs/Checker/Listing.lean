import CallGuard.Proofs.Checker.Lookup
import CallGuard.Proofs.Spec.Invariant
import CallGuard.Proofs.Table

namespace CallGuard

/-!
# Members as they are listed

A lookup goes through the plain members of a checker, through its registered checkers
and through its source.  The lists of its members are made without any lookup.  That
the two agree rests on one thing: a composite has plain members under all names under
which its source has some, so no lookup ever finds data in a source.  Composition
copies them, and whatever is registered later adds names and takes none away.
-/

namespace Checker

/--
A checker that callers put together: from any check, by registering members and labels,
by composition and by looking up members.
-/
inductive Constructed : Checker → Prop where
  | ofCheck (label : String) (check : Check) : Constructed (ofCheck label check)
  | withLabel {checker : Checker} (label : String) :
      Constructed checker → Constructed (checker.withLabel label)
  | withPlain {checker : Checker} (name : String) (value : Value) :
      Constructed checker → Constructed (checker.withPlain name value)
  | withChain {checker chained : Checker} (name : String) :
      Constructed checker → Constructed chained → Constructed (checker.withChain name chained)
  | compose {outer inner : Checker} :
      Constructed outer → Constructed inner → Constructed (compose outer inner)
  | member {checker next : Checker} {name : String} :
      Constructed checker →
      checker.member? name = some (.chain next) →
      Constructed next

namespace Constructed

theorem chain
    {checker reached : Checker}
    (constructed : checker.Constructed)
    {path : String}
    (found : checker.chain path = .ok reached) :
    reached.Constructed :=
  follow_keeps (fun _ _ _ head isMember => head.member isMember) constructed found

/-! ## The catalogue is put together in this way -/

theorem identity : Checker.identity.Constructed :=
  .ofCheck _ _

theorem ofRule (rule : Rule) :
    (Checker.ofRule rule).Constructed := by
  -- Any number of plain members may be entered, whatever was entered before.
  have entered
      (members : List (String × Value))
      {checker : Checker}
      (constructed : checker.Constructed) :
      (members.foldl (fun checker member => checker.withPlain member.1 member.2)
        checker).Constructed := by
    induction members generalizing checker with
    | nil =>
        exact constructed
    | cons member rest inductionHypothesis =>
        exact inductionHypothesis (constructed.withPlain member.1 member.2)
  exact entered rule.members (.ofCheck rule.label (.rule rule))

variable {checker : Checker}

theorem each (checker : Checker) :
    (Checker.each checker).Constructed := by
  unfold Checker.each
  split
  · exact .identity
  · exact .ofCheck _ _

theorem all (checker : Checker) :
    (Checker.all checker).Constructed :=
  ((each checker).compose (.ofRule .iterable)).withLabel _

theorem listOf (checker : Checker) :
    (Checker.listOf checker).Constructed :=
  ((each checker).compose (.ofRule _)).withLabel _

theorem tupleOf (checker : Checker) :
    (Checker.tupleOf checker).Constructed :=
  ((each checker).compose (.ofRule _)).withLabel _

theorem setOf (checker : Checker) :
    (Checker.setOf checker).Constructed :=
  ((each checker).compose (.ofRule _)).withLabel _

theorem mapOf (key content : Checker) :
    (Checker.mapOf key content).Constructed := by
  unfold Checker.mapOf
  split
  · exact (ofRule _).withLabel _
  · exact ((Constructed.ofCheck _ _).compose (.ofRule _)).withLabel _

theorem slots (items : List Checker) :
    (Checker.slots items).Constructed :=
  ((Constructed.ofCheck _ _).compose (.ofRule _)).withLabel _

theorem withNonEmpty (constructed : checker.Constructed) :
    checker.withNonEmpty.Constructed :=
  constructed.withChain _ (.compose (.ofRule .nonEmpty) constructed)

theorem withVariants (constructed : checker.Constructed) :
    checker.withVariants.Constructed := by
  unfold Checker.withVariants
  simp only [List.foldl_cons, List.foldl_nil]
  apply withChain
  · apply withChain
    · apply withChain
      · apply withChain
        · exact constructed.withNonEmpty.withChain _ (all checker).withNonEmpty
        · exact (listOf checker).withNonEmpty
      · exact (tupleOf checker).withNonEmpty
    · exact (setOf checker).withNonEmpty
  · exact (mapOf Checker.identity checker).withNonEmpty

theorem catalogue (rule : Rule) :
    (Checker.catalogue rule).Constructed :=
  (ofRule rule).withVariants

theorem keptByContainers : KeptByContainers Constructed where
  identity := identity
  kind := fun tag => ofRule (.instanceOf [tag])
  catalogue := catalogue
  listOf := fun _ => listOf _
  tupleOf := fun _ => tupleOf _
  setOf := fun _ => setOf _
  mapOf := fun _ _ => mapOf _ _
  slots := fun _ => slots _

theorem of_compile
    {family : Family}
    {place : SpecPlace}
    {spec : Spec}
    {checker : Checker}
    (compiled : spec.compile family place = .ok checker) :
    checker.Constructed :=
  Spec.compile_keeps keptByContainers compiled

end Constructed

/--
A checker whose tables hold no name twice and which has plain members under all names
under which its source has some, as is so of all checkers that its members lead to.
-/
inductive Coherent : Checker → Prop where
  | intro {checker : Checker}
      (plainDistinct : (Table.names checker.plain).Nodup)
      (chainsDistinct : (Table.names checker.chains).Nodup)
      (chains : ∀ entry ∈ checker.chains, Coherent entry.2)
      (covers :
        ∀ origin, checker.source = some origin →
          Table.names origin.plain ⊆ Table.names checker.plain)
      (source : ∀ origin, checker.source = some origin → Coherent origin) :
      Coherent checker

namespace Coherent

/-! ## What keeps a checker coherent -/

theorem plainDistinct
    {checker : Checker}
    (coherent : checker.Coherent) :
    (Table.names checker.plain).Nodup := by
  cases coherent with
  | intro plainDistinct chainsDistinct chains covers source =>
      exact plainDistinct

/-- The source of a coherent checker is coherent and has no plain name of its own. -/
theorem source
    {checker origin : Checker}
    (coherent : checker.Coherent)
    (isSource : checker.source = some origin) :
    Table.names origin.plain ⊆ Table.names checker.plain ∧ origin.Coherent := by
  cases coherent with
  | intro plainDistinct chainsDistinct chains covers source =>
      exact ⟨covers origin isSource, source origin isSource⟩

theorem ofCheck
    (label : String)
    (check : Check) :
    (Checker.ofCheck label check).Coherent := by
  refine .intro List.nodup_nil List.nodup_nil ?_ ?_ ?_
  · exact fun entry member => (List.not_mem_nil member).elim
  · intro origin isSource
    cases isSource
  · intro origin isSource
    cases isSource

theorem withLabel
    {checker : Checker}
    (coherent : checker.Coherent)
    (label : String) :
    (checker.withLabel label).Coherent := by
  cases coherent with
  | intro plainDistinct chainsDistinct chains covers source =>
      exact .intro plainDistinct chainsDistinct chains covers source

/-- A plain member that is entered later may take a name, and frees none. -/
theorem withPlain
    {checker : Checker}
    (coherent : checker.Coherent)
    (name : String)
    (value : Value) :
    (checker.withPlain name value).Coherent := by
  cases coherent with
  | intro plainDistinct chainsDistinct chains covers source =>
      refine .intro (Table.nodup_names_enter plainDistinct name value) chainsDistinct chains
        (fun origin isSource other inOrigin => ?_) source
      exact Table.mem_names_enter_iff.mpr (.inl (covers origin isSource inOrigin))

theorem withChain
    {checker chained : Checker}
    (coherent : checker.Coherent)
    (name : String)
    (chainedCoherent : chained.Coherent) :
    (checker.withChain name chained).Coherent := by
  cases coherent with
  | intro plainDistinct chainsDistinct chains covers source =>
      refine .intro plainDistinct (Table.nodup_names_enter chainsDistinct name chained)
        (fun entry member => ?_) covers source
      rcases Table.mem_enter member with old | new
      · exact chains entry old
      · rw [new]
        exact chainedCoherent

/-- A composite copies the plain members of its source. -/
theorem sequence
    {origin : Checker}
    (coherent : origin.Coherent)
    (label : String)
    (first second : Checker) :
    (Checker.sequence label first second origin).Coherent := by
  refine .intro coherent.plainDistinct List.nodup_nil ?_ ?_ ?_
  · exact fun entry member => (List.not_mem_nil member).elim
  · rintro other ⟨⟩
    exact List.Subset.refl _
  · rintro other ⟨⟩
    exact coherent

theorem compose
    {outer inner : Checker}
    (outerCoherent : outer.Coherent)
    (innerCoherent : inner.Coherent) :
    (Checker.compose outer inner).Coherent := by
  unfold Checker.compose
  split
  · exact outerCoherent
  · split
    · exact innerCoherent
    · exact innerCoherent.sequence _ _ _

theorem behind
    {head member : Checker}
    (headCoherent : head.Coherent)
    (memberCoherent : member.Coherent) :
    (Checker.behind head member).Coherent := by
  unfold Checker.behind
  split
  · exact headCoherent
  · split
    · exact memberCoherent
    · exact memberCoherent.sequence _ _ _

theorem member?
    {checker next : Checker}
    (coherent : checker.Coherent)
    {name : String}
    (found : checker.member? name = some (.chain next)) :
    next.Coherent := by
  induction coherent generalizing next with
  | @intro checker plainDistinct chainsDistinct chains covers source _ sourceHypothesis =>
      rcases registered_or_behind_of_member? found with
        registered | ⟨origin, further, isSource, offered, rfl⟩
      · exact chains _ (Table.mem_of_get?_eq_some registered)
      · have whole : checker.Coherent :=
          .intro plainDistinct chainsDistinct chains covers source
        exact whole.behind (sourceHypothesis origin isSource offered)

theorem of_constructed
    {checker : Checker}
    (constructed : checker.Constructed) :
    checker.Coherent := by
  induction constructed with
  | ofCheck label check =>
      exact ofCheck label check
  | withLabel label _ checker =>
      exact checker.withLabel label
  | withPlain name value _ checker =>
      exact checker.withPlain name value
  | withChain name _ _ checker chained =>
      exact checker.withChain name chained
  | compose _ _ outer inner =>
      exact outer.compose inner
  | member _ found checker =>
      exact checker.member? found

/-! ## What a lookup in a coherent checker finds -/

theorem nodup_chainNames
    {checker : Checker}
    (coherent : checker.Coherent) :
    checker.chainNames.Nodup := by
  induction coherent with
  | intro plainDistinct chainsDistinct chains covers source _ sourceHypothesis =>
      refine nodup_chainNames_iff.mpr ⟨chainsDistinct, fun origin isSource => ?_⟩
      exact (sourceHypothesis origin isSource).filter _

/-- Data that a lookup finds is registered with the checker itself. -/
theorem registered_of_member?
    {checker : Checker}
    (coherent : checker.Coherent)
    {name : String}
    {value : Value}
    (found : checker.member? name = some (.plain value)) :
    Table.get? checker.plain name = some value := by
  induction coherent with
  | @intro checker plainDistinct chainsDistinct chains covers source _ sourceHypothesis =>
      rcases registered_or_offered_of_member? found with
        registered | ⟨origin, isSource, notPlain, offered⟩
      · exact registered
      · have inOrigin : name ∈ Table.names origin.plain :=
          Table.mem_names_of_get?_eq_some (sourceHypothesis origin isSource offered)
        exact absurd (covers origin isSource inOrigin) (Table.get?_eq_none_iff.mp notPlain)

theorem member?_eq_plain_iff
    {checker : Checker}
    (coherent : checker.Coherent)
    {name : String}
    {value : Value} :
    checker.member? name = some (.plain value) ↔ (name, value) ∈ checker.plain := by
  rw [← Table.get?_eq_some_iff coherent.plainDistinct]
  exact ⟨coherent.registered_of_member?, member?_of_plain⟩

/-- A checker is found under a name that is listed, unless plain data is in front of it. -/
theorem exists_member?_eq_chain_iff
    {checker : Checker}
    (coherent : checker.Coherent)
    {name : String} :
    (∃ next, checker.member? name = some (.chain next)) ↔
      name ∈ checker.chainNames ∧ name ∉ Table.names checker.plain := by
  induction coherent with
  | @intro checker plainDistinct chainsDistinct chains covers source _ sourceHypothesis =>
      rw [mem_chainNames_iff]
      cases isPlain : Table.get? checker.plain name with
      | some value =>
          have there := Table.mem_names_of_get?_eq_some isPlain
          simp [member?_of_plain isPlain, there]
      | none =>
          have notPlain := Table.get?_eq_none_iff.mp isPlain
          cases registered : Table.get? checker.chains name with
          | some chained =>
              have there := Table.mem_names_of_get?_eq_some registered
              simp [member?_of_registered isPlain registered, there, notPlain]
          | none =>
              have unregistered := Table.get?_eq_none_iff.mp registered
              rw [exists_member?_eq_chain_iff_offered isPlain registered]
              simp only [unregistered, false_or, notPlain, not_false_eq_true, and_true]
              refine exists_congr fun origin => and_congr_right fun isSource => ?_
              have notInOrigin : name ∉ Table.names origin.plain :=
                fun inOrigin => notPlain (covers origin isSource inOrigin)
              rw [sourceHypothesis origin isSource, and_iff_left notInOrigin]

theorem member?_eq_none_iff
    {checker : Checker}
    (coherent : checker.Coherent)
    {name : String} :
    checker.member? name = none ↔
      name ∉ checker.chainNames ∧ name ∉ Table.names checker.plain := by
  have chained :
      (∃ next, checker.member? name = some (.chain next)) ↔
        name ∈ checker.chainNames ∧ name ∉ Table.names checker.plain :=
    coherent.exists_member?_eq_chain_iff
  cases isPlain : Table.get? checker.plain name with
  | some value =>
      have there := Table.mem_names_of_get?_eq_some isPlain
      simp [member?_of_plain isPlain, there]
  | none =>
      have notPlain := Table.get?_eq_none_iff.mp isPlain
      rw [and_iff_left notPlain] at chained ⊢
      rw [← chained]
      cases found : checker.member? name with
      | none =>
          simp
      | some member =>
          cases member with
          | plain value =>
              rw [coherent.registered_of_member? found] at isPlain
              cases isPlain
          | chain next =>
              simp

end Coherent

/--
What a lookup finds in a checker is what the lists of its members say.  No list has a
name twice.  Plain members are those of the table, chained members those that are
listed and not plain besides, and there are no others.  All names of plain members of
the source are names of plain members, so where a lookup is left to the source it finds
no data there.
-/
structure MembersAsListed (checker : Checker) : Prop where
  plainNamesDistinct : (Table.names checker.plain).Nodup
  chainNamesDistinct : checker.chainNames.Nodup
  plain_iff :
    ∀ name value,
      checker.member? name = some (.plain value) ↔ (name, value) ∈ checker.plain
  chain_iff :
    ∀ name,
      (∃ next, checker.member? name = some (.chain next)) ↔
        name ∈ checker.chainNames ∧ name ∉ Table.names checker.plain
  absent_iff :
    ∀ name,
      checker.member? name = none ↔
        name ∉ checker.chainNames ∧ name ∉ Table.names checker.plain
  sourceCovered :
    ∀ origin, checker.source = some origin →
      Table.names origin.plain ⊆ Table.names checker.plain
  noDataOffered :
    ∀ origin, checker.source = some origin →
      ∀ name value,
        name ∉ Table.names checker.plain →
        origin.member? name ≠ some (.plain value)

/--
Lookups and lists agree in every checker that is put together by registering members,
composition and lookups, however its members stand in front of each other.
-/
theorem constructed_membersAsListed
    {checker : Checker}
    (constructed : checker.Constructed) :
    checker.MembersAsListed where
  plainNamesDistinct := (Coherent.of_constructed constructed).plainDistinct
  chainNamesDistinct := (Coherent.of_constructed constructed).nodup_chainNames
  plain_iff name value := (Coherent.of_constructed constructed).member?_eq_plain_iff
  chain_iff name := (Coherent.of_constructed constructed).exists_member?_eq_chain_iff
  absent_iff name := (Coherent.of_constructed constructed).member?_eq_none_iff
  sourceCovered origin isSource :=
    ((Coherent.of_constructed constructed).source isSource).1
  noDataOffered origin isSource name value notPlain found := by
    obtain ⟨covers, originCoherent⟩ := (Coherent.of_constructed constructed).source isSource
    have registered := originCoherent.registered_of_member? found
    exact notPlain (covers (Table.mem_names_of_get?_eq_some registered))

/--
One of two numbers, with data under the names of two variants.  Under the name of data
that the inner operand tells about itself another checker is registered.
-/
def annotatedNumbers : Checker :=
  let numbers := (just [.int]).withPlain "List" (.str "numbers")
  ((compose (oneOf [.int 1, .int 2]) numbers).withChain "types" numbers).withPlain
    "Set" (.int 1)

/--
In `annotatedNumbers` three names are listed twice over, as plain and as chained members;
data is found under each.  The other names lead on, and to checkers of which the same is
so.
-/
theorem annotatedNumbers_membersAsListed :
    annotatedNumbers.MembersAsListed ∧
      annotatedNumbers.chainNames =
        ["types", "NonEmpty", "All", "List", "Tuple", "Set", "Map"] ∧
      annotatedNumbers.member? "types" = some (.plain (.tuple [.type .int])) ∧
      annotatedNumbers.member? "List" = some (.plain (.str "numbers")) ∧
      annotatedNumbers.member? "Set" = some (.plain (.int 1)) ∧
      annotatedNumbers.member? "options" = none ∧
      (∃ next, annotatedNumbers.member? "Tuple" = some (.chain next)) ∧
      ∃ reached,
        annotatedNumbers.chain "Map.NonEmpty" = .ok reached ∧ reached.MembersAsListed := by
  have numbersConstructed : ((just [.int]).withPlain "List" (.str "numbers")).Constructed :=
    (Constructed.catalogue _).withPlain _ _
  have constructed : annotatedNumbers.Constructed :=
    (((Constructed.catalogue _).compose numbersConstructed).withChain _
      numbersConstructed).withPlain _ _
  have listed := constructed_membersAsListed constructed
  have chained :
      annotatedNumbers.chainNames =
        ["types", "NonEmpty", "All", "List", "Tuple", "Set", "Map"] :=
    rfl
  have plain :
      annotatedNumbers.plain =
        [("types", .tuple [.type .int]), ("List", .str "numbers"), ("Set", .int 1)] :=
    rfl
  refine ⟨listed, chained, (listed.plain_iff _ _).mpr ?_, (listed.plain_iff _ _).mpr ?_,
    (listed.plain_iff _ _).mpr ?_, (listed.absent_iff _).mpr ?_,
    (listed.chain_iff _).mpr ?_, ?_⟩
  · simp [plain]
  · simp [plain]
  · simp [plain]
  · simp [chained, plain, Table.names]
  · simp [chained, plain, Table.names]
  · obtain ⟨reached, found⟩ :
        ∃ reached, annotatedNumbers.chain "Map.NonEmpty" = .ok reached :=
      ⟨_, rfl⟩
    exact ⟨reached, found, constructed_membersAsListed (constructed.chain found)⟩

end Checker

end CallGuard
