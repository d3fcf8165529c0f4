import CallGuard.Proofs.Binding.Precedence

namespace CallGuard.Binder

/-!
# Positions that are read

For every positional argument with a parameter of its own, binding reads the name at the
position of the argument.  The arguments that are read are counted from the number of
names and from the receiver, and the receiver is the first declared parameter, which may
take its argument by name alone: then there can be more positions to pass over than there
are names.  Still every position that is read has a name, and no position is read twice.
-/

/-! ## Which positions are read -/

/-- The positions at which binding reads the name of a parameter, in order. -/
def positionsRead
    (binder : Binder)
    (call : CallArguments) :
    List Nat :=
  (binder.bindable call).map Prod.snd

theorem nodup_positionsRead
    (binder : Binder)
    (call : CallArguments) :
    (binder.positionsRead call).Nodup := by
  have ofAll : (binder.bindable call).Sublist call.positional.zipIdx :=
    (List.take_sublist _ _).trans (List.drop_sublist _ _)
  have allDistinct : (call.positional.zipIdx.map Prod.snd).Nodup := by
    rw [List.zipIdx_map_snd]
    exact List.nodup_range'
  exact (ofAll.map Prod.snd).nodup allDistinct

/-- An argument is read at its own position, if that is one of a parameter past the receiver. -/
theorem mem_bindable_iff
    {binder : Binder}
    {call : CallArguments}
    {value : Value}
    {position : Nat} :
    (value, position) ∈ binder.bindable call ↔
      call.positional[position]? = some value ∧
        binder.receiverOffset ≤ position ∧
        position < binder.positionalNames.length := by
  rw [bindable, bindableCount, List.mem_iff_getElem?]
  simp only [List.getElem?_take, List.getElem?_drop, List.getElem?_zipIdx, Nat.zero_add]
  constructor
  · rintro ⟨place, found⟩
    split at found
    case isTrue within =>
      obtain ⟨argument, present, same⟩ := Option.map_eq_some_iff.mp found
      cases same
      exact ⟨present, Nat.le_add_right .., by omega⟩
    case isFalse beyond =>
      cases found
  · rintro ⟨present, afterReceiver, named⟩
    refine ⟨position - binder.receiverOffset, ?_⟩
    rw [if_pos (by omega), Nat.add_sub_cancel' afterReceiver, present]
    rfl

/-! ## Reading names -/

/-- Bind positional arguments, giving up at a position without a name. -/
def bindPositional?
    (binder : Binder)
    (bound : Table Value) :
    List (Value × Nat) →
    Option (Table Value)
  | [] => some bound
  | argument :: rest =>
      match binder.positionalNames[argument.2]? with
      | some name => binder.bindPositional? (bound.enterNew name argument.1) rest
      | none => none

/-- Bind the arguments of a call, giving up where a name is read that is not there. -/
def bind?
    (binder : Binder)
    (call : CallArguments) :
    Option (Table Value) :=
  (binder.bindPositional? call.named (binder.bindable call)).map fun positional =>
    binder.bindSurplus binder.surplusNamed
      (Value.ofNamed (binder.undeclaredArguments call))
      (binder.bindSurplus binder.surplusPositional
        (.tuple (binder.surplusArguments call)) positional)

/-- Binding is given up exactly if some position has no name. -/
theorem bindPositional?_eq_some_iff
    {binder : Binder}
    {bound result : Table Value}
    {arguments : List (Value × Nat)} :
    binder.bindPositional? bound arguments = some result ↔
      (∀ argument ∈ arguments, argument.2 < binder.positionalNames.length) ∧
        binder.bindPositional bound arguments = result := by
  induction arguments generalizing bound with
  | nil =>
      simp [bindPositional?, bindPositional]
  | cons argument rest inductionHypothesis =>
      rw [List.forall_mem_cons, bindPositional?, bindPositional, List.foldl_cons]
      by_cases named : argument.2 < binder.positionalNames.length
      · simp only [List.getElem?_eq_getElem named, inductionHypothesis, named, true_and]
        rfl
      · simp only [List.getElem?_eq_none (Nat.le_of_not_lt named), named, false_and,
          reduceCtorEq]

theorem bind?_eq_some
    (binder : Binder)
    (call : CallArguments) :
    binder.bind? call = some (binder.bind call) := by
  have named :
      ∀ argument ∈ binder.bindable call, argument.2 < binder.positionalNames.length :=
    fun _ member => (mem_bindable_iff.mp member).2.2
  rw [bind?, bindPositional?_eq_some_iff.mpr ⟨named, rfl⟩]
  rfl

/--
A call reads the names of positional parameters in range.  Every argument past the
receiver with a parameter at its position is read there and no other; no position is
read twice; and binding is never given up for want of a name.
-/
structure ReadsInRange
    (binder : Binder)
    (signature : Signature)
    (settings : Settings)
    (call : CallArguments) :
    Prop where
  inRange :
    ∀ position ∈ binder.positionsRead call, position < binder.positionalNames.length
  distinct : (binder.positionsRead call).Nodup
  read_iff :
    ∀ value position,
      (value, position) ∈ binder.bindable call ↔
        call.positional[position]? = some value ∧
          signature.receiverOffset settings ≤ position ∧
          position < signature.positionalNames.length
  bound : binder.bind? call = some (binder.bind call)

/-- Whatever the parameters of a callable are, binding a call reads names in range. -/
theorem readsInRange_of_build
    {family : Family}
    {table : SpecTable}
    {signature : Signature}
    {settings : Settings}
    {binder : Binder}
    (built : build family table signature settings = .ok binder)
    (call : CallArguments) :
    binder.ReadsInRange signature settings call := by
  obtain ⟨checkers, -, rfl⟩ := build_eq_ok_iff.mp built
  refine ⟨fun position read => ?_, nodup_positionsRead _ call, fun value position => ?_,
    bind?_eq_some _ call⟩
  · obtain ⟨⟨value, _⟩, member, rfl⟩ := List.mem_map.mp read
    exact (mem_bindable_iff.mp member).2.2
  · exact mem_bindable_iff

/-- A receiver by name alone, and in front of it the surplus, with no name to read. -/
def nameless : Signature :=
  ⟨"f", Signature.defaultModule,
    [⟨.surplusPositional, "args", none⟩, ⟨.keywordOnly, "cls", none⟩]⟩

/-- A receiver by name alone, and behind it two more that go by one name. -/
def manyReceivers : Signature :=
  ⟨"f", Signature.defaultModule,
    [⟨.keywordOnly, "cls", none⟩, ⟨.positional, "self", none⟩, ⟨.positional, "self", none⟩,
      ⟨.positional, "x", none⟩]⟩

/-- A call with more positional arguments than either has names. -/
def overfull : CallArguments :=
  ⟨[.int 0, .int 1, .int 2, .int 3], []⟩

/-- Of `overfull` the arguments between receiver and surplus are read, if there are any. -/
theorem overfull_readsInRange :
    (∃ binder,
      build .typed ⟨[.type .int], []⟩ nameless Settings.standard = .ok binder ∧
        binder.ReadsInRange nameless Settings.standard overfull ∧
        nameless.receiverOffset Settings.standard = 1 ∧
        binder.positionalNames = [] ∧
        binder.positionsRead overfull = []) ∧
      ∃ binder,
        build .typed ⟨[.type .int], []⟩ manyReceivers Settings.standard = .ok binder ∧
          binder.ReadsInRange manyReceivers Settings.standard overfull ∧
          binder.positionalNames = ["self", "self", "x"] ∧
          binder.positionsRead overfull = [1, 2] := by
  constructor
  · have built :
        build .typed ⟨[.type .int], []⟩ nameless Settings.standard = .ok _ := rfl
    exact ⟨_, built, readsInRange_of_build built overfull, rfl, rfl, rfl⟩
  · have built :
        build .typed ⟨[.type .int], []⟩ manyReceivers Settings.standard = .ok _ := rfl
    exact ⟨_, built, readsInRange_of_build built overfull, rfl, rfl⟩

end CallGuard.Binder
