import CallGuard.Decoration
import CallGuard.Proofs.Result
import Mathlib.Data.List.Forall2

namespace CallGuard

/-!
# Layers upon layers

Each decoration of a callable adds a layer in front of those that are there.  The
layers know nothing of each other: every one is the binder that its decoration has for
the signature alone.  A call is refused by the outermost layer that refuses it, and
only a call that every layer accepts reaches the callable.
-/

namespace Decoration

variable (decoration : Decoration) (signature : Signature)

/-- A decoration that can be applied to a callable of the signature. -/
def Applies : Prop :=
  ∃ binder, decoration.binder signature = .ok binder

/-- The layer of a decoration, by itself, accepts a call. -/
def Accepts (arguments : CallArguments) : Prop :=
  ∃ binder, decoration.binder signature = .ok binder ∧ binder.enforce arguments = .ok ()

/-- The layer of a decoration, by itself, refuses a call. -/
def Refuses
    (arguments : CallArguments)
    (failure : ArgumentFailure) :
    Prop :=
  ∃ binder,
    decoration.binder signature = .ok binder ∧ binder.enforce arguments = .error failure

variable
  {decoration signature}
  {binder : Binder}
  {arguments : CallArguments}
  {failure : ArgumentFailure}

theorem accepts_iff (built : decoration.binder signature = .ok binder) :
    decoration.Accepts signature arguments ↔ binder.enforce arguments = .ok () := by
  simp [Accepts, built]

theorem refuses_iff (built : decoration.binder signature = .ok binder) :
    decoration.Refuses signature arguments failure ↔
      binder.enforce arguments = .error failure := by
  simp [Refuses, built]

end Decoration

namespace Decorated

/-- A callable behind a layer for each of one or more decorations, applied in order. -/
def applyAll
    (first : Decoration)
    (rest : List Decoration)
    (signature : Signature)
    (callable : CallArguments → α) :
    Except InvalidSpec (Decorated α) :=
  wrap first signature callable >>= stackAll rest

/--
A callable with the layers of some decorations: the binder of each of them for the
signature, in the order opposite to that of the decorations.
-/
structure Layered
    (decorated : Decorated α)
    (decorations : List Decoration)
    (signature : Signature)
    (callable : CallArguments → α) :
    Prop where
  sameSignature : decorated.signature = signature
  sameCallable : decorated.callable = callable
  layers :
    List.Forall₂
      (fun (decoration : Decoration) layer => decoration.binder signature = .ok layer)
      decorations.reverse decorated.layers

variable
  {decorations rest : List Decoration}
  {first decoration : Decoration}
  {signature : Signature}
  {callable : CallArguments → α}
  {decorated inner outer : Decorated α}

/-! ## Applying decorations -/

theorem Layered.of_wrap
    (wrapped : wrap first signature callable = .ok decorated) :
    decorated.Layered [first] signature callable := by
  obtain ⟨binder, built, rfl⟩ := Result.map_eq_ok_iff.mp wrapped
  exact ⟨rfl, rfl, .cons built .nil⟩

/-- One more decoration puts its layer in front and leaves the others as they are. -/
theorem Layered.stack
    (layered : inner.Layered decorations signature callable)
    (stacked : inner.stack decoration = .ok outer) :
    outer.Layered (decorations ++ [decoration]) signature callable := by
  obtain ⟨binder, built, rfl⟩ := Result.map_eq_ok_iff.mp stacked
  rw [layered.sameSignature] at built
  refine ⟨layered.sameSignature, layered.sameCallable, ?_⟩
  rw [List.reverse_append]
  exact .cons built layered.layers

theorem Layered.stackAll
    (layered : inner.Layered decorations signature callable)
    (stacked : inner.stackAll rest = .ok outer) :
    outer.Layered (decorations ++ rest) signature callable := by
  induction rest generalizing inner decorations with
  | nil =>
      cases stacked
      rwa [List.append_nil]
  | cons decoration others inductionHypothesis =>
      rw [Decorated.stackAll] at stacked
      cases step : inner.stack decoration with
      | error invalid =>
          simp [step] at stacked
      | ok middle =>
          simp only [step] at stacked
          rw [List.append_cons]
          exact inductionHypothesis (layered.stack step) stacked

theorem Layered.of_applyAll
    (applied : applyAll first rest signature callable = .ok decorated) :
    decorated.Layered (first :: rest) signature callable := by
  obtain ⟨inner, wrapped, stacked⟩ := Result.bind_eq_ok_iff.mp applied
  exact (Layered.of_wrap wrapped).stackAll stacked

/-- Each layer comes from a decoration that applies. -/
theorem Layered.allApply
    (layered : decorated.Layered decorations signature callable) :
    ∀ decoration ∈ decorations, decoration.Applies signature := by
  have applies :
      List.Forall₂
        (fun (decoration : Decoration) layer =>
          decoration.Applies signature ∧ decoration.binder signature = .ok layer)
        decorations.reverse decorated.layers :=
    layered.layers.imp fun _ layer built => ⟨⟨layer, built⟩, built⟩
  simpa using ((List.forall₂_and_left _ _).mp applies).1

/-- Stacking stops at the first decoration that is refused for the signature. -/
theorem stackAll_eq_error_iff
    {invalid : InvalidSpec} :
    inner.stackAll rest = .error invalid ↔
      Result.FirstStop (·.Applies inner.signature)
        (fun decoration => decoration.binder inner.signature = .error invalid) rest := by
  induction rest generalizing inner with
  | nil =>
      simp [stackAll, Result.not_firstStop_nil]
  | cons decoration others inductionHypothesis =>
      rw [Result.firstStop_cons_iff, stackAll, stack, Decoration.Applies]
      cases decoration.binder inner.signature with
      | error other =>
          simp [Except.map]
      | ok binder =>
          simp [Except.map, inductionHypothesis]

theorem applyAll_eq_error_iff
    {invalid : InvalidSpec} :
    applyAll first rest signature callable = .error invalid ↔
      Result.FirstStop (·.Applies signature)
        (fun decoration => decoration.binder signature = .error invalid)
        (first :: rest) := by
  rw [Result.firstStop_cons_iff, applyAll, Result.bind_eq_error_iff, wrap, Decoration.Applies]
  cases first.binder signature with
  | error other =>
      simp [Except.map]
  | ok binder =>
      simp [Except.map, stackAll_eq_error_iff]

/-- Decorations apply together exactly if each of them applies alone. -/
theorem exists_applyAll_iff :
    (∃ decorated, applyAll first rest signature callable = .ok decorated) ↔
      ∀ decoration ∈ first :: rest, decoration.Applies signature := by
  constructor
  · rintro ⟨decorated, applied⟩
    exact (Layered.of_applyAll applied).allApply
  · intro allApply
    cases applied : applyAll first rest signature callable with
    | ok decorated =>
        exact ⟨decorated, rfl⟩
    | error invalid =>
        obtain ⟨earlier, decoration, later, shape, -, refused⟩ :=
          applyAll_eq_error_iff.mp applied
        obtain ⟨binder, built⟩ := allApply decoration (by simp [shape])
        cases built.symm.trans refused

/-! ## Calls -/

variable
  {arguments : CallArguments}
  {failure : ArgumentFailure}

/-- Layers pass a call together exactly if each of them accepts it alone. -/
theorem validateLayers_eq_ok_iff
    {layers : List Binder}
    (built :
      List.Forall₂
        (fun (decoration : Decoration) layer => decoration.binder signature = .ok layer)
        decorations layers) :
    validateLayers arguments layers = .ok () ↔
      ∀ decoration ∈ decorations, decoration.Accepts signature arguments := by
  induction built with
  | nil =>
      simp [validateLayers]
  | @cons decoration layer others layers head rest inductionHypothesis =>
      rw [List.forall_mem_cons, ← inductionHypothesis, Decoration.accepts_iff head,
        validateLayers]
      cases layer.enforce arguments <;> simp

/-- Layers refuse a call by the first of them that refuses it alone. -/
theorem validateLayers_eq_error_iff
    {layers : List Binder}
    (built :
      List.Forall₂
        (fun (decoration : Decoration) layer => decoration.binder signature = .ok layer)
        decorations layers) :
    validateLayers arguments layers = .error failure ↔
      Result.FirstStop (·.Accepts signature arguments)
        (·.Refuses signature arguments failure) decorations := by
  induction built with
  | nil =>
      simp [validateLayers, Result.not_firstStop_nil]
  | @cons decoration layer others layers head rest inductionHypothesis =>
      rw [Result.firstStop_cons_iff, ← inductionHypothesis, Decoration.accepts_iff head,
        Decoration.refuses_iff head, validateLayers]
      cases layer.enforce arguments <;> simp

theorem Layered.validate_eq_ok_iff
    (layered : decorated.Layered decorations signature callable) :
    decorated.validate arguments = .ok () ↔
      ∀ decoration ∈ decorations, decoration.Accepts signature arguments := by
  rw [validate, validateLayers_eq_ok_iff layered.layers]
  simp only [List.mem_reverse]

theorem Layered.validate_eq_error_iff
    (layered : decorated.Layered decorations signature callable) :
    decorated.validate arguments = .error failure ↔
      Result.FirstStop (·.Accepts signature arguments)
        (·.Refuses signature arguments failure) decorations.reverse :=
  validateLayers_eq_error_iff layered.layers

/-- A call returns what the callable returns for the same arguments, if all layers agree. -/
theorem Layered.call_eq_ok_iff
    (layered : decorated.Layered decorations signature callable)
    {result : α} :
    decorated.call arguments = .ok result ↔
      (∀ decoration ∈ decorations, decoration.Accepts signature arguments) ∧
        callable arguments = result := by
  rw [← layered.validate_eq_ok_iff, call, layered.sameCallable]
  cases decorated.validate arguments <;> simp

theorem call_eq_error_iff :
    decorated.call arguments = .error failure ↔
      decorated.validate arguments = .error failure := by
  rw [call]
  cases decorated.validate arguments <;> simp

/--
Decorations apply in a row exactly if each of them applies by itself, and the first one
that does not is the failure.  Once applied, their layers are the binders that they have
by themselves, the last one outermost: a call is refused by the outermost layer that
refuses it, and it reaches the callable, with its arguments as they were, if every layer
accepts it.  In whatever order the same decorations are applied, they accept the same calls.
-/
theorem applyAll_layers
    (first : Decoration)
    (rest : List Decoration)
    (signature : Signature)
    (callable : CallArguments → α) :
    ((∃ decorated, applyAll first rest signature callable = .ok decorated) ↔
        ∀ decoration ∈ first :: rest, decoration.Applies signature) ∧
      (∀ invalid,
        applyAll first rest signature callable = .error invalid ↔
          Result.FirstStop (·.Applies signature)
            (fun decoration => decoration.binder signature = .error invalid)
            (first :: rest)) ∧
      ∀ decorated,
        applyAll first rest signature callable = .ok decorated →
          decorated.Layered (first :: rest) signature callable ∧
            (∀ arguments,
              (decorated.validate arguments = .ok () ↔
                  ∀ decoration ∈ first :: rest, decoration.Accepts signature arguments) ∧
                (∀ failure,
                  decorated.validate arguments = .error failure ↔
                    Result.FirstStop (·.Accepts signature arguments)
                      (·.Refuses signature arguments failure) (first :: rest).reverse) ∧
                (∀ result,
                  decorated.call arguments = .ok result ↔
                    decorated.validate arguments = .ok () ∧ callable arguments = result) ∧
                ∀ failure,
                  decorated.call arguments = .error failure ↔
                    decorated.validate arguments = .error failure) ∧
            ∀ other others,
              (other :: others).Perm (first :: rest) →
                ∃ reordered,
                  applyAll other others signature callable = .ok reordered ∧
                    ∀ arguments,
                      reordered.validate arguments = .ok () ↔
                        decorated.validate arguments = .ok () := by
  refine ⟨exists_applyAll_iff, fun _ => applyAll_eq_error_iff, fun decorated applied => ?_⟩
  have layered := Layered.of_applyAll applied
  refine ⟨layered, fun arguments => ⟨layered.validate_eq_ok_iff,
    fun _ => layered.validate_eq_error_iff, fun result => ?_, fun _ => call_eq_error_iff⟩,
    fun other others reorder => ?_⟩
  · rw [layered.call_eq_ok_iff, layered.validate_eq_ok_iff]
  · have allApply : ∀ decoration ∈ other :: others, decoration.Applies signature :=
      fun decoration member => layered.allApply decoration (reorder.subset member)
    obtain ⟨reordered, otherApplied⟩ := exists_applyAll_iff.mpr allApply
    refine ⟨reordered, otherApplied, fun arguments => ?_⟩
    rw [(Layered.of_applyAll otherApplied).validate_eq_ok_iff, layered.validate_eq_ok_iff]
    simp only [reorder.mem_iff]

/-- A function of two arguments. -/
def pairFunction : Signature :=
  ⟨"f", Signature.defaultModule, [⟨.positional, "x", none⟩, ⟨.positional, "y", none⟩]⟩

/-- A number for `x`, by its position. -/
def numberFirst : Decoration :=
  ⟨.typed, ⟨[.type .int], []⟩, Settings.standard⟩

/-- A text between `a` and `m` for `y`, by its name. -/
def earlyTextSecond : Decoration :=
  ⟨.bounded, ⟨[], [("y", .tuple [.value (.str "a"), .value (.str "m")])]⟩, Settings.standard⟩

/--
Behind both layers a good pair arrives as it is.  A pair that is bad in both places is
refused for `y`, by the layer that came last, and in the other order it is refused too.
-/
theorem numberFirst_earlyTextSecond_layers :
    ∃ decorated,
      applyAll numberFirst [earlyTextSecond] pairFunction CallArguments.positional =
          .ok decorated ∧
        decorated.call ⟨[.int 1, .str "b"], []⟩ = .ok [.int 1, .str "b"] ∧
        (∃ failure,
          failure.argument = "y" ∧
            decorated.call ⟨[.str "1", .str "z"], []⟩ = .error failure) ∧
        ∃ reordered,
          applyAll earlyTextSecond [numberFirst] pairFunction CallArguments.positional =
              .ok reordered ∧
            reordered.validate ⟨[.str "1", .str "z"], []⟩ ≠ .ok () := by
  obtain ⟨applies, -, layers⟩ :=
    applyAll_layers numberFirst [earlyTextSecond] pairFunction CallArguments.positional
  have numberApplies : numberFirst.Applies pairFunction := ⟨_, rfl⟩
  have textApplies : earlyTextSecond.Applies pairFunction := ⟨_, rfl⟩
  obtain ⟨decorated, applied⟩ := applies.mpr (by simp [numberApplies, textApplies])
  obtain ⟨-, calls, reorders⟩ := layers decorated applied
  have numberAccepts : numberFirst.Accepts pairFunction ⟨[.int 1, .str "b"], []⟩ :=
    ⟨_, rfl, rfl⟩
  have textAccepts : earlyTextSecond.Accepts pairFunction ⟨[.int 1, .str "b"], []⟩ :=
    ⟨_, rfl, rfl⟩
  have textRefuses :
      earlyTextSecond.Refuses pairFunction ⟨[.str "1", .str "z"], []⟩ _ :=
    ⟨_, rfl, rfl⟩
  obtain ⟨accepted, -, returned, -⟩ := calls ⟨[.int 1, .str "b"], []⟩
  obtain ⟨-, refused, -, failed⟩ := calls ⟨[.str "1", .str "z"], []⟩
  have refusal := (refused _).mpr
    ⟨[], earlyTextSecond, [numberFirst], rfl, by simp, textRefuses⟩
  obtain ⟨reordered, otherApplied, same⟩ :=
    reorders earlyTextSecond [numberFirst] (.swap numberFirst earlyTextSecond [])
  refine ⟨decorated, applied, ?_, ⟨_, rfl, (failed _).mpr refusal⟩, reordered, otherApplied, ?_⟩
  · exact (returned _).mpr ⟨accepted.mpr (by simp [numberAccepts, textAccepts]), rfl⟩
  · intro passed
    rw [same, refusal] at passed
    cases passed

end Decorated

end CallGuard
