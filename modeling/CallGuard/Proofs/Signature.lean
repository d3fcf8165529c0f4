import CallGuard.Signature
import Mathlib.Data.List.Nodup

namespace CallGuard.Signature

/-!
# Parameters and their names

Every name that a signature hands out is the name of a parameter of the kind asked
for.  Where all parameters have names of their own, a name settles the kind.
-/

theorem exists_parameter_of_nameOf?
    {signature : Signature}
    {kind : ParameterKind}
    {name : String}
    (found : signature.nameOf? kind = some name) :
    ∃ parameter ∈ signature.parameters,
      parameter.kind = kind ∧ parameter.name = name := by
  obtain ⟨parameter, first, isName⟩ := Option.map_eq_some_iff.mp found
  have ofKind := List.find?_some first
  exact ⟨parameter, List.mem_of_find?_eq_some first, beq_iff_eq.mp ofKind, isName⟩

theorem exists_parameter_of_mem_positionalNames
    {signature : Signature}
    {name : String}
    (member : name ∈ signature.positionalNames) :
    ∃ parameter ∈ signature.parameters,
      parameter.kind = .positional ∧ parameter.name = name := by
  obtain ⟨parameter, filtered, isName⟩ := List.mem_map.mp member
  obtain ⟨inSignature, ofKind⟩ := List.mem_filter.mp filtered
  exact ⟨parameter, inSignature, beq_iff_eq.mp ofKind, isName⟩

/-- Parameters of one name are of one kind when every parameter has its own name. -/
theorem kind_eq_of_name_eq
    {signature : Signature}
    (distinct : (signature.parameters.map Parameter.name).Nodup)
    {first second : Parameter}
    (firstMember : first ∈ signature.parameters)
    (secondMember : second ∈ signature.parameters)
    (sameName : first.name = second.name) :
    first.kind = second.kind := by
  have same : first = second :=
    List.inj_on_of_nodup_map distinct firstMember secondMember sameName
  rw [same]

/-- A parameter for surplus arguments takes none by position. -/
theorem nameOf?_not_mem_positionalNames
    {signature : Signature}
    (distinct : (signature.parameters.map Parameter.name).Nodup)
    {kind : ParameterKind}
    (notPositional : kind ≠ .positional)
    {name : String}
    (found : signature.nameOf? kind = some name) :
    name ∉ signature.positionalNames := by
  intro member
  obtain ⟨first, firstMember, firstKind, firstName⟩ := exists_parameter_of_nameOf? found
  obtain ⟨second, secondMember, secondKind, secondName⟩ :=
    exists_parameter_of_mem_positionalNames member
  have sameKind : first.kind = second.kind :=
    kind_eq_of_name_eq distinct firstMember secondMember (firstName.trans secondName.symm)
  rw [firstKind, secondKind] at sameKind
  exact notPositional sameKind

/-- Two kinds never answer with one name. -/
theorem kind_eq_of_nameOf?
    {signature : Signature}
    (distinct : (signature.parameters.map Parameter.name).Nodup)
    {kind other : ParameterKind}
    {name : String}
    (found : signature.nameOf? kind = some name)
    (otherFound : signature.nameOf? other = some name) :
    kind = other := by
  obtain ⟨first, firstMember, firstKind, firstName⟩ := exists_parameter_of_nameOf? found
  obtain ⟨second, secondMember, secondKind, secondName⟩ :=
    exists_parameter_of_nameOf? otherFound
  have sameKind : first.kind = second.kind :=
    kind_eq_of_name_eq distinct firstMember secondMember (firstName.trans secondName.symm)
  rw [firstKind, secondKind] at sameKind
  exact sameKind

theorem nodup_positionalNames
    {signature : Signature}
    (distinct : (signature.parameters.map Parameter.name).Nodup) :
    signature.positionalNames.Nodup :=
  (List.filter_sublist.map _).nodup distinct

/-! ## Receivers -/

/-- A receiver takes its argument by position. -/
def HasPositionalReceiver
    (signature : Signature)
    (settings : Settings) :
    Prop :=
  ∀ first,
    signature.parameters.find? Parameter.isDeclared = some first →
    settings.isReceiver first.name = true →
    first.kind = .positional

/-- A receiver that takes its argument by position is one of the positional parameters. -/
theorem receiverOffset_le_length
    {signature : Signature}
    {settings : Settings}
    (receiver : signature.HasPositionalReceiver settings) :
    signature.receiverOffset settings ≤ signature.positionalNames.length := by
  unfold receiverOffset kind declaredNames
  cases declared : signature.parameters.filter Parameter.isDeclared with
  | nil =>
      exact Nat.zero_le _
  | cons first rest =>
      have isFirst : signature.parameters.find? Parameter.isDeclared = some first := by
        rw [← List.head?_filter, declared]
        rfl
      by_cases isReceiver : settings.isReceiver first.name = true
      · have positional : first.kind = .positional := receiver first isFirst isReceiver
        have member : first.name ∈ signature.positionalNames :=
          List.mem_map.mpr
            ⟨first,
              List.mem_filter.mpr
                ⟨List.mem_of_find?_eq_some isFirst, beq_iff_eq.mpr positional⟩, rfl⟩
        have oneThere : 1 ≤ signature.positionalNames.length :=
          List.length_pos_of_mem member
        simpa [isReceiver] using oneThere
      · simp [isReceiver]

end CallGuard.Signature
