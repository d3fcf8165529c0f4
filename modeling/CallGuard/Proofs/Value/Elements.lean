import CallGuard.Value.Basic

namespace CallGuard

/-!
# Size and elements

The size of a value is counted kind by kind, and its elements are listed kind by kind,
apart from each other: characters are counted here and made into texts there.  Both are
defined on the same values, and the size is the number of elements.
-/

namespace Value

/-- A value has as many items as iteration yields, and no size if there is no iteration. -/
theorem size?_eq_map_length
    (value : Value) :
    value.size? = value.elements?.map List.length := by
  cases value with
  | str text =>
      simp only [size?, elements?, Option.map_some, List.length_map, String.length_toList]
  | bytes octets =>
      simp only [size?, elements?, Option.map_some, List.length_map]
  | map entries =>
      simp only [size?, elements?, Option.map_some, List.length_map]
  | _ =>
      rfl

theorem isSome_size?_eq
    (value : Value) :
    value.size?.isSome = value.elements?.isSome := by
  rw [size?_eq_map_length, Option.isSome_map]

theorem size?_eq_some_iff
    {value : Value}
    {size : Nat} :
    value.size? = some size ↔
      ∃ elements, value.elements? = some elements ∧ elements.length = size := by
  rw [size?_eq_map_length, Option.map_eq_some_iff]

/-- What is iterated over has a size. -/
theorem isSome_size?_of_elements?
    {value : Value}
    {elements : List Value}
    (iterated : value.elements? = some elements) :
    value.size?.isSome = true := by
  rw [isSome_size?_eq, iterated, Option.isSome_some]

end Value

namespace TypeTag

/-- The instances of a tag can be iterated over. -/
def Iterates (tag : TypeTag) : Prop :=
  ∀ value, tag.admits value = true → ∃ elements, value.elements? = some elements

/-- Iterables are the values with elements, though the tag asks for a size. -/
theorem iterable_admits
    (value : Value) :
    TypeTag.iterable.admits value = value.elements?.isSome := by
  rw [admits, Value.isSome_size?_eq]

/-- Strings, bytes and the four containers are iterated over. -/
theorem iterates_of_mem
    {tag : TypeTag}
    (among : tag ∈ [TypeTag.str, .bytes, .list, .tuple, .set, .map]) :
    tag.Iterates := by
  intro value admitted
  simp only [List.mem_cons, List.not_mem_nil, or_false] at among
  rcases among with rfl | rfl | rfl | rfl | rfl | rfl <;>
    cases value <;>
    simp_all [admits, Value.elements?]

end TypeTag

end CallGuard
