import CallGuard.Value.Order

namespace CallGuard

/-!
# The stored order is an order

Sets and maps rely on the stored order of values: comparing from the other side
reverses the outcome, and two outcomes in a row settle the third.  Values are nested,
so the second is said of a single triple first, as `Chained`, which passes from the
parts of a value to the whole.
-/

/--
The outcomes of comparing one thing with a second, the second with a third, and the
first with the third.
-/
structure Chained (first second whole : Ordering) : Prop where
  eq_left : first = .eq → whole = second
  eq_right : second = .eq → whole = first
  alike : first = second → whole = first

namespace Chained

variable {first second whole : Ordering}

theorem of_transCmp
    (order : α → α → Ordering)
    [Std.TransCmp order]
    (a b c : α) :
    Chained (order a b) (order b c) (order a c) where
  eq_left := Std.TransCmp.congr_left
  eq_right equal := (Std.TransCmp.congr_right equal).symm
  alike same := by
    cases outcome : order a b with
    | lt => exact Std.TransCmp.lt_trans outcome (same.symm.trans outcome)
    | eq => exact Std.TransCmp.eq_trans outcome (same.symm.trans outcome)
    | gt => exact Std.TransCmp.gt_trans outcome (same.symm.trans outcome)

/-- What is compared next matters only as long as everything before is equal. -/
theorem andThen
    {nextFirst nextSecond nextWhole : Ordering}
    (head : Chained first second whole)
    (tail : first = .eq → second = .eq → Chained nextFirst nextSecond nextWhole) :
    Chained (first.then nextFirst) (second.then nextSecond) (whole.then nextWhole) := by
  cases first with
  | eq =>
      obtain rfl := head.eq_left rfl
      cases whole with
      | eq => exact tail rfl rfl
      | _ => exact ⟨fun _ => rfl, nofun, fun same => same.symm⟩
  | _ =>
      cases second with
      | eq =>
          obtain rfl := head.eq_right rfl
          exact ⟨nofun, fun _ => rfl, fun _ => rfl⟩
      | _ =>
          exact ⟨nofun, nofun, fun same => by rw [head.alike same]; rfl⟩

theorem isLE
    (chained : Chained first second whole)
    (firstLE : first.isLE = true)
    (secondLE : second.isLE = true) :
    whole.isLE = true := by
  cases first with
  | eq => rwa [chained.eq_left rfl]
  | lt =>
      cases second with
      | eq => rw [chained.eq_right rfl]; rfl
      | lt => rw [chained.alike rfl]; rfl
      | gt => cases secondLE
  | gt => cases firstLE

/-- Outcomes there and back again are opposite. -/
theorem eq_swap (chained : Chained first second .eq) :
    first = second.swap := by
  cases second with
  | eq => exact (chained.eq_right rfl).symm
  | _ =>
      cases first with
      | eq => cases chained.eq_left rfl
      | _ => first | rfl | cases chained.alike rfl

/-- A comparison is an order if all things equal themselves and all triples are chained. -/
theorem transCmp
    {order : α → α → Ordering}
    (self : ∀ a, order a a = .eq)
    (chained : ∀ a b c, Chained (order a b) (order b c) (order a c)) :
    Std.TransCmp order where
  eq_swap {a b} := by
    have around := chained a b a
    rw [self] at around
    exact around.eq_swap
  isLE_trans := (chained _ _ _).isLE

end Chained

/-! ## Numbers and types -/

namespace Extended

/-- Where a point lies: at the negative end, between the ends, or at the positive one. -/
def side : Extended → Nat
  | .negativeInfinity => 0
  | .finite _ => 1
  | .positiveInfinity => 2

/-- The units of a finite point. -/
def reach : Extended → Int
  | .finite units => units
  | _ => 0

theorem order_eq_compareLex :
    order = compareLex (compareOn side) (compareOn reach) := by
  funext p q
  cases p <;> cases q <;> rfl

instance : Std.TransCmp order := by
  rw [order_eq_compareLex]
  infer_instance

instance : Std.LawfulEqCmp order where
  eq_of_compare {p q} equal := by
    cases p with
    | finite units =>
        cases q with
        | finite others =>
            exact congrArg Extended.finite (Std.LawfulEqOrd.eq_of_compare equal)
        | _ => cases equal
    | _ => cases q <;> first | rfl | cases equal

end Extended

namespace Double

instance : Std.TransCmp order := by
  apply Chained.transCmp
  · intro x
    unfold order
    cases Extended.ofDouble? x with
    | none => rfl
    | some p => exact (Std.ReflCmp.compare_self : p.order p = .eq)
  · intro x y z
    unfold order
    cases Extended.ofDouble? x <;> cases Extended.ofDouble? y <;>
      cases Extended.ofDouble? z
    case some.some.some p q r => exact .of_transCmp Extended.order p q r
    -- A NaN is above every number.
    all_goals constructor <;> grind

/-- Numbers that are stored as one denote one point, or are NaNs both. -/
theorem ofDouble?_eq_of_order_eq
    {x y : Double}
    (equal : x.order y = .eq) :
    Extended.ofDouble? x = Extended.ofDouble? y := by
  unfold order at equal
  cases pointX : Extended.ofDouble? x <;> cases pointY : Extended.ofDouble? y <;>
    simp_all

end Double

namespace TypeTag

/-- The name of a class; other tags have none. -/
def className : TypeTag → String
  | .named className => className
  | _ => ""

theorem order_eq_compareLex :
    order = compareLex (compareOn rank) (compareOn className) := by
  funext a b
  cases a <;> cases b <;> rfl

instance : Std.TransCmp order := by
  rw [order_eq_compareLex]
  infer_instance

end TypeTag

/-! ## Lists -/

/-- Lists are compared in an order as far as the items of the first list are. -/
theorem Chained.compareLex
    {order : α → α → Ordering}
    {items : List α}
    (inner : ∀ item ∈ items, ∀ b c, Chained (order item b) (order b c) (order item c))
    (others more : List α) :
    Chained (items.compareLex order others) (others.compareLex order more)
      (items.compareLex order more) := by
  induction items generalizing others more with
  | nil =>
      cases others with
      | nil => exact ⟨fun _ => rfl, fun equal => equal, fun same => same.symm⟩
      | cons b restB =>
          cases more with
          | nil => exact ⟨nofun, nofun, nofun⟩
          | cons c restC => exact ⟨nofun, fun _ => rfl, fun _ => rfl⟩
  | cons a restA inductionHypothesis =>
      obtain ⟨head, rest⟩ := List.forall_mem_cons.mp inner
      cases others with
      | nil =>
          cases more with
          | nil => exact ⟨nofun, fun _ => rfl, fun _ => rfl⟩
          | cons c restC => exact ⟨nofun, nofun, nofun⟩
      | cons b restB =>
          cases more with
          | nil => exact ⟨fun _ => rfl, nofun, fun same => same.symm⟩
          | cons c restC =>
              simp only [List.compareLex_cons_cons]
              exact (head b c).andThen fun _ _ => inductionHypothesis rest restB restC

theorem compareLex_self
    {order : α → α → Ordering}
    {items : List α}
    (inner : ∀ item ∈ items, order item item = .eq) :
    items.compareLex order items = .eq := by
  induction items with
  | nil =>
      rfl
  | cons item rest inductionHypothesis =>
      obtain ⟨head, others⟩ := List.forall_mem_cons.mp inner
      rw [List.compareLex_cons_cons, head, inductionHypothesis others]
      rfl

/-- A comparison item by item, the shorter list first, is the lexicographic one. -/
theorem eq_compareLex
    {order : α → α → Ordering}
    {lists : List α → List α → Ordering}
    (bothEnd : lists [] [] = .eq)
    (firstEnds : ∀ b restB, lists [] (b :: restB) = .lt)
    (secondEnds : ∀ a restA, lists (a :: restA) [] = .gt)
    (step :
      ∀ a restA b restB, lists (a :: restA) (b :: restB) = (order a b).then (lists restA restB))
    (items others : List α) :
    lists items others = items.compareLex order others := by
  induction items generalizing others with
  | nil =>
      cases others with
      | nil => exact bothEnd
      | cons b restB => exact firstEnds b restB
  | cons a restA inductionHypothesis =>
      cases others with
      | nil => exact secondEnds a restA
      | cons b restB => rw [step, inductionHypothesis, List.compareLex_cons_cons]

namespace Value

theorem orderItems_eq_compareLex (items others : List Value) :
    orderItems items others = items.compareLex order others :=
  eq_compareLex rfl (fun _ _ => rfl) (fun _ _ => rfl) (fun _ _ _ _ => rfl) items others

theorem orderEntries_eq_compareLex (entries others : List (Value × Value)) :
    orderEntries entries others = entries.compareLex orderEntry others :=
  eq_compareLex rfl (fun _ _ => rfl) (fun _ _ => rfl) (fun _ _ _ _ => rfl) entries others

theorem orderAttributes_eq_compareLex (attributes others : List (String × Value)) :
    orderAttributes attributes others = attributes.compareLex orderAttribute others :=
  eq_compareLex rfl (fun _ _ => rfl) (fun _ _ => rfl) (fun _ _ _ _ => rfl) attributes others

/-! ## Values -/

/-- Induction over values, with the claim at hand for every value inside. -/
@[elab_as_elim]
theorem induction
    {motive : Value → Prop}
    (null : motive .null)
    (bool : ∀ b, motive (.bool b))
    (int : ∀ n, motive (.int n))
    (float : ∀ x, motive (.float x))
    (str : ∀ text, motive (.str text))
    (bytes : ∀ octets, motive (.bytes octets))
    (list : ∀ items, (∀ item ∈ items, motive item) → motive (.list items))
    (tuple : ∀ items, (∀ item ∈ items, motive item) → motive (.tuple items))
    (set : ∀ members, (∀ member ∈ members, motive member) → motive (.set members))
    (map :
      ∀ entries, (∀ entry ∈ entries, motive entry.1 ∧ motive entry.2) →
        motive (.map entries))
    (object :
      ∀ className bases attributes callable,
        (∀ pair ∈ attributes, motive pair.2) →
          motive (.object className bases attributes callable))
    (type : ∀ tag, motive (.type tag))
    (value : Value) :
    motive value :=
  @Value.rec
    motive
    (fun values => ∀ value ∈ values, motive value)
    (fun entries => ∀ entry ∈ entries, motive entry.1 ∧ motive entry.2)
    (fun attributes => ∀ pair ∈ attributes, motive pair.2)
    (fun entry => motive entry.1 ∧ motive entry.2)
    (fun pair => motive pair.2)
    null bool int float str bytes list tuple set map object type
    (fun _ member => (List.not_mem_nil member).elim)
    (fun _ _ head rest => List.forall_mem_cons.mpr ⟨head, rest⟩)
    (fun _ member => (List.not_mem_nil member).elim)
    (fun _ _ head rest => List.forall_mem_cons.mpr ⟨head, rest⟩)
    (fun _ member => (List.not_mem_nil member).elim)
    (fun _ _ head rest => List.forall_mem_cons.mpr ⟨head, rest⟩)
    (fun _ _ key content => ⟨key, content⟩)
    (fun _ _ content => content)
    value

/-- Two values of one kind. -/
inductive SameKind : Value → Value → Prop where
  | null : SameKind .null .null
  | bool a b : SameKind (.bool a) (.bool b)
  | int a b : SameKind (.int a) (.int b)
  | float a b : SameKind (.float a) (.float b)
  | str a b : SameKind (.str a) (.str b)
  | bytes a b : SameKind (.bytes a) (.bytes b)
  | list a b : SameKind (.list a) (.list b)
  | tuple a b : SameKind (.tuple a) (.tuple b)
  | set a b : SameKind (.set a) (.set b)
  | map a b : SameKind (.map a) (.map b)
  | object
      nameA basesA attributesA callableA nameB basesB attributesB callableB :
      SameKind (.object nameA basesA attributesA callableA)
        (.object nameB basesB attributesB callableB)
  | type a b : SameKind (.type a) (.type b)

theorem sameKind_of_rank_eq
    {a b : Value}
    (sameRank : a.rank = b.rank) :
    SameKind a b := by
  cases a <;> cases b <;> first | constructor | cases sameRank

/-- Values of different kinds are ordered by their kinds. -/
theorem order_of_rank_ne
    {a b : Value}
    (apart : a.rank ≠ b.rank) :
    a.order b = compare a.rank b.rank := by
  unfold order
  split <;> first | rfl | exact (apart rfl).elim

theorem rank_eq_of_order_eq
    {a b : Value}
    (stored : a.order b = .eq) :
    a.rank = b.rank := by
  refine Decidable.byContradiction fun apart => apart ?_
  rw [order_of_rank_ne apart] at stored
  exact Nat.compare_eq_eq.mp stored

/-- Three values are compared in an order if they are whenever their kinds agree. -/
theorem chained_of_sameKind
    {a b c : Value}
    (chained :
      SameKind a b → SameKind b c → Chained (a.order b) (b.order c) (a.order c)) :
    Chained (a.order b) (b.order c) (a.order c) := by
  have rankFirst (x y : Value) :
      x.order y = (compare x.rank y.rank).then (x.order y) := by
    by_cases sameRank : x.rank = y.rank
    · rw [sameRank, Nat.compare_eq_eq.mpr rfl]
      rfl
    · rw [order_of_rank_ne sameRank]
      cases compare x.rank y.rank <;> rfl
  have ranks :
      Chained (compare a.rank b.rank) (compare b.rank c.rank) (compare a.rank c.rank) :=
    .of_transCmp compare a.rank b.rank c.rank
  rw [rankFirst a b, rankFirst b c, rankFirst a c]
  refine ranks.andThen fun sameAB sameBC => chained ?_ ?_
  · exact sameKind_of_rank_eq (Nat.compare_eq_eq.mp sameAB)
  · exact sameKind_of_rank_eq (Nat.compare_eq_eq.mp sameBC)

theorem order_self (a : Value) : a.order a = .eq := by
  induction a using Value.induction with
  | null => rfl
  | bool b => exact Std.ReflOrd.compare_self
  | int n => exact Std.ReflOrd.compare_self
  | float x => exact (Std.ReflCmp.compare_self : x.order x = .eq)
  | str text => exact Std.ReflOrd.compare_self
  | bytes octets => exact Std.ReflOrd.compare_self
  | list items inner =>
      rw [order, orderItems_eq_compareLex, compareLex_self inner]
  | tuple items inner =>
      rw [order, orderItems_eq_compareLex, compareLex_self inner]
  | set members inner =>
      rw [order, orderItems_eq_compareLex, compareLex_self inner]
  | map entries inner =>
      have entrySelf : ∀ entry ∈ entries, orderEntry entry entry = .eq := by
        intro entry member
        rw [orderEntry, (inner entry member).1, (inner entry member).2]
        rfl
      rw [order, orderEntries_eq_compareLex, compareLex_self entrySelf]
  | object className bases attributes callable inner =>
      have pairSelf : ∀ pair ∈ attributes, orderAttribute pair pair = .eq := by
        intro pair member
        rw [orderAttribute, inner pair member, Std.ReflOrd.compare_self]
        rfl
      rw [order, orderAttributes_eq_compareLex, compareLex_self pairSelf,
        Std.ReflOrd.compare_self, Std.ReflOrd.compare_self, Std.ReflOrd.compare_self]
      rfl
  | type tag => exact (Std.ReflCmp.compare_self : tag.order tag = .eq)

theorem orderItems_chained
    {items : List Value}
    (inner :
      ∀ item ∈ items, ∀ b c : Value,
        Chained (item.order b) (b.order c) (item.order c))
    (others more : List Value) :
    Chained (orderItems items others) (orderItems others more) (orderItems items more) := by
  simp only [orderItems_eq_compareLex]
  exact .compareLex inner others more

theorem order_chained (a b c : Value) :
    Chained (a.order b) (b.order c) (a.order c) := by
  induction a using Value.induction generalizing b c with
  | null =>
      exact chained_of_sameKind fun
        | .null, .null => ⟨fun _ => rfl, fun _ => rfl, fun _ => rfl⟩
  | bool x =>
      exact chained_of_sameKind fun
        | .bool _ y, .bool _ z => .of_transCmp compare x y z
  | int x =>
      exact chained_of_sameKind fun
        | .int _ y, .int _ z => .of_transCmp compare x y z
  | float x =>
      exact chained_of_sameKind fun
        | .float _ y, .float _ z => .of_transCmp Double.order x y z
  | str x =>
      exact chained_of_sameKind fun
        | .str _ y, .str _ z => .of_transCmp compare x y z
  | bytes x =>
      exact chained_of_sameKind fun
        | .bytes _ y, .bytes _ z => .of_transCmp compare x y z
  | list items inner =>
      exact chained_of_sameKind fun
        | .list _ others, .list _ more => orderItems_chained inner others more
  | tuple items inner =>
      exact chained_of_sameKind fun
        | .tuple _ others, .tuple _ more => orderItems_chained inner others more
  | set members inner =>
      exact chained_of_sameKind fun
        | .set _ others, .set _ more => orderItems_chained inner others more
  | map entries inner =>
      apply chained_of_sameKind
      rintro ⟨⟩ ⟨⟩
      simp only [order, orderEntries_eq_compareLex]
      apply Chained.compareLex
      rintro ⟨key, content⟩ member ⟨otherKey, other⟩ ⟨thirdKey, third⟩
      obtain ⟨keyChained, contentChained⟩ := inner (key, content) member
      exact (keyChained otherKey thirdKey).andThen fun _ _ => contentChained other third
  | object className bases attributes callable inner =>
      apply chained_of_sameKind
      rintro ⟨⟩ ⟨⟩
      apply Chained.andThen
      · exact (Chained.of_transCmp compare className _ _).andThen
          fun _ _ => .of_transCmp compare bases _ _
      intro _ _
      refine Chained.andThen ?_ fun _ _ => .of_transCmp compare callable _ _
      simp only [orderAttributes_eq_compareLex]
      apply Chained.compareLex
      rintro ⟨name, content⟩ member ⟨otherName, other⟩ ⟨thirdName, third⟩
      exact (Chained.of_transCmp compare name otherName thirdName).andThen
        fun _ _ => inner (name, content) member other third
  | type x =>
      exact chained_of_sameKind fun
        | .type _ y, .type _ z => .of_transCmp TypeTag.order x y z

instance : Std.TransCmp order :=
  Chained.transCmp order_self order_chained

end Value

end CallGuard
