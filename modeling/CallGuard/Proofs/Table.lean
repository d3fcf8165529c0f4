import CallGuard.Table

namespace CallGuard.Table

/-!
# Looking up and entering names

A table answers for a name with its first entry.  Entering several names where
they are free keeps the table as it was and adds the first entry of every name
that it lacks.
-/

/-- A name has no content exactly when it was never entered. -/
theorem get?_eq_none_iff
    {table : Table α}
    {name : String} :
    table.get? name = none ↔ name ∉ table.names := by
  induction table with
  | nil =>
      simp [get?, names]
  | cons entry rest inductionHypothesis =>
      by_cases same : entry.1 = name
      · simp [get?, names, same]
      · simp only [get?, same, ↓reduceIte, inductionHypothesis]
        simp [names, Ne.symm same]

theorem has_eq_true_iff
    {table : Table α}
    {name : String} :
    table.has name = true ↔ name ∈ table.names := by
  rw [has, Option.isSome_iff_ne_none, ne_eq, get?_eq_none_iff]
  exact Classical.not_not

theorem mem_of_get?_eq_some
    {table : Table α}
    {name : String}
    {content : α}
    (found : table.get? name = some content) :
    (name, content) ∈ table := by
  induction table with
  | nil =>
      cases found
  | cons entry rest inductionHypothesis =>
      by_cases same : entry.1 = name
      · simp only [get?, same, ↓reduceIte, Option.some.injEq] at found
        subst same
        subst found
        exact List.mem_cons_self
      · simp only [get?, same, ↓reduceIte] at found
        exact List.mem_cons_of_mem entry (inductionHypothesis found)

theorem mem_names_of_get?_eq_some
    {table : Table α}
    {name : String}
    {content : α}
    (found : table.get? name = some content) :
    name ∈ table.names :=
  List.mem_map.mpr ⟨(name, content), mem_of_get?_eq_some found, rfl⟩

/-- An entry is what its name answers with when no name is there twice. -/
theorem get?_eq_some_of_mem
    {table : Table α}
    (distinct : table.names.Nodup)
    {name : String}
    {content : α}
    (member : (name, content) ∈ table) :
    table.get? name = some content := by
  induction table with
  | nil =>
      cases member
  | cons entry rest inductionHypothesis =>
      obtain ⟨fresh, restDistinct⟩ := List.nodup_cons.mp distinct
      rcases List.mem_cons.mp member with rfl | inRest
      · simp [get?]
      · have other : entry.1 ≠ name := by
          intro same
          exact fresh (List.mem_map.mpr ⟨(name, content), inRest, same.symm⟩)
        simp only [get?, other, ↓reduceIte]
        exact inductionHypothesis restDistinct inRest

theorem get?_eq_some_iff
    {table : Table α}
    (distinct : table.names.Nodup)
    {name : String}
    {content : α} :
    table.get? name = some content ↔ (name, content) ∈ table :=
  ⟨mem_of_get?_eq_some, get?_eq_some_of_mem distinct⟩

/-- Names that differ from each other answer alike in any order. -/
theorem get?_perm
    {table other : Table α}
    (distinct : table.names.Nodup)
    (rearranged : other.Perm table)
    (name : String) :
    other.get? name = table.get? name := by
  have otherDistinct : other.names.Nodup := (rearranged.map Prod.fst).nodup_iff.mpr distinct
  apply Option.ext
  intro content
  rw [get?_eq_some_iff distinct, get?_eq_some_iff otherDistinct, rearranged.mem_iff]

/-- The first part of a table answers first. -/
theorem get?_append
    (first second : Table α)
    (name : String) :
    get? (first ++ second) name = (first.get? name).or (second.get? name) := by
  induction first with
  | nil =>
      rfl
  | cons entry rest inductionHypothesis =>
      by_cases same : entry.1 = name
      · simp [get?, same]
      · simpa [get?, same] using inductionHypothesis

/-! ## Entering with replacement -/

/-- Entering a content leaves the other contents as they are. -/
theorem mem_enter
    {table : Table α}
    {name : String}
    {new : α}
    {entry : String × α}
    (member : entry ∈ table.enter name new) :
    entry ∈ table ∨ entry.2 = new := by
  induction table with
  | nil =>
      obtain rfl := List.mem_singleton.mp member
      exact .inr rfl
  | cons first rest inductionHypothesis =>
      by_cases same : first.1 = name
      · simp only [enter, same, ↓reduceIte, List.mem_cons] at member
        rcases member with rfl | inRest
        · exact .inr rfl
        · exact .inl (List.mem_cons_of_mem first inRest)
      · simp only [enter, same, ↓reduceIte, List.mem_cons] at member
        rcases member with rfl | inEntered
        · exact .inl List.mem_cons_self
        · exact (inductionHypothesis inEntered).imp_left (List.mem_cons_of_mem first)

/-- What is entered under a name is what the name answers with. -/
theorem get?_enter
    (table : Table α)
    (entered : String)
    (new : α)
    (name : String) :
    (table.enter entered new).get? name =
      if entered = name then some new else table.get? name := by
  induction table with
  | nil =>
      rfl
  | cons entry rest inductionHypothesis =>
      by_cases same : entry.1 = entered
      · simp only [enter, same, ↓reduceIte, get?]
        split <;> rfl
      · rw [enter, if_neg same, get?, get?, inductionHypothesis]
        by_cases asked : entry.1 = name
        · have apart : entered ≠ name := fun taken => same (asked.trans taken.symm)
          rw [if_pos asked, if_pos asked, if_neg apart]
        · rw [if_neg asked, if_neg asked]

/-- A name keeps its place when it is entered again, and comes last otherwise. -/
theorem names_enter
    (table : Table α)
    (entered : String)
    (new : α) :
    (table.enter entered new).names =
      if entered ∈ table.names then table.names else table.names ++ [entered] := by
  induction table with
  | nil =>
      rfl
  | cons entry rest inductionHypothesis =>
      have namesCons (others : Table α) : names (entry :: others) = entry.1 :: others.names :=
        rfl
      by_cases same : entry.1 = entered
      · have there : entered ∈ names (entry :: rest) := List.mem_map.mpr ⟨entry, by simp, same⟩
        rw [if_pos there, enter, if_pos same]
        rfl
      · rw [enter, if_neg same, namesCons, namesCons, inductionHypothesis]
        by_cases inRest : entered ∈ names rest
        · rw [if_pos inRest, if_pos (List.mem_cons_of_mem entry.1 inRest)]
        · have absent : entered ∉ entry.1 :: names rest := by
            simp [Ne.symm same, inRest]
          rw [if_neg inRest, if_neg absent, List.cons_append]

theorem mem_names_enter_iff
    {table : Table α}
    {entered : String}
    {new : α}
    {name : String} :
    name ∈ (table.enter entered new).names ↔ name ∈ table.names ∨ name = entered := by
  rw [names_enter]
  split
  case isTrue taken =>
    exact (or_iff_left_of_imp fun same => same ▸ taken).symm
  case isFalse free =>
    rw [List.mem_append, List.mem_singleton]

theorem nodup_names_enter
    {table : Table α}
    (distinct : table.names.Nodup)
    (entered : String)
    (new : α) :
    (table.enter entered new).names.Nodup := by
  rw [names_enter]
  split
  case isTrue taken =>
    exact distinct
  case isFalse free =>
    refine List.nodup_append.mpr ⟨distinct, by simp, ?_⟩
    rintro name there other here rfl
    exact free (List.mem_singleton.mp here ▸ there)

/-- Of several contents entered under a name, the last is what the name answers with. -/
theorem get?_foldl_enter
    (table : Table α)
    (entries : List (String × α))
    (name : String) :
    get? (entries.foldl (fun entered entry => entered.enter entry.1 entry.2) table) name =
      (get? entries.reverse name).or (table.get? name) := by
  induction entries generalizing table with
  | nil =>
      rfl
  | cons entry rest inductionHypothesis =>
      rw [List.foldl_cons, inductionHypothesis, get?_enter, List.reverse_cons, get?_append,
        Option.or_assoc]
      congr 1
      by_cases same : entry.1 = name
      · simp [get?, same]
      · simp [get?, same]

theorem mem_names_foldl_enter_iff
    {table : Table α}
    {entries : List (String × α)}
    {name : String} :
    name ∈ names (entries.foldl (fun entered entry => entered.enter entry.1 entry.2) table) ↔
      name ∈ table.names ∨ name ∈ names entries := by
  have reversed : name ∈ names entries.reverse ↔ name ∈ names entries := by
    simp [names]
  rw [← Decidable.not_iff_not, ← get?_eq_none_iff, get?_foldl_enter, Option.or_eq_none_iff,
    get?_eq_none_iff, get?_eq_none_iff, reversed, not_or, and_comm]

theorem nodup_names_foldl_enter
    {table : Table α}
    (distinct : table.names.Nodup)
    (entries : List (String × α)) :
    (names (entries.foldl (fun entered entry => entered.enter entry.1 entry.2) table)).Nodup := by
  induction entries generalizing table with
  | nil =>
      exact distinct
  | cons entry rest inductionHypothesis =>
      exact inductionHypothesis (nodup_names_enter distinct entry.1 entry.2)

/-! ## Entering where names are free -/

/-- Enter several names, each unless it is taken by then. -/
def enterAll
    (table : Table α)
    (entries : List (String × α)) :
    Table α :=
  entries.foldl (fun entered entry => enterNew entered entry.1 entry.2) table

theorem mem_enterNew_iff
    {table : Table α}
    {entered : String}
    {new : α}
    {entry : String × α} :
    entry ∈ table.enterNew entered new ↔
      entry ∈ table ∨ entered ∉ table.names ∧ entry = (entered, new) := by
  unfold enterNew
  split
  case isTrue taken =>
    have there := has_eq_true_iff.mp taken
    simp [there]
  case isFalse free =>
    have absent : entered ∉ table.names := fun there => free (has_eq_true_iff.mpr there)
    simp [absent]

theorem mem_names_enterNew_iff
    {table : Table α}
    {entered : String}
    {new : α}
    {name : String} :
    name ∈ (table.enterNew entered new).names ↔ name ∈ table.names ∨ name = entered := by
  unfold enterNew
  split
  case isTrue taken =>
    have there := has_eq_true_iff.mp taken
    grind
  case isFalse free =>
    simp [names]

/--
After entering several names, an entry is an old one, or the first new one of a
name that was free.
-/
theorem mem_enterAll_iff
    {table : Table α}
    {entries : List (String × α)}
    {name : String}
    {content : α} :
    (name, content) ∈ table.enterAll entries ↔
      (name, content) ∈ table ∨
        name ∉ table.names ∧ get? entries name = some content := by
  induction entries generalizing table with
  | nil =>
      simp [enterAll, get?]
  | cons entry rest inductionHypothesis =>
      rcases entry with ⟨entered, new⟩
      have entersRest :
          table.enterAll ((entered, new) :: rest) =
            (table.enterNew entered new).enterAll rest :=
        rfl
      rw [entersRest, inductionHypothesis, mem_enterNew_iff, mem_names_enterNew_iff]
      by_cases same : entered = name
      · subst same
        simp only [get?, ↓reduceIte, Option.some.injEq, Prod.mk.injEq, true_and]
        grind
      · simp only [get?, same, ↓reduceIte, Prod.mk.injEq, Ne.symm same, false_and,
          and_false, or_false]

/-- An entered name answers with what was there before, if anything was. -/
theorem get?_enterAll
    (table : Table α)
    (entries : List (String × α))
    (name : String) :
    get? (table.enterAll entries) name = (table.get? name).or (get? entries name) := by
  induction entries generalizing table with
  | nil =>
      exact Option.or_none.symm
  | cons entry rest inductionHypothesis =>
      rcases entry with ⟨entered, new⟩
      have entersRest :
          table.enterAll ((entered, new) :: rest) =
            (table.enterNew entered new).enterAll rest :=
        rfl
      rw [entersRest, inductionHypothesis, enterNew, has]
      cases before : table.get? entered with
      | none =>
          by_cases same : entered = name
          · simp [get?_append, get?, same]
          · simp [get?_append, get?, same]
      | some content =>
          by_cases same : entered = name
          · subst same
            simp [before]
          · simp [get?, same]

/-- Nothing is entered under a name that is taken. -/
theorem enterAll_cons_of_mem
    {table : Table α}
    {entry : String × α}
    (taken : entry.1 ∈ table.names)
    (rest : List (String × α)) :
    table.enterAll (entry :: rest) = table.enterAll rest := by
  have isTaken : table.has entry.1 = true := has_eq_true_iff.mpr taken
  rw [enterAll, List.foldl_cons, enterNew, if_pos isTaken]
  rfl

theorem enterAll_cons_of_not_mem
    {table : Table α}
    {entry : String × α}
    (free : entry.1 ∉ table.names)
    (rest : List (String × α)) :
    table.enterAll (entry :: rest) = enterAll (table ++ [entry]) rest := by
  have notTaken : ¬table.has entry.1 = true := fun taken => free (has_eq_true_iff.mp taken)
  rw [enterAll, List.foldl_cons, enterNew, if_neg notTaken]
  rfl

theorem names_append (first second : Table α) :
    names (first ++ second) = first.names ++ second.names :=
  List.map_append

/-- Names that are free and differ from each other are all entered, in order. -/
theorem enterAll_of_fresh
    {table : Table α}
    {entries : List (String × α)}
    (distinct : (names entries).Nodup)
    (fresh : ∀ name ∈ names entries, name ∉ table.names) :
    table.enterAll entries = table ++ entries := by
  induction entries generalizing table with
  | nil =>
      exact (List.append_nil table).symm
  | cons entry rest inductionHypothesis =>
      obtain ⟨entryFresh, restFresh⟩ := List.forall_mem_cons.mp fresh
      obtain ⟨entryApart, restDistinct⟩ := List.nodup_cons.mp distinct
      have stillFresh : ∀ name ∈ names rest, name ∉ names (table ++ [entry]) := by
        intro name inRest
        rw [names_append, List.mem_append, not_or]
        refine ⟨restFresh name inRest, fun same => entryApart ?_⟩
        rw [← List.mem_singleton.mp same]
        exact inRest
      rw [enterAll_cons_of_not_mem entryFresh, inductionHypothesis restDistinct stillFresh,
        List.append_assoc, List.singleton_append]

/-- The names after entering: those of the table, and then every new one once. -/
theorem names_enterAll
    (table : Table α)
    (entries : List (String × α)) :
    names (table.enterAll entries) =
      table.names ++
        ((names entries).filter fun name => !table.names.contains name).eraseDups := by
  induction entries generalizing table with
  | nil =>
      exact (List.append_nil table.names).symm
  | cons entry rest inductionHypothesis =>
      have namesCons : names (entry :: rest) = entry.1 :: names rest := rfl
      by_cases taken : entry.1 ∈ table.names
      · rw [enterAll_cons_of_mem taken, inductionHypothesis, namesCons,
          List.filter_cons_of_neg (by simpa using taken)]
      · have onlyLater :
            ((names rest).filter fun name => !(names (table ++ [entry])).contains name) =
              ((names rest).filter fun name => !table.names.contains name).filter
                fun name => !name == entry.1 := by
          rw [List.filter_filter]
          refine List.filter_congr fun name _ => ?_
          have single : (names [entry]).contains name = (name == entry.1) := by
            rw [show names [entry] = [entry.1] from rfl, List.contains_cons,
              List.contains_nil, Bool.or_false]
          rw [names_append, List.contains_append, Bool.not_or, Bool.and_comm, single]
        rw [enterAll_cons_of_not_mem taken, inductionHypothesis, onlyLater, namesCons,
          List.filter_cons_of_pos (by simpa using taken), List.eraseDups_cons,
          names_append, List.append_assoc]
        rfl

/-- Keeping some of the names only may come before entering. -/
theorem filter_enterAll
    (kept : String → Bool)
    (table : Table α)
    (entries : List (String × α)) :
    (table.enterAll entries).filter (fun entry => kept entry.1) =
      enterAll (table.filter fun entry => kept entry.1)
        (entries.filter fun entry => kept entry.1) := by
  induction entries generalizing table with
  | nil =>
      rfl
  | cons entry rest inductionHypothesis =>
      by_cases taken : entry.1 ∈ table.names
      · rw [enterAll_cons_of_mem taken, inductionHypothesis]
        by_cases keeps : kept entry.1 = true
        · have stillTaken : entry.1 ∈ names (table.filter fun other => kept other.1) := by
            obtain ⟨other, member, same⟩ := List.mem_map.mp taken
            refine List.mem_map.mpr ⟨other, List.mem_filter.mpr ⟨member, ?_⟩, same⟩
            rwa [same]
          simp only [List.filter_cons, keeps, ↓reduceIte, enterAll_cons_of_mem stillTaken]
        · simp only [List.filter_cons, keeps, Bool.false_eq_true, ↓reduceIte]
      · rw [enterAll_cons_of_not_mem taken, inductionHypothesis, List.filter_append]
        by_cases keeps : kept entry.1 = true
        · have stillFree : entry.1 ∉ names (table.filter fun other => kept other.1) :=
            fun member => taken ((List.filter_sublist.map _).subset member)
          simp only [List.filter_cons, keeps, ↓reduceIte, List.filter_nil,
            enterAll_cons_of_not_mem stillFree]
        · simp only [List.filter_cons, keeps, Bool.false_eq_true, ↓reduceIte, List.filter_nil,
            List.append_nil]

/-! ## Names in one list, contents in another -/

theorem names_zip
    (keys : List String)
    (contents : List α) :
    names (keys.zip contents) = keys.take contents.length := by
  induction keys generalizing contents with
  | nil =>
      rw [List.take_nil]
      rfl
  | cons key rest inductionHypothesis =>
      cases contents with
      | nil =>
          rfl
      | cons content others =>
          exact congrArg (key :: ·) (inductionHypothesis others)

/-- A name answers with the content at the place where it comes first. -/
theorem get?_zip
    (keys : List String)
    (contents : List α)
    (name : String) :
    get? (keys.zip contents) name =
      (keys.idxOf? name).bind fun index => contents[index]? := by
  induction keys generalizing contents with
  | nil =>
      rfl
  | cons key rest inductionHypothesis =>
      rw [List.idxOf?_cons]
      cases contents with
      | nil =>
          simp [get?]
      | cons content others =>
          rw [List.zip_cons_cons, get?]
          by_cases same : key = name
          · simp [same]
          · simp only [same, ↓reduceIte, beq_iff_eq, inductionHypothesis, Option.bind_map]
            rfl

/-- Contents that differ under other names alone agree on the names that are kept. -/
theorem filter_zip_congr
    {kept : String → Bool}
    {keys : List String}
    {contents others : List α}
    (agree :
      ∀ (index : Nat) key,
        keys[index]? = some key →
        kept key = true →
        contents[index]? = others[index]?) :
    (keys.zip contents).filter (fun entry => kept entry.1) =
      (keys.zip others).filter fun entry => kept entry.1 := by
  induction keys generalizing contents others with
  | nil =>
      rfl
  | cons key rest inductionHypothesis =>
      have restAgree :
          (rest.zip contents.tail).filter (fun entry => kept entry.1) =
            (rest.zip others.tail).filter fun entry => kept entry.1 := by
        apply inductionHypothesis
        intro index name found keeps
        rw [List.getElem?_tail, List.getElem?_tail]
        exact agree (index + 1) name found keeps
      by_cases keeps : kept key = true
      · have sameHead : contents[0]? = others[0]? := agree 0 key rfl keeps
        cases contents with
        | nil =>
            cases others with
            | nil =>
                rfl
            | cons other others =>
                cases sameHead
        | cons content contents =>
            cases others with
            | nil =>
                cases sameHead
            | cons other others =>
                obtain rfl := Option.some.inj sameHead
                simpa [List.filter_cons, keeps] using restAgree
      · have skipped (values : List α) :
            ((key :: rest).zip values).filter (fun entry => kept entry.1) =
              (rest.zip values.tail).filter fun entry => kept entry.1 := by
          cases values with
          | nil =>
              rw [List.zip_nil_right, List.tail_nil, List.zip_nil_right]
          | cons value values =>
              simp [keeps]
        rw [skipped, skipped, restAgree]

/-- Contents that differ only where nothing is entered make the same table. -/
theorem enterAll_zip_congr
    {table : Table α}
    {keys : List String}
    {contents others : List α}
    (agree :
      ∀ name index,
        keys.idxOf? name = some index →
        name ∉ table.names →
        contents[index]? = others[index]?) :
    table.enterAll (keys.zip contents) = table.enterAll (keys.zip others) := by
  induction keys generalizing table contents others with
  | nil =>
      rfl
  | cons key rest inductionHypothesis =>
      have shifted
          {name : String}
          {index : Nat}
          (apart : key ≠ name)
          (found : rest.idxOf? name = some index) :
          (key :: rest).idxOf? name = some (index + 1) := by
        simp [List.idxOf?_cons, apart, found]
      by_cases taken : key ∈ table.names
      · have skipped (values : List α) :
            table.enterAll ((key :: rest).zip values) =
              table.enterAll (rest.zip values.tail) := by
          cases values with
          | nil =>
              rw [List.zip_nil_right, List.tail_nil, List.zip_nil_right]
          | cons value values =>
              exact enterAll_cons_of_mem taken _
        rw [skipped, skipped]
        apply inductionHypothesis
        intro name index found free
        have apart : key ≠ name := by
          rintro rfl
          exact free taken
        rw [List.getElem?_tail, List.getElem?_tail]
        exact agree name (index + 1) (shifted apart found) free
      · have sameHead : contents[0]? = others[0]? :=
          agree key 0 (by simp [List.idxOf?_cons]) taken
        cases contents with
        | nil =>
            cases others with
            | nil =>
                rfl
            | cons other others =>
                cases sameHead
        | cons content contents =>
            cases others with
            | nil =>
                cases sameHead
            | cons other others =>
                obtain rfl := Option.some.inj sameHead
                rw [List.zip_cons_cons, List.zip_cons_cons,
                  enterAll_cons_of_not_mem taken, enterAll_cons_of_not_mem taken]
                apply inductionHypothesis
                intro name index found free
                rw [names_append, List.mem_append, not_or] at free
                have apart : key ≠ name := by
                  rintro rfl
                  exact free.2 (List.mem_singleton.mpr rfl)
                have agreeLater := agree name (index + 1) (shifted apart found) free.1
                rwa [List.getElem?_cons_succ, List.getElem?_cons_succ] at agreeLater

end CallGuard.Table
