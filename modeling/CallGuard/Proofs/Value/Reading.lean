import CallGuard.Proofs.Result
import CallGuard.Proofs.Table
import CallGuard.Proofs.Value.Inside
import CallGuard.Value.Reading

namespace CallGuard

/-!
# Documents that hold values

Which documents hold a value is said by their form alone.  The grammar is matched with
the reading in two halves.  What is read has one of the forms, and the sets in it hold no
number twice; this goes by induction on the size of the document, as the attributes of an
object stand two levels below its tag.  What has one of the forms is read, by induction on
the form.
-/

namespace Json

/-- Members that are no single one with the name of a tag. -/
def Untagged (members : List (String × Json)) : Prop :=
  ∀ name content, members = [(name, content)] → isTagName name = false

/-- The forms of the documents that hold a value. -/
inductive HoldsValue : Json → Prop where
  | null : HoldsValue .null
  | bool (b : Bool) : HoldsValue (.bool b)
  | integer (n : Int) : HoldsValue (.integer n)
  | float (x : Double) : HoldsValue (.float x)
  | string (text : String) : HoldsValue (.string text)
  | array {items : List Json} :
      (∀ item ∈ items, HoldsValue item) →
      HoldsValue (.array items)
  | untagged {members : List (String × Json)} :
      Untagged members →
      (∀ member ∈ members, HoldsValue member.2) →
      HoldsValue (.object members)
  | tuple {items : List Json} :
      (∀ item ∈ items, HoldsValue item) →
      HoldsValue (.object [("$tuple", .array items)])
  | set {items : List Json} :
      (∀ item ∈ items, HoldsValue item) →
      HoldsValue (.object [("$set", .array items)])
  | type (name : String) : HoldsValue (.object [("$type", .string name)])
  | bytes (text : String) : HoldsValue (.object [("$bytes", .string text)])
  /-- Attributes that are listed in any other way than as an object do not matter. -/
  | object {description : List (String × Json)} :
      (∃ name, Table.get? description "class" = some (.string name)) →
      (∀ bases, Table.get? description "bases" = some bases →
        ∃ names : List String, bases = .array (names.map .string)) →
      (∀ attributes, Table.get? description "attrs" = some (.object attributes) →
        ∀ pair ∈ attributes, HoldsValue pair.2) →
      HoldsValue (.object [("$object", .object description)])

end Json

namespace Value

/-! ## Parts that are read -/

theorem ofItems_eq_ok_iff
    {items : List Json}
    {values : List Value} :
    ofItems items = .ok values ↔
      List.Forall₂ (fun item value => ofJson item = .ok value) items values :=
  Result.readAll_eq_ok_iff ofJson ofItems rfl fun _ _ => rfl

theorem ofMember_eq_ok_iff
    {member : String × Json}
    {pair : String × Value} :
    ofMember member = .ok pair ↔ pair.1 = member.1 ∧ ofJson member.2 = .ok pair.2 := by
  rw [ofMember, Result.map_eq_ok_iff]
  constructor
  · rintro ⟨value, read, rfl⟩
    exact ⟨rfl, read⟩
  · rintro ⟨named, read⟩
    exact ⟨pair.2, read, by rw [← named]⟩

theorem ofMemberList_eq_ok_iff
    {members : List (String × Json)}
    {pairs : List (String × Value)} :
    ofMemberList members = .ok pairs ↔
      List.Forall₂ (fun member pair => pair.1 = member.1 ∧ ofJson member.2 = .ok pair.2)
        members pairs := by
  simp only [← ofMember_eq_ok_iff]
  exact Result.readAll_eq_ok_iff ofMember ofMemberList rfl fun _ _ => rfl

theorem exists_ofMemberList
    {members : List (String × Json)}
    (each : ∀ member ∈ members, ∃ value, ofJson member.2 = .ok value) :
    ∃ pairs, ofMemberList members = .ok pairs := by
  simp only [ofMemberList_eq_ok_iff]
  refine Result.exists_readAll fun member there => ?_
  obtain ⟨value, read⟩ := each member there
  exact ⟨(member.1, value), rfl, read⟩

/-- An object that is no tag is read member by member, also if it has only one. -/
theorem ofJson_untagged
    {members : List (String × Json)}
    (untagged : Json.Untagged members) :
    ofJson (.object members) = (ofMemberList members).map ofNamed := by
  match members with
  | [] => rfl
  | [(name, content)] =>
      have notTag : isTagName name ≠ true := Bool.eq_false_iff.mp (untagged name content rfl)
      unfold ofJson ofSoleMember
      rw [if_neg notTag, ofMemberList, ofMember]
      cases ofJson content <;> rfl
  | _ :: _ :: _ => rfl

theorem readClassName_eq_ok_iff
    {description : List (String × Json)}
    {name : String} :
    readClassName (.object description) = .ok name ↔
      Table.get? description "class" = some (.string name) := by
  rw [readClassName, Json.member?]
  cases Table.get? description "class" with
  | none => simp
  | some found => cases found <;> simp [Json.text?]

theorem mapM_text?_eq_some_iff
    {items : List Json}
    {names : List String} :
    items.mapM Json.text? = some names ↔ items = names.map .string := by
  induction items generalizing names with
  | nil =>
      cases names <;> simp
  | cons item rest inductionHypothesis =>
      cases item <;> cases names <;>
        simp [Json.text?, Option.bind_eq_some_iff, inductionHypothesis, and_comm]

theorem exists_readBases_iff
    {description : List (String × Json)} :
    (∃ names, readBases (.object description) = .ok names) ↔
      ∀ bases, Table.get? description "bases" = some bases →
        ∃ names : List String, bases = .array (names.map .string) := by
  rw [readBases, Json.member?]
  cases Table.get? description "bases" with
  | none => simp
  | some found =>
      cases found with
      | array items =>
          cases named : items.mapM Json.text? with
          | none =>
              have unnamed (names : List String) : items ≠ names.map .string := by
                intro same
                rw [mapM_text?_eq_some_iff.mpr same] at named
                cases named
              simp [named, unnamed]
          | some names =>
              have same := mapM_text?_eq_some_iff.mp named
              refine iff_of_true ⟨names, by simp only [named]⟩ ?_
              rintro _ ⟨⟩
              exact ⟨names, congrArg Json.array same⟩
      | _ => simp

theorem ofDescription_eq
    (description : List (String × Json)) :
    ofDescription (.object description) =
      match Table.get? description "attrs" with
      | some (.object attributes) => ofMemberList attributes
      | _ => .ok [] := by
  rw [ofDescription]
  induction description with
  | nil => rfl
  | cons member rest inductionHypothesis =>
      rw [ofAttributeMembers, Table.get?]
      split
      · obtain ⟨_, content⟩ := member
        cases content <;> rfl
      · exact inductionHypothesis

/-- Attributes that are no object are taken for none at all. -/
theorem ofDescription_eq_ok_iff
    {description : List (String × Json)}
    {attributes : List (String × Value)} :
    ofDescription (.object description) = .ok attributes ↔
      (∃ listed, Table.get? description "attrs" = some (.object listed) ∧
        ofMemberList listed = .ok attributes) ∨
      (∀ listed, Table.get? description "attrs" ≠ some (.object listed)) ∧
        attributes = [] := by
  rw [ofDescription_eq]
  split
  case h_1 listed found =>
    simp [found]
  case h_2 notListed =>
    have none listed : Table.get? description "attrs" ≠ some (.object listed) :=
      notListed listed
    simp [none, eq_comm]

/-! ## Tags -/

/-- What a tag demands of its content, and the value that it makes of it. -/
inductive TagReading : String → Json → Value → Prop where
  | tuple {items : List Json} {values : List Value} :
      ofItems items = .ok values →
      TagReading "$tuple" (.array items) (.tuple values)
  | set {items : List Json} {values : List Value} :
      ofItems items = .ok values →
      TagReading "$set" (.array items) (ofMembers values)
  | type (name : String) : TagReading "$type" (.string name) (.type (.ofName name))
  | bytes (text : String) : TagReading "$bytes" (.string text) (.bytes (Utf8.encode text))
  | object {description : List (String × Json)} {className : String} {bases : List String}
      {attributes : List (String × Value)} :
      readClassName (.object description) = .ok className →
      readBases (.object description) = .ok bases →
      ofDescription (.object description) = .ok attributes →
      TagReading "$object" (.object description)
        (.object className bases (ofAttributes attributes) (readCallable (.object description)))

theorem ofArray_eq_ok_iff
    {tag : String}
    {content : Json}
    {values : List Value} :
    ofArray tag content = .ok values ↔
      ∃ items, content = .array items ∧ ofItems items = .ok values := by
  cases content <;> simp [ofArray]

theorem ofSoleMember_eq_ok_iff
    {name : String}
    (isTag : isTagName name = true)
    {content : Json}
    {value : Value} :
    ofSoleMember (name, content) = .ok value ↔ TagReading name content value := by
  constructor
  · intro read
    unfold ofSoleMember at read
    rw [if_pos isTag] at read
    split at read
    · obtain ⟨values, arrayRead, rfl⟩ := Result.map_eq_ok_iff.mp read
      obtain ⟨items, rfl, itemsRead⟩ := ofArray_eq_ok_iff.mp arrayRead
      exact .tuple itemsRead
    · obtain ⟨values, arrayRead, rfl⟩ := Result.map_eq_ok_iff.mp read
      obtain ⟨items, rfl, itemsRead⟩ := ofArray_eq_ok_iff.mp arrayRead
      exact .set itemsRead
    · cases content with
      | string text =>
          cases read
          exact .type text
      | _ => cases read
    · cases content with
      | string text =>
          cases read
          exact .bytes text
      | _ => cases read
    · simp only [Result.bind_eq_ok_iff, Result.pure_eq_ok_iff] at read
      obtain ⟨className, named, bases, basesRead, attributes, described, rfl⟩ := read
      cases content with
      | object description => exact .object named basesRead described
      | _ => cases named
    · cases read
  · intro reading
    cases reading with
    | tuple itemsRead =>
        exact Result.map_eq_ok_iff.mpr ⟨_, ofArray_eq_ok_iff.mpr ⟨_, rfl, itemsRead⟩, rfl⟩
    | set itemsRead =>
        exact Result.map_eq_ok_iff.mpr ⟨_, ofArray_eq_ok_iff.mpr ⟨_, rfl, itemsRead⟩, rfl⟩
    | type text => rfl
    | bytes text => rfl
    | object named basesRead described =>
        exact Result.bind_eq_ok_iff.mpr ⟨_, named, Result.bind_eq_ok_iff.mpr
          ⟨_, basesRead, Result.bind_eq_ok_iff.mpr ⟨_, described, rfl⟩⟩⟩

/-! ## What is read -/

/-- What is read from documents below a size has one of the forms, and is collapsed. -/
def SoundBelow (size : Nat) : Prop :=
  ∀ json value,
    sizeOf json < size → ofJson json = .ok value → json.HoldsValue ∧ value.Collapsed

theorem sizeOf_content_lt
    {members : List (String × Json)}
    {member : String × Json}
    (there : member ∈ members) :
    sizeOf member.2 < sizeOf members := by
  have smaller := List.sizeOf_lt_of_mem there
  have contentSmaller : sizeOf member.2 < sizeOf member := by
    obtain ⟨name, content⟩ := member
    simp only [Prod.mk.sizeOf_spec]
    omega
  exact Nat.lt_trans contentSmaller smaller

namespace SoundBelow

variable {size : Nat}

theorem items
    (sound : SoundBelow size)
    {items : List Json}
    (smaller : sizeOf items < size)
    {values : List Value}
    (read : ofItems items = .ok values) :
    (∀ item ∈ items, item.HoldsValue) ∧ ∀ value ∈ values, value.Collapsed := by
  refine Result.forall_of_readAll (ofItems_eq_ok_iff.mp read) ?_
  intro item there value itemRead
  have itemSmaller : sizeOf item < sizeOf items := List.sizeOf_lt_of_mem there
  exact sound item value (Nat.lt_trans itemSmaller smaller) itemRead

theorem members
    (sound : SoundBelow size)
    {members : List (String × Json)}
    (smaller : sizeOf members < size)
    {pairs : List (String × Value)}
    (read : ofMemberList members = .ok pairs) :
    (∀ member ∈ members, member.2.HoldsValue) ∧ ∀ pair ∈ pairs, pair.2.Collapsed := by
  refine Result.forall_of_readAll (ofMemberList_eq_ok_iff.mp read) ?_
  intro member there pair memberRead
  have contentSmaller : sizeOf member.2 < sizeOf members := sizeOf_content_lt there
  exact sound member.2 pair.2 (Nat.lt_trans contentSmaller smaller) memberRead.2

theorem attributes
    (sound : SoundBelow size)
    {description : List (String × Json)}
    (smaller : sizeOf description < size)
    {attributes : List (String × Value)}
    (read : ofDescription (.object description) = .ok attributes) :
    (∀ listed, Table.get? description "attrs" = some (.object listed) →
      ∀ pair ∈ listed, pair.2.HoldsValue) ∧
      ∀ pair ∈ attributes, pair.2.Collapsed := by
  rcases ofDescription_eq_ok_iff.mp read with ⟨listed, found, listedRead⟩ | ⟨notListed, rfl⟩
  · have there : sizeOf (Json.object listed) < sizeOf description :=
      sizeOf_content_lt (Table.mem_of_get?_eq_some found)
    rw [Json.object.sizeOf_spec] at there
    obtain ⟨hold, collapsed⟩ := sound.members (by omega) listedRead
    refine ⟨fun others isListed => ?_, collapsed⟩
    rw [found] at isListed
    cases isListed
    exact hold
  · exact ⟨fun listed isListed => (notListed listed isListed).elim, List.forall_mem_nil _⟩

theorem tag
    (sound : SoundBelow size)
    {name : String}
    {content : Json}
    (smaller : sizeOf content < size)
    {value : Value}
    (reading : TagReading name content value) :
    (Json.object [(name, content)]).HoldsValue ∧ value.Collapsed := by
  cases reading with
  | tuple read =>
      rw [Json.array.sizeOf_spec] at smaller
      obtain ⟨hold, collapsed⟩ := sound.items (by omega) read
      exact ⟨.tuple hold, collapsed_of_parts (by rintro _ ⟨⟩) collapsed⟩
  | set read =>
      rw [Json.array.sizeOf_spec] at smaller
      obtain ⟨hold, collapsed⟩ := sound.items (by omega) read
      exact ⟨.set hold, collapsed_ofMembers collapsed⟩
  | type name =>
      exact ⟨.type name, collapsed_of_parts_eq_nil (by rintro _ ⟨⟩) rfl⟩
  | bytes text =>
      exact ⟨.bytes text, collapsed_of_parts_eq_nil (by rintro _ ⟨⟩) rfl⟩
  | object named basesRead described =>
      rw [Json.object.sizeOf_spec] at smaller
      obtain ⟨hold, collapsed⟩ := sound.attributes (by omega) described
      exact ⟨.object ⟨_, readClassName_eq_ok_iff.mp named⟩
        (exists_readBases_iff.mp ⟨_, basesRead⟩) hold, collapsed_object collapsed _ _ _⟩

end SoundBelow

/-- What is read has one of the forms, and its sets hold no number twice. -/
theorem holdsValue_and_collapsed
    {json : Json}
    {value : Value}
    (read : ofJson json = .ok value) :
    json.HoldsValue ∧ value.Collapsed := by
  induction isSize : sizeOf json using Nat.strongRecOn generalizing json value with
  | _ size inductionHypothesis =>
      have sound : SoundBelow size := fun part inner smaller partRead =>
        inductionHypothesis _ smaller partRead rfl
      subst isSize
      cases json with
      | array items =>
          obtain ⟨values, itemsRead, rfl⟩ := Result.map_eq_ok_iff.mp read
          obtain ⟨hold, collapsed⟩ := sound.items (by simp) itemsRead
          exact ⟨.array hold, collapsed_of_parts (by rintro _ ⟨⟩) collapsed⟩
      | object members =>
          by_cases untagged : Json.Untagged members
          case pos =>
            rw [ofJson_untagged untagged] at read
            obtain ⟨pairs, membersRead, rfl⟩ := Result.map_eq_ok_iff.mp read
            obtain ⟨hold, collapsed⟩ := sound.members (by simp) membersRead
            exact ⟨.untagged untagged hold, collapsed_ofNamed collapsed⟩
          case neg =>
            obtain ⟨name, content, rfl, isTag⟩ :
                ∃ name content, members = [(name, content)] ∧ isTagName name = true := by
              simpa [Json.Untagged] using untagged
            exact sound.tag (by simp; omega) ((ofSoleMember_eq_ok_iff isTag).mp read)
      | integer n =>
          rw [ofJson] at read
          split at read <;> cases read <;>
            exact ⟨.integer n, collapsed_of_parts_eq_nil (by rintro _ ⟨⟩) rfl⟩
      | _ =>
          cases read
          exact ⟨by constructor, collapsed_of_parts_eq_nil (by rintro _ ⟨⟩) rfl⟩

/-! ## What can be read -/

/-- There are attributes to read, unless one of those that are listed holds no value. -/
theorem exists_ofDescription
    {description : List (String × Json)}
    (each :
      ∀ listed, Table.get? description "attrs" = some (.object listed) →
        ∀ pair ∈ listed, ∃ value, ofJson pair.2 = .ok value) :
    ∃ attributes, ofDescription (.object description) = .ok attributes := by
  by_cases listed : ∃ listed, Table.get? description "attrs" = some (.object listed)
  case pos =>
    obtain ⟨listed, found⟩ := listed
    obtain ⟨attributes, listedRead⟩ := exists_ofMemberList (each listed found)
    exact ⟨attributes, ofDescription_eq_ok_iff.mpr (.inl ⟨listed, found, listedRead⟩)⟩
  case neg =>
    exact ⟨[], ofDescription_eq_ok_iff.mpr (.inr ⟨not_exists.mp listed, rfl⟩)⟩

/-- What has one of the forms is read. -/
theorem exists_ofJson_of_holdsValue
    {json : Json}
    (holds : json.HoldsValue) :
    ∃ value, ofJson json = .ok value := by
  induction holds with
  | array _ inductionHypothesis =>
      obtain ⟨values, itemsRead⟩ := Result.exists_readAll inductionHypothesis
      exact ⟨_, Result.map_eq_ok_iff.mpr ⟨values, ofItems_eq_ok_iff.mpr itemsRead, rfl⟩⟩
  | untagged untagged _ inductionHypothesis =>
      obtain ⟨pairs, membersRead⟩ := exists_ofMemberList inductionHypothesis
      rw [ofJson_untagged untagged]
      exact ⟨_, Result.map_eq_ok_iff.mpr ⟨pairs, membersRead, rfl⟩⟩
  | tuple _ inductionHypothesis =>
      obtain ⟨values, itemsRead⟩ := Result.exists_readAll inductionHypothesis
      exact ⟨_, (ofSoleMember_eq_ok_iff (by decide)).mpr
        (.tuple (ofItems_eq_ok_iff.mpr itemsRead))⟩
  | set _ inductionHypothesis =>
      obtain ⟨values, itemsRead⟩ := Result.exists_readAll inductionHypothesis
      exact ⟨_, (ofSoleMember_eq_ok_iff (by decide)).mpr
        (.set (ofItems_eq_ok_iff.mpr itemsRead))⟩
  | @object description named bases _ inductionHypothesis =>
      obtain ⟨className, named⟩ := named
      obtain ⟨baseNames, basesRead⟩ := exists_readBases_iff.mpr bases
      obtain ⟨attributes, described⟩ := exists_ofDescription inductionHypothesis
      exact ⟨_, (ofSoleMember_eq_ok_iff (by decide)).mpr
        (.object (readClassName_eq_ok_iff.mpr named) basesRead described)⟩
  | integer n =>
      rw [ofJson]
      split <;> exact ⟨_, rfl⟩
  | _ =>
      exact ⟨_, rfl⟩

/-! ## The grammar -/

/-- A key and a content that are read from a member: its name, and the value it holds. -/
def HoldsMember
    (member : String × Json)
    (entry : Value × Value) :
    Prop :=
  entry.1 = .str member.1 ∧ ofJson member.2 = .ok entry.2

/-- Members under different names become the entries of a map, one for each member. -/
theorem exists_entries_of_ofJson
    {members : List (String × Json)}
    (untagged : Json.Untagged members)
    (distinct : (Table.names members).Nodup)
    {value : Value}
    (read : ofJson (.object members) = .ok value) :
    ∃ given entries,
      List.Forall₂ HoldsMember members given ∧ entries.Perm given ∧ value = .map entries := by
  rw [ofJson_untagged untagged] at read
  obtain ⟨pairs, membersRead, rfl⟩ := Result.map_eq_ok_iff.mp read
  rw [ofMemberList_eq_ok_iff] at membersRead
  have sameNames : Table.names members = pairs.map Prod.fst := by
    have named : List.Forall₂ (· = ·) (Table.names members) (pairs.map Prod.fst) := by
      rw [Table.names, List.forall₂_map_left_iff, List.forall₂_map_right_iff]
      exact membersRead.imp fun member pair parts => parts.1.symm
    rwa [List.forall₂_eq_eq_eq] at named
  refine ⟨pairs.map namedEntry, _, List.forall₂_map_right_iff.mpr ?_,
    (ofAttributes_perm (sameNames ▸ distinct)).map namedEntry, ofNamed_eq pairs⟩
  exact membersRead.imp fun member pair => And.imp_left (congrArg Value.str)

/--
A document holds a value exactly when it has one of the forms of `Json.HoldsValue`.  An
array is read item by item, an object that is no tag to a map with one key for each
member, and no set in the result holds a number twice, however deep it lies.
-/
theorem ofJson_grammar (json : Json) :
    ((∃ value, ofJson json = .ok value) ↔ json.HoldsValue) ∧
      ∀ value, ofJson json = .ok value →
        (∀ items, json = .array items →
          ∃ values, value = .list values ∧
            List.Forall₂ (fun item value => ofJson item = .ok value) items values) ∧
        (∀ members, json = .object members →
          Json.Untagged members →
          (Table.names members).Nodup →
            ∃ given entries,
              List.Forall₂ HoldsMember members given ∧
                entries.Perm given ∧
                value = .map entries) ∧
        ∀ members, Inside parts (.set members) value →
          members.Pairwise fun a b => ¬a.SameNumber b := by
  refine ⟨⟨fun ⟨value, read⟩ => (holdsValue_and_collapsed read).1,
    exists_ofJson_of_holdsValue⟩, fun value read => ⟨?_, ?_, ?_⟩⟩
  · rintro items rfl
    obtain ⟨values, itemsRead, rfl⟩ := Result.map_eq_ok_iff.mp read
    exact ⟨values, rfl, ofItems_eq_ok_iff.mp itemsRead⟩
  · rintro members rfl untagged distinct
    exact exists_entries_of_ofJson untagged distinct read
  · intro members inside
    exact (holdsValue_and_collapsed read).2 _ inside members rfl

/-- One number three times, and another one. -/
def listedCounts : Json :=
  .array [.integer 1, .float ⟨0x3FF0000000000000⟩, .bool true, .integer 2]

/-- Two members, of which one has the name of a tag; the other holds a set. -/
def taggedCounts : List (String × Json) :=
  [("counts", .array [.object [("$set", listedCounts)]]), ("$set", .null)]

/-- The numbers that `listedCounts` holds. -/
def counts : List Value :=
  [.int 1, .float ⟨0x3FF0000000000000⟩, .bool true, .int 2]

/-- The entries of the map that `taggedCounts` holds, in the order of their keys. -/
def taggedEntries : List (Value × Value) :=
  [(.str "$set", .null), (.str "counts", .list [ofMembers counts])]

/-- Of the set two numbers are left, and the tag beside another member is a key. -/
theorem taggedCounts_grammar :
    (Json.object taggedCounts).HoldsValue ∧
      ofJson (.object taggedCounts) = .ok (.map taggedEntries) ∧
      (ofMembers counts).size? = some 2 ∧
      NumbersApart (counts.foldl addMember []) ∧
      List.Forall₂ (fun item value => ofJson item = .ok value)
        [.integer 1, .float ⟨0x3FF0000000000000⟩, .bool true, .integer 2] counts ∧
      ∃ entries,
        List.Forall₂ HoldsMember taggedCounts entries ∧ taggedEntries.Perm entries := by
  have read : ofJson (.object taggedCounts) = .ok (.map taggedEntries) := rfl
  have countsRead : ofJson listedCounts = .ok (.list counts) := rfl
  obtain ⟨accepted, results⟩ := ofJson_grammar (.object taggedCounts)
  obtain ⟨-, toMap, apart⟩ := results _ read
  obtain ⟨toList, -⟩ := (ofJson_grammar listedCounts).2 _ countsRead
  have inside : Inside parts (ofMembers counts) (.map taggedEntries) := by
    have atCounts : .list [ofMembers counts] ∈ parts (.map taggedEntries) := by
      simp [parts, taggedEntries]
    exact .deeper atCounts (.deeper (List.mem_singleton_self _) .self)
  refine ⟨accepted.mp ⟨_, read⟩, read, by decide +kernel, apart _ inside, ?_, ?_⟩
  · obtain ⟨values, isList, each⟩ := toList _ rfl
    cases isList
    exact each
  · have untagged : Json.Untagged taggedCounts := by
      intro name content same
      cases same
    obtain ⟨entries, held, each, rearranged, isMap⟩ :=
      toMap taggedCounts rfl untagged (by decide)
    cases isMap
    exact ⟨entries, each, rearranged⟩

end Value

end CallGuard
