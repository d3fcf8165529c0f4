import CallGuard.Proofs.Spec.Arity
import CallGuard.Proofs.Value.Reading
import CallGuard.Spec.Reading

namespace CallGuard

/-!
# Documents that hold specs

The forms of the documents that hold a spec are the same for both families, and so is
the spec that they hold, up to the scalars that stand for a type to one family and for a
bound to the other.  What is read has one of the forms, by induction on the size of the
document, as the two specs of a map stand two levels below its key; what has one of the
forms is read in both families together, by induction on the form.
-/

namespace Json

/-- The forms of the documents that hold a spec. -/
inductive HoldsSpec : Json → Prop where
  | null : HoldsSpec .null
  | bool (b : Bool) : HoldsSpec (.bool b)
  | integer (n : Int) : HoldsSpec (.integer n)
  | float (x : Double) : HoldsSpec (.float x)
  | string (text : String) : HoldsSpec (.string text)
  | array {items : List Json} :
      (∀ item ∈ items, HoldsSpec item) →
      HoldsSpec (.array items)
  | list {body : Json} :
      HoldsSpec body →
      HoldsSpec (.object [("list", body)])
  | set {body : Json} :
      HoldsSpec body →
      HoldsSpec (.object [("set", body)])
  | map {key content : Json} :
      HoldsSpec key →
      HoldsSpec content →
      HoldsSpec (.object [("map", .array [key, content])])
  | value {body : Json} :
      (∃ value, Value.ofJson body = .ok value) →
      HoldsSpec (.object [("value", body)])
  | type (name : String) : HoldsSpec (.object [("type", .string name)])

/--
What a document holds for the typed family, and what it holds for the bounded one.  The
two are built alike; only a text or a null that stands as a scalar is a type to the one
and a bound to the other.
-/
inductive HoldsSpecs : Json → Spec × Spec → Prop where
  | skip : HoldsSpecs (.string "...") (.skip, .skip)
  | text {text : String} :
      text ≠ "..." →
      HoldsSpecs (.string text) (.type (.ofName text), .value (.str text))
  | null : HoldsSpecs .null (.type .null, .value .null)
  | bool (b : Bool) : HoldsSpecs (.bool b) (.value (.bool b), .value (.bool b))
  | integer {n : Int} {value : Value} :
      Value.ofJson (.integer n) = .ok value →
      HoldsSpecs (.integer n) (.value value, .value value)
  | float (x : Double) : HoldsSpecs (.float x) (.value (.float x), .value (.float x))
  | tuple {items : List Json} {entries : List (Spec × Spec)} :
      List.Forall₂ HoldsSpecs items entries →
      HoldsSpecs (.array items) (.tuple (entries.map (·.1)), .tuple (entries.map (·.2)))
  | list {body : Json} {typed bounded : Spec} :
      HoldsSpecs body (typed, bounded) →
      HoldsSpecs (.object [("list", body)]) (.list [typed], .list [bounded])
  | set {body : Json} {typed bounded : Spec} :
      HoldsSpecs body (typed, bounded) →
      HoldsSpecs (.object [("set", body)]) (.set [typed], .set [bounded])
  | map {key content : Json} {typedKey boundedKey typedContent boundedContent : Spec} :
      HoldsSpecs key (typedKey, boundedKey) →
      HoldsSpecs content (typedContent, boundedContent) →
      HoldsSpecs (.object [("map", .array [key, content])])
        (.map [(typedKey, typedContent)], .map [(boundedKey, boundedContent)])
  | value {body : Json} {value : Value} :
      Value.ofJson body = .ok value →
      HoldsSpecs (.object [("value", body)]) (.value value, .value value)
  | type (name : String) :
      HoldsSpecs (.object [("type", .string name)])
        (.type (.ofName name), .type (.ofName name))

end Json

namespace Spec

variable {family : Family}

/-! ## Parts that are read -/

theorem readValue_eq_ok_iff
    {json : Json}
    {value : Value} :
    readValue json = .ok value ↔ Value.ofJson json = .ok value :=
  Result.mapError_eq_ok_iff

theorem ofItems_eq_ok_iff
    {items : List Json}
    {specs : List Spec} :
    ofItems family items = .ok specs ↔
      List.Forall₂ (fun item spec => ofJson family item = .ok spec) items specs :=
  Result.readAll_eq_ok_iff (ofJson family) (ofItems family) rfl fun _ _ => rfl

/-- What a key demands of its body, and the spec that it makes of it. -/
inductive KeyReading (family : Family) : String → Json → Spec → Prop where
  | list {body : Json} {spec : Spec} :
      ofJson family body = .ok spec →
      KeyReading family "list" body (.list [spec])
  | set {body : Json} {spec : Spec} :
      ofJson family body = .ok spec →
      KeyReading family "set" body (.set [spec])
  | map {keyBody contentBody : Json} {key content : Spec} :
      ofJson family keyBody = .ok key →
      ofJson family contentBody = .ok content →
      KeyReading family "map" (.array [keyBody, contentBody]) (.map [(key, content)])
  | value {body : Json} {value : Value} :
      Value.ofJson body = .ok value →
      KeyReading family "value" body (.value value)
  | type (name : String) : KeyReading family "type" (.string name) (.type (.ofName name))

theorem ofPair_eq_ok_iff
    {body : Json}
    {entry : Spec × Spec} :
    ofPair family body = .ok entry ↔
      ∃ key content, body = .array [key, content] ∧
        ofJson family key = .ok entry.1 ∧ ofJson family content = .ok entry.2 := by
  constructor
  · intro read
    unfold ofPair at read
    split at read
    case h_1 key content =>
      obtain ⟨keySpec, keyRead, rest⟩ := Result.bind_eq_ok_iff.mp read
      obtain ⟨contentSpec, contentRead, made⟩ := Result.bind_eq_ok_iff.mp rest
      cases made
      exact ⟨key, content, rfl, keyRead, contentRead⟩
    case h_2 =>
      cases read
  · rintro ⟨key, content, rfl, keyRead, contentRead⟩
    exact Result.bind_eq_ok_iff.mpr
      ⟨_, keyRead, Result.bind_eq_ok_iff.mpr ⟨_, contentRead, rfl⟩⟩

theorem ofMember_eq_ok_iff
    {key : String}
    {body : Json}
    {spec : Spec} :
    ofMember family (key, body) = .ok spec ↔ KeyReading family key body spec := by
  constructor
  · intro read
    unfold ofMember at read
    split at read
    · obtain ⟨inner, bodyRead, rfl⟩ := Result.map_eq_ok_iff.mp read
      exact .list bodyRead
    · obtain ⟨inner, bodyRead, rfl⟩ := Result.map_eq_ok_iff.mp read
      exact .set bodyRead
    · obtain ⟨⟨key, content⟩, pairRead, rfl⟩ := Result.map_eq_ok_iff.mp read
      obtain ⟨keyBody, contentBody, rfl, keyRead, contentRead⟩ :=
        ofPair_eq_ok_iff.mp pairRead
      exact .map keyRead contentRead
    · obtain ⟨value, bodyRead, rfl⟩ := Result.map_eq_ok_iff.mp read
      exact .value (readValue_eq_ok_iff.mp bodyRead)
    · cases body with
      | string name =>
          cases read
          exact .type name
      | _ => cases read
    · cases read
  · intro reading
    cases reading with
    | list bodyRead => exact Result.map_eq_ok_iff.mpr ⟨_, bodyRead, rfl⟩
    | set bodyRead => exact Result.map_eq_ok_iff.mpr ⟨_, bodyRead, rfl⟩
    | map keyRead contentRead =>
        exact Result.map_eq_ok_iff.mpr
          ⟨_, ofPair_eq_ok_iff.mpr ⟨_, _, rfl, keyRead, contentRead⟩, rfl⟩
    | value bodyRead =>
        exact Result.map_eq_ok_iff.mpr ⟨_, readValue_eq_ok_iff.mpr bodyRead, rfl⟩
    | type name => rfl

/-- A scalar has no parts, whichever family it is read for. -/
theorem allSingle_scalar
    (family : Family)
    (value : Value) :
    (family.scalar value).AllSingle := by
  refine allSingle_of_parts ?_ ?_ <;> unfold Family.scalar <;> split
  all_goals first | trivial | exact (List.forall_mem_nil _)

/-! ## What is read -/

/-- A key makes a spec of a right size, if what is read inside its body is right. -/
theorem KeyReading.holdsSpec_and_allSingle
    {key : String}
    {body : Json}
    {spec : Spec}
    (reading : KeyReading family key body spec)
    (sound :
      ∀ part inner,
        sizeOf part ≤ sizeOf body →
          ofJson family part = .ok inner →
            part.HoldsSpec ∧ inner.AllSingle) :
    (Json.object [(key, body)]).HoldsSpec ∧ spec.AllSingle := by
  cases reading with
  | list read =>
      obtain ⟨holds, single⟩ := sound _ _ (Nat.le_refl _) read
      exact ⟨.list holds, allSingle_of_parts rfl (List.forall_mem_singleton.mpr single)⟩
  | set read =>
      obtain ⟨holds, single⟩ := sound _ _ (Nat.le_refl _) read
      exact ⟨.set holds, allSingle_of_parts rfl (List.forall_mem_singleton.mpr single)⟩
  | map keyRead contentRead =>
      obtain ⟨keyHolds, keySingle⟩ := sound _ _ (by simp; omega) keyRead
      obtain ⟨contentHolds, contentSingle⟩ := sound _ _ (by simp; omega) contentRead
      refine ⟨.map keyHolds contentHolds, allSingle_of_parts rfl ?_⟩
      exact List.forall_mem_cons.mpr
        ⟨keySingle, List.forall_mem_singleton.mpr contentSingle⟩
  | value read =>
      exact ⟨.value ⟨_, read⟩, allSingle_of_parts trivial (List.forall_mem_nil _)⟩
  | type name =>
      exact ⟨.type name, allSingle_of_parts trivial (List.forall_mem_nil _)⟩

/-- What is read has one of the forms, and its containers are of the right size. -/
theorem holdsSpec_and_allSingle
    {json : Json}
    {spec : Spec}
    (read : ofJson family json = .ok spec) :
    json.HoldsSpec ∧ spec.AllSingle := by
  induction isSize : sizeOf json using Nat.strongRecOn generalizing json spec with
  | _ size inductionHypothesis =>
      subst isSize
      cases json with
      | string text =>
          refine ⟨.string text, ?_⟩
          rw [ofJson] at read
          split at read <;> cases read
          · exact allSingle_of_parts trivial (List.forall_mem_nil _)
          · exact allSingle_scalar family (.str text)
      | array items =>
          obtain ⟨entries, itemsRead, rfl⟩ := Result.map_eq_ok_iff.mp read
          obtain ⟨hold, single⟩ :
              (∀ item ∈ items, item.HoldsSpec) ∧ ∀ entry ∈ entries, entry.AllSingle := by
            refine Result.forall_of_readAll (ofItems_eq_ok_iff.mp itemsRead) ?_
            intro item there entry itemRead
            have itemSmaller : sizeOf item < sizeOf items := List.sizeOf_lt_of_mem there
            exact inductionHypothesis _ (by simp; omega) itemRead rfl
          exact ⟨.array hold, allSingle_of_parts trivial single⟩
      | object members =>
          match members with
          | [] => cases read
          | [(key, body)] =>
              refine (ofMember_eq_ok_iff.mp read).holdsSpec_and_allSingle ?_
              intro part inner notLarger partRead
              exact inductionHypothesis _ (by simp; omega) partRead rfl
          | _ :: _ :: _ => cases read
      | _ =>
          unfold ofJson at read
          obtain ⟨value, -, rfl⟩ := Result.map_eq_ok_iff.mp read
          exact ⟨by constructor, allSingle_scalar family value⟩

/-! ## What can be read -/

/-- A number is a bound in both families. -/
theorem scalar_of_ofJson_integer
    (family : Family)
    {n : Int}
    {value : Value}
    (read : Value.ofJson (.integer n) = .ok value) :
    family.scalar value = .value value := by
  rw [Value.ofJson] at read
  split at read <;> cases read <;> cases family <;> rfl

/-- What has one of the forms is read in both families, and alike. -/
theorem exists_ofJson_of_holdsSpec
    {json : Json}
    (holds : json.HoldsSpec) :
    ∃ specs, ofJson .typed json = .ok specs.1 ∧ ofJson .bounded json = .ok specs.2 ∧
      json.HoldsSpecs specs := by
  induction holds with
  | string text =>
      by_cases marker : text = "..."
      case pos =>
        subst marker
        exact ⟨_, rfl, rfl, .skip⟩
      case neg =>
        have read (family : Family) :
            ofJson family (.string text) = .ok (family.scalar (.str text)) := by
          rw [ofJson, skipMarker, if_neg marker]
        exact ⟨(.type (.ofName text), .value (.str text)), read .typed, read .bounded,
          .text marker⟩
  | integer n =>
      obtain ⟨value, read⟩ := Value.exists_ofJson_of_holdsValue (.integer n)
      have number (family : Family) : ofJson family (.integer n) = .ok (.value value) := by
        unfold ofJson
        rw [readValue_eq_ok_iff.mpr read]
        exact congrArg Except.ok (scalar_of_ofJson_integer family read)
      exact ⟨(.value value, .value value), number .typed, number .bounded, .integer read⟩
  | array _ inductionHypothesis =>
      obtain ⟨entries, each⟩ := Result.exists_readAll inductionHypothesis
      have typedRead := ofItems_eq_ok_iff.mpr
        (List.forall₂_map_right_iff.mpr (each.imp fun _ _ => And.left))
      have boundedRead := ofItems_eq_ok_iff.mpr
        (List.forall₂_map_right_iff.mpr (each.imp fun _ _ all => all.2.1))
      exact ⟨(.tuple (entries.map (·.1)), .tuple (entries.map (·.2))),
        Result.map_eq_ok_iff.mpr ⟨_, typedRead, rfl⟩,
        Result.map_eq_ok_iff.mpr ⟨_, boundedRead, rfl⟩,
        .tuple (each.imp fun _ _ all => all.2.2)⟩
  | list _ inductionHypothesis =>
      obtain ⟨⟨typed, bounded⟩, typedRead, boundedRead, alike⟩ := inductionHypothesis
      exact ⟨(.list [typed], .list [bounded]), ofMember_eq_ok_iff.mpr (.list typedRead),
        ofMember_eq_ok_iff.mpr (.list boundedRead), .list alike⟩
  | set _ inductionHypothesis =>
      obtain ⟨⟨typed, bounded⟩, typedRead, boundedRead, alike⟩ := inductionHypothesis
      exact ⟨(.set [typed], .set [bounded]), ofMember_eq_ok_iff.mpr (.set typedRead),
        ofMember_eq_ok_iff.mpr (.set boundedRead), .set alike⟩
  | map _ _ keyHypothesis contentHypothesis =>
      obtain ⟨⟨typedKey, boundedKey⟩, typedKeyRead, boundedKeyRead, keysAlike⟩ :=
        keyHypothesis
      obtain ⟨⟨typedContent, boundedContent⟩, typedRead, boundedRead, alike⟩ :=
        contentHypothesis
      exact ⟨(.map [(typedKey, typedContent)], .map [(boundedKey, boundedContent)]),
        ofMember_eq_ok_iff.mpr (.map typedKeyRead typedRead),
        ofMember_eq_ok_iff.mpr (.map boundedKeyRead boundedRead), .map keysAlike alike⟩
  | @value body accepted =>
      obtain ⟨value, bodyRead⟩ := accepted
      have read (family : Family) :
          ofJson family (.object [("value", body)]) = .ok (.value value) := by
        have reading : KeyReading family "value" body (.value value) := .value bodyRead
        exact ofMember_eq_ok_iff.mpr reading
      exact ⟨(.value value, .value value), read .typed, read .bounded, .value bodyRead⟩
  | _ => exact ⟨_, rfl, rfl, by constructor⟩

/-! ## The grammar -/

/-- What is read in one family is read in both. -/
theorem exists_ofJson_of_ofJson
    {json : Json}
    {spec : Spec}
    (read : ofJson family json = .ok spec) :
    ∃ specs, ofJson .typed json = .ok specs.1 ∧ ofJson .bounded json = .ok specs.2 ∧
      json.HoldsSpecs specs :=
  exists_ofJson_of_holdsSpec (holdsSpec_and_allSingle read).1

/-- The skip marker is read from its text, and from nothing else. -/
theorem ofJson_eq_skip_iff
    {json : Json} :
    ofJson family json = .ok .skip ↔ json = .string "..." := by
  constructor
  · intro read
    obtain ⟨⟨typed, bounded⟩, typedRead, boundedRead, alike⟩ := exists_ofJson_of_ofJson read
    cases family with
    | typed =>
        obtain rfl : typed = .skip := Except.ok.inj (typedRead.symm.trans read)
        cases alike
        rfl
    | bounded =>
        obtain rfl : bounded = .skip := Except.ok.inj (boundedRead.symm.trans read)
        cases alike
        rfl
  · rintro rfl
    rfl

/--
A document holds a spec exactly when it has one of the forms of `Json.HoldsSpec`, for both
families.  The two specs are built alike, and the skip marker is read from its text alone.
Every list and set inside them has one member and every map one entry, so compilation
never complains of the size of one.
-/
theorem ofJson_both_families (json : Json) :
    ((∃ typed, ofJson .typed json = .ok typed) ↔
      ∃ bounded, ofJson .bounded json = .ok bounded) ∧
      ((∃ typed, ofJson .typed json = .ok typed) ↔ json.HoldsSpec) ∧
      (∀ typed bounded,
        ofJson .typed json = .ok typed →
          ofJson .bounded json = .ok bounded →
            json.HoldsSpecs (typed, bounded)) ∧
      ∀ family,
        (ofJson family json = .ok .skip ↔ json = .string "...") ∧
          ∀ spec, ofJson family json = .ok spec →
            (∀ inner, Inside parts inner spec → inner.Single) ∧
              ∀ compiledFor place invalid,
                spec.compile compiledFor place = .error invalid →
                  ¬invalid.reason.IsSize := by
  refine ⟨⟨?_, ?_⟩, ⟨?_, ?_⟩, ?_, fun family => ⟨ofJson_eq_skip_iff, fun spec read => ?_⟩⟩
  · rintro ⟨typed, read⟩
    obtain ⟨specs, -, boundedRead, -⟩ := exists_ofJson_of_ofJson read
    exact ⟨specs.2, boundedRead⟩
  · rintro ⟨bounded, read⟩
    obtain ⟨specs, typedRead, -, -⟩ := exists_ofJson_of_ofJson read
    exact ⟨specs.1, typedRead⟩
  · rintro ⟨typed, read⟩
    exact (holdsSpec_and_allSingle read).1
  · intro holds
    obtain ⟨specs, typedRead, -, -⟩ := exists_ofJson_of_holdsSpec holds
    exact ⟨specs.1, typedRead⟩
  · intro typed bounded typedRead boundedRead
    obtain ⟨specs, sameTyped, sameBounded, alike⟩ := exists_ofJson_of_ofJson typedRead
    obtain rfl : specs.1 = typed := Except.ok.inj (sameTyped.symm.trans typedRead)
    obtain rfl : specs.2 = bounded := Except.ok.inj (sameBounded.symm.trans boundedRead)
    exact alike
  · have allSingle := (holdsSpec_and_allSingle read).2
    refine ⟨allSingle, fun compiledFor place invalid refused => ?_⟩
    obtain ⟨reason, failed, rfl⟩ := Result.mapError_eq_error_iff.mp refused
    exact not_isSize_of_compileShape spec allSingle failed

/-- A map from anything to tuples in which a list stands beside a null. -/
def mixedPlaces : Json :=
  .object
    [("map", .array
      [.string "...", .array [.object [("list", .string "int")], .null]])]

/-- What `mixedPlaces` holds for the typed family. -/
def mixedTypes : Spec :=
  .map [(.skip, .tuple [.list [.type .int], .type .null])]

/-- What `mixedPlaces` holds for the bounded family. -/
def mixedBounds : Spec :=
  .map [(.skip, .tuple [.list [.value (.str "int")], .value .null])]

/-- What `mixedPlaces` holds for types is refused, but not for the size of its containers. -/
theorem mixedPlaces_both_families :
    mixedPlaces.HoldsSpec ∧
      mixedPlaces.HoldsSpecs (mixedTypes, mixedBounds) ∧
      (∀ inner, Inside parts inner mixedTypes → inner.Single) ∧
      ∃ fault,
        mixedTypes.compile .typed (.position 0) = .error ⟨.typed, .position 0, fault⟩ ∧
          ¬fault.IsSize := by
  have typedRead : ofJson .typed mixedPlaces = .ok mixedTypes := rfl
  have boundedRead : ofJson .bounded mixedPlaces = .ok mixedBounds := rfl
  obtain ⟨-, accepted, alike, each⟩ := ofJson_both_families mixedPlaces
  obtain ⟨single, refusals⟩ := (each .typed).2 mixedTypes typedRead
  refine ⟨accepted.mp ⟨_, typedRead⟩, alike _ _ typedRead boundedRead, single, _, rfl,
    refusals .typed (.position 0) _ rfl⟩

end Spec

end CallGuard
