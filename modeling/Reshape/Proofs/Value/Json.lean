import Reshape.Proofs.Json.Writer
import Reshape.Proofs.Text.Utf8
import Reshape.Proofs.Value.Equality
import Reshape.Proofs.Value.Fields
import Reshape.Value.Json

/-!
Documents: the values that JSON texts denote. A document is read back from its compact text exactly
if each of its floating-point numbers is read back from its own, and then reading, writing and
reading again gives the same value as reading once.
-/

namespace Reshape.Value

/-- The values of items are their values one by one. -/
theorem ofItems_eq (items : List Json) : ofItems items = items.map ofJson := by
  induction items with
  | nil => simp [ofItems]
  | cons item items ih => simp [ofItems, ih]

/-- The values of members are their values one by one. -/
theorem ofMembers_eq (members : List (String × Json)) :
    ofMembers members = members.map fun member => (member.1, ofJson member.2) := by
  induction members with
  | nil => simp [ofMembers]
  | cons member members ih => simp [ofMembers, ih]

/-- The trees of items are their trees one by one. -/
theorem toItems_eq (items : List Value) : toItems items = items.map toJson := by
  induction items with
  | nil => simp [toItems]
  | cons item items ih => simp [toItems, ih]

/-- The trees of fields are their trees one by one. -/
theorem toMembers_eq (fields : List (String × Value)) :
    toMembers fields = fields.map fun field => (field.1, toJson field.2) := by
  induction fields with
  | nil => simp [toMembers]
  | cons field fields ih => simp [toMembers, ih]

/-- A value that texts may denote: scalars of texts, and arrays and objects of such values, with the
names of objects in order, nested at most so deep. -/
inductive Document : Nat → Value → Prop where
  | scalar {depth size : Nat} {json : Json} (scalar : Json.Scalar json size) :
      Document depth (ofJson json)
  | array {depth : Nat} {items : List Value} (each : ∀ item ∈ items, Document depth item) :
      Document (depth + 1) (.array items)
  | object {depth : Nat} {fields : Fields Value} (ordered : fields.Ordered)
      (each : ∀ field ∈ fields, Document depth field.2) : Document (depth + 1) (.object fields)

/-- The value that a tree denotes is a document. -/
theorem document_ofJson {depth : Nat} {json : Json} (within : Json.Within depth json) :
    Document depth (ofJson json) := by
  -- The members of an object are put in one by one, and the last of one name stays.
  induction within with
  | scalar scalar => exact .scalar scalar
  | array _ ih =>
    rw [ofJson, ofItems_eq]
    exact .array (List.forall_mem_map.2 ih)
  | @object depth members _ ih =>
    rw [ofJson, ofMembers_eq]
    have each : ∀ field ∈ members.map fun member => (member.1, ofJson member.2),
        Document depth field.2 := List.forall_mem_map.2 ih
    exact .object (Fields.ordered_ofList _) fun field member =>
      each field (Fields.mem_ofList member)

/-- What octets denote as a JSON text is a document. -/
theorem document_of_parseJsonOctets? {octets : Bytes} {value : Value}
    (read : parseJsonOctets? octets = some value) : Document Json.nestingLimit value := by
  obtain ⟨text, _, read⟩ := Option.bind_eq_some_iff.1 read
  obtain ⟨json, parsed, same⟩ := Option.bind_eq_some_iff.1 read
  obtain rfl := Option.some.inj same
  exact document_ofJson (Json.within_of_parseWithin parsed)

/-- The tree of the value of a scalar is the scalar. -/
theorem toJson_ofJson_scalar {json : Json} {size : Nat} (scalar : Json.Scalar json size) :
    (ofJson json).toJson = json := by
  -- An integer is signed as long as it can be, and unsigned above that.
  cases scalar with
  | null | bool | string => rfl
  | @integer value least greatest =>
    unfold ofJson
    split
    next small => simp [toJson, Int64.toInt_ofInt_of_le least small]
    next large =>
      have bound : value.toNat < UInt64.size := by
        simp only [UInt64.size]
        omega
      have same : (value.toNat : Int) = value := by omega
      simp [toJson, UInt64.toNat_ofNat_of_lt' bound, same]
  | float finite => simp [ofJson, toJson, finite]

/-- Numbers that are read back from their own texts, as all integers are. -/
def rereadable : Set Value :=
  {value | value.isNumber = true ∧ ∀ x, value = .float x → Json.ReadsBack x}

section Reread

variable {depth : Nat} {value : Value}

/-- Only a floating-point number of a text denotes a floating-point number. -/
theorem ofJson_eq_float {json : Json} {x : Binary64} : ofJson json = .float x ↔ json = .float x := by
  cases json with
  | integer value =>
    unfold ofJson
    split <;> simp
  | _ => simp [ofJson]

/-- A scalar is read back exactly if it is no number or one that is read back from its own text. -/
theorem reread_scalar_iff {json : Json} {size : Nat} (scalar : Json.Scalar json size) :
    (ofJson json).toJson.reread?.map ofJson = some (ofJson json) ↔
      MadeOf rereadable (ofJson json) := by
  rw [toJson_ofJson_scalar scalar]
  cases scalar with
  | @float x finite =>
    have given : MadeOf rereadable (.float x) ↔ Json.ReadsBack x := by
      constructor
      · rintro (among | ⟨_, other⟩)
        · exact among.2 x rfl
        · cases other
      · intro back
        refine .number ⟨rfl, ?_⟩
        rintro _ ⟨⟩
        exact back
    rw [ofJson, given, Json.reread?, Option.map_eq_some_iff, Json.ReadsBack]
    constructor
    · rintro ⟨json, read, same⟩
      rw [read, ofJson_eq_float.1 same]
    · exact fun read => ⟨_, read, rfl⟩
  | @integer value least greatest =>
    -- An integer is read back in either kind.
    have made : MadeOf rereadable (ofJson (.integer value)) := by
      refine .number ⟨?_, fun x same => ?_⟩
      · unfold ofJson
        split <;> rfl
      · cases ofJson_eq_float.1 same
    simp [Json.reread?, made]
  | null | bool | string =>
    refine iff_of_true ?_ (.other rfl rfl)
    simp [Json.reread?]

/-- Items are read back together exactly if each of them is read back. -/
theorem reread_items_iff (items : List Value) :
    (Json.rereadItems? (items.map toJson)).map ofItems = some items ↔
      ∀ item ∈ items, item.toJson.reread?.map ofJson = some item := by
  -- Reading back ends with the first item that does not read, on either side.
  induction items with
  | nil => simp [Json.rereadItems?, ofItems]
  | cons item items ih =>
    rw [List.forall_mem_cons, ← ih, List.map_cons, Json.rereadItems?]
    cases item.toJson.reread? with
    | none => simp
    | some first =>
      cases Json.rereadItems? (items.map toJson) with
      | none => simp
      | some others => simp [ofItems]

/-- The values of fields are read back together, each under its name, exactly if each of them is
read back. -/
theorem reread_members_iff (fields : List (String × Value)) :
    (Json.rereadMembers? (fields.map fun field => (field.1, field.2.toJson))).map ofMembers =
        some fields ↔
      ∀ field ∈ fields, field.2.toJson.reread?.map ofJson = some field.2 := by
  -- Reading back ends with the first field that does not read, on either side.
  induction fields with
  | nil => simp [Json.rereadMembers?, ofMembers]
  | cons field fields ih =>
    obtain ⟨name, value⟩ := field
    rw [List.forall_mem_cons, ← ih, List.map_cons, Json.rereadMembers?]
    cases value.toJson.reread? with
    | none => simp
    | some first =>
      cases Json.rereadMembers? (fields.map fun field => (field.1, field.2.toJson)) with
      | none => simp
      | some others => simp [ofMembers]

/-- The names of members stay when they are read back. -/
theorem names_of_rereadMembers? {members read : List (String × Json)}
    (same : Json.rereadMembers? members = some read) :
    (ofMembers read).map Prod.fst = members.map Prod.fst := by
  -- Each member is read under its own name.
  induction members generalizing read with
  | nil =>
    obtain rfl := Option.some.inj same
    rfl
  | cons member members ih =>
    obtain ⟨name, json⟩ := member
    obtain ⟨first, -, later⟩ := Option.bind_eq_some_iff.1 same
    obtain ⟨others, rest, rfl⟩ := Option.map_eq_some_iff.1 later
    rw [ofMembers, List.map_cons, List.map_cons, ih rest]

namespace Document

/-- The tree of a document can be held by a text, and is nested as deep as the document. -/
theorem within (document : Document depth value) : Json.Within depth value.toJson := by
  -- The cases are those of documents, with the depth of what is inside.
  induction document with
  | scalar scalar =>
    rw [toJson_ofJson_scalar scalar]
    exact .scalar scalar
  | array _ ih =>
    rw [toJson, toItems_eq]
    exact .array (List.forall_mem_map.2 ih)
  | object _ _ ih =>
    rw [toJson, toMembers_eq]
    exact .object (List.forall_mem_map.2 ih)

/-- A document is read back from its tree exactly if its numbers are read back from their texts. -/
theorem reread_iff (document : Document depth value) :
    value.toJson.reread?.map ofJson = some value ↔ MadeOf rereadable value := by
  induction document with
  | scalar scalar => exact reread_scalar_iff scalar
  | @array depth items _ ih =>
    have each : MadeOf rereadable (.array items) ↔ ∀ item ∈ items, MadeOf rereadable item :=
      ⟨fun made => made.item fun _ among => among.1, .array⟩
    rw [each, ← forall₂_congr ih, ← reread_items_iff, toJson, toItems_eq, Json.reread?,
      Option.map_map, Option.map_eq_some_iff, Option.map_eq_some_iff]
    simp [ofJson]
  | @object depth fields ordered _ ih =>
    have each : MadeOf rereadable (.object fields) ↔
        ∀ field ∈ fields, MadeOf rereadable field.2 :=
      ⟨fun made => made.field fun _ among => among.1, .object⟩
    rw [each, ← forall₂_congr ih, ← reread_members_iff, toJson, toMembers_eq, Json.reread?,
      Option.map_map, Option.map_eq_some_iff, Option.map_eq_some_iff]
    refine exists_congr fun read => and_congr_right fun same => ?_
    -- The names are those of the fields, in order already, so that no two of them meet.
    have names : (ofMembers read).map Prod.fst = fields.map Prod.fst := by
      simpa [Function.comp_def] using names_of_rereadMembers? same
    have kept := Fields.ofList_of_ordered (ordered.of_names names)
    simp [ofJson, kept]

/-- A document is no marker. -/
theorem not_isMarker (document : Document depth value) : value.isMarker = false := by
  -- An integer becomes one of two values, and neither is a marker.
  cases document with
  | scalar scalar =>
    cases scalar with
    | integer =>
      unfold ofJson
      split <;> rfl
    | _ => rfl
  | array | object => rfl

/-- The content that is made of a document is its compact text unless it is a string. -/
theorem octets_eq (document : Document depth value) (other : ∀ text, value ≠ .string text) :
    value.octets = Utf8.ofText value.compact := by
  -- Only a string is written without quotes; every other document is written as its text.
  cases document with
  | scalar scalar =>
    cases scalar with
    | @string text => exact absurd rfl (other text)
    | integer =>
      unfold ofJson
      split <;> rfl
    | _ => rfl
  | array | object => rfl

/-- The compact text of a document denotes what its tree is read back as. -/
theorem parseJsonOctets?_compact (document : Document Json.nestingLimit value) :
    parseJsonOctets? (Utf8.ofText value.compact) = value.toJson.reread?.map ofJson := by
  have read : Json.parse value.compact.toList = value.toJson.reread? :=
    Json.parseWithin_compact document.within
  rw [parseJsonOctets?, Utf8.ofText, Utf8.decode?_encode]
  simp [read, Option.map_eq_bind]

end Document

end Reread

/-- The octets of a text do not denote the text as a string, since quotes are missing. -/
theorem parseJsonOctets?_ofText_ne (text : String) :
    parseJsonOctets? (Utf8.ofText text) ≠ some (.string text) := by
  -- What a text with quotes denotes is shorter than the text.
  intro read
  obtain ⟨inner, decoded, read⟩ := Option.bind_eq_some_iff.1 read
  obtain ⟨json, parsed, same⟩ := Option.bind_eq_some_iff.1 read
  rw [Utf8.ofText, Utf8.decode?_encode] at decoded
  obtain rfl := Option.some.inj decoded
  cases json with
  | string other =>
    obtain rfl : other = text := by simpa [ofJson] using same
    have shorter := Json.length_of_parse_string parsed
    rw [String.length_toList] at shorter
    omega
  | integer value =>
    have same := Option.some.inj same
    unfold ofJson at same
    split at same <;> cases same
  | _ => simp [ofJson] at same

/-- A document is denoted by its own octets exactly if it is no string and its numbers are read back
from their texts. -/
theorem parseJsonOctets?_octets_iff {value : Value}
    (document : Document Json.nestingLimit value) :
    parseJsonOctets? value.octets = some value ↔
      (∀ text, value ≠ .string text) ∧ MadeOf rereadable value := by
  -- A text is written without its quotes, and what is then read is something else or nothing.
  by_cases string : ∃ text, value = .string text
  · obtain ⟨text, rfl⟩ := string
    simpa [octets] using parseJsonOctets?_ofText_ne text
  · rw [not_exists] at string
    rw [document.octets_eq string, document.parseJsonOctets?_compact, document.reread_iff]
    exact (and_iff_right string).symm

end Reshape.Value
