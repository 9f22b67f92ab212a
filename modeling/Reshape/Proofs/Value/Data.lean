import Reshape.Builtin.Prepared
import Reshape.Expr.Basic
import Reshape.Proofs.Value.Json

/-!
Data: values made of nulls, truth values, integers, strings, arrays and objects. Data is read back
from each of its JSON texts, with all integers in the signed kind that fit it.
-/

namespace Reshape

namespace Value

/-- A value is made of nulls, truth values, integers, strings, arrays and objects, and is nested at
most so deep. -/
inductive Data : Nat → Value → Prop where
  | null (depth : Nat) : Data depth .null
  | bool (depth : Nat) (value : Bool) : Data depth (.bool value)
  | int (depth : Nat) (value : Int64) : Data depth (.int value)
  | uint (depth : Nat) (value : UInt64) : Data depth (.uint value)
  | string (depth : Nat) (text : String) : Data depth (.string text)
  | array {depth : Nat} {items : List Value} (each : ∀ item ∈ items, Data depth item) :
      Data (depth + 1) (.array items)
  | object {depth : Nat} {fields : Fields Value} (ordered : fields.Ordered)
      (each : ∀ field ∈ fields, Data depth field.2) : Data (depth + 1) (.object fields)

mutual

/-- The value with each unsigned integer in the signed kind if it fits. -/
def normal : Value → Value
  | .uint value => ((int64? value.toNat).map .int).getD (.uint value)
  | .array items => .array (normalItems items)
  | .object fields => .object (normalFields fields)
  | value => value

/-- The items with their integers in the signed kind if they fit. -/
def normalItems : List Value → List Value
  | [] => []
  | item :: rest => normal item :: normalItems rest

/-- The fields with the integers of their values in the signed kind if they fit. -/
def normalFields : List (String × Value) → List (String × Value)
  | [] => []
  | (name, value) :: rest => (name, normal value) :: normalFields rest

end

/-- Items are put in the signed kind one by one. -/
theorem normalItems_eq (items : List Value) : normalItems items = items.map normal := by
  induction items with
  | nil => simp [normalItems]
  | cons item items ih => simp [normalItems, ih]

/-- The values of fields are put in the signed kind one by one. -/
theorem normalFields_eq (fields : List (String × Value)) :
    normalFields fields = fields.map fun field => (field.1, normal field.2) := by
  induction fields with
  | nil => simp [normalFields]
  | cons field fields ih => simp [normalFields, ih]

/-- A signed integer is the one that its text denotes. -/
theorem ofJson_integer_toInt (value : Int64) : ofJson (.integer value.toInt) = .int value := by
  have small : value.toInt < 0x8000000000000000 := value.toInt_lt
  simp [ofJson, small]

/-- An unsigned integer is denoted by its text in the signed kind if it fits. -/
theorem ofJson_integer_toNat (value : UInt64) :
    ofJson (.integer value.toNat) = normal (.uint value) := by
  have positive : (-0x8000000000000000 : Int) ≤ value.toNat := by omega
  unfold ofJson normal int64?
  by_cases small : (value.toNat : Int) < 0x8000000000000000
  · simp [small, positive]
  · simp [small]

namespace Data

variable {depth : Nat} {value : Value}

/-- The tree of data can be held by a text, and is nested as deep as the data. -/
theorem within (data : Data depth value) : Json.Within depth value.toJson := by
  induction data with
  | null depth => exact .scalar (.null 0)
  | bool depth value => exact .scalar (.bool value 0)
  -- The integers of both kinds are among those that texts can hold.
  | int depth value =>
    have least : (-0x8000000000000000 : Int) ≤ value.toInt := value.le_toInt
    have greatest : value.toInt < 0x8000000000000000 := value.toInt_lt
    exact .scalar (.integer least (by omega) 0)
  | uint depth value =>
    have greatest : value.toNat < 0x10000000000000000 := value.toNat_lt
    exact .scalar (.integer (by omega) (by omega) 0)
  | string depth text => exact .scalar (.string (Nat.le_refl _))
  | array _ ih =>
    rw [toJson, toItems_eq]
    exact .array (List.forall_mem_map.2 ih)
  | object _ _ ih =>
    rw [toJson, toMembers_eq]
    exact .object (List.forall_mem_map.2 ih)

/-- Items that are read back one by one are read back together. -/
theorem rereadItems?_map {items : List Value}
    (each : ∀ item ∈ items, item.toJson.reread? = some item.toJson) :
    Json.rereadItems? (items.map toJson) = some (items.map toJson) := by
  induction items with
  | nil => simp [Json.rereadItems?]
  | cons item items ih =>
    rw [List.forall_mem_cons] at each
    simp [Json.rereadItems?, each.1, ih each.2]

/-- The values of fields that are read back one by one are read back together. -/
theorem rereadMembers?_map {fields : List (String × Value)}
    (each : ∀ field ∈ fields, field.2.toJson.reread? = some field.2.toJson) :
    Json.rereadMembers? (fields.map fun field => (field.1, field.2.toJson)) =
      some (fields.map fun field => (field.1, field.2.toJson)) := by
  induction fields with
  | nil => simp [Json.rereadMembers?]
  | cons field fields ih =>
    rw [List.forall_mem_cons] at each
    simp [Json.rereadMembers?, each.1, ih each.2]

/-- The tree of data is read back, as there are no other numbers than integers in it. -/
theorem reread?_toJson (data : Data depth value) : value.toJson.reread? = some value.toJson := by
  induction data with
  | null | bool | int | uint | string => simp [toJson, Json.reread?]
  | array _ ih => rw [toJson, toItems_eq, Json.reread?, rereadItems?_map ih, Option.map_some]
  | object _ _ ih =>
    rw [toJson, toMembers_eq, Json.reread?, rereadMembers?_map ih, Option.map_some]

/-- The tree of data denotes it, with all integers in the signed kind that fit. -/
theorem ofJson_toJson (data : Data depth value) : ofJson value.toJson = value.normal := by
  induction data with
  | null | bool | string => rfl
  | int depth value => exact ofJson_integer_toInt value
  | uint depth value => exact ofJson_integer_toNat value
  | @array depth items _ ih =>
    have each : items.map (fun item => ofJson item.toJson) = items.map normal :=
      List.map_congr_left ih
    rw [toJson, toItems_eq, ofJson, ofItems_eq, List.map_map, normal, normalItems_eq]
    exact congrArg Value.array each
  | @object depth fields ordered _ ih =>
    have each : fields.map (fun field => (field.1, ofJson field.2.toJson)) =
        fields.map fun field => (field.1, normal field.2) :=
      List.map_congr_left fun field member => Prod.ext rfl (ih field member)
    rw [toJson, toMembers_eq, ofJson, ofMembers_eq, List.map_map, normal, normalFields_eq]
    -- The names are in order already, so that no two of them meet.
    have kept : Fields.Ordered (fields.map fun field => (field.1, normal field.2)) :=
      ordered.of_names (by simp)
    exact congrArg Value.object ((congrArg Fields.ofList each).trans (Fields.ofList_of_ordered kept))

/-- A text that is read as the tree of data is read back denotes the data. -/
theorem parseJson?_of_parse (data : Data depth value) {text : String}
    (read : Json.parse text.toList = value.toJson.reread?) :
    parseJson? text = some value.normal := by
  rw [parseJson?, read, data.reread?_toJson, Option.map_some, data.ofJson_toJson]

end Data

/-- Data that is nested no deeper than texts may be is read back from each of its texts: the compact
one, the one over several lines, and the one that the method `format_json` gives with white space
for indentation. What is read has all integers in the signed kind that fit. -/
theorem parseJson?_renderings {ε : Type} [Bindable ε] {value : Value}
    (data : Data Json.nestingLimit value) :
    parseJson? value.compact = some value.normal ∧
      parseJson? value.pretty = some value.normal ∧
        ∀ (bound : Bound ε) (indent : String) (isCompact : Bool),
          bound.string "indent" = .ok indent → bound.bool "no_indent" = .ok isCompact →
            (∀ c ∈ indent.toList, Json.isSpace c = true) →
              ∃ format text, Method.formatJson.prepare bound = .ok (.plain format) ∧
                format value = .ok (.string text) ∧ parseJson? text = some value.normal := by
  have compact : parseJson? value.compact = some value.normal :=
    data.parseJson?_of_parse (Json.parseWithin_compact data.within)
  have pretty (indent : String) (blank : Json.IsBlank indent.toList) :
      parseJson? (value.toJson.pretty indent) = some value.normal :=
    data.parseJson?_of_parse (Json.parseWithin_pretty data.within blank)
  refine ⟨compact, pretty "  " (by simp [Json.IsBlank, Json.isSpace]), ?_⟩
  intro bound indent isCompact indented compacted blank
  -- The method writes compactly if it is told to, and otherwise with the indentation.
  refine ⟨fun value =>
      .ok (.string (if isCompact then value.compact else value.toJson.pretty indent)),
    _, ?_, rfl, ?_⟩
  · simp only [Method.prepare, indented, compacted]
    rfl
  · cases isCompact with
    | true => exact compact
    | false => exact pretty indent blank

section Sample

/-- A document with an empty name, a name that needs escapes, and integers of both kinds at their
limits. -/
def ledger : Value :=
  .object
    [("", .array [.int (-9223372036854775808), .uint 7, .uint 18446744073709551615, .null]),
      ("a\"\n", .object [("#", .string "\x01\\ é"), ("b", .array [])])]

/-- The document is data nested three levels deep. -/
theorem data_ledger (depth : Nat) : Data (depth + 3) ledger := by
  -- The limit counts the object, the array or object in its field, and the array inside.
  refine .object (by simp only [Fields.Ordered]; decide) (List.forall_mem_cons.2 ⟨.array ?_, ?_⟩)
  · simp only [List.forall_mem_cons]
    exact ⟨.int _ _, .uint _ _, .uint _ _, .null _, by simp⟩
  · simp only [List.forall_mem_cons]
    refine ⟨.object (by simp only [Fields.Ordered]; decide) ?_, by simp⟩
    simp only [List.forall_mem_cons]
    exact ⟨.string _ _, .array (by simp), by simp⟩

/-- The document is read back from its texts, also from the one that is indented by tabs, with the
seven in the signed kind. -/
theorem parseJson?_renderings_ledger :
    Data Json.nestingLimit ledger ∧ parseJson? ledger.compact = some ledger.normal ∧
      parseJson? ledger.pretty = some ledger.normal ∧
        ∃ format text,
          Method.formatJson.prepare (⟨Method.formatJson.signature.parameters,
            [.value (.string "\t"), .value (.bool false)], []⟩ : Bound Expr) =
              .ok (.plain format) ∧
          format ledger = .ok (.string text) ∧ parseJson? text = some ledger.normal := by
  have data : Data Json.nestingLimit ledger := data_ledger 124
  obtain ⟨compact, pretty, formatted⟩ := @parseJson?_renderings Expr _ _ data
  exact ⟨data, compact, pretty, formatted _ "\t" false rfl rfl (by simp [Json.isSpace])⟩

end Sample

end Value

end Reshape
