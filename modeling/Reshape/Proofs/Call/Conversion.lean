import Reshape.Call.Parameter
import Reshape.Proofs.Text.Utf8
import Reshape.Proofs.Value.Exact

/-!
Converting arguments to the kinds of their parameters. What a conversion gives has the form of the
kind and denotes what the argument does, and an argument is refused if nothing of the kind denotes
the same; except that ill-formed octets are mended when they are made a text, and that integers
between two floating-point numbers are rounded to one of these.
-/

namespace Reshape

/-- What a value denotes in whatever form it has it. -/
inductive Content where
  /-- A real number. -/
  | number (exact : ℚ)
  /-- A text in UTF-8, or any other octets. -/
  | text (octets : Bytes)
  /-- What has one form only. -/
  | other (value : Value)

namespace Value

/-- What a value denotes. -/
def content : Value → Content
  | .string text => .text (Utf8.ofText text)
  | .bytes octets => .text octets
  | value =>
    match value.fraction? with
    | some exact => .number exact
    | none => .other value

variable {value : Value} {octets : Bytes} {exact : ℚ}

/-- Numbers denote their exact values, and nothing else denotes a number. -/
theorem content_eq_number : value.content = .number exact ↔ value.fraction? = some exact := by
  cases value with
  | string text | bytes octets => simp [content, fraction?]
  -- A float has a number as its content only if it is finite.
  | float x =>
    simp only [content]
    cases (Value.float x).fraction? <;> simp
  | int given | uint given => simp [content, fraction?]
  | _ => simp [content, fraction?]

/-- Strings and octets denote octets, and nothing else does. -/
theorem content_eq_text : value.content = .text octets ↔
    (∃ text, value = .string text ∧ Utf8.ofText text = octets) ∨ value = .bytes octets := by
  cases value with
  | string text | bytes octets => simp [content]
  -- A float is no text, whether it is finite or not.
  | float x =>
    simp only [content]
    cases (Value.float x).fraction? <;> simp
  | _ => simp [content, fraction?]

/-- The exact value of an integer is that integer. -/
theorem fraction?_of_integer? {n : Int} (known : value.integer? = some n) :
    value.fraction? = some (n : ℚ) := by
  cases value with
  | int given | uint given =>
    obtain rfl := Option.some.inj known
    simp [fraction?]
  | _ => cases known

/-- A value with an exact value is a number. -/
theorem exists_toFloat? (known : value.fraction? = some exact) :
    ∃ x, value.toFloat? = some x := by
  cases value with
  | int given | uint given | float given => exact ⟨_, rfl⟩
  | _ => cases known

/-- What denotes a value that has one form only is that value. -/
theorem eq_of_content_eq_other {other : Value} (same : value.content = .other other) :
    value = other := by
  -- Texts and integers have two forms each, and an integral float denotes what an integer does.
  cases value with
  | string text | bytes octets => cases same
  | int given | uint given => cases same
  | float x =>
    simp only [content] at same
    split at same
    · cases same
    · exact Content.other.inj same
  | _ => exact Content.other.inj same

end Value

namespace Kind

/-- A value has the form of a kind. -/
def Has : Kind → Value → Prop
  | .any, _ | .query, _ => True
  | .string, .string _ | .int, .int _ | .float, .float _ | .bool, .bool _ | .array, .array _
  | .object, .object _ => True
  | _, _ => False

/-- A conversion that gives something else for lack of what denotes the same: octets that are those
of no text are made a text, or an integer that is the exact value of no floating-point number is
made one. -/
def Alters : Kind → Value → Prop
  | .string, .bytes octets => ∀ text, Utf8.ofText text ≠ octets
  | .float, value => ∃ n : Int, value.integer? = some n ∧ ∀ x : Binary64, x.fraction? ≠ some (n : ℚ)
  | _, _ => False

/-- A conversion loses nothing: what it gives has the form of the kind and denotes the same, and it
fails just if nothing of the kind does. -/
structure Lossless (kind : Kind) (value : Value) : Prop where
  kept : ∀ converted, kind.convert value = .ok converted →
    kind.Has converted ∧ converted.content = value.content
  refused : (∃ unexpected, kind.convert value = .error unexpected) ↔
    ¬∃ form, kind.Has form ∧ form.content = value.content

variable {kind : Kind} {value converted form : Value}

/-- A conversion gives what the value is in the form of the kind. -/
theorem convert_eq_ok :
    kind.convert value = .ok converted ↔ kind.convert? value = some converted := by
  unfold convert
  cases kind.convert? value <;> simp

/-- A conversion fails if the value has no form of the kind. -/
theorem convert_eq_error :
    (∃ unexpected, kind.convert value = .error unexpected) ↔ kind.convert? value = none := by
  unfold convert
  cases kind.convert? value <;> simp

/-- What is converted, by the kind: values of most kinds are kept as they are. -/
theorem convert?_eq_some_iff : kind.convert? value = some converted ↔
    match kind with
    | .any | .query => converted = value
    | .string => (∃ text, value = .string text ∧ converted = .string text) ∨
        ∃ octets, value = .bytes octets ∧ converted = .string (Utf8.toText octets)
    | .int => ∃ n, value.toInt64? = some n ∧ converted = .int n
    | .float => ∃ x, value.toFloat? = some x ∧ converted = .float x
    | .bool | .array | .object => kind.Has value ∧ converted = value := by
  cases kind with
  | any | query => simp [convert?, eq_comm]
  | string => cases value <;> simp [convert?, eq_comm]
  | int | float => simp [convert?, eq_comm]
  | bool | array | object => cases value <;> simp [convert?, Has, eq_comm]

/-- What is converted has the form of the kind. -/
theorem has_of_convert? (given : kind.convert? value = some converted) : kind.Has converted := by
  -- Each kind converts to its own form.
  rw [convert?_eq_some_iff] at given
  cases kind with
  | any | query => trivial
  | string =>
    rcases given with ⟨text, -, rfl⟩ | ⟨octets, -, rfl⟩
    · trivial
    · trivial
  | int | float =>
    obtain ⟨_, -, rfl⟩ := given
    trivial
  | bool | array | object =>
    obtain ⟨has, rfl⟩ := given
    exact has

/-- An integer is made the floating-point number of the same value, if there is one. -/
theorem content_of_toFloat? {x : Binary64} (same : ¬Alters .float value)
    (given : value.toFloat? = some x) : (Value.float x).content = value.content := by
  cases known : value.integer? with
  | none =>
    -- The other numbers are floating-point ones already.
    cases value with
    | float y =>
      obtain rfl := Option.some.inj given
      rfl
    | int number | uint number => cases known
    | _ => cases given
  | some n =>
    rw [Value.toFloat?_of_integer? known] at given
    obtain rfl := Option.some.inj given
    simp only [Alters, not_exists, not_and, not_forall, not_not] at same
    obtain ⟨x, equal⟩ := same n known
    rw [Value.content_eq_number.2 (Value.fraction?_of_integer? known)]
    exact Value.content_eq_number.2 (Binary64.fraction?_ofInt equal)

/-- What is converted without being altered denotes the same. -/
theorem content_of_convert? (same : ¬kind.Alters value)
    (given : kind.convert? value = some converted) : converted.content = value.content := by
  rw [convert?_eq_some_iff] at given
  cases kind with
  | any | query => rw [given]
  | string =>
    rcases given with ⟨text, rfl, rfl⟩ | ⟨octets, rfl, rfl⟩
    · rfl
    · -- The octets are those of some text, and are read as it.
      simp only [Alters, not_forall, not_not] at same
      obtain ⟨text, rfl⟩ := same
      rw [Utf8.toText_ofText]
      rfl
  | int =>
    -- An integer is read only where it is the exact value.
    obtain ⟨n, known, rfl⟩ := given
    rw [Value.content_eq_number.2 (Value.toInt64?_eq_some.1 known)]
    exact Value.content_eq_number.2 rfl
  | float =>
    obtain ⟨x, known, rfl⟩ := given
    exact content_of_toFloat? same known
  | bool | array | object => rw [given.2]

/-- A number that denotes the same as a floating-point number is made one: itself, where it has no
exact value. -/
theorem exists_convert?_float {x : Binary64} (same : (Value.float x).content = value.content) :
    ∃ converted, Kind.float.convert? value = some converted := by
  cases known : x.fraction? with
  | some exact =>
    have number : (Value.float x).fraction? = some exact := known
    rw [Value.content_eq_number.2 number] at same
    obtain ⟨y, rounded⟩ := Value.exists_toFloat? (Value.content_eq_number.1 same.symm)
    exact ⟨.float y, convert?_eq_some_iff.2 ⟨y, rounded, rfl⟩⟩
  | none =>
    -- Infinities and what is no number are denoted by themselves only.
    have alone : (Value.float x).content = .other (.float x) := by
      simp [Value.content, Value.fraction?, known]
    obtain rfl := Value.eq_of_content_eq_other (same.symm.trans alone)
    exact ⟨.float x, rfl⟩

/-- A value is converted if something of the kind denotes the same. -/
theorem exists_convert? (has : kind.Has form) (same : form.content = value.content) :
    ∃ converted, kind.convert? value = some converted := by
  cases kind with
  | any | query => exact ⟨value, rfl⟩
  | string =>
    cases form with
    | string text =>
      rcases Value.content_eq_text.1 same.symm with ⟨other, rfl, -⟩ | rfl
      · exact ⟨_, rfl⟩
      · exact ⟨_, rfl⟩
    | _ => cases has
  | int =>
    cases form with
    | int n =>
      have known : value.fraction? = some (n.toInt : ℚ) := Value.content_eq_number.1 same.symm
      exact ⟨.int n, convert?_eq_some_iff.2 ⟨n, Value.toInt64?_eq_some.2 known, rfl⟩⟩
    | _ => cases has
  | float =>
    cases form with
    | float x => exact exists_convert?_float same
    | _ => cases has
  | bool | array | object =>
    -- Values of these kinds have one form only.
    have alone : form.content = .other form := by
      cases form <;> first | rfl | cases has
    obtain rfl := Value.eq_of_content_eq_other (same.symm.trans alone)
    exact ⟨_, convert?_eq_some_iff.2 ⟨has, rfl⟩⟩

/-- A value that is altered is converted, although nothing of the kind denotes the same. -/
theorem exists_of_alters (alters : kind.Alters value) :
    ∃ converted, kind.convert value = .ok converted ∧ kind.Has converted ∧
      ∀ form, kind.Has form → form.content ≠ value.content := by
  -- Only octets that are no text and integers that are no float are altered.
  cases kind with
  | string =>
    cases value with
    | bytes octets =>
      refine ⟨.string (Utf8.toText octets), rfl, trivial, fun form has same => ?_⟩
      cases form with
      | string text => exact alters text (Content.text.inj same)
      | _ => cases has
    | _ => cases alters
  | float =>
    obtain ⟨n, known, apart⟩ := alters
    refine ⟨.float (.ofInt n), ?_, trivial, fun form has same => ?_⟩
    · rw [convert_eq_ok, convert?, Value.toFloat?_of_integer? known, Option.map_some]
    · rw [Value.content_eq_number.2 (Value.fraction?_of_integer? known)] at same
      cases form with
      | float x => exact apart x (Value.content_eq_number.1 same)
      | _ => cases has
  | _ => cases alters

/-- A conversion loses nothing just if it does not alter the value; and if it does, it gives a value
of the kind, where it should fail. -/
theorem lossless_iff (kind : Kind) (value : Value) :
    (kind.Lossless value ↔ ¬kind.Alters value) ∧
    (kind.Alters value → ∃ converted, kind.convert value = .ok converted ∧ kind.Has converted ∧
      ∀ form, kind.Has form → form.content ≠ value.content) := by
  -- What is not altered keeps its content, and a value with a form of the kind is converted.
  refine ⟨⟨fun lossless alters => ?_, fun same => ⟨fun converted given => ?_, ?_⟩⟩,
    exists_of_alters⟩
  · obtain ⟨converted, given, has, other⟩ := exists_of_alters alters
    exact other converted has (lossless.kept converted given).2
  · rw [convert_eq_ok] at given
    exact ⟨has_of_convert? given, content_of_convert? same given⟩
  · rw [convert_eq_error]
    constructor
    · rintro none ⟨form, has, equal⟩
      obtain ⟨converted, given⟩ := exists_convert? has equal
      cases none.symm.trans given
    · intro nothing
      rw [Option.eq_none_iff_forall_ne_some]
      exact fun converted given =>
        nothing ⟨converted, has_of_convert? given, content_of_convert? same given⟩

section Sample

/-- Two to the 53 and one, between two floating-point numbers. -/
def between : Int64 := 9007199254740993

/-- No floating-point number has an integer between two of them for its exact value. -/
theorem alters_between : Kind.float.Alters (.int between) := by
  refine ⟨between.toInt, rfl, fun x known => ?_⟩
  have read : (Binary64.ofInt between.toInt).reading = .finite false (2 ^ 52) 1 := by decide
  have rounded := Binary64.fraction?_ofInt known
  have whole : between.toInt = 9007199254740993 := by decide
  rw [Binary64.fraction?_eq, read, whole] at rounded
  norm_num [Binary64.Reading.fraction?] at rounded

/-- The octet 255 starts no code point. -/
theorem parts_octet : Utf8.parts [0xFF] = [none] := by
  have refused : Utf8.lead 0xFF = .refused := by decide
  have scanned : Utf8.scan 0xFF [] = (none, []) := by rw [Utf8.scan, refused]
  rw [Utf8.parts, scanned, Utf8.parts]

/-- No text has the octet 255 for its own. -/
theorem alters_octet : Kind.string.Alters (.bytes [0xFF]) := by
  intro text same
  have read := Utf8.parts_encode text.toList
  rw [← Utf8.ofText, same, parts_octet] at read
  -- A reading with a gap is that of no text.
  have gap : none ∈ text.toList.map some := read ▸ List.mem_cons_self
  simp at gap

/-- An octet that is no text is mended, and an integer between two floating-point numbers is
rounded. -/
theorem lossless_iff_altered :
    (Kind.string.Alters (.bytes [0xFF]) ∧
      ∃ converted, Kind.string.convert (.bytes [0xFF]) = .ok converted ∧
        Kind.string.Has converted ∧
        ∀ form, Kind.string.Has form → form.content ≠ (Value.bytes [0xFF]).content) ∧
    (Kind.float.Alters (.int between) ∧
      ∃ converted, Kind.float.convert (.int between) = .ok converted ∧ Kind.float.Has converted ∧
        ∀ form, Kind.float.Has form → form.content ≠ (Value.int between).content) :=
  ⟨⟨alters_octet, (lossless_iff .string (.bytes [0xFF])).2 alters_octet⟩,
    alters_between, (lossless_iff .float (.int between)).2 alters_between⟩

/-- Not every conversion to a kind loses nothing. -/
theorem not_lossless :
    Kind.string.convert (.bytes [0xFF]) = .ok (.string "\uFFFD") ∧
      Kind.float.convert (.int between) = .ok (.float (.ofInt 9007199254740992)) ∧
      ¬∀ (kind : Kind) (value : Value), kind ≠ .any → kind ≠ .query → kind.Lossless value := by
  have octet : Kind.string.convert (.bytes [0xFF]) = .ok (.string "\uFFFD") := by
    rw [convert, convert?, Utf8.toText, Utf8.decodeLossy, parts_octet]
    -- An octet that begins no character is read as the replacement, whose octets are others.
    rfl
  refine ⟨octet, rfl, fun lossless => ?_⟩
  have kept := (lossless .string (.bytes [0xFF]) (by decide) (by decide)).kept _ octet
  exact alters_octet _ (Content.text.inj kept.2)

end Sample

end Kind

end Reshape
