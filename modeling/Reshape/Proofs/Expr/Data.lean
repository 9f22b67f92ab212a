import Reshape.Proofs.Expr.Spelled
import Reshape.Proofs.Value.Data

/-!
Data written compactly is an expression: it is compiled to the literal of the data, with all
integers in the signed kind that fit it. It can also be an argument of a call.
-/

namespace Reshape

open Grammar

namespace Grammar

variable {depth : Nat} {value : Value}

/-- A text is read as an operand that denotes a value, if the expressions around it leave enough
depth. -/
structure BaseDenotes (depth : Nat) (base : List Char) (value : Value) : Prop where
  begins : Begins base
  nameless {rest : List Char} (cuts : Cuts rest) : Nameless (base ++ rest)
  reads {rest : List Char} (stops : Stops rest) :
    Reads .loose Pattern.primary (base ++ rest) (IsBase rest fun term => term.Denotes depth value)

/-- A row is read as an expression that denotes a value, if those around it leave enough depth. -/
structure Row.Denotes (depth : Nat) (row : Row) (value : Value) : Prop where
  good : row.Good
  nameless {rest : List Char} (separates : Separates rest) : Nameless (row.text ++ rest)
  means : ∀ span first more, row.first.Is first → Row.MoreAre row.more more →
    Term.Denotes (depth + 1) (.nested span (rowTerm first more)) value

/-- A row of one operand with nothing behind it. -/
def Row.single (depth : Nat) (signs : List PrefixSign) (base : List Char) (value : Value) : Row :=
  ⟨⟨signs, base, [], fun term => term.Denotes depth value⟩, []⟩

/-- The text of a row of one operand. -/
theorem Row.text_single {signs : List PrefixSign} {base : List Char} :
    (Row.single depth signs base value).text = signs.flatMap (·.symbol.toList) ++ base := by
  simp [Row.single, Row.text, Operand.text, Operand.after, Row.moreText]

/-- A row of one operand denotes what the signs before it make of the value of the operand. -/
theorem BaseDenotes.row {base : List Char} {result : Value} (denotes : BaseDenotes depth base value)
    (signs : List PrefixSign)
    (signed : ∀ term : Term, term.Denotes depth value →
      Term.Denotes depth (signs.foldr .signed term) result) :
    (Row.single depth signs base value).Denotes depth result := by
  -- The operand stands alone in the row, behind its signs.
  have good : (Row.single depth signs base value).first.Good := by
    refine ⟨denotes.begins, fun stops => ?_, by simp [Row.single]⟩
    exact denotes.reads stops
  refine ⟨⟨good, by simp [Row.single]⟩, fun {rest} separates => ?_,
    fun span first more is are => ?_⟩
  · rw [Row.text_single]
    cases signs with
    | nil => exact denotes.nameless separates.closes.stops.follows.cuts
    | cons sign signs =>
      simp only [List.flatMap_cons, List.append_assoc]
      cases sign <;> exact .ofHead _ (by decide)
  · obtain ⟨base, tails, base_denotes, -, none, rfl⟩ := is
    cases none
    cases are
    exact (signed base base_denotes).nested span

section Scalars

variable (depth : Nat)

/-- The word for null. -/
theorem baseDenotes_null : BaseDenotes depth "null".toList .null := by
  refine ⟨⟨'n', _, rfl, by decide⟩, fun cuts => .ofRefuses (.identifier (by decide) cuts),
    fun stops => .null stops.follows.cuts ?_⟩
  exact .ofPiece rfl (by simp [IsWhole]) (Term.Denotes.literal depth _)

/-- The word for a truth value. -/
theorem baseDenotes_bool (value : Bool) :
    BaseDenotes depth (if value then "true" else "false").toList (.bool value) := by
  refine ⟨?_, fun cuts => .ofRefuses (.identifier (by cases value <;> decide) cuts),
    fun stops => .bool value stops.follows.cuts ?_⟩
  · cases value <;> exact ⟨_, _, rfl, by decide⟩
  · exact .ofPiece rfl (by simp [IsWhole]) (Term.Denotes.literal depth _)

/-- The digits of a whole number of 64 bits. -/
theorem baseDenotes_natural {n : Nat} (small : n < 0x10000000000000000) :
    BaseDenotes depth (Nat.toDigits 10 n)
      (((int64? n).map .int).getD (.uint (UInt64.ofNat n))) := by
  constructor
  · obtain ⟨c, more, digits⟩ := List.exists_cons_of_ne_nil (Nat.toDigits_ne_nil (b := 10) (n := n))
    have digit : c.isDigit = true := Json.isDigit_toDigits (n := n) c (by simp [digits])
    -- None of the signs that cannot begin an operand is a digit.
    have marks : ∀ d ∈ [' ', '\t', '\r', '\n', '#', '!', '-', '=', '>'], d.isDigit = false := by
      decide
    rw [digits]
    refine .ofNe more fun d member => ?_
    rintro rfl
    rw [marks c member] at digit
    cases digit
  · exact fun cuts => .ofDigits Nat.toDigits_ne_nil Json.isDigit_toDigits cuts
  · intro rest stops
    refine .numeral Nat.toDigits_ne_nil Json.isDigit_toDigits stops.endsNumber fun span => ?_
    have known : Compile.numeral? (String.ofList (Nat.toDigits 10 n)).toList =
        some (((int64? n).map .int).getD (.uint (UInt64.ofNat n))) := by
      rw [String.toList_ofList]
      exact Compile.numeral?_toDigits small
    exact .ofPiece rfl (by simp [IsWhole]) (Term.Denotes.number known depth span)

/-- Code points other than quotes and backslashes can stand between quotes. -/
theorem IsQuotable.plains {text rest : List Char} (each : ∀ c ∈ text, c ≠ '"' ∧ c ≠ '\\')
    (later : IsQuotable rest) : IsQuotable (text ++ rest) := by
  induction text with
  | nil => exact later
  | cons c text ih =>
    rw [List.forall_mem_cons] at each
    exact .plain each.1.1 each.1.2 (ih each.2)

/-- A text that has been escaped can stand between quotes. -/
theorem isQuotable_escaped (text : List Char) : IsQuotable (text.flatMap Json.escapedChar) := by
  -- Behind its letter the escape of a control character is four digits.
  have digits : ∀ n < 0x20, ∀ c ∈ Json.fourDigits n, c ≠ '"' ∧ c ≠ '\\' := by decide +kernel
  induction text with
  | nil => exact .nil
  | cons c text ih =>
    rw [List.flatMap_cons]
    -- All that is escaped begins with a backslash, and what is not is neither quote nor backslash.
    rcases Json.escapedChar_cases c with
      ⟨letter, -, written⟩ | ⟨control, written⟩ | ⟨quote, backslash, -, written⟩
    · rw [written]
      exact .escaped letter ih
    · rw [written]
      exact .escaped 'u' (.plains (digits _ control) ih)
    · rw [written]
      exact .plain quote backslash ih

/-- A text as a JSON string. -/
theorem baseDenotes_quote (text : String) :
    BaseDenotes depth (Json.quote text).toList (.string text) := by
  -- The quoted text is a string of the language as it stands, since its escapes are those of JSON.
  have source : (Json.quote text).toList =
      '"' :: text.toList.flatMap Json.escapedChar ++ ['"'] := by
    rw [Json.quote, String.toList_ofList]
  refine ⟨⟨'"', _, source, by decide⟩, fun {rest} _ => ?_, fun {rest} stops => ?_⟩
  · rw [source]
    exact .ofHead _ (by decide)
  rw [source, List.append_assoc]
  refine .quoted (isQuotable_escaped _) (holds_of_heads stops (by decide)) fun span => ?_
  exact .ofPiece rfl (by simp [IsWhole]) (Term.Denotes.quoted text depth span)

end Scalars

section Composed

/-- An expression as an item of a list. -/
def Row.item (depth : Nat) (row : Row) (value : Value) : Passage Term :=
  ⟨row.text, fun term => term.Denotes (depth + 1) value⟩

/-- The item of an expression is read as a term that denotes its value. -/
theorem Row.Denotes.item {row : Row} (denotes : row.Denotes depth value) :
    (row.item depth value).Good (.rule .expr) Piece.term? := by
  refine ⟨denotes.good.clear, fun separates => ?_⟩
  refine .expr denotes.good separates.closes fun span first more is are => ?_
  exact ⟨rfl, _, _, rfl, rfl, denotes.means span first more is are⟩

/-- Expressions in brackets. -/
theorem baseDenotes_array {ι : Type} (parts : List ι) (row : ι → Row) (value : ι → Value)
    (each : ∀ part ∈ parts, (row part).Denotes depth (value part))
    (plain : ∀ part ∈ parts, (value part).isMarker = false) :
    BaseDenotes (depth + 1)
      ('[' :: (Passage.listText [] (parts.map fun part => (row part).item depth (value part)) ++
        [']']))
      (.array (parts.map value)) := by
  -- Each item is read by the rule of expressions, and is no marker.
  have good : ∀ item ∈ parts.map fun part => (row part).item depth (value part),
      item.Good (.rule .expr) Piece.term? :=
    List.forall_mem_map.2 fun part member => (each part member).item
  refine ⟨⟨'[', _, rfl, by decide⟩, fun _ => .ofHead _ (by decide),
    fun {rest} _ => ?_⟩
  rw [List.cons_append, List.append_assoc]
  refine .array (.inl rfl) good fun terms are => ?_
  refine .ofPiece rfl (by simp [IsWhole]) (Term.Denotes.array ?_ (List.forall_mem_map.2 plain))
  rw [List.forall₂_map_left_iff]
  exact List.forall₂_map_left_iff.1 are

/-- A name in quotes as an expression. -/
def Row.name (depth : Nat) (name : String) : Row :=
  .single depth [] (Json.quote name).toList (.string name)

/-- A name in quotes denotes itself. -/
theorem Row.Denotes.name (depth : Nat) (name : String) :
    (Row.name depth name).Denotes depth (.string name) :=
  (baseDenotes_quote depth name).row [] fun _ => id

/-- Two expressions with a colon between them as an entry of an object. -/
def Row.entry (depth : Nat) (key row : Row) (field : String × Value) :
    Passage (Span × Term × Term) :=
  ⟨key.text ++ ':' :: row.text, fun entry =>
    entry.2.1.Denotes (depth + 1) (.string field.1) ∧ entry.2.2.Denotes (depth + 1) field.2⟩

/-- The entry of two expressions is read as terms that denote its name and its value. -/
theorem Row.Denotes.entry {key row : Row} {field : String × Value}
    (names : key.Denotes depth (.string field.1)) (denotes : row.Denotes depth field.2) :
    (Row.entry depth key row field).Good (.rule .objectEntry) Piece.entry? := by
  refine ⟨fun rest => ?_, fun {rest} separates => ?_⟩
  · rw [Row.entry, List.append_assoc]
    exact names.good.clear _
  · have closes : Closes (':' :: (row.text ++ rest)) := holds_of_head (by decide)
    rw [Row.entry, List.append_assoc]
    -- The name ends at the colon, and the value at the end of the entry.
    refine .rule .objectEntry rfl (.both (.both ?_))
    refine .expr names.good closes fun span first more is are => ?_
    refine .clear closes.clear (.symbol ':' (.clear (denotes.good.clear _) ?_))
    refine .expr denotes.good separates.closes fun span' first' more' is' are' => ?_
    intro text span'' line _
    exact ⟨rfl, _, _, rfl, rfl, names.means span first more is are,
      denotes.means span' first' more' is' are'⟩

/-- Entries in braces, the names in order. -/
theorem baseDenotes_object {ι : Type} (parts : List ι) (key row : ι → Row)
    (field : ι → String × Value)
    (each : ∀ part ∈ parts, (key part).Denotes depth (.string (field part).1) ∧
      (row part).Denotes depth (field part).2)
    (ordered : Fields.Ordered (parts.map field)) :
    BaseDenotes (depth + 1)
      ('\x7b' :: (Passage.listText []
        (parts.map fun part => Row.entry depth (key part) (row part) (field part)) ++ ['\x7d']))
      (.object (parts.map field)) := by
  -- Each entry is read by its rule, with a key that is a string.
  have good : ∀ item ∈ parts.map fun part => Row.entry depth (key part) (row part) (field part),
      item.Good (.rule .objectEntry) Piece.entry? :=
    List.forall_mem_map.2 fun part member => (each part member).1.entry (each part member).2
  refine ⟨⟨'\x7b', _, rfl, by decide⟩, fun _ => .ofHead _ (by decide),
    fun {rest} _ => ?_⟩
  rw [List.cons_append, List.append_assoc]
  refine .object (.inl rfl) good fun entries are => ?_
  refine .ofPiece rfl (by simp [IsWhole]) (Term.Denotes.object ?_ ordered)
  rw [List.forall₂_map_left_iff]
  exact List.forall₂_map_left_iff.1 are

end Composed

end Grammar

namespace Value

variable {depth : Nat} {value : Value}

open Json (Written compactOnto)

/-- A value is written compactly as a row that denotes another one. -/
def WrittenAs (depth : Nat) (value result : Value) : Prop :=
  ∃ row : Row, Written compactOnto row.text value.toJson ∧ row.Denotes depth result

/-- A value that is written as a text that denotes another one. -/
theorem writtenAs_of_base {base : List Char} {result : Value}
    (written : Written compactOnto base value.toJson) (denotes : BaseDenotes depth base result) :
    WrittenAs depth value result := by
  refine ⟨_, fun before => ?_, denotes.row [] fun _ => id⟩
  rw [written before, Row.text_single]
  rfl

/-- A whole number is written as its digits. -/
theorem writtenAs_natural (depth : Nat) {n : Nat} (small : n < 0x10000000000000000)
    (integer : value.toJson = .integer n) :
    WrittenAs depth value (((int64? n).map .int).getD (.uint (UInt64.ofNat n))) := by
  refine writtenAs_of_base (fun before => ?_) (baseDenotes_natural depth small)
  have text : toString (n : Int) = n.repr := rfl
  simp [integer, compactOnto, Json.leaf, text, Nat.toList_repr]

/-- A number below zero is written as a minus and digits. -/
theorem writtenAs_negative (depth : Nat) {n : Nat} (small : n < 0x8000000000000000)
    (integer : value.toJson = .integer (Int.negSucc n)) :
    WrittenAs depth value (.int (Int64.ofInt (Int.negSucc n))) := by
  have base := baseDenotes_natural (n := n + 1) depth (by omega)
  refine ⟨_, fun before => ?_, base.row [.negate] fun term denotes => ?_⟩
  -- The digits are those of the absolute value, and the minus in front is a sign of the row.
  · have text : toString (Int.negSucc n) = "-" ++ (n + 1).repr := rfl
    simp [integer, compactOnto, Json.leaf, text, Nat.toList_repr, Row.text_single,
      PrefixSign.symbol]
  · exact denotes.negated (negate_natural (n := n + 1) (by omega))

/-- Data in which integers are in the signed kind if they fit is no marker. -/
theorem Data.isMarker_normal (data : Data depth value) : value.normal.isMarker = false := by
  cases data with
  | uint depth value =>
    rw [normal]
    cases int64? (value.toNat : Int) <;> rfl
  | _ => rfl

/-- Data is written compactly as a row that denotes it, with all integers in the signed kind that
fit. -/
theorem Data.writtenAs (data : Data depth value) : WrittenAs depth value value.normal := by
  -- Each value is a row of one operand, which has a minus before it for numbers below zero.
  induction data with
  | null depth =>
    exact writtenAs_of_base (fun before => by simp [toJson, compactOnto, Json.leaf])
      (baseDenotes_null depth)
  | bool depth value =>
    exact writtenAs_of_base (fun before => by simp [toJson, compactOnto, Json.leaf])
      (baseDenotes_bool depth value)
  | int depth value =>
    have greatest : value.toInt < 0x8000000000000000 := value.toInt_lt
    have least : (-0x8000000000000000 : Int) ≤ value.toInt := value.le_toInt
    have same : Int64.ofInt value.toInt = value := Int64.ofInt_toInt value
    cases number : value.toInt with
    | ofNat n =>
      rw [Int.ofNat_eq_natCast] at number
      rw [number] at same greatest
      have written : WrittenAs depth (.int value) _ :=
        writtenAs_natural (n := n) depth (by omega) (congrArg Json.integer number)
      rw [int64?, if_pos ⟨by omega, greatest⟩, same] at written
      exact written
    | negSucc n =>
      have written : WrittenAs depth (.int value) _ :=
        writtenAs_negative (n := n) depth (by omega) (congrArg Json.integer number)
      rwa [← number, same] at written
  | uint depth value =>
    have written : WrittenAs depth (.uint value) _ :=
      writtenAs_natural depth value.toNat_lt rfl
    rwa [UInt64.ofNat_toNat] at written
  | string depth text =>
    exact writtenAs_of_base (fun before => by simp [toJson, compactOnto, Json.leaf])
      (baseDenotes_quote depth text)
  | @array depth items each ih =>
    -- The rows of the items stand between brackets.
    obtain ⟨parts, rfl, written⟩ := Json.exists_parts (fun (row : Row) (item : Value) =>
      Written compactOnto row.text item.toJson ∧ row.Denotes depth item.normal) ih
    have base := baseDenotes_array parts Prod.fst (fun part => part.2.normal)
      (fun part member => (written part member).2)
      (fun part member => (each _ (List.mem_map_of_mem member)).isMarker_normal)
    have text := Json.written_array (parts.map fun part => (part.1.text, part.2.toJson))
      (List.forall_mem_map.2 fun part member => (written part member).1)
    rw [normal, normalItems_eq, List.map_map]
    refine writtenAs_of_base ?_ base
    simpa [toJson, toItems_eq, Passage.listText_eq, Row.item, Function.comp_def] using text
  | @object depth fields ordered each ih =>
    obtain ⟨parts, rfl, written⟩ := Json.exists_parts (fun (row : Row) (field : String × Value) =>
      Written compactOnto row.text field.2.toJson ∧ row.Denotes depth field.2.normal) ih
    have base := baseDenotes_object parts (fun part => Row.name depth part.2.1) Prod.fst
      (fun part => (part.2.1, part.2.2.normal))
      (fun part member => ⟨.name depth part.2.1, (written part member).2⟩)
      (ordered.of_names (by simp))
    have text := Json.written_object (parts.map fun part =>
        (part.1.text, part.2.1, part.2.2.toJson))
      (List.forall_mem_map.2 fun part member => (written part member).1)
    rw [normal, normalFields_eq, List.map_map]
    refine writtenAs_of_base ?_ base
    simpa [toJson, toMembers_eq, Passage.listText_eq, Row.entry, Row.name, Row.text_single,
      Json.memberText, Function.comp_def] using text

/-- The compact text of data is that of a row that denotes it. -/
theorem Data.exists_row (data : Data depth value) :
    ∃ row : Row, value.compact.toList = row.text ∧ row.Denotes depth value.normal := by
  obtain ⟨row, written, denotes⟩ := data.writtenAs
  exact ⟨row, by simpa [compact, Json.compact] using written "", denotes⟩

/-- Data that is nested less deep than an environment lets expressions be is compiled from its
compact text to its literal, in which all integers are in the signed kind that fit it. No warnings
are given. -/
theorem compile_compact {environment : Environment} (data : Data depth value)
    (shallow : depth < environment.depthLimit) (warnings : List String) :
    (Expr.compile environment value.compact).run.run warnings =
      (.ok (.literal value.normal), warnings) := by
  obtain ⟨row, text, denotes⟩ := data.exists_row
  obtain ⟨span, first, more, read, is, are⟩ := Term.exists_read denotes.good text
  -- The whole expression takes one level around the data.
  have within : 0 + (depth + 1) ≤ environment.depthLimit := by omega
  rw [Expr.compile_of_read read, (denotes.means span first more is are).gives within]
  rfl

/-- Data written compactly can be an argument of a call, and leads to its literal. -/
theorem Data.spelledArgument (data : Data depth value) :
    SpelledArgument value.compact.toList (none, .literal value.normal) := by
  obtain ⟨row, text, denotes⟩ := data.exists_row
  -- A row without a name in front is an argument by its place.
  rw [text]
  have body : SpelledBody row.text (.literal value.normal) :=
    .ofRow denotes.good denotes.nameless fun span first more is are =>
      (denotes.means span first more is are).leads
  exact body.argument

/-- A document with signed and unsigned integers at their limits and names that need escapes is
compiled to its literal, which counts the seven as signed. -/
theorem compile_compact_ledger :
    Data 3 ledger ∧ 3 < Environment.standard.depthLimit ∧
      (Expr.compile Environment.standard ledger.compact).run.run [] =
        (.ok (.literal ledger.normal), []) := by
  have shallow : 3 < Environment.standard.depthLimit := by decide
  exact ⟨data_ledger 0, shallow, compile_compact (data_ledger 0) shallow []⟩

end Value

end Reshape
