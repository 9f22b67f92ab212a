import Mathlib.Data.List.Forall2
import Reshape.Proofs.Expr.Leads
import Reshape.Proofs.Json.Number
import Reshape.Proofs.Json.Writer
import Reshape.Proofs.Value.Fields

/-!
Terms that stand for constants: if the expressions around them leave enough depth they are compiled
to literals without warnings, and they are never compiled to anything else. Such terms are numerals
and quoted strings, signed numerals down to the least integer, and arrays and objects of such terms.
-/

namespace Reshape

/-- The expression of a source is that of the term that is read from it. -/
theorem Expr.compile_of_read {environment : Environment} {source : String} {term : Term}
    (read : Term.read source = .ok term) :
    Expr.compile environment source = term.compile ⟨environment, 0, []⟩ := by
  unfold Expr.compile
  rw [read]

namespace Term

open Compile (Setting Implies)

/-- A term stands for a value: it is compiled to the literal of it wherever it may be nested so much
deeper, and to nothing else anywhere. -/
structure Denotes (depth : Nat) (term : Term) (value : Value) : Prop where
  gives {setting : Setting} (within : setting.depth + depth ≤ setting.environment.depthLimit) :
    term.compile setting = pure (.literal value)
  only (setting : Setting) : Implies (term.compile setting) (pure (.literal value))

namespace Denotes

variable {depth : Nat} {value : Value}

/-- A term that is always compiled to a literal. -/
theorem ofEq {term : Term} (same : ∀ setting, term.compile setting = pure (.literal value))
    (depth : Nat) : Denotes depth term value where
  gives _ := same _
  only setting := same setting ▸ .refl _

/-- A literal. -/
theorem literal (depth : Nat) (value : Value) : Denotes depth (.literal value) value :=
  .ofEq (fun _ => rfl) depth

/-- A term leads to the literal of its value. -/
theorem leads {term : Term} (denotes : Denotes depth term value) :
    term.Leads (.literal value) :=
  fun environment depth lambdas => denotes.only ⟨environment, depth, lambdas⟩

/-- An expression takes one level. -/
theorem nested {term : Term} (denotes : Denotes depth term value) (span : Span) :
    Denotes (depth + 1) (.nested span term) value where
  gives {setting} within := by
    have deeper : setting.depth + 1 ≤ setting.environment.depthLimit := by omega
    rw [compile, if_pos deeper]
    exact denotes.gives (by dsimp only; omega)
  only setting := by
    rw [compile]
    -- Where the limit is exceeded there is no result at all.
    split
    · exact denotes.only _
    · exact .ofFails (Compile.fails_throw _)

/-- A numeral. -/
theorem number {text : String} (known : Compile.numeral? text.toList = some value) (depth : Nat)
    (span : Span) : Denotes depth (.number span text) value := by
  refine .ofEq (fun setting => ?_) depth
  have read : Compile.number span text = pure value := by
    simp only [Compile.number, known]
  rw [compile, read]
  rfl

/-- A string that is written as in JSON. -/
theorem quoted (text : String) (depth : Nat) (span : Span) :
    Denotes depth (.quoted span (Json.quote text)) (.string text) := by
  refine .ofEq (fun setting => ?_) depth
  -- Quoted strings are read as JSON, from which the text is read back.
  have written : Json.parse (Json.quote text).toList = some (.string text) := by
    have scalar : Json.Within Json.nestingLimit (.string text) :=
      .scalar (.string (Nat.le_refl _))
    have read := Json.parseWithin_compact scalar
    have kept : (Json.string text).reread? = some (.string text) := by simp [Json.reread?]
    rwa [Json.compact, Json.compactOnto, String.empty_append, kept] at read
  have read : Compile.unquote span (Json.quote text) = pure text := by
    simp only [Compile.unquote, written]
  rw [compile, read]
  rfl

/-- A term with a minus before it. -/
theorem negated {term : Term} {result : Value} (denotes : Denotes depth term value)
    (known : value.negate = some result) : Denotes depth (.signed .negate term) result := by
  -- A sign before a literal is applied when the term is compiled.
  have signed : Expr.signed .negate (.literal value) = .literal result := by
    simp [Expr.signed, Expr.signed?, Expr.literal?, known]
  refine ⟨fun within => ?_, fun setting => ?_⟩
  · rw [compile, denotes.gives within, pure_bind, signed]
  · rw [compile]
    exact (denotes.only setting).bindPure (signed ▸ .refl _)

/-- The terms of an array, one by one. -/
theorem all {values : List Value} {terms : List Term}
    (each : List.Forall₂ (fun value term => Denotes depth term value) values terms)
    (setting : Setting) :
    (setting.depth + depth ≤ setting.environment.depthLimit →
        compileAll setting terms = pure (values.map .literal)) ∧
      Implies (compileAll setting terms) (pure (values.map .literal)) := by
  induction each with
  | nil => exact ⟨fun _ => rfl, .refl _⟩
  | cons first later ih =>
    -- Beyond the limit of the depth nothing is claimed but that no other array is given.
    rw [compileAll]
    refine ⟨fun within => ?_, ?_⟩
    · rw [first.gives within, pure_bind, ih.1 within, pure_bind]
      rfl
    · exact (first.only setting).bindPure (ih.2.bindPure (.refl _))

/-- An array of terms that stand for values, none of which is a marker. -/
theorem array {values : List Value} {terms : List Term}
    (each : List.Forall₂ (fun value term => Denotes depth term value) values terms)
    (plain : ∀ value ∈ values, value.isMarker = false) :
    Denotes depth (.array terms) (.array values) := by
  -- Items that all are literals are made into one literal, without the markers among them.
  have literals : (values.map Expr.literal).mapM Expr.literal? = some values := by
    clear each plain
    induction values with
    | nil => rfl
    | cons value values ih => simp [Expr.literal?, ih]
  have kept : values.filter (fun value => !value.isMarker) = values :=
    List.filter_eq_self.2 fun value member => by simp [plain value member]
  have made : Expr.ofItems (values.map .literal) = .literal (.array values) := by
    rw [Expr.ofItems, literals]
    dsimp only
    rw [kept]
  refine ⟨fun within => ?_, fun setting => ?_⟩
  · rw [compile, (all each _).1 within, pure_bind, made]
  · rw [compile]
    exact (all each setting).2.bindPure (made ▸ .refl _)

/-- The terms of an object, entry by entry. -/
theorem entries {fields : Fields Value} {entries : List (Span × Term × Term)}
    (each : List.Forall₂ (fun field entry => Denotes depth entry.2.1 (.string field.1) ∧
      Denotes depth entry.2.2 field.2) fields entries) (setting : Setting) :
    (setting.depth + depth ≤ setting.environment.depthLimit →
        compileEntries setting entries =
          pure (fields.map fun field => (.literal (.string field.1), .literal field.2))) ∧
      Implies (compileEntries setting entries)
        (pure (fields.map fun field => (.literal (.string field.1), .literal field.2))) := by
  induction each with
  | nil => exact ⟨fun _ => rfl, .refl _⟩
  | @cons field entry fields entries first later ih =>
    obtain ⟨span, key, value⟩ := entry
    rw [compileEntries]
    -- Keys are literals once they are compiled, so that the object is one of literals.
    refine ⟨fun within => ?_, ?_⟩
    · rw [first.1.gives within, pure_bind]
      simp only [Expr.literal?]
      rw [first.2.gives within, pure_bind, ih.1 within, pure_bind]
      rfl
    · refine (first.1.only setting).bindPure ?_
      exact (first.2.only setting).bindPure (ih.2.bindPure (.refl _))

/-- An object of terms that stand for names and values, the names in order. -/
theorem object {fields : Fields Value} {entries : List (Span × Term × Term)}
    (each : List.Forall₂ (fun field entry => Denotes depth entry.2.1 (.string field.1) ∧
      Denotes depth entry.2.2 field.2) fields entries) (ordered : fields.Ordered) :
    Denotes depth (.object entries) (.object fields) := by
  -- Entries of literals are made into one literal, in which their names are put in order.
  have constant : (fields.map fun field =>
      (Expr.literal (.string field.1), Expr.literal field.2)).mapM Expr.entry? = some fields := by
    clear each ordered
    induction fields with
    | nil => rfl
    | cons field fields ih => simp [Expr.entry?, Expr.literal?, ih]
  have made : Expr.ofEntries (fields.map fun field =>
      (.literal (.string field.1), .literal field.2)) = .literal (.object fields) := by
    rw [Expr.ofEntries, constant]
    dsimp only
    rw [Fields.ofList_of_ordered ordered]
  refine ⟨fun within => ?_, fun setting => ?_⟩
  · rw [compile, (Denotes.entries each _).1 within, pure_bind, made]
  · rw [compile]
    exact (Denotes.entries each setting).2.bindPure (made ▸ .refl _)

end Denotes

end Term

namespace Compile

/-- The numeral of a whole number of 64 bits is the number in the signed kind, if it fits. -/
theorem numeral?_toDigits {n : Nat} (small : n < 0x10000000000000000) :
    numeral? (Nat.toDigits 10 n) =
      some (((int64? n).map .int).getD (.uint (UInt64.ofNat n))) := by
  have each : ∀ c ∈ Nat.toDigits 10 n, c.isDigit = true := Json.isDigit_toDigits
  have other {d : Char} (letter : d.isDigit = false) : ∀ c ∈ Nat.toDigits 10 n, c ≠ d := by
    rintro c member rfl
    rw [each c member] at letter
    cases letter
  -- Without a point and an exponent it is the numeral of an integer.
  have whole : (Nat.toDigits 10 n).any (fun c => c = '.' || c = 'e' || c = 'E') = false := by
    rw [List.any_eq_false]
    intro c member
    simp [other (d := '.') rfl c member, other (d := 'e') rfl c member,
      other (d := 'E') rfl c member]
  have read : Numeral.integer? (Nat.toDigits 10 n) = some (n : Int) := by
    have all : (Nat.toDigits 10 n).all Char.isDigit = true := List.all_eq_true.2 each
    have natural : Numeral.natural? (Nat.toDigits 10 n) = some n := by
      have filled : (Nat.toDigits 10 n).isEmpty = false := by simp [Nat.toDigits_ne_nil]
      rw [Numeral.natural?, filled, all, Json.accumulate_toDigits]
      rfl
    have bare : Numeral.signed (Nat.toDigits 10 n) = (false, Nat.toDigits 10 n) := by
      unfold Numeral.signed
      split
      next text rest parts => exact absurd rfl (other (d := '-') rfl '-' (parts ▸ .head _))
      next text rest parts => exact absurd rfl (other (d := '+') rfl '+' (parts ▸ .head _))
      next => rfl
    rw [Numeral.integer?, bare]
    simp [natural]
  -- The signed kind is tried first, then the unsigned one, which holds all that is left.
  have signed : Numeral.readInt64? (Nat.toDigits 10 n) = int64? n := by
    rw [Numeral.readInt64?, read, Option.bind_some]
  have unsigned : Numeral.readUInt64? (Nat.toDigits 10 n) = some (UInt64.ofNat n) := by
    unfold Numeral.readUInt64?
    split
    next text rest parts => exact absurd rfl (other (d := '-') rfl '-' (parts ▸ .head _))
    next =>
      have fits : (n : Int) < 0x10000000000000000 := by omega
      rw [read, Option.bind_some, uint64?, if_pos ⟨by omega, fits⟩, Int.toNat_natCast]
  rw [numeral?, whole, signed, unsigned]
  cases int64? (n : Int) <;> rfl

end Compile

/-- The opposite of a whole number down to the least signed one. -/
theorem Value.negate_natural {n : Nat} (small : n ≤ 0x8000000000000000) :
    negate (((int64? n).map .int).getD (.uint (UInt64.ofNat n))) =
      some (.int (Int64.ofInt (-n))) := by
  have least : int64? (-(n : Int)) = some (Int64.ofInt (-n)) := by
    rw [int64?, if_pos (by omega)]
  -- Only the opposite of the least integer is in the unsigned kind before it is negated.
  by_cases fits : n < 0x8000000000000000
  · have kept : int64? (n : Int) = some (Int64.ofInt n) := by rw [int64?, if_pos (by omega)]
    have same : (Int64.ofInt n).toInt = n := Int64.toInt_ofInt_of_le (by omega) (by omega)
    rw [kept]
    change negate (.int (Int64.ofInt n)) = _
    simp only [negate, same, least]
  · have large : int64? (n : Int) = none := by rw [int64?, if_neg (by omega)]
    have same : (UInt64.ofNat n).toNat = n := by
      apply UInt64.toNat_ofNat_of_lt'
      simp only [UInt64.size]
      omega
    rw [large]
    change negate (.uint (UInt64.ofNat n)) = _
    simp only [negate, same, least]

end Reshape
