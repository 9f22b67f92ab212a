import Reshape.Builtin.Numeric
import Reshape.Eval.Operation
import Reshape.Value.Text

/-!
Atoms: values that are neither markers nor made of other values. Operations on numbers and texts give
nothing else.
-/

namespace Reshape

namespace Value

/-- Whether a value is neither a marker nor made of other values. -/
def isAtom : Value → Bool
  | .array _ | .object _ | .delete | .nothing => false
  | _ => true

variable {value left right result : Value}

/-- An atom is no marker. -/
theorem isMarker_of_isAtom (atomic : value.isAtom = true) : value.isMarker = false := by
  cases value <;> first | rfl | cases atomic

/-- A floating-point number is an atom, also as an integer. -/
theorem isAtom_ofFloat (x : Binary64) : (ofFloat x).isAtom = true := by
  unfold ofFloat
  cases floatToInt? x <;> rfl

/-- The text of a value is an atom. -/
theorem isAtom_toValue (text : Text) : text.toValue.isAtom = true := by
  cases text <;> rfl

/-- The opposite of a number is an atom. -/
theorem isAtom_of_negate (turned : value.negate = some result) : result.isAtom = true := by
  -- An integer turns into an integer or, beyond its range, into another number.
  cases value with
  | int given =>
    simp only [negate] at turned
    split at turned <;> (obtain rfl := Option.some.inj turned; rfl)
  | uint given =>
    simp only [negate] at turned
    split at turned <;> (obtain rfl := Option.some.inj turned; rfl)
  | float given =>
    obtain rfl := Option.some.inj turned
    rfl
  | _ => cases turned

/-- A rounded number is an atom. -/
theorem isAtom_of_round {rounding : Binary64.Rounding}
    (rounded : value.round rounding = some result) : result.isAtom = true := by
  -- A floating-point number becomes an integer if it fits, and a number without fraction if not.
  cases value with
  | int given | uint given =>
    obtain rfl := Option.some.inj rounded
    rfl
  | float given =>
    simp only [round] at rounded
    split at rounded <;> (obtain rfl := Option.some.inj rounded; rfl)
  | _ => cases rounded

/-- A number without its sign is an atom. -/
theorem isAtom_of_absolute (given : value.absolute = some result) : result.isAtom = true := by
  -- The number without its sign is signed or unsigned, as it fits.
  cases value with
  | int number =>
    rw [← Option.some.inj given]
    generalize int64? number.toInt.natAbs = signed
    cases signed <;> rfl
  | uint number | float number =>
    obtain rfl := Option.some.inj given
    rfl
  | _ => cases given

/-- What an operation on two numbers gives is an atom. -/
theorem isAtom_of_combine {operation : Operation}
    (given : combine operation left right = some result) : result.isAtom = true := by
  -- The integers are combined if that fits, and their floating-point numbers if not.
  unfold combine at given
  split at given
  · obtain rfl := Option.some.inj given
    rfl
  · obtain ⟨a, _, given⟩ := Option.bind_eq_some_iff.1 given
    obtain ⟨b, _, given⟩ := Option.bind_eq_some_iff.1 given
    obtain rfl := Option.some.inj given
    rfl

/-- The number that a text writes is an atom. -/
theorem isAtom_of_parseNumber? {text : List Char} (given : parseNumber? text = some result) :
    result.isAtom = true := by
  simp only [parseNumber?, Option.or_eq_some_iff, Option.map_eq_some_iff] at given
  rcases given with ⟨_, _, rfl⟩ | ⟨_, ⟨_, _, rfl⟩ | ⟨_, _, _, rfl⟩⟩ <;> rfl

/-- The number that a value is or writes is an atom. -/
theorem isAtom_of_toNumber? (given : value.toNumber? = some result) : result.isAtom = true := by
  -- A text is parsed to a number, and a number is one already.
  cases value with
  | string text => exact isAtom_of_parseNumber? given
  | bytes octets =>
    obtain ⟨text, _, given⟩ := Option.bind_eq_some_iff.1 given
    exact isAtom_of_parseNumber? given
  | int number | uint number | float number =>
    obtain rfl := Option.some.inj given
    rfl
  | _ => cases given

end Value

namespace Operator

/-- What an operator gives is an atom. -/
theorem isAtom_of_result? {operator : Operator} {left right result : Value}
    (given : operator.result? left right = .ok (some result)) : result.isAtom = true := by
  -- Comparing and connecting give truth values.
  have compared (operator : Operator) (given : operator.compare? left right = some result) :
      result.isAtom = true := by
    unfold compare? at given
    split at given
    · obtain rfl := Option.some.inj given
      rfl
    · cases given
  have connected (operation : Bool → Bool → Bool)
      (given : combine? operation left right = some result) : result.isAtom = true := by
    unfold combine? at given
    split at given
    · obtain rfl := Option.some.inj given
      rfl
    · cases given
  -- Addition also joins texts; division and remainder may give nothing at all.
  cases operator with
  | add =>
    have given := Except.ok.inj given
    unfold add? at given
    split at given
    · obtain rfl := Option.some.inj given
      rfl
    · obtain rfl := Option.some.inj given
      rfl
    · exact Value.isAtom_of_combine given
  | subtract | multiply => exact Value.isAtom_of_combine (Except.ok.inj given)
  | divide =>
    simp only [result?, divide?] at given
    split at given
    · split at given
      · cases given
      · obtain rfl := Option.some.inj (Except.ok.inj given)
        exact Value.isAtom_ofFloat _
    · cases given
  | remainder =>
    simp only [result?, remainder?] at given
    split at given
    · split at given
      · cases given
      · obtain rfl := Option.some.inj (Except.ok.inj given)
        rfl
    · cases given
  | equal | unequal =>
    obtain rfl := Option.some.inj (Except.ok.inj given)
    rfl
  | greater | greaterEqual | less | lessEqual => exact compared _ (Except.ok.inj given)
  | and | or => exact connected _ (Except.ok.inj given)

end Operator

end Reshape
