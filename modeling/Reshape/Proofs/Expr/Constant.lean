import Reshape.Proofs.Expr.Match

/-!
Constants as they are written: literals, arrays and objects of constants, and constants with a sign.
A term that writes a constant is compiled to the literal of it wherever it stands.
-/

namespace Reshape

mutual

/-- A term writes a constant. -/
inductive Term.Writes : Term → Value → Prop where
  | nested (span : Span) {inner : Term} {value : Value} (written : Term.Writes inner value) :
      Writes (.nested span inner) value
  | literal {value : Value} (unmarked : value.isMarker = false) : Writes (.literal value) value
  | number (span : Span) {text : String} {value : Value}
      (found : Compile.numeral? text.toList = some value) : Writes (.number span text) value
  | quoted (span : Span) {text inner : String}
      (found : Json.parse text.toList = some (.string inner)) :
      Writes (.quoted span text) (.string inner)
  | array {items : List Term} {values : List Value} (written : Term.WritesAll items values) :
      Writes (.array items) (.array values)
  | object {entries : List (Span × Term × Term)} {fields : List (String × Value)}
      (written : Term.WritesEntries entries fields) :
      Writes (.object entries) (.object (Fields.ofList fields))
  | signed (sign : PrefixSign) {operand : Term} {inner value : Value}
      (written : Term.Writes operand inner)
      (turns : Expr.signed? sign (.literal inner) = some value) :
      Writes (.signed sign operand) value

/-- Terms write constants, one by one. -/
inductive Term.WritesAll : List Term → List Value → Prop where
  | nil : WritesAll [] []
  | cons {term : Term} {value : Value} {rest : List Term} {values : List Value}
      (first : Term.Writes term value) (later : WritesAll rest values) :
      WritesAll (term :: rest) (value :: values)

/-- Entries write constants under names. -/
inductive Term.WritesEntries : List (Span × Term × Term) → List (String × Value) → Prop where
  | nil : WritesEntries [] []
  | cons (span : Span) {key term : Term} {name : String} {value : Value}
      {rest : List (Span × Term × Term)} {fields : List (String × Value)}
      (first : Term.Writes key (.string name)) (second : Term.Writes term value)
      (later : WritesEntries rest fields) :
      WritesEntries ((span, key, term) :: rest) ((name, value) :: fields)

end

/-- The opposite of a number is a number. -/
theorem Value.isMarker_of_negate {value result : Value} (turns : value.negate = some result) :
    result.isMarker = false := by
  -- Only numbers are turned.
  cases value with
  | int value =>
    simp only [negate] at turns
    split at turns <;> (obtain rfl := Option.some.inj turns; rfl)
  | uint value =>
    simp only [negate] at turns
    split at turns <;> (obtain rfl := Option.some.inj turns; rfl)
  | float value =>
    obtain rfl := Option.some.inj turns
    rfl
  | _ => cases turns

/-- A sign makes no marker. -/
theorem Expr.isMarker_of_signed? {sign : PrefixSign} {operand : Expr} {value : Value}
    (turns : signed? sign operand = some value) : value.isMarker = false := by
  obtain ⟨inner, _, turns⟩ := Option.bind_eq_some_iff.1 turns
  -- A sign gives a number or a truth value.
  cases sign with
  | negate => exact Value.isMarker_of_negate turns
  | not =>
    obtain ⟨truth, _, rfl⟩ := Option.map_eq_some_iff.1 turns
    rfl

/-- A constant that is written is no marker. -/
theorem Term.Writes.unmarked :
    ∀ {term : Term} {value : Value}, Term.Writes term value → value.isMarker = false
  -- A literal is unmarked by its rule, and all the others write values of their own kind.
  | _, _, .nested _ written => written.unmarked
  | _, _, .literal unmarked => unmarked
  | _, _, .number _ found => Value.isMarker_of_isAtom (Compile.isAtom_of_numeral found)
  | _, _, .quoted _ _ => rfl
  | _, _, .array _ => rfl
  | _, _, .object _ => rfl
  | _, _, .signed _ _ turns => Expr.isMarker_of_signed? turns

/-- Constants that are written are no markers. -/
theorem Term.WritesAll.unmarked {items : List Term} {values : List Value}
    (written : Term.WritesAll items values) : ∀ value ∈ values, value.isMarker = false := by
  -- Each item writes a constant of its own.
  induction values generalizing items with
  | nil => simp
  | cons value values ih =>
    cases written with
    | cons first later => simpa using ⟨first.unmarked, ih later⟩

namespace Compile

variable {α β : Type}

/-- A compilation gives, if anything, a result with a property. -/
def Gives (property : α → Prop) (action : Compile α) : Prop :=
  ∀ warnings result, (action.run.run warnings).1 = .ok result → property result

namespace Gives

variable {property : α → Prop} {later : β → Prop}

/-- A result gives itself. -/
theorem pure {result : α} (holds : property result) :
    Compile.Gives property (Pure.pure result) := by
  rintro warnings _ ⟨⟩
  exact holds

/-- A failure gives nothing. -/
theorem failure (error : Error) : Compile.Gives property (throw error) := by
  rintro warnings result ⟨⟩

/-- What follows a compilation is asked for results with its property only. -/
theorem bind {action : Compile α} {next : α → Compile β} (gives : Compile.Gives property action)
    (follows : ∀ result, property result → Compile.Gives later (next result)) :
    Compile.Gives later (action >>= next) := by
  intro warnings result given
  have first := gives warnings
  simp only [ExceptT.run_bind, StateT.run_bind] at given
  generalize action.run.run warnings = outcome at first given
  obtain ⟨outcome, after⟩ := outcome
  -- The property holds of whatever the next part starts from.
  cases outcome with
  | error error => cases given
  | ok middle => exact follows middle (first middle rfl) after result given

/-- What gives a result with a property after anything does so after a compilation. -/
theorem after {action : Compile α} {next : α → Compile β}
    (follows : ∀ result, Compile.Gives later (next result)) :
    Compile.Gives later (action >>= next) :=
  have any : Compile.Gives (fun _ => True) action := fun _ _ _ => trivial
  any.bind fun result _ => follows result

/-- What is attempted has the property if it has a result. -/
theorem attempt {action : Compile α} (gives : Compile.Gives property action) :
    Compile.Gives (fun outcome => ∀ result, outcome = .ok result → property result)
      action.attempt := by
  rintro warnings _ ⟨⟩ result given
  exact gives warnings result given

/-- An outcome gives its result. -/
theorem ofExcept {outcome : Except Error α}
    (holds : ∀ result, outcome = .ok result → property result) :
    Compile.Gives property (Compile.ofExcept outcome) := by
  cases outcome with
  | error error => exact .failure error
  | ok result => exact .pure (holds result rfl)

/-- Results with properties that make them related match. -/
theorem toMatch {other : β → Prop} {results : α → β → Prop} {left : Compile α}
    {right : Compile β} (first : Compile.Gives property left)
    (second : Compile.Gives other right)
    (related : ∀ a b, property a → other b → results a b) : Compile.Match results left right :=
  fun warnings warnings' a b given given' =>
    related a b (first warnings a given) (second warnings' b given')

end Gives

end Compile

/-- A function that has the results for what they are mapped back to has them all. -/
theorem mapM_map_eq_some {α β : Type} (f : α → Option β) (back : β → α)
    (inverts : ∀ b, f (back b) = some b) (results : List β) :
    (results.map back).mapM f = some results := by
  -- Each result is found again, one by one.
  induction results with
  | nil => rfl
  | cons result rest ih =>
    rw [List.map_cons, List.mapM_cons, inverts, ih]
    rfl

open Compile (Setting)

mutual

/-- A term that writes a constant is compiled to its literal. -/
theorem Term.Writes.compile {term : Term} {value : Value} (written : Term.Writes term value)
    (setting : Setting) :
    Compile.Gives (fun expr => expr = .literal value) (term.compile setting) := by
  -- The compiler folds whatever it finds constant, from the inside to the outside.
  cases written with
  | nested span written =>
    simp only [Term.compile]
    split
    · exact written.compile _
    · exact .failure _
  | literal unmarked => exact .pure rfl
  | number span found =>
    simp only [Term.compile, Compile.number, found]
    exact .pure rfl
  | quoted span found =>
    simp only [Term.compile, Compile.unquote, found]
    exact .pure rfl
  | array written =>
    refine (written.compile setting).bind ?_
    rintro items rfl
    refine .pure ?_
    -- No item is left out of the array, as none is a marker.
    have plain := List.filter_eq_self.2 fun value member =>
      congrArg Bool.not (written.unmarked value member)
    unfold Expr.ofItems
    rw [mapM_map_eq_some Expr.literal? .literal fun _ => rfl]
    exact congrArg (fun values => Expr.literal (.array values)) plain
  | object written =>
    refine (written.compile setting).bind ?_
    rintro entries rfl
    refine .pure ?_
    unfold Expr.ofEntries
    rw [mapM_map_eq_some Expr.entry? _ fun _ => rfl]
  | signed sign written turns =>
    refine (written.compile setting).bind ?_
    rintro operand rfl
    refine .pure ?_
    unfold Expr.signed
    rw [turns]

/-- Terms that write constants are compiled to their literals. -/
theorem Term.WritesAll.compile {items : List Term} {values : List Value}
    (written : Term.WritesAll items values) (setting : Setting) :
    Compile.Gives (fun exprs => exprs = values.map .literal)
      (Term.compileAll setting items) := by
  -- The terms are compiled one after the other.
  cases written with
  | nil => exact .pure rfl
  | cons first later =>
    refine (first.compile setting).bind ?_
    rintro expr rfl
    refine (later.compile setting).bind ?_
    rintro rest rfl
    exact .pure rfl

/-- Entries that write constants are compiled to their literals. -/
theorem Term.WritesEntries.compile {entries : List (Span × Term × Term)}
    {fields : List (String × Value)} (written : Term.WritesEntries entries fields)
    (setting : Setting) :
    Compile.Gives
      (fun pairs => pairs = fields.map fun field => (.literal (.string field.1), .literal field.2))
      (Term.compileEntries setting entries) := by
  -- A key is compiled before its value.
  cases written with
  | nil => exact .pure rfl
  | cons span first second later =>
    refine (first.compile setting).bind ?_
    rintro key rfl
    refine (second.compile setting).bind ?_
    rintro term rfl
    refine (later.compile setting).bind ?_
    rintro rest rfl
    exact .pure rfl

end

end Reshape
