import Mathlib.Data.List.Forall2
import Reshape.Expr.Compile
import Reshape.Proofs.Call.Argument
import Reshape.Proofs.Value.Atom

/-!
Compilations that match: if both succeed, they give related expressions. Calls match if what becomes
of their arguments does.
-/

namespace Reshape

variable {α β γ δ : Type}

namespace Compile

/-- Two compilations match: if both succeed, after whatever warnings, their results are related. -/
def Match (results : α → β → Prop) (left : Compile α) (right : Compile β) : Prop :=
  ∀ warnings warnings', Outcome.Match results (left.run.run warnings).1 (right.run.run warnings').1

namespace Match

variable {results : α → β → Prop} {others : γ → δ → Prop}

/-- Related results match. -/
theorem pure {a : α} {b : β} (related : results a b) :
    Compile.Match results (Pure.pure a) (Pure.pure b) :=
  fun _ _ => .value related

/-- A failure matches any compilation. -/
theorem failure (error : Error) (right : Compile β) :
    Compile.Match results (throw error) right :=
  fun _ _ => .failure _ _

/-- Any compilation matches a failure. -/
theorem failure' (left : Compile α) (error : Error) :
    Compile.Match results left (throw error) :=
  fun _ _ => .failure' _ _

/-- What follows matching compilations matches if it does for related results. -/
theorem bind {left : Compile α} {right : Compile β} {next : α → Compile γ} {next' : β → Compile δ}
    (same : Compile.Match results left right)
    (follows : ∀ a b, results a b → Compile.Match others (next a) (next' b)) :
    Compile.Match others (left >>= next) (right >>= next') := by
  intro warnings warnings'
  have first := same warnings warnings'
  simp only [ExceptT.run_bind, StateT.run_bind]
  generalize left.run.run warnings = outcome at first ⊢
  generalize right.run.run warnings' = outcome' at first ⊢
  obtain ⟨outcome, after⟩ := outcome
  obtain ⟨outcome', after'⟩ := outcome'
  -- What follows runs only after a result, and then after the warnings of the first part.
  cases outcome with
  | error error => exact .failure _ _
  | ok a =>
    cases outcome' with
    | error error => exact .failure' _ _
    | ok b => exact follows a b (first a b rfl rfl) after after'

/-- What follows compilations that match in equal results matches if it does for each of them. -/
theorem andThen {left right : Compile α} {next : α → Compile γ} {next' : α → Compile δ}
    (same : Compile.Match Eq left right)
    (follows : ∀ a, Compile.Match others (next a) (next' a)) :
    Compile.Match others (left >>= next) (right >>= next') := by
  refine same.bind fun a b equal => ?_
  rw [← equal]
  exact follows a

/-- Outcomes that match do so as compilations. -/
theorem ofExcept {left : Except Error α} {right : Except Error β}
    (same : Outcome.Match results left right) :
    Compile.Match results (Compile.ofExcept left) (Compile.ofExcept right) := by
  -- Results are compared only where both sides give one.
  cases left with
  | error error => exact failure error _
  | ok a =>
    cases right with
    | error error => exact failure' _ error
    | ok b => exact pure (same a b rfl rfl)

/-- Attempts of matching compilations have matching outcomes. -/
theorem attempt {left : Compile α} {right : Compile β} (same : Compile.Match results left right) :
    Compile.Match (Outcome.Match results) left.attempt right.attempt :=
  fun _ _ => .value (same _ _)

/-- Matching does not depend on what errors say. -/
theorem adapt (change change' : Error → Error) {left : Compile α} {right : Compile β}
    (same : Compile.Match results left right) :
    Compile.Match results (ExceptT.adapt change left) (ExceptT.adapt change' right) :=
  fun warnings warnings' => (same warnings warnings').mapError change change'

end Match

/-- A quoted text stands for the same string wherever it is. -/
theorem unquote_match (span span' : Span) (text : String) :
    Compile.Match Eq (unquote span text) (unquote span' text) := by
  unfold unquote
  split
  · exact .pure rfl
  · exact .failure _ _

/-- A numeral stands for an atom. -/
theorem isAtom_of_numeral {text : List Char} {value : Value}
    (found : numeral? text = some value) : value.isAtom = true := by
  have float : ∀ value ∈ (Numeral.readBinary64? text).map Value.float, value.isAtom = true := by
    simp [Value.isAtom]
  unfold numeral? at found
  dsimp only at found
  -- A text with a point or an exponent is a floating-point number; any other one is tried as an
  -- integer with and without a sign before.
  split at found
  · exact float value found
  · rcases Option.or_eq_some_iff.1 found with signed | ⟨_, found⟩
    · obtain ⟨_, _, rfl⟩ := Option.map_eq_some_iff.1 signed
      rfl
    · rcases Option.or_eq_some_iff.1 found with unsigned | ⟨_, found⟩
      · obtain ⟨_, _, rfl⟩ := Option.map_eq_some_iff.1 unsigned
        rfl
      · exact float value found

/-- A numeral stands for the same number wherever it is. -/
theorem number_match (span span' : Span) (text : String) :
    Compile.Match (fun value value' => value = value' ∧ value.isAtom = true)
      (number span text) (number span' text) := by
  unfold number
  split
  next found => exact .pure ⟨rfl, isAtom_of_numeral found⟩
  next => exact .failure _ _

/-- What a name stands for among entries. -/
def Calls {κ : Type} (name : String) (entries : Fields (Entry κ)) (called : κ) : Prop :=
  ∃ entry, entries.get? name = some entry ∧ entry.called = called

/-- An entry is found or not, whatever warnings were given before. -/
theorem lookUp_match {κ : Type} (kind name : String) (entries : Fields (Entry κ)) :
    Compile.Match (fun called called' => called = called' ∧ Calls name entries called)
      (lookUp kind name entries) (lookUp kind name entries) := by
  unfold lookUp Environment.entry
  -- A name that is not found fails on both sides.
  cases found : entries.get? name with
  | none => exact .failure _ _
  | some entry =>
    have called : Compile.Match (fun called called' => called = called' ∧
        Calls name entries called) (pure entry.called) (pure entry.called) :=
      .pure ⟨rfl, entry, found, rfl⟩
    simp only [ofExcept, pure_bind]
    -- A deprecated entry is found as well, with a warning.
    split
    · have warned : Compile.Match (fun _ _ => True) (warn s!"{kind} `{name}` is deprecated")
          (warn s!"{kind} `{name}` is deprecated") := fun _ _ _ _ _ _ => trivial
      exact warned.bind fun _ _ _ => called
    · exact called

/-- The expression of a call of a function with slots: a literal if the value is known. -/
def folded (function : Function) (slots : List (Slot Expr)) : Except Error Expr := do
  if (function.signature.attach slots).isDynamic then return .call function slots
  else match ← function.prepare (function.signature.attach slots) with
    | .constant value => return .literal value
    | _ => return .call function slots

/-- The expression of a call of a method with slots, which are checked if their values are known. -/
def checked (target : Expr) (method : Method) (slots : List (Slot Expr)) : Except Error Expr := do
  if !(method.signature.attach slots).isDynamic then
    let _ ← method.prepare (method.signature.attach slots)
  return .method target method slots

/-- A call of a function is compiled by looking it up and folding it with its slots. -/
theorem call_eq (environment : Environment) (name : String) (given : List (Argument Expr)) :
    call environment name given =
      (do
        let function ← lookUp "function" name environment.functions
        ofExcept ((function.signature.bindSlots given >>= folded function).mapError
          (Error.label s!"function `{name}`"))) := by
  unfold call
  congr 1
  funext function
  -- Both sides bind the arguments first, and fail alike if that fails.
  cases function.signature.bindSlots given with
  | error error => rfl
  | ok slots =>
    -- With slots that are known before a call both sides prepare it, and only a constant is
    -- folded.
    change (if (function.signature.attach slots).isDynamic = true then _ else _) =
      ofExcept ((folded function slots).mapError _)
    unfold folded
    split
    · rfl
    · cases function.prepare (function.signature.attach slots) with
      | error error => rfl
      | ok call => cases call <;> rfl

/-- A call of a method is compiled by looking it up and checking its slots. -/
theorem method_eq (environment : Environment) (target : Expr) (name : String)
    (given : List (Argument Expr)) :
    method environment target name given =
      (do
        let method ← lookUp "method" name environment.methods
        ofExcept ((method.signature.bindSlots given >>= checked target method).mapError
          (Error.label s!"method `{name}`"))) := by
  unfold method
  congr 1
  funext method
  -- Both sides bind the arguments first, and fail alike if that fails.
  cases method.signature.bindSlots given with
  | error error => rfl
  | ok slots =>
    change (if (!(method.signature.attach slots).isDynamic) = true then _ else _) =
      ofExcept ((checked target method slots).mapError _)
    unfold checked
    split
    · cases method.prepare (method.signature.attach slots) <;> rfl
    · rfl

/-- Calls of functions match if what becomes of their arguments does for the function called. -/
theorem call_match {related : Expr → Expr → Prop} (environment : Environment) (name : String)
    {given given' : List (Argument Expr)}
    (same : ∀ function : Function, Calls name environment.functions function → Outcome.Match related
      (function.signature.bindSlots given >>= folded function)
      (function.signature.bindSlots given' >>= folded function)) :
    Compile.Match related (call environment name given) (call environment name given') := by
  -- Both sides look the same name up in the same functions.
  rw [call_eq, call_eq]
  refine (lookUp_match _ name _).bind ?_
  rintro function _ ⟨rfl, calls⟩
  exact .ofExcept ((same function calls).mapError _ _)

/-- Calls of methods match if what becomes of their arguments does for each method. -/
theorem method_match {related : Expr → Expr → Prop} (environment : Environment)
    {target target' : Expr} (name : String) {given given' : List (Argument Expr)}
    (same : ∀ method : Method, Outcome.Match related
      (method.signature.bindSlots given >>= checked target method)
      (method.signature.bindSlots given' >>= checked target' method)) :
    Compile.Match related (method environment target name given)
      (method environment target' name given') := by
  -- Both sides look the same name up in the same methods.
  rw [method_eq, method_eq]
  refine (lookUp_match _ name _).bind ?_
  rintro method _ ⟨rfl, _⟩
  exact .ofExcept ((same method).mapError _ _)

/-- A folded call is the call with its slots, or the literal of the value that is known for it. -/
theorem folded_cases {function : Function} {slots : List (Slot Expr)} {expr : Expr}
    (given : folded function slots = .ok expr) :
    expr = .call function slots ∨
      ∃ value, (function.signature.attach slots).isDynamic = false ∧
        function.prepare (function.signature.attach slots) = .ok (.constant value) ∧
          expr = .literal value := by
  unfold folded at given
  -- Slots without values leave the call as it is.
  split at given
  · exact .inl (Except.ok.inj given).symm
  next static =>
    cases prepared : function.prepare (function.signature.attach slots) with
    | error error => rw [prepared] at given; cases given
    | ok call =>
      rw [prepared] at given
      cases call with
      | constant value =>
        exact .inr ⟨value, by simpa using static, rfl, (Except.ok.inj given).symm⟩
      | _ => exact .inl (Except.ok.inj given).symm

/-- A checked call is the call with its slots. -/
theorem checked_eq {target : Expr} {method : Method} {slots : List (Slot Expr)} {expr : Expr}
    (given : checked target method slots = .ok expr) : expr = .method target method slots := by
  unfold checked at given
  -- Preparing the call is a check only, and its result is dropped.
  split at given
  · cases prepared : method.prepare (method.signature.attach slots) with
    | error error => rw [prepared] at given; cases given
    | ok call => rw [prepared] at given; exact (Except.ok.inj given).symm
  · exact (Except.ok.inj given).symm

end Compile

end Reshape
