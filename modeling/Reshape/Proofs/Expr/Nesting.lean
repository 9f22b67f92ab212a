import Reshape.Proofs.Eval.Call
import Reshape.Proofs.Expr.Match
import Reshape.Proofs.Expr.Narrowed
import Reshape.Proofs.Grammar.Nesting
import Reshape.Proofs.Mapping.Failure

/-!
The limit on nesting. Compilation fails if expressions are nested more deeply than there are levels
left, and otherwise it does not fail for that reason. It does not matter whether the level is handed
down with the setting or kept in a gauge that every expression raises and lowers again.
-/

namespace Reshape

variable {α β : Type}

namespace Error

/-- The error of an expression with so many others around it that it goes beyond the limit. -/
def tooDeep (limit : Nat) (span : Span) : Error :=
  .source ⟨s!"expression nesting exceeds the maximum depth of {limit}", "too deeply nested", none,
    span⟩

/-- An error says something else than that expressions are nested too deeply. -/
def IsShallow (error : Error) : Prop :=
  ∀ limit span, error ≠ .tooDeep limit span

/-- What is said at the span tells faults of a source apart. -/
theorem isShallow_of_label {diagnostic : Diagnostic}
    (other : diagnostic.label ≠ "too deeply nested") : (source diagnostic).IsShallow := by
  rintro limit span same
  cases same
  exact other rfl

end Error

namespace Compile

/-- Compilation fails with some errors only, whatever warnings were given before. -/
def Reports (errors : Error → Prop) (action : Compile α) : Prop :=
  ∀ warnings, Outcome.Ensures (fun _ => True) errors (action.run.run warnings).1

namespace Reports

variable {errors : Error → Prop}

/-- A value reports nothing. -/
theorem pure (a : α) : Reports errors (Pure.pure a) :=
  fun _ => .value trivial

/-- A failure reports its own error. -/
theorem failure {error : Error} (reported : errors error) :
    Reports errors (throw error : Compile α) :=
  fun _ => .failure reported

/-- What follows a compilation adds its errors. -/
theorem bind {action : Compile α} (reports : Reports errors action) {next : α → Compile β}
    (follows : ∀ a, Reports errors (next a)) : Reports errors (action >>= next) := by
  intro warnings
  have first := reports warnings
  simp only [ExceptT.run_bind, StateT.run_bind]
  generalize action.run.run warnings = outcome at first ⊢
  obtain ⟨outcome, after⟩ := outcome
  -- What follows runs after a result only, and then after the warnings of the first part.
  cases first with
  | value _ => exact follows _ after
  | failure reported => exact .failure reported

/-- An outcome reports the errors that it ensures. -/
theorem ofExcept {outcome : Except Error α}
    (ensures : Outcome.Ensures (fun _ => True) errors outcome) :
    Reports errors (Compile.ofExcept outcome) := by
  cases ensures with
  | value _ => exact .pure _
  | failure reported => exact .failure reported

/-- The errors of an attempt are part of its result. -/
theorem attempt {action : Compile α} (reports : Reports errors action)
    {next : Except Error α → Compile β}
    (follows : ∀ outcome, Outcome.Ensures (fun _ => True) errors outcome →
      Reports errors (next outcome)) : Reports errors (action.attempt >>= next) :=
  fun warnings => follows _ (reports warnings) _

/-- With its errors changed, a compilation reports the changed ones. -/
theorem adapt {others : Error → Prop} {change : Error → Error} {action : Compile α}
    (reports : Reports errors action) (follows : ∀ error, errors error → others (change error)) :
    Reports others (ExceptT.adapt change action) := by
  intro warnings
  have first := (reports warnings).mapError follows
  change Outcome.Ensures _ _ (StateT.run (Except.mapError change <$> action.run) warnings).1
  rwa [StateT.run_map]

end Reports

end Compile

section Calls

/-! What is wrong with a call says where it came from at most once: it is no fault of the source
until it is placed there. -/

/-- Faulty arguments do not say where they came from. -/
theorem Slot.settled_bind (parameter : Parameter) (argument : Option Expr) :
    Outcome.Ensures (fun _ => True) Error.Settled (Slot.bind parameter argument) := by
  cases argument with
  | none =>
    unfold Slot.bind
    dsimp only
    split
    · exact .value trivial
    · exact .failure (.inl rfl)
  | some expr =>
    simp only [Slot.bind, ofArgument]
    split
    · exact .value trivial
    · split
      next constant _ =>
        -- A literal is converted now, and any other expression has its value at the call.
        have standard : ∀ constant ∈ parameter.standard, Contract.tracing.Result constant :=
          fun _ _ => .inr trivial
        have kept : Outcome.Ensures (Slot.Keeps Contract.tracing fun (_ : Expr) => True)
            Error.Settled (Slot.ofValue parameter constant) :=
          keeps_ofValue standard (.inr trivial)
        exact kept.mono fun _ _ => trivial
      next =>
        split
        · exact .failure (.inl rfl)
        · exact .value trivial

/-- Arguments are bound, or what is wrong with them does not say where it came from. -/
theorem Signature.settled_bindSlots (signature : Signature) (given : List (Argument Expr)) :
    Outcome.Ensures (fun _ => True) Error.Settled (signature.bindSlots given) := by
  -- Placing the arguments gives a fault of its own, and binding them one by one ends with the first
  -- error.
  have faulty {γ : Type} (outcome : Except ArgumentFault γ) :
      Outcome.Ensures (fun _ => True) Error.Settled (outcome.mapError .arguments) := by
    cases outcome with
    | ok _ => exact .value trivial
    | error fault => exact .failure (.inl rfl)
  have each (parameters : List Parameter) (placed : List (Option Expr)) :
      Outcome.Ensures (fun _ => True) Error.Settled (bindEach parameters placed) := by
    induction parameters generalizing placed with
    | nil => exact .value trivial
    | cons parameter rest ih =>
      cases placed with
      | nil => exact .value trivial
      | cons argument others =>
        refine (Slot.settled_bind parameter argument).bind fun _ _ => ?_
        exact (ih others).bind fun _ _ => .value trivial
  unfold bindSlots
  split
  · exact faulty _
  · exact (faulty _).bind fun _ _ => each _ _

/-- Any arguments that are known before a call keep to a contract that takes any value. -/
theorem Bound.keeps_tracing {bound : Bound Expr} (static : bound.isDynamic = false) :
    Bound.Keeps Contract.tracing (fun _ _ => True) bound := by
  -- Every slot is allowed, as the contract takes any value and any query.
  have any (slot : Slot Expr) :
      Slot.Readies Contract.tracing (fun _ => True) (fun _ => True) slot := by
    cases slot with
    | absent => exact .ready .absent
    | value _ => exact .ready (.value (.inr trivial))
    | query _ => exact .ready (.query trivial)
    | dynamic _ => exact .dynamic trivial
  have readies : Bound.Readies Contract.tracing (fun _ _ => True) (fun _ => True) bound :=
    ⟨fun _ slot _ => any slot, fun slot _ => any slot⟩
  exact readies.keeps static

namespace Compile

/-- A call of a function with slots is folded, or what is wrong is settled. -/
theorem settled_folded (function : Function) (slots : List (Slot Expr)) :
    Outcome.Ensures (fun _ => True) Error.Settled (folded function slots) := by
  unfold folded
  split
  · exact .value trivial
  next static =>
    have keeps := Bound.keeps_tracing (Bool.eq_false_iff.2 static)
    have declared := Signature.attach_parameters function.signature slots
      (by simp [function.not_isVariadic])
    have prepared : Outcome.Ensures (fun _ => True) Error.Settled
        (function.prepare (function.signature.attach slots)) := by
      -- What an application adds can always be prepared.
      cases function with
      | constant _ _ | failing _ _ => exact .value trivial
      | _ =>
        have made := Function.prepare_keeps _ (by simp [Function.builtin]) keeps
          (fun _ _ _ => trivial) declared
        exact made.mono fun _ _ => trivial
    refine prepared.bind fun call _ => ?_
    split <;> exact .value trivial

/-- A call of a method with slots is checked, or what is wrong is settled. -/
theorem settled_checked (target : Expr) (method : Method) (slots : List (Slot Expr)) :
    Outcome.Ensures (fun _ => True) Error.Settled (checked target method slots) := by
  -- The method is tried only if all its arguments are known.
  unfold checked
  split
  next static =>
    have keeps := Bound.keeps_tracing (by simpa using static)
    have declared := Signature.attach_parameters method.signature slots
      method.parameters_of_isVariadic
    have prepared := method.prepare_keeps keeps (fun _ _ _ => trivial) declared fun _ _ => trivial
    exact prepared.bind fun _ _ => .value trivial
  next => exact .value trivial

/-- A name is found, or it does not say where it came from. -/
theorem settled_lookUp {κ : Type} (kind name : String) (entries : Fields (Entry κ)) :
    Reports Error.Settled (lookUp kind name entries) := by
  -- An unknown name is an error of its own, and a deprecated one adds a warning only.
  unfold lookUp Environment.entry
  cases entries.get? name with
  | none => exact .failure (.inl rfl)
  | some entry =>
    have warned : Reports Error.Settled (warn s!"{kind} `{name}` is deprecated") :=
      fun _ => .value trivial
    simp only [ofExcept, pure_bind]
    split
    · exact warned.bind fun _ => .pure _
    · exact .pure _

open Error (IsShallow)

/-- A call that fails is reported as the fault of a call. -/
theorem isShallow_callError {kind : String} (span : Span) {error : Error}
    (unknown : s!"unknown {kind}" ≠ "too deeply nested")
    (inside : s!"in this {kind} call" ≠ "too deeply nested") (settled : error.Settled) :
    (callError kind span error).IsShallow := by
  cases error with
  | source =>
    -- A fault of the source would be kept as it is, but no call fails with one.
    rcases settled with bare | traced
    · cases bare
    · cases traced
  | unknown => exact Error.isShallow_of_label unknown
  | _ => exact Error.isShallow_of_label inside

/-- A call of a function does not fail because expressions are nested too deeply. -/
theorem shallow_call (environment : Environment) (span : Span) (name : String)
    (given : List (Argument Expr)) :
    Reports IsShallow (placed "function" span (call environment name given)) := by
  -- Signatures and folding report no depth, and neither does the label.
  have called : Reports Error.Settled (call environment name given) := by
    rw [call_eq]
    refine (settled_lookUp _ name _).bind fun function => .ofExcept ?_
    have bound := function.signature.settled_bindSlots given
    have folded := bound.bind fun slots _ => settled_folded function slots
    exact folded.mapError fun _ settled => Contract.tracing.label settled _
  exact called.adapt fun _ => isShallow_callError span (by decide) (by decide)

/-- A call of a method does not fail because expressions are nested too deeply. -/
theorem shallow_method (environment : Environment) (span : Span) (target : Expr) (name : String)
    (given : List (Argument Expr)) :
    Reports IsShallow (placed "method" span (method environment target name given)) := by
  -- Signatures and the checks of a method report no depth, and neither does the label.
  have called : Reports Error.Settled (method environment target name given) := by
    rw [method_eq]
    refine (settled_lookUp _ name _).bind fun method => .ofExcept ?_
    have bound := method.signature.settled_bindSlots given
    have checked := bound.bind fun slots _ => settled_checked target method slots
    exact checked.mapError fun _ settled => Contract.tracing.label settled _
  exact called.adapt fun _ => isShallow_callError span (by decide) (by decide)

end Compile

end Calls

namespace Compile

open Error (IsShallow)

/-- A fault with a label of its own does not say that expressions are nested too deeply. -/
theorem shallow_fail (span : Span) (message label : String) (help : Option String)
    (other : label ≠ "too deeply nested") :
    Reports IsShallow (fail span message label help : Compile α) :=
  .failure (Error.isShallow_of_label other)

/-- A quoted text is read, or refused for what it says. -/
theorem shallow_unquote (span : Span) (text : String) :
    Reports IsShallow (unquote span text) := by
  unfold unquote
  split
  · exact .pure _
  · exact shallow_fail _ _ _ _ (by decide)

/-- A name of a path is read, or refused for what it says. -/
theorem shallow_segment (segment : Segment) : Reports IsShallow (Compile.segment segment) := by
  cases segment with
  | plain name => exact .pure name
  | quoted span text => exact shallow_unquote span text

/-- A number is read, or refused for what it says. -/
theorem shallow_number (span : Span) (text : String) : Reports IsShallow (number span text) := by
  unfold number
  split
  · exact .pure _
  · exact shallow_fail _ _ _ _ (by decide)

/-- What is nested so deeply is compiled with some levels to spare. If they are too few it fails;
otherwise it does not fail because expressions are nested too deeply, and comes to what it comes to
with more levels. -/
structure Limited (spare nesting : Nat) (action roomy : Compile α) : Prop where
  same (within : nesting ≤ spare) : action = roomy
  admits (within : nesting ≤ spare) : Reports IsShallow action
  refuses (beyond : spare < nesting) : Fails action

namespace Limited

variable {spare first later : Nat} {action roomy : Compile α}

/-- Without expressions inside, the limit plays no part. -/
theorem ofReports (reports : Reports IsShallow action) : Limited spare 0 action action where
  same _ := rfl
  admits _ := reports
  refuses beyond := absurd beyond (Nat.not_lt_zero spare)

/-- A fault of the source with a label of its own is found however many levels there are. -/
theorem fault (nesting : Nat) (span : Span) (message label : String) (help : Option String)
    (other : label ≠ "too deeply nested") :
    Limited spare nesting (fail span message label help : Compile α)
      (fail span message label help) where
  same _ := rfl
  admits _ := shallow_fail span message label help other
  refuses _ := fails_throw _

/-- One compilation after the other has what the deeper one needs. -/
theorem bind (limited : Limited spare first action roomy) {next next' : α → Compile β}
    (follows : ∀ a, Limited spare later (next a) (next' a)) :
    Limited spare (max first later) (action >>= next) (roomy >>= next') where
  same within := by
    have both := Nat.max_le.1 within
    have nexts : next = next' := funext fun a => (follows a).same both.2
    rw [limited.same both.1, nexts]
  admits within := by
    have both := Nat.max_le.1 within
    exact (limited.admits both.1).bind fun a => (follows a).admits both.2
  refuses beyond := by
    -- The one that goes beyond the limit fails, whichever it is.
    rcases Nat.lt_or_ge spare first with own | within
    · exact (limited.refuses own).bind next
    · exact .after fun a => (follows a).refuses (by omega)

/-- What is done with a result needs nothing more. -/
theorem andThen (limited : Limited spare first action roomy) {next : α → Compile β}
    (reports : ∀ a, Reports IsShallow (next a)) :
    Limited spare first (action >>= next) (roomy >>= next) := by
  have whole := limited.bind fun a => ofReports (reports a)
  rwa [Nat.max_zero] at whole

/-- What is made of a result needs nothing more. -/
theorem map (limited : Limited spare first action roomy) (make : α → β) :
    Limited spare first (action >>= fun a => pure (make a)) (roomy >>= fun a => pure (make a)) :=
  limited.andThen fun _ => .pure _

/-- Two operands need what the deeper one needs, although the second one is compiled even if the
first one has failed. -/
theorem both (limited : Limited spare first action roomy) {second second' : Compile α}
    (follows : Limited spare later second second') (join : α → α → β) :
    Limited spare (max first later)
      (do
        let left ← action.attempt
        let right ← second.attempt
        return join (← ofExcept left) (← ofExcept right))
      (do
        let left ← roomy.attempt
        let right ← second'.attempt
        return join (← ofExcept left) (← ofExcept right)) where
  same within := by
    have both := Nat.max_le.1 within
    rw [limited.same both.1, follows.same both.2]
  admits within := by
    have both := Nat.max_le.1 within
    refine (limited.admits both.1).attempt fun left ensures => ?_
    refine (follows.admits both.2).attempt fun right ensures' => ?_
    exact (Reports.ofExcept ensures).bind fun _ => (Reports.ofExcept ensures').bind fun _ => .pure _
  refuses beyond := by
    -- The error of the first operand is reported after the second one has been compiled.
    rcases Nat.lt_or_ge spare first with own | within
    · refine (limited.refuses own).attempt fun error => ?_
      exact .afterAttempt fun _ => (fails_throw error).bind _
    · refine .afterAttempt fun left => ?_
      refine (follows.refuses (by omega)).attempt fun error => ?_
      exact .after fun _ => (fails_throw error).bind _

end Limited

end Compile

namespace Environment

/-- The environment with another limit on nesting. -/
def withDepthLimit (environment : Environment) (limit : Nat) : Environment :=
  { environment with depthLimit := limit }

/-- The limit of an environment is the one that it is given. -/
@[simp] theorem depthLimit_withDepthLimit (environment : Environment) (limit : Nat) :
    (environment.withDepthLimit limit).depthLimit = limit :=
  rfl

end Environment

namespace Term

open Compile (Limited)

variable {environment : Environment} {higher : Nat}

/-- An expression is compiled one level deeper, if there is one left. -/
theorem compile_nested (environment : Environment) (depth : Nat) (lambdas : List String)
    (span : Span) (inner : Term) :
    (nested span inner).compile ⟨environment, depth, lambdas⟩ =
      if depth + 1 ≤ environment.depthLimit then inner.compile ⟨environment, depth + 1, lambdas⟩
      else throw (.tooDeep environment.depthLimit span) := by
  rw [compile]
  rfl

mutual

/-- A term needs as many levels as its expressions are nested. -/
theorem compile_limited (above : environment.depthLimit ≤ higher) (depth : Nat)
    (lambdas : List String) (term : Term) :
    Limited (environment.depthLimit - depth) term.nesting
      (term.compile ⟨environment, depth, lambdas⟩)
      (term.compile ⟨environment.withDepthLimit higher, depth, lambdas⟩) := by
  -- A term needs what the deepest of its parts needs, and only an expression adds a level.
  cases term with
  | nested span inner =>
    have inside := compile_limited above (depth + 1) lambdas inner
    rw [compile_nested, compile_nested, nesting, Environment.depthLimit_withDepthLimit]
    by_cases room : depth + 1 ≤ environment.depthLimit
    · -- One of the levels to spare is taken, and the others are left for what stands inside.
      rw [if_pos room, if_pos (by omega)]
      exact
        { same := fun within => inside.same (by omega)
          admits := fun within => inside.admits (by omega)
          refuses := fun beyond => inside.refuses (by omega) }
    · -- No level is to spare, which is too few for an expression.
      rw [if_neg room]
      exact
        { same := fun within => by omega
          admits := fun within => by omega
          refuses := fun _ => Compile.fails_throw _ }
  | literal _ => exact .ofReports (.pure _)
  | number span text =>
    have reads := Compile.shallow_number span text
    exact .ofReports (reads.bind fun _ => .pure _)
  | quoted span text =>
    have reads := Compile.shallow_unquote span text
    exact .ofReports (reads.bind fun _ => .pure _)
  | array items =>
    have inside := compileAll_limited above depth lambdas items
    exact inside.map _
  | object entries =>
    have inside := compileEntries_limited above depth lambdas entries
    exact inside.map _
  | branches tests otherwise =>
    have first := compilePairs_limited above depth lambdas tests
    have last := compileOption_limited above depth lambdas otherwise
    refine first.bind fun tests => ?_
    exact last.map _
  | cases subject rules =>
    have first := compileOption_limited above depth lambdas subject
    have later := compileCases_limited above depth lambdas rules
    refine first.bind fun subject => ?_
    exact later.map _
  | call span called given =>
    have inside := compileArguments_limited above depth lambdas given
    -- The call itself is no expression, and takes no level.
    refine inside.andThen fun arguments => ?_
    exact Compile.shallow_call environment span called arguments
  | «variable» _ => exact .ofReports (.pure _)
  | metadata key =>
    cases key with
    | none => exact .ofReports (.pure _)
    | some key =>
      have reads := Compile.shallow_segment key
      exact .ofReports (reads.bind fun _ => .pure _)
  | root => exact .ofReports (.pure _)
  | current => exact .ofReports (.pure _)
  | name _ => exact .ofReports (.pure _)
  | signed sign operand =>
    have inside := compile_limited above depth lambdas operand
    exact inside.map _
  | binary sign left right =>
    have first := compile_limited above depth lambdas left
    have second := compile_limited above depth lambdas right
    exact first.both second _
  | field target part =>
    have inside := compile_limited above depth lambdas target
    refine inside.andThen fun target => ?_
    exact (Compile.shallow_segment part).bind fun _ => .pure _
  | method span target called given =>
    have first := compile_limited above depth lambdas target
    have later := compileArguments_limited above depth lambdas given
    refine first.bind fun target => later.andThen fun arguments => ?_
    exact Compile.shallow_method environment span target called arguments
  | lambda called body =>
    have inside := compile_limited above depth (called :: lambdas) body
    exact inside.map _

/-- An optional term needs as many levels as its expressions are nested. -/
theorem compileOption_limited (above : environment.depthLimit ≤ higher) (depth : Nat)
    (lambdas : List String) (term : Option Term) :
    Limited (environment.depthLimit - depth) (nestingOption term)
      (compileOption ⟨environment, depth, lambdas⟩ term)
      (compileOption ⟨environment.withDepthLimit higher, depth, lambdas⟩ term) := by
  cases term with
  | none => exact .ofReports (.pure _)
  | some term =>
    have inside := compile_limited above depth lambdas term
    exact inside.map _

/-- Terms need as many levels as their expressions are nested. -/
theorem compileAll_limited (above : environment.depthLimit ≤ higher) (depth : Nat)
    (lambdas : List String) (terms : List Term) :
    Limited (environment.depthLimit - depth) (nestingAll terms)
      (compileAll ⟨environment, depth, lambdas⟩ terms)
      (compileAll ⟨environment.withDepthLimit higher, depth, lambdas⟩ terms) := by
  cases terms with
  | nil => exact .ofReports (.pure _)
  | cons term rest =>
    -- The terms nest as deep as the deepest of them, so that the bound goes to both parts.
    have first := compile_limited above depth lambdas term
    have later := compileAll_limited above depth lambdas rest
    refine first.bind fun expr => ?_
    exact later.map _

/-- Pairs of terms need as many levels as their expressions are nested. -/
theorem compilePairs_limited (above : environment.depthLimit ≤ higher) (depth : Nat)
    (lambdas : List String) (pairs : List (Term × Term)) :
    Limited (environment.depthLimit - depth) (nestingPairs pairs)
      (compilePairs ⟨environment, depth, lambdas⟩ pairs)
      (compilePairs ⟨environment.withDepthLimit higher, depth, lambdas⟩ pairs) := by
  -- The condition and the body of the first pair come before the other pairs.
  cases pairs with
  | nil => exact .ofReports (.pure _)
  | cons pair rest =>
    have first := compile_limited above depth lambdas pair.1
    have second := compile_limited above depth lambdas pair.2
    have later := compilePairs_limited above depth lambdas rest
    refine first.bind fun test => second.bind fun body => ?_
    exact later.map _

/-- The entries of an object need as many levels as their expressions are nested. -/
theorem compileEntries_limited (above : environment.depthLimit ≤ higher) (depth : Nat)
    (lambdas : List String) (entries : List (Span × Term × Term)) :
    Limited (environment.depthLimit - depth) (nestingEntries entries)
      (compileEntries ⟨environment, depth, lambdas⟩ entries)
      (compileEntries ⟨environment.withDepthLimit higher, depth, lambdas⟩ entries) := by
  cases entries with
  | nil => exact .ofReports (.pure _)
  | cons entry rest =>
    obtain ⟨span, key, value⟩ := entry
    have first := compile_limited above depth lambdas key
    have second := compile_limited above depth lambdas value
    have later := compileEntries_limited above depth lambdas rest
    refine first.bind fun key => ?_
    have whole := second.bind fun value => later.map fun others => (key, value) :: others
    -- A constant key that is no string is a fault whatever stands behind it.
    split
    · exact whole
    · exact whole
    · exact .fault _ _ _ _ _ (by decide)

/-- Cases need as many levels as their expressions are nested. -/
theorem compileCases_limited (above : environment.depthLimit ≤ higher) (depth : Nat)
    (lambdas : List String) (rules : List (Option Term × Term)) :
    Limited (environment.depthLimit - depth) (nestingCases rules)
      (compileCases ⟨environment, depth, lambdas⟩ rules)
      (compileCases ⟨environment.withDepthLimit higher, depth, lambdas⟩ rules) := by
  -- The test and the body of the first case come before the other cases.
  cases rules with
  | nil => exact .ofReports (.pure _)
  | cons rule rest =>
    have first := compileOption_limited above depth lambdas rule.1
    have second := compile_limited above depth lambdas rule.2
    have later := compileCases_limited above depth lambdas rest
    refine first.bind fun test => second.bind fun body => ?_
    exact later.map _

/-- Arguments need as many levels as their expressions are nested. -/
theorem compileArguments_limited (above : environment.depthLimit ≤ higher) (depth : Nat)
    (lambdas : List String) (given : List (Option String × Term)) :
    Limited (environment.depthLimit - depth) (nestingArguments given)
      (compileArguments ⟨environment, depth, lambdas⟩ given)
      (compileArguments ⟨environment.withDepthLimit higher, depth, lambdas⟩ given) := by
  cases given with
  | nil => exact .ofReports (.pure _)
  | cons argument rest =>
    have first := compile_limited above depth lambdas argument.2
    have later := compileArguments_limited above depth lambdas rest
    refine first.bind fun expr => ?_
    exact later.map _

end

end Term

/-- Compilation with a gauge of how many expressions stand around what is compiled. -/
abbrev Gauged := ExceptT Error (StateT Nat (StateM (List String)))

namespace Gauged

/-- Compilation that does not look at the gauge. -/
def lift (action : Compile α) : Gauged α :=
  ExceptT.mk (StateT.lift action.run)

/-- The outcome of compilation, which can be asked for before it is used. -/
def attempt (action : Gauged α) : Gauged (Except Error α) :=
  ExceptT.mk (Except.ok <$> action.run)

/-- Compilation with a higher gauge, which is lowered again whatever came of what is inside. -/
def raised (depth : Nat) (inner : Gauged α) : Gauged α := do
  set depth
  let outcome ← attempt inner
  set (depth - 1)
  lift (Compile.ofExcept outcome)

/-- The compilation of an expression: it raises the gauge if there is a level left. -/
def enter (limit : Nat) (span : Span) (inner : Gauged α) : Gauged α := do
  let depth := (← get) + 1
  if limit < depth then throw (.tooDeep limit span) else raised depth inner

/-- From a gauge a compilation comes to what another one comes to without, and leaves the gauge as
it was. -/
def Follows (depth : Nat) (gauged : Gauged α) (action : Compile α) : Prop :=
  ∀ warnings, (gauged.run.run depth).run warnings =
    (((action.run.run warnings).1, depth), (action.run.run warnings).2)

namespace Follows

variable {depth : Nat} {gauged : Gauged α} {action : Compile α}

/-- What does not look at the gauge leaves it as it is. -/
theorem lift (action : Compile α) : Follows depth (Gauged.lift action) action :=
  fun _ => rfl

/-- A value is the same with and without a gauge. -/
theorem pure (a : α) : Follows depth (Pure.pure a) (Pure.pure a) :=
  fun _ => rfl

/-- What follows a compilation starts from the gauge that this one found. -/
theorem bind (follows : Follows depth gauged action) {next : α → Gauged β} {next' : α → Compile β}
    (later : ∀ a, Follows depth (next a) (next' a)) :
    Follows depth (gauged >>= next) (action >>= next') := by
  intro warnings
  -- Both sides run the first part, and what follows finds the gauge where it was.
  have first := follows warnings
  simp only [ExceptT.run_bind, StateT.run_bind] at first ⊢
  rw [first]
  generalize action.run.run warnings = outcome
  obtain ⟨outcome, after⟩ := outcome
  cases outcome with
  | error error => rfl
  | ok a => exact later a after

/-- What is made of a result leaves the gauge as it is. -/
theorem map (follows : Follows depth gauged action) (make : α → β) :
    Follows depth (gauged >>= fun a => Pure.pure (make a))
      (action >>= fun a => Pure.pure (make a)) :=
  follows.bind fun _ => .pure _

/-- An attempt leaves the gauge as it is, also if it fails. -/
theorem attempt (follows : Follows depth gauged action) :
    Follows depth gauged.attempt action.attempt := by
  intro warnings
  have first := follows warnings
  change ((Except.ok <$> gauged.run).run depth).run warnings = _
  rw [StateT.run_map, StateT.run_map, first]
  rfl

/-- A gauge that is raised is as it was in the end, although what is inside finds it higher. -/
theorem raised (follows : Follows (depth + 1) gauged action) :
    Follows depth (Gauged.raised (depth + 1) gauged) action := by
  intro warnings
  have inside := follows.attempt warnings
  -- What is inside starts from the higher gauge.
  change ((gauged.attempt >>= fun outcome => (do
    set (depth + 1 - 1)
    Gauged.lift (Compile.ofExcept outcome) : Gauged α)).run.run (depth + 1)).run warnings = _
  simp only [ExceptT.run_bind, StateT.run_bind] at inside ⊢
  rw [inside]
  -- The gauge is lowered before the outcome is looked at.
  change ((Gauged.lift (Compile.ofExcept (action.run.run warnings).1)).run.run depth).run
    (action.run.run warnings).2 = _
  cases (action.run.run warnings).1 with
  | error error => rfl
  | ok a => rfl

/-- An expression leaves the gauge as it is, whether it can be entered or not. -/
theorem enter {limit : Nat} {span : Span}
    (follows : depth + 1 ≤ limit → Follows (depth + 1) gauged action) :
    Follows depth (Gauged.enter limit span gauged)
      (if depth + 1 ≤ limit then action else throw (.tooDeep limit span)) := by
  -- Below the limit the level is entered and left again; at the limit both sides refuse.
  intro warnings
  have first : (Gauged.enter limit span gauged).run.run depth =
      (if limit < depth + 1 then throw (.tooDeep limit span)
        else Gauged.raised (depth + 1) gauged : Gauged α).run.run depth := rfl
  rw [first]
  by_cases room : depth + 1 ≤ limit
  · rw [if_pos room, if_neg (by omega)]
    exact (follows room).raised warnings
  · rw [if_neg room, if_pos (by omega)]
    rfl

end Follows

end Gauged

namespace Term

open Gauged (Follows)

mutual

/-- The expression of a term, with a gauge of the expressions around it. -/
def gauged (environment : Environment) (lambdas : List String) : Term → Gauged Expr
  | .nested span inner =>
    Gauged.enter environment.depthLimit span (gauged environment lambdas inner)
  | .literal value => return .literal value
  | .number span text => return .literal (← Gauged.lift (Compile.number span text))
  | .quoted span text => return .literal (.string (← Gauged.lift (Compile.unquote span text)))
  | .array items => return Expr.ofItems (← gaugedAll environment lambdas items)
  | .object entries => return Expr.ofEntries (← gaugedEntries environment lambdas entries)
  | .branches tests otherwise => do
    let tests ← gaugedPairs environment lambdas tests
    return .branches tests (← gaugedOption environment lambdas otherwise)
  | .cases subject rules => do
    let subject ← gaugedOption environment lambdas subject
    return .cases subject (← gaugedCases environment lambdas rules)
  | .call span called given => do
    let arguments ← gaugedArguments environment lambdas given
    Gauged.lift (Compile.placed "function" span (Compile.call environment called arguments))
  | .variable called => return .variable called []
  | .metadata none => return .metadata none
  | .metadata (some key) => return .metadata (some (← Gauged.lift (Compile.segment key)))
  | .root => return .field .root []
  | .current => return .field .current []
  | .name called => return .ofName lambdas called
  | .signed sign operand => return .signed sign (← gauged environment lambdas operand)
  | .binary sign left right => do
    let left ← Gauged.attempt (gauged environment lambdas left)
    let right ← Gauged.attempt (gauged environment lambdas right)
    return .joined sign (← Gauged.lift (Compile.ofExcept left))
      (← Gauged.lift (Compile.ofExcept right))
  | .field target part => do
    let target ← gauged environment lambdas target
    return target.child (← Gauged.lift (Compile.segment part))
  | .method span target called given => do
    let target ← gauged environment lambdas target
    let arguments ← gaugedArguments environment lambdas given
    Gauged.lift (Compile.placed "method" span (Compile.method environment target called arguments))
  | .lambda called body =>
    return .lambda called (← gauged environment (called :: lambdas) body)

/-- The expression of an optional term. -/
def gaugedOption (environment : Environment) (lambdas : List String) :
    Option Term → Gauged (Option Expr)
  | none => return none
  | some term => return some (← gauged environment lambdas term)

/-- The expressions of terms. -/
def gaugedAll (environment : Environment) (lambdas : List String) :
    List Term → Gauged (List Expr)
  | [] => return []
  | term :: rest => do
    let expr ← gauged environment lambdas term
    return expr :: (← gaugedAll environment lambdas rest)

/-- The expressions of pairs of terms. -/
def gaugedPairs (environment : Environment) (lambdas : List String) :
    List (Term × Term) → Gauged (List (Expr × Expr))
  | [] => return []
  | (first, second) :: rest => do
    let first ← gauged environment lambdas first
    let second ← gauged environment lambdas second
    return (first, second) :: (← gaugedPairs environment lambdas rest)

/-- The expressions of the entries of an object. -/
def gaugedEntries (environment : Environment) (lambdas : List String) :
    List (Span × Term × Term) → Gauged (List (Expr × Expr))
  | [] => return []
  | (span, key, value) :: rest => do
    let key ← gauged environment lambdas key
    match key.literal? with
    | none | some (.string _) =>
      let value ← gauged environment lambdas value
      return (key, value) :: (← gaugedEntries environment lambdas rest)
    | some other =>
      Gauged.lift
        (Compile.fail span s!"object keys must be strings, got {other.typeName}" "this key" none)

/-- The cases of terms and what applies in them. -/
def gaugedCases (environment : Environment) (lambdas : List String) :
    List (Option Term × Term) → Gauged (List (Case Expr × Expr))
  | [] => return []
  | (test, body) :: rest => do
    let test ← gaugedOption environment lambdas test
    let body ← gauged environment lambdas body
    let case := match test with
      | none => .wildcard
      | some expr => expr.toCase
    return (case, body) :: (← gaugedCases environment lambdas rest)

/-- The arguments of a call. -/
def gaugedArguments (environment : Environment) (lambdas : List String) :
    List (Option String × Term) → Gauged (List (Argument Expr))
  | [] => return []
  | (called, term) :: rest => do
    let expr ← gauged environment lambdas term
    return ⟨called, expr⟩ :: (← gaugedArguments environment lambdas rest)

end

variable {environment : Environment}

mutual

/-- At every term the gauge tells how many expressions stand around it. -/
theorem gauged_follows (depth : Nat) (lambdas : List String) (term : Term) :
    Follows depth (term.gauged environment lambdas)
      (term.compile ⟨environment, depth, lambdas⟩) := by
  -- Each part finds the gauge as the one before it did, since that has left it as it was.
  cases term with
  | nested span inner =>
    refine .enter fun room => ?_
    exact gauged_follows (depth + 1) lambdas inner
  | literal _ => exact .pure _
  | number _ _ => exact (Follows.lift _).map _
  | quoted _ _ => exact (Follows.lift _).map _
  | array items =>
    have inside := gaugedAll_follows depth lambdas items
    exact inside.map _
  | object entries =>
    have inside := gaugedEntries_follows depth lambdas entries
    exact inside.map _
  | branches tests otherwise =>
    have first := gaugedPairs_follows depth lambdas tests
    have last := gaugedOption_follows depth lambdas otherwise
    refine first.bind fun tests => ?_
    exact last.map _
  | cases subject rules =>
    have first := gaugedOption_follows depth lambdas subject
    have later := gaugedCases_follows depth lambdas rules
    refine first.bind fun subject => ?_
    exact later.map _
  | call span called given =>
    have inside := gaugedArguments_follows depth lambdas given
    exact inside.bind fun arguments => .lift _
  | «variable» _ => exact .pure _
  | metadata key =>
    cases key with
    | none => exact .pure _
    | some key => exact (Follows.lift _).map _
  | root => exact .pure _
  | current => exact .pure _
  | name _ => exact .pure _
  | signed sign operand =>
    have inside := gauged_follows depth lambdas operand
    exact inside.map _
  | binary sign left right =>
    have first := gauged_follows depth lambdas left
    have second := gauged_follows depth lambdas right
    -- The second operand starts from the same gauge, whatever came of the first one.
    refine first.attempt.bind fun left => ?_
    refine second.attempt.bind fun right => ?_
    refine (Follows.lift _).bind fun left => ?_
    exact (Follows.lift _).map _
  | field target part =>
    have inside := gauged_follows depth lambdas target
    refine inside.bind fun target => ?_
    exact (Follows.lift _).map _
  | method span target called given =>
    have first := gauged_follows depth lambdas target
    have later := gaugedArguments_follows depth lambdas given
    refine first.bind fun target => ?_
    exact later.bind fun arguments => .lift _
  | lambda called body =>
    have inside := gauged_follows depth (called :: lambdas) body
    exact inside.map _

/-- An optional term leaves the gauge as it was found. -/
theorem gaugedOption_follows (depth : Nat) (lambdas : List String) (term : Option Term) :
    Follows depth (gaugedOption environment lambdas term)
      (compileOption ⟨environment, depth, lambdas⟩ term) := by
  cases term with
  | none => exact .pure _
  | some term =>
    have inside := gauged_follows depth lambdas term
    exact inside.map _

/-- Terms leave the gauge as it was found. -/
theorem gaugedAll_follows (depth : Nat) (lambdas : List String) (terms : List Term) :
    Follows depth (gaugedAll environment lambdas terms)
      (compileAll ⟨environment, depth, lambdas⟩ terms) := by
  cases terms with
  | nil => exact .pure _
  | cons term rest =>
    -- Terms are compiled in turn, and each leaves the gauge where it found it.
    have first := gauged_follows depth lambdas term
    have later := gaugedAll_follows depth lambdas rest
    refine first.bind fun expr => ?_
    exact later.map _

/-- Pairs of terms leave the gauge as it was found. -/
theorem gaugedPairs_follows (depth : Nat) (lambdas : List String) (pairs : List (Term × Term)) :
    Follows depth (gaugedPairs environment lambdas pairs)
      (compilePairs ⟨environment, depth, lambdas⟩ pairs) := by
  -- The condition and the body of the first pair come before the other pairs.
  cases pairs with
  | nil => exact .pure _
  | cons pair rest =>
    have first := gauged_follows depth lambdas pair.1
    have second := gauged_follows depth lambdas pair.2
    have later := gaugedPairs_follows depth lambdas rest
    refine first.bind fun test => second.bind fun body => ?_
    exact later.map _

/-- The entries of an object leave the gauge as it was found. -/
theorem gaugedEntries_follows (depth : Nat) (lambdas : List String)
    (entries : List (Span × Term × Term)) :
    Follows depth (gaugedEntries environment lambdas entries)
      (compileEntries ⟨environment, depth, lambdas⟩ entries) := by
  cases entries with
  | nil => exact .pure _
  | cons entry rest =>
    obtain ⟨span, key, value⟩ := entry
    have first := gauged_follows depth lambdas key
    have second := gauged_follows depth lambdas value
    have later := gaugedEntries_follows depth lambdas rest
    refine first.bind fun key => ?_
    have whole := second.bind fun value => later.map fun others => (key, value) :: others
    -- A constant key that is no string ends both before the value is looked at.
    cases key.literal? with
    | none => exact whole
    | some constant =>
      cases constant with
      | string _ => exact whole
      | _ => exact .lift _

/-- Cases leave the gauge as it was found. -/
theorem gaugedCases_follows (depth : Nat) (lambdas : List String)
    (rules : List (Option Term × Term)) :
    Follows depth (gaugedCases environment lambdas rules)
      (compileCases ⟨environment, depth, lambdas⟩ rules) := by
  -- The test and the body of the first case come before the other cases.
  cases rules with
  | nil => exact .pure _
  | cons rule rest =>
    have first := gaugedOption_follows depth lambdas rule.1
    have second := gauged_follows depth lambdas rule.2
    have later := gaugedCases_follows depth lambdas rest
    refine first.bind fun test => second.bind fun body => ?_
    exact later.map _

/-- Arguments leave the gauge as it was found. -/
theorem gaugedArguments_follows (depth : Nat) (lambdas : List String)
    (given : List (Option String × Term)) :
    Follows depth (gaugedArguments environment lambdas given)
      (compileArguments ⟨environment, depth, lambdas⟩ given) := by
  cases given with
  | nil => exact .pure _
  | cons argument rest =>
    have first := gauged_follows depth lambdas argument.2
    have later := gaugedArguments_follows depth lambdas rest
    refine first.bind fun expr => ?_
    exact later.map _

end

end Term

end Reshape
