import Reshape.Expr.Compile

/-!
Compilation in a narrowed environment: a term is compiled as in the wide environment if all that it
calls is still there, and cannot be compiled if anything that it calls is gone.
-/

namespace Reshape

/-- What a source calls. -/
inductive Called where
  | function (name : String)
  | method (name : String)
  deriving DecidableEq, Repr

namespace Environment

/-- Two environments have the same under the name of a call, or both have nothing. -/
def AgreeOn (narrow wide : Environment) : Called → Prop
  | .function name => narrow.functions.get? name = wide.functions.get? name
  | .method name => narrow.methods.get? name = wide.methods.get? name

/-- An environment is another one from which functions and methods have been left out. -/
structure Narrows (narrow wide : Environment) : Prop where
  functions (name : String) : narrow.functions.get? name = wide.functions.get? name ∨
    narrow.functions.get? name = none
  methods (name : String) : narrow.methods.get? name = wide.methods.get? name ∨
    narrow.methods.get? name = none
  depthLimit : narrow.depthLimit = wide.depthLimit

end Environment

namespace Term

mutual

/-- The calls that are written in a term, from the left. -/
def calls : Term → List Called
  | .nested _ inner => calls inner
  | .array items => callsAll items
  | .object entries => callsEntries entries
  | .branches tests otherwise => callsPairs tests ++ callsOption otherwise
  | .cases subject rules => callsOption subject ++ callsCases rules
  | .call _ called given => callsArguments given ++ [.function called]
  | .signed _ operand => calls operand
  | .binary _ left right => calls left ++ calls right
  | .field target _ => calls target
  | .method _ target called given => calls target ++ (callsArguments given ++ [.method called])
  | .lambda _ body => calls body
  | .literal _ | .number .. | .quoted .. | .variable _ | .metadata _ | .root | .current
  | .name _ => []

/-- The calls that are written in an optional term. -/
def callsOption : Option Term → List Called
  | none => []
  | some term => calls term

/-- The calls that are written in terms. -/
def callsAll : List Term → List Called
  | [] => []
  | term :: rest => calls term ++ callsAll rest

/-- The calls that are written in pairs of terms. -/
def callsPairs : List (Term × Term) → List Called
  | [] => []
  | (first, second) :: rest => calls first ++ (calls second ++ callsPairs rest)

/-- The calls that are written in the entries of an object. -/
def callsEntries : List (Span × Term × Term) → List Called
  | [] => []
  | (_, key, value) :: rest => calls key ++ (calls value ++ callsEntries rest)

/-- The calls that are written in cases. -/
def callsCases : List (Option Term × Term) → List Called
  | [] => []
  | (test, body) :: rest => callsOption test ++ (calls body ++ callsCases rest)

/-- The calls that are written in arguments. -/
def callsArguments : List (Option String × Term) → List Called
  | [] => []
  | (_, term) :: rest => calls term ++ callsArguments rest

end

end Term

namespace Compile

variable {α β : Type}

/-- A compilation gives no result, whatever warnings were given before. -/
def Fails (action : Compile α) : Prop :=
  ∀ warnings, ∃ error after, action.run.run warnings = (.error error, after)

/-- An error is no result. -/
theorem fails_throw (error : Error) : Fails (throw error : Compile α) :=
  fun warnings => ⟨error, warnings, rfl⟩

/-- Nothing comes after a failure. -/
theorem Fails.bind {action : Compile α} (fails : Fails action) (next : α → Compile β) :
    Fails (action >>= next) := by
  intro warnings
  obtain ⟨error, after, gives⟩ := fails warnings
  exact ⟨error, after, by simp only [ExceptT.run_bind, StateT.run_bind, gives]; rfl⟩

/-- What fails after any result fails. -/
theorem Fails.after {action : Compile α} {next : α → Compile β} (fails : ∀ a, Fails (next a)) :
    Fails (action >>= next) := by
  intro warnings
  -- If the action fails then its own failure stays, and otherwise what follows fails.
  simp only [ExceptT.run_bind, StateT.run_bind]
  obtain ⟨outcome, between⟩ := action.run.run warnings
  cases outcome with
  | error error => exact ⟨error, between, rfl⟩
  | ok a => exact fails a between

/-- A failure stays one when its error is changed. -/
theorem Fails.adapt {action : Compile α} (fails : Fails action) (change : Error → Error) :
    Fails (ExceptT.adapt change action) := by
  intro warnings
  obtain ⟨error, after, gives⟩ := fails warnings
  refine ⟨change error, after, ?_⟩
  -- Another error is still one.
  change (Except.mapError change <$> action.run).run warnings = _
  rw [StateT.run_map, gives]
  rfl

/-- Whether a compilation before which no warnings were given has a result. -/
def succeeds (action : Compile α) : Bool :=
  match (action.run.run []).1 with
  | .ok _ => true
  | .error _ => false

/-- A compilation that succeeds has a result. -/
theorem exists_of_succeeds {action : Compile α} (success : action.succeeds = true) :
    ∃ result after, action.run.run [] = (.ok result, after) := by
  unfold succeeds at success
  split at success
  next result gives => exact ⟨result, _, Prod.ext gives rfl⟩
  next => cases success

/-- An attempt always has a result, which is the outcome of what is attempted. -/
theorem attempt_bind (action : Compile α) (next : Except Error α → Compile β)
    (warnings : List String) :
    (action.attempt >>= next).run.run warnings =
      (next (action.run.run warnings).1).run.run (action.run.run warnings).2 :=
  rfl

/-- An attempt of a failure gives an error. -/
theorem Fails.attempt {action : Compile α} (fails : Fails action)
    {next : Except Error α → Compile β} (next_fails : ∀ error, Fails (next (.error error))) :
    Fails (action.attempt >>= next) := by
  intro warnings
  obtain ⟨error, after, gives⟩ := fails warnings
  rw [attempt_bind, gives]
  exact next_fails error after

/-- What fails after any attempt fails. -/
theorem Fails.afterAttempt {action : Compile α} {next : Except Error α → Compile β}
    (fails : ∀ outcome, Fails (next outcome)) : Fails (action.attempt >>= next) :=
  fun warnings => fails (action.run.run warnings).1 (action.run.run warnings).2

/-- Of two compilations of something that makes calls, the narrow one is the wide one if the
environments agree on all these calls, and gives no result if they differ on any of them. -/
structure Narrowed (narrow wide : Environment) (calls : List Called) (left right : Compile α) :
    Prop where
  same (kept : ∀ called ∈ calls, narrow.AgreeOn wide called) : left = right
  fails (called : Called) (member : called ∈ calls) (lost : ¬narrow.AgreeOn wide called) :
    Fails left

namespace Narrowed

variable {narrow wide : Environment} {calls later : List Called} {left right : Compile α}

/-- What calls nothing is compiled alike. -/
theorem refl (action : Compile α) : Narrowed narrow wide [] action action where
  same _ := rfl
  fails _ member := by cases member

/-- A failure is narrowed, whatever is called. -/
theorem failure {action : Compile α} (fails : Fails action) :
    Narrowed narrow wide calls action action where
  same _ := rfl
  fails _ _ _ := fails

/-- One compilation after the other is narrowed if both are. -/
theorem bind (narrowed : Narrowed narrow wide calls left right) {next next' : α → Compile β}
    (follows : ∀ a, Narrowed narrow wide later (next a) (next' a)) :
    Narrowed narrow wide (calls ++ later) (left >>= next) (right >>= next') where
  same kept := by
    rw [List.forall_mem_append] at kept
    have nexts : next = next' := funext fun a => (follows a).same kept.2
    rw [narrowed.same kept.1, nexts]
  fails called member lost := by
    -- A call that is lost fails where it stands, after whatever comes before it.
    rcases List.mem_append.1 member with member | member
    · exact (narrowed.fails called member lost).bind next
    · exact .after fun a => (follows a).fails called member lost

/-- What is done with a result calls nothing more. -/
theorem andThen (narrowed : Narrowed narrow wide calls left right) (next : α → Compile β) :
    Narrowed narrow wide calls (left >>= next) (right >>= next) := by
  have whole := narrowed.bind fun a => Narrowed.refl (next a)
  rwa [List.append_nil] at whole

/-- A change of errors calls nothing more. -/
theorem adapt (narrowed : Narrowed narrow wide calls left right) (change : Error → Error) :
    Narrowed narrow wide calls (ExceptT.adapt change left) (ExceptT.adapt change right) where
  same kept := congrArg (ExceptT.adapt change) (narrowed.same kept)
  fails called member lost := (narrowed.fails called member lost).adapt change

/-- Two operands are narrowed if both are, although the second one is compiled even if the first one
has failed. -/
theorem both (narrowed : Narrowed narrow wide calls left right) {second second' : Compile α}
    (follows : Narrowed narrow wide later second second') (join : α → α → β) :
    Narrowed narrow wide (calls ++ later)
      (do
        let first ← left.attempt
        let second ← second.attempt
        return join (← ofExcept first) (← ofExcept second))
      (do
        let first ← right.attempt
        let second ← second'.attempt
        return join (← ofExcept first) (← ofExcept second)) where
  same kept := by
    rw [List.forall_mem_append] at kept
    rw [narrowed.same kept.1, follows.same kept.2]
  fails called member lost := by
    rcases List.mem_append.1 member with member | member
    -- The error of the first operand is reported after the second one has been compiled.
    · refine (narrowed.fails called member lost).attempt fun error => ?_
      exact .afterAttempt fun _ => (fails_throw error).bind _
    · refine .afterAttempt fun first => (follows.fails called member lost).attempt fun error => ?_
      exact .after fun _ => (fails_throw error).bind _

end Narrowed

/-- A name is looked up alike in entries that have the same under it. -/
theorem lookUp_congr {κ : Type} (kind name : String) {entries entries' : Fields (Entry κ)}
    (same : entries.get? name = entries'.get? name) :
    lookUp kind name entries = lookUp kind name entries' := by
  unfold lookUp Environment.entry
  rw [same]

/-- A name under which there is nothing cannot be looked up. -/
theorem fails_lookUp {κ : Type} (kind : String) {name : String} {entries : Fields (Entry κ)}
    (lost : entries.get? name = none) : Fails (lookUp kind name entries) := by
  unfold lookUp Environment.entry
  rw [lost]
  exact (fails_throw _).bind _

section Calls

variable {narrow wide : Environment}

/-- A call of a function is narrowed. -/
theorem call_narrowed (narrows : narrow.Narrows wide) (name : String)
    (given : List (Argument Expr)) :
    Narrowed narrow wide [.function name] (call narrow name given) (call wide name given) := by
  have found : Narrowed narrow wide [.function name] (lookUp "function" name narrow.functions)
      (lookUp "function" name wide.functions) := by
    constructor
    · intro kept
      exact lookUp_congr _ _ (kept _ (.head _))
    · -- What is not the same in both is gone from the narrow one.
      intro called member lost
      obtain rfl := List.mem_singleton.1 member
      exact fails_lookUp _ ((narrows.functions name).resolve_left lost)
  exact found.andThen _

/-- A call of a method is narrowed. -/
theorem method_narrowed (narrows : narrow.Narrows wide) (target : Expr) (name : String)
    (given : List (Argument Expr)) :
    Narrowed narrow wide [.method name] (method narrow target name given)
      (method wide target name given) := by
  have found : Narrowed narrow wide [.method name] (lookUp "method" name narrow.methods)
      (lookUp "method" name wide.methods) := by
    constructor
    · intro kept
      exact lookUp_congr _ _ (kept _ (.head _))
    · -- What is not the same in both is gone from the narrow one.
      intro called member lost
      obtain rfl := List.mem_singleton.1 member
      exact fails_lookUp _ ((narrows.methods name).resolve_left lost)
  exact found.andThen _

end Calls

end Compile

namespace Term

open Compile (Narrowed)

variable {narrow wide : Environment}

mutual

/-- The compilation of a term is narrowed. -/
theorem compile_narrowed (narrows : narrow.Narrows wide) (depth : Nat) (names : List String)
    (term : Term) :
    Narrowed narrow wide term.calls (term.compile ⟨narrow, depth, names⟩)
      (term.compile ⟨wide, depth, names⟩) := by
  -- Each way to build a term compiles its parts first, in the order in which its calls are counted.
  cases term with
  | nested span inner =>
    simp only [compile, calls, narrows.depthLimit]
    split
    · exact compile_narrowed narrows (depth + 1) names inner
    · exact .failure (Compile.fails_throw _)
  | literal _ => exact .refl _
  | number _ _ => exact .refl _
  | quoted _ _ => exact .refl _
  | array items =>
    have inside := compileAll_narrowed narrows depth names items
    exact inside.andThen _
  | object entries =>
    have inside := compileEntries_narrowed narrows depth names entries
    exact inside.andThen _
  | branches tests otherwise =>
    have first := compilePairs_narrowed narrows depth names tests
    have last := compileOption_narrowed narrows depth names otherwise
    exact first.bind fun tests => last.andThen _
  | cases subject rules =>
    have first := compileOption_narrowed narrows depth names subject
    have later := compileCases_narrowed narrows depth names rules
    exact first.bind fun subject => later.andThen _
  | call span called given =>
    have inside := compileArguments_narrowed narrows depth names given
    -- The call is looked up behind its arguments, and so it is counted behind theirs.
    refine inside.bind fun arguments => ?_
    exact (Compile.call_narrowed narrows called arguments).adapt _
  | «variable» _ => exact .refl _
  | metadata key => cases key <;> exact .refl _
  | root => exact .refl _
  | current => exact .refl _
  | name _ => exact .refl _
  | signed sign operand =>
    have inside := compile_narrowed narrows depth names operand
    exact inside.andThen _
  | binary sign left right =>
    have first := compile_narrowed narrows depth names left
    have second := compile_narrowed narrows depth names right
    exact first.both second _
  | field target part =>
    have inside := compile_narrowed narrows depth names target
    exact inside.andThen _
  | method span target called given =>
    have first := compile_narrowed narrows depth names target
    have later := compileArguments_narrowed narrows depth names given
    refine first.bind fun target => later.bind fun arguments => ?_
    exact (Compile.method_narrowed narrows target called arguments).adapt _
  | lambda name body =>
    have inside := compile_narrowed narrows depth (name :: names) body
    exact inside.andThen _

/-- The compilation of an optional term is narrowed. -/
theorem compileOption_narrowed (narrows : narrow.Narrows wide) (depth : Nat) (names : List String)
    (term : Option Term) :
    Narrowed narrow wide (callsOption term) (compileOption ⟨narrow, depth, names⟩ term)
      (compileOption ⟨wide, depth, names⟩ term) := by
  cases term with
  | none => exact .refl _
  | some term =>
    have inside := compile_narrowed narrows depth names term
    exact inside.andThen _

/-- The compilation of terms is narrowed. -/
theorem compileAll_narrowed (narrows : narrow.Narrows wide) (depth : Nat) (names : List String)
    (terms : List Term) :
    Narrowed narrow wide (callsAll terms) (compileAll ⟨narrow, depth, names⟩ terms)
      (compileAll ⟨wide, depth, names⟩ terms) := by
  cases terms with
  | nil => exact .refl _
  | cons term rest =>
    -- What is called by the terms is called by the first or by the rest.
    have first := compile_narrowed narrows depth names term
    have later := compileAll_narrowed narrows depth names rest
    exact first.bind fun expr => later.andThen _

/-- The compilation of pairs of terms is narrowed. -/
theorem compilePairs_narrowed (narrows : narrow.Narrows wide) (depth : Nat) (names : List String)
    (pairs : List (Term × Term)) :
    Narrowed narrow wide (callsPairs pairs) (compilePairs ⟨narrow, depth, names⟩ pairs)
      (compilePairs ⟨wide, depth, names⟩ pairs) := by
  cases pairs with
  | nil => exact .refl _
  | cons pair rest =>
    have first := compile_narrowed narrows depth names pair.1
    have second := compile_narrowed narrows depth names pair.2
    have later := compilePairs_narrowed narrows depth names rest
    exact first.bind fun test => second.bind fun body => later.andThen _

/-- The compilation of the entries of an object is narrowed. -/
theorem compileEntries_narrowed (narrows : narrow.Narrows wide) (depth : Nat)
    (names : List String) (entries : List (Span × Term × Term)) :
    Narrowed narrow wide (callsEntries entries) (compileEntries ⟨narrow, depth, names⟩ entries)
      (compileEntries ⟨wide, depth, names⟩ entries) := by
  cases entries with
  | nil => exact .refl _
  | cons entry rest =>
    obtain ⟨span, key, value⟩ := entry
    have first := compile_narrowed narrows depth names key
    have second := compile_narrowed narrows depth names value
    have later := compileEntries_narrowed narrows depth names rest
    refine first.bind fun key => ?_
    -- A constant key that is no string ends the compilation before the value and the rest.
    split
    · exact second.bind fun value => later.andThen _
    · exact second.bind fun value => later.andThen _
    · exact .failure (Compile.fails_throw _)

/-- The compilation of cases is narrowed. -/
theorem compileCases_narrowed (narrows : narrow.Narrows wide) (depth : Nat) (names : List String)
    (rules : List (Option Term × Term)) :
    Narrowed narrow wide (callsCases rules) (compileCases ⟨narrow, depth, names⟩ rules)
      (compileCases ⟨wide, depth, names⟩ rules) := by
  cases rules with
  | nil => exact .refl _
  | cons rule rest =>
    have first := compileOption_narrowed narrows depth names rule.1
    have second := compile_narrowed narrows depth names rule.2
    have later := compileCases_narrowed narrows depth names rest
    exact first.bind fun test => second.bind fun body => later.andThen _

/-- The compilation of arguments is narrowed. -/
theorem compileArguments_narrowed (narrows : narrow.Narrows wide) (depth : Nat)
    (names : List String) (given : List (Option String × Term)) :
    Narrowed narrow wide (callsArguments given) (compileArguments ⟨narrow, depth, names⟩ given)
      (compileArguments ⟨wide, depth, names⟩ given) := by
  cases given with
  | nil => exact .refl _
  | cons argument rest =>
    have first := compile_narrowed narrows depth names argument.2
    have later := compileArguments_narrowed narrows depth names rest
    exact first.bind fun expr => later.andThen _

end

end Term

end Reshape
