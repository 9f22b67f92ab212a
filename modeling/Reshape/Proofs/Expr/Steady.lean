import Reshape.Mapping
import Reshape.Proofs.Expr.Match

/-!
Steady computations: what they give does not depend on the warnings that were given before, and the
warnings that they give are added to those. Compilation is steady, whether it has a result or not.
-/

namespace Reshape

variable {α β : Type}

/-- A computation gives one result and the same further warnings, whatever was warned of before. -/
def Steady (action : StateM (List String) α) : Prop :=
  ∃ a added, ∀ warnings, action.run warnings = (a, warnings ++ added)

namespace Steady

/-- A result without warnings. -/
theorem pure (a : α) : Steady (Pure.pure a) :=
  ⟨a, [], fun warnings => by rw [List.append_nil]; rfl⟩

/-- What follows a result. -/
theorem bind {action : StateM (List String) α} (steady : Steady action)
    {next : α → StateM (List String) β} (follows : ∀ a, Steady (next a)) :
    Steady (action >>= next) := by
  obtain ⟨a, added, gives⟩ := steady
  obtain ⟨b, further, given⟩ := follows a
  refine ⟨b, added ++ further, fun warnings => ?_⟩
  rw [StateT.run_bind, gives, ← List.append_assoc]
  exact given (warnings ++ added)

/-- What is made of a result. -/
theorem map {action : StateM (List String) α} (steady : Steady action) (make : α → β) :
    Steady (make <$> action) := by
  rw [map_eq_pure_bind]
  exact steady.bind fun a => pure (make a)

/-- The result is the one that a computation gives before which nothing was warned of. -/
theorem fst_run {action : StateM (List String) α} (steady : Steady action)
    (warnings : List String) : (action.run warnings).1 = (action.run []).1 := by
  obtain ⟨a, added, gives⟩ := steady
  rw [gives, gives]

end Steady

namespace Compile

/-- What follows a result is steady, and a failure is followed by nothing. -/
theorem steady_bind {action : Compile α} (steady : Steady action.run) {next : α → Compile β}
    (follows : ∀ a, Steady (next a).run) : Steady (action >>= next).run := by
  rw [ExceptT.run_bind]
  refine steady.bind fun outcome => ?_
  cases outcome with
  | ok a => exact follows a
  | error error => exact .pure _

/-- A result without warnings. -/
theorem steady_pure (a : α) : Steady (Pure.pure a : Compile α).run :=
  .pure (Except.ok a)

/-- A failure without warnings. -/
theorem steady_throw (error : Error) : Steady (throw error : Compile α).run :=
  .pure (Except.error error)

/-- What is made of a result. -/
theorem steady_map {action : Compile α} (steady : Steady action.run) (make : α → β) :
    Steady (do return make (← action) : Compile β).run :=
  steady_bind steady fun a => steady_pure (make a)

/-- A fault. -/
theorem steady_fail (span : Span) (message label : String) (help : Option String) :
    Steady (fail span message label help : Compile α).run :=
  steady_throw _

/-- An outcome that is known. -/
theorem steady_ofExcept (outcome : Except Error α) : Steady (ofExcept outcome).run := by
  cases outcome with
  | ok a => exact steady_pure a
  | error error => exact steady_throw error

/-- A quoted string. -/
theorem steady_unquote (span : Span) (text : String) : Steady (unquote span text).run := by
  unfold unquote
  split
  · exact steady_pure _
  · exact steady_fail ..

/-- A segment. -/
theorem steady_segment (segment : Segment) : Steady (Compile.segment segment).run := by
  cases segment with
  | plain name => exact steady_pure name
  | quoted span text => exact steady_unquote span text

/-- A numeral. -/
theorem steady_number (span : Span) (text : String) : Steady (number span text).run := by
  unfold number
  split
  · exact steady_pure _
  · exact steady_fail ..

/-- Looking up what a call names, perhaps with a warning. -/
theorem steady_lookUp {κ : Type} (kind name : String) (entries : Fields (Entry κ)) :
    Steady (lookUp kind name entries).run := by
  -- Whether it warns depends on the entry alone, and never on what was warned of before.
  have warned (text : String) : Steady (warn text).run := ⟨.ok (), [text], fun _ => rfl⟩
  unfold lookUp
  refine steady_bind (steady_ofExcept _) fun entry => ?_
  dsimp only
  split
  · exact steady_bind (warned _) fun _ => steady_pure _
  · exact steady_pure _

/-- A call of a function. -/
theorem steady_call (environment : Environment) (name : String) (given : List (Argument Expr)) :
    Steady (call environment name given).run := by
  rw [call_eq]
  exact steady_bind (steady_lookUp ..) fun _ => steady_ofExcept _

/-- A call of a method. -/
theorem steady_method (environment : Environment) (target : Expr) (name : String)
    (given : List (Argument Expr)) : Steady (method environment target name given).run := by
  rw [method_eq]
  exact steady_bind (steady_lookUp ..) fun _ => steady_ofExcept _

end Compile

namespace Term

open Compile

mutual

/-- The compilation of a term is steady. -/
theorem steady_compile (setting : Setting) (term : Term) : Steady (term.compile setting).run := by
  -- The parts are compiled one after the other, and each of them is steady.
  cases term with
  | nested span inner =>
    simp only [compile]
    split
    · exact steady_compile _ inner
    · exact steady_fail ..
  | literal value => exact steady_pure _
  | number span text => exact steady_map (steady_number span text) _
  | quoted span text => exact steady_map (steady_unquote span text) _
  | array items => exact steady_map (steady_compileAll setting items) _
  | object entries => exact steady_map (steady_compileEntries setting entries) _
  | branches tests otherwise =>
    have branches := steady_compilePairs setting tests
    have last := steady_compileOption setting otherwise
    exact steady_bind branches fun _ => steady_map last _
  | cases subject rules =>
    have first := steady_compileOption setting subject
    have cases := steady_compileCases setting rules
    exact steady_bind first fun _ => steady_map cases _
  | call span called given =>
    have arguments := steady_compileArguments setting given
    refine steady_bind arguments fun given => ?_
    exact (steady_call setting.environment called given).map _
  | «variable» called => exact steady_pure _
  | metadata key =>
    cases key with
    | none => exact steady_pure _
    | some key => exact steady_map (steady_segment key) _
  | root => exact steady_pure _
  | current => exact steady_pure _
  | name called => exact steady_pure _
  | signed sign operand => exact steady_map (steady_compile setting operand) _
  | binary sign left right =>
    refine steady_bind ((steady_compile setting left).map _) fun first => ?_
    refine steady_bind ((steady_compile setting right).map _) fun second => ?_
    exact steady_bind (steady_ofExcept first) fun _ => steady_map (steady_ofExcept second) _
  | field target part =>
    have first := steady_compile setting target
    exact steady_bind first fun _ => steady_map (steady_segment part) _
  | method span target called given =>
    have first := steady_compile setting target
    have arguments := steady_compileArguments setting given
    refine steady_bind first fun target => steady_bind arguments fun given => ?_
    exact (steady_method setting.environment target called given).map _
  | lambda called body => exact steady_map (steady_compile _ body) _

/-- Optional terms. -/
theorem steady_compileOption (setting : Setting) (term : Option Term) :
    Steady (compileOption setting term).run := by
  cases term with
  | none => exact steady_pure _
  | some term => exact steady_map (steady_compile setting term) _

/-- Lists of terms. -/
theorem steady_compileAll (setting : Setting) (terms : List Term) :
    Steady (compileAll setting terms).run := by
  cases terms with
  | nil => exact steady_pure _
  | cons term rest =>
    have first := steady_compile setting term
    have later := steady_compileAll setting rest
    exact steady_bind first fun _ => steady_map later _

/-- Pairs of terms. -/
theorem steady_compilePairs (setting : Setting) (pairs : List (Term × Term)) :
    Steady (compilePairs setting pairs).run := by
  cases pairs with
  | nil => exact steady_pure _
  | cons pair rest =>
    have first := steady_compile setting pair.1
    have second := steady_compile setting pair.2
    have later := steady_compilePairs setting rest
    -- Each action adds its own warnings behind those before.
    exact steady_bind first fun _ => steady_bind second fun _ => steady_map later _

/-- Entries of an object. -/
theorem steady_compileEntries (setting : Setting) (entries : List (Span × Term × Term)) :
    Steady (compileEntries setting entries).run := by
  -- The key is compiled first, and decides between a name, a key to compute and a failure.
  cases entries with
  | nil => exact steady_pure _
  | cons entry rest =>
    have value := steady_compile setting entry.2.2
    have others := steady_compileEntries setting rest
    refine steady_bind (steady_compile setting entry.2.1) fun key => ?_
    split
    · exact steady_bind value fun _ => steady_map others _
    · exact steady_bind value fun _ => steady_map others _
    · exact steady_fail ..

/-- Cases. -/
theorem steady_compileCases (setting : Setting) (rules : List (Option Term × Term)) :
    Steady (compileCases setting rules).run := by
  cases rules with
  | nil => exact steady_pure _
  | cons rule rest =>
    have test := steady_compileOption setting rule.1
    have body := steady_compile setting rule.2
    have later := steady_compileCases setting rest
    exact steady_bind test fun _ => steady_bind body fun _ => steady_map later _

/-- Arguments of a call. -/
theorem steady_compileArguments (setting : Setting) (given : List (Option String × Term)) :
    Steady (compileArguments setting given).run := by
  cases given with
  | nil => exact steady_pure _
  | cons argument rest =>
    have first := steady_compile setting argument.2
    have later := steady_compileArguments setting rest
    exact steady_bind first fun _ => steady_map later _

end

end Term

namespace Mapping

open Compile

/-- The compilation of a target is steady. -/
theorem steady_target (place : Place) : Steady (target place).run := by
  -- Only the names of a target are compiled, one after the other.
  have all (path : List Segment) : Steady (path.mapM Compile.segment).run := by
    induction path with
    | nil => exact steady_pure _
    | cons segment rest ih =>
      rw [List.mapM_cons]
      exact steady_bind (steady_segment segment) fun _ => steady_map ih _
  cases place with
  | «variable» name => exact steady_map (steady_segment name) _
  | metadata key =>
    cases key with
    | none => exact steady_pure _
    | some key => exact steady_map (steady_segment key) _
  | root path => exact steady_map (all path) _
  | input span => exact steady_fail ..

/-- The compilation of a mapping is steady. -/
theorem steady_compile (environment : Environment) (source : String) :
    Steady (compile environment source).run := by
  -- The statements are compiled in order, each with its target first.
  unfold compile
  split
  · next sentences read =>
    refine steady_map ?_ _
    clear read
    induction sentences with
    | nil => exact steady_pure _
    | cons sentence rest ih =>
      rw [List.mapM_cons]
      refine steady_bind ?_ fun _ => steady_map ih _
      exact steady_bind (steady_target sentence.place) fun _ =>
        steady_map (sentence.term.steady_compile _) _
  · exact steady_throw _

end Mapping

end Reshape
