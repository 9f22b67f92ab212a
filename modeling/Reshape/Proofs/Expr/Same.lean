import Reshape.Proofs.Expr.Filled
import Reshape.Proofs.Expr.Narrowed

/-!
Terms that are the same but for the places of their parts. Places are told in the messages of faults
only, so that such terms are compiled to the same expressions, with the same warnings, whatever was
compiled before.
-/

namespace Reshape

namespace Compile

variable {α β : Type}

/-- What follows a result is run after its warnings. -/
theorem run_bind_of_ok {action : Compile α} {a : α} {warnings between : List String}
    (gives : action.run.run warnings = (.ok a, between)) (next : α → Compile β) :
    (action >>= next).run.run warnings = (next a).run.run between := by
  simp only [ExceptT.run_bind, StateT.run_bind, gives]
  rfl

/-- Whatever follows has a result only after a result. -/
theorem exists_of_run_bind {action : Compile α} {next : α → Compile β} {b : β}
    {warnings after : List String}
    (given : (action >>= next).run.run warnings = (.ok b, after)) :
    ∃ a between, action.run.run warnings = (.ok a, between) ∧
      (next a).run.run between = (.ok b, after) := by
  -- A bind that gives a result has one of its first action.
  cases gives : action.run.run warnings with
  | mk outcome between =>
    cases outcome with
    | ok a => exact ⟨a, between, rfl, (run_bind_of_ok gives next).symm.trans given⟩
    | error error =>
      simp only [ExceptT.run_bind, StateT.run_bind, gives] at given
      cases given

/-- Whatever result a compilation gives, another one gives too, after any warnings, and both give the
same warnings on the way. -/
def Transfers (action other : Compile α) : Prop :=
  ∀ warnings a after, action.run.run warnings = (.ok a, after) →
    ∃ added, after = warnings ++ added ∧
      ∀ warnings', other.run.run warnings' = (.ok a, warnings' ++ added)

namespace Transfers

/-- A result without warnings. -/
theorem pure (a : α) : Transfers (Pure.pure a) (Pure.pure a) := by
  intro warnings b after given
  cases given
  exact ⟨[], (List.append_nil _).symm, fun warnings' => by rw [List.append_nil]; rfl⟩

/-- A warning. -/
theorem warn (text : String) : Transfers (Compile.warn text) (Compile.warn text) := by
  intro warnings a after given
  cases given
  exact ⟨[text], rfl, fun _ => rfl⟩

/-- From a failure nothing has to be transferred. -/
theorem ofFails {action other : Compile α} (fails : Fails action) : Transfers action other := by
  intro warnings a after given
  obtain ⟨error, _, gives⟩ := fails warnings
  cases gives.symm.trans given

/-- An outcome that is known. -/
theorem ofExcept (outcome : Except Error α) :
    Transfers (Compile.ofExcept outcome) (Compile.ofExcept outcome) := by
  cases outcome with
  | ok a => exact pure a
  | error error => exact ofFails (fails_throw error)

/-- What follows a result. -/
theorem bind {action other : Compile α} (transfers : Transfers action other)
    {next next' : α → Compile β} (follows : ∀ a, Transfers (next a) (next' a)) :
    Transfers (action >>= next) (other >>= next') := by
  intro warnings b after given
  -- The warnings of both actions are added one after the other, on either side.
  obtain ⟨a, _, gives, given⟩ := exists_of_run_bind given
  obtain ⟨added, rfl, gives'⟩ := transfers warnings a _ gives
  obtain ⟨further, rfl, given'⟩ := follows a (warnings ++ added) b after given
  refine ⟨added ++ further, List.append_assoc .., fun warnings' => ?_⟩
  rw [run_bind_of_ok (gives' warnings'), ← List.append_assoc]
  exact given' (warnings' ++ added)

/-- What is made of a result. -/
theorem map {action other : Compile α} (transfers : Transfers action other) (make : α → β) :
    Transfers (action >>= fun a => Pure.pure (make a)) (other >>= fun a => Pure.pure (make a)) :=
  transfers.bind fun a => pure (make a)

/-- What errors say does not matter. -/
theorem adapt {action other : Compile α} (transfers : Transfers action other)
    (change change' : Error → Error) :
    Transfers (ExceptT.adapt change action) (ExceptT.adapt change' other) := by
  intro warnings a after given
  change (Except.mapError change <$> action.run).run warnings = _ at given
  rw [StateT.run_map] at given
  -- The change is taken off the outcome, and put on again on the other side.
  cases gives : action.run.run warnings with
  | mk outcome between =>
    rw [gives] at given
    cases outcome with
    | error error => cases given
    | ok found =>
      cases given
      obtain ⟨added, rfl, gives'⟩ := transfers warnings a _ gives
      refine ⟨added, rfl, fun warnings' => ?_⟩
      change (Except.mapError change' <$> other.run).run warnings' = _
      rw [StateT.run_map, gives' warnings']
      rfl

/-- What follows an attempt, if only results are used. -/
theorem attempt {action other : Compile α} (transfers : Transfers action other)
    {next next' : Except Error α → Compile β} (fails : ∀ error, Fails (next (.error error)))
    (follows : ∀ a, Transfers (next (.ok a)) (next' (.ok a))) :
    Transfers (action.attempt >>= next) (other.attempt >>= next') := by
  intro warnings b after given
  rw [attempt_bind] at given
  -- Something comes after a failed attempt as well, but it has no result.
  cases gives : action.run.run warnings with
  | mk outcome between =>
    rw [gives] at given
    cases outcome with
    | error error =>
      obtain ⟨_, _, failed⟩ := fails error between
      cases failed.symm.trans given
    | ok a =>
      obtain ⟨added, rfl, gives'⟩ := transfers warnings a between gives
      obtain ⟨further, rfl, given'⟩ := follows a (warnings ++ added) b after given
      refine ⟨added ++ further, List.append_assoc .., fun warnings' => ?_⟩
      rw [attempt_bind, gives' warnings', ← List.append_assoc]
      exact given' (warnings' ++ added)

/-- What is made of the results for several things, if it is made of the result for each. -/
theorem mapM {ι ι' γ : Type} {read : ι → Compile α} {read' : ι' → Compile β} (make : α → γ)
    (make' : β → γ) {items : List ι} {items' : List ι'}
    (each : List.Forall₂ (fun item item' => Transfers (do return make (← read item))
      (do return make' (← read' item'))) items items') :
    Transfers (do return (← items.mapM read).map make)
      (do return (← items'.mapM read').map make') := by
  induction each with
  | nil => exact .pure []
  | cons first _ ih =>
    rw [List.mapM_cons, List.mapM_cons]
    -- The results are collected outside, so that the rest is a map of its own.
    simp only [bind_assoc, pure_bind, List.map_cons]
    have both := first.bind fun result => ih.map (result :: ·)
    simpa only [bind_assoc, pure_bind] using both

end Transfers

/-- A quoted string stands for the same text wherever it is. -/
theorem unquote_transfers (span span' : Span) (text : String) :
    Transfers (unquote span text) (unquote span' text) := by
  unfold unquote
  split
  · exact .pure _
  · exact .ofFails (fails_throw _)

/-- A numeral stands for the same number wherever it is. -/
theorem number_transfers (span span' : Span) (text : String) :
    Transfers (number span text) (number span' text) := by
  unfold number
  split
  · exact .pure _
  · exact .ofFails (fails_throw _)

/-- What a call names is looked up, perhaps with a warning. -/
theorem lookUp_transfers {κ : Type} (kind name : String) (entries : Fields (Entry κ)) :
    Transfers (lookUp kind name entries) (lookUp kind name entries) := by
  unfold lookUp
  -- A lookup is the same on both sides, and its warning is added to whatever was there.
  refine (Transfers.ofExcept _).bind fun entry => ?_
  dsimp only
  split
  · exact (Transfers.warn _).bind fun _ => .pure _
  · exact .pure _

/-- A call of a function. -/
theorem call_transfers (environment : Environment) (name : String)
    (given : List (Argument Expr)) :
    Transfers (call environment name given) (call environment name given) := by
  rw [call_eq]
  exact (lookUp_transfers _ _ _).bind fun _ => .ofExcept _

/-- A call of a method. -/
theorem method_transfers (environment : Environment) (target : Expr) (name : String)
    (given : List (Argument Expr)) :
    Transfers (method environment target name given) (method environment target name given) := by
  rw [method_eq]
  exact (lookUp_transfers _ _ _).bind fun _ => .ofExcept _

end Compile

/-- Segments that write the same name stand for it both. -/
theorem Segment.Same.transfers {segment segment' : Segment}
    (same : Segment.Same segment segment') :
    Compile.Transfers (Compile.segment segment) (Compile.segment segment') := by
  cases same with
  | plain name => exact .pure name
  | quoted span span' text => exact Compile.unquote_transfers span span' text

/-- Two terms are the same but for the places of their parts. -/
abbrev Term.Same (term term' : Term) : Prop :=
  Term.Filled (fun _ => True) (fun _ _ => False) term term'

namespace Term

open Compile (Setting Transfers)

mutual

/-- Terms that are the same but for places are compiled to the same expressions. -/
theorem compile_same (setting : Setting) {term term' : Term} (same : Term.Same term term') :
    Transfers (term.compile setting) (term'.compile setting) := by
  -- The parts are compiled in the same order; only what errors say is not the same.
  cases same with
  | hole filled => exact filled.elim
  | nested span span' same =>
    simp only [compile]
    split
    · exact compile_same _ same
    · exact .ofFails (Compile.fails_throw _)
  | literal written => exact .pure _
  | number span span' text => exact (Compile.number_transfers span span' text).map _
  | quoted span span' text => exact (Compile.unquote_transfers span span' text).map _
  | array same =>
    have inside := compileAll_same setting same
    exact inside.map _
  | object same =>
    have inside := compileEntries_same setting same
    exact inside.map _
  | branches same last =>
    have tests := compilePairs_same setting same
    have otherwise := compileOption_same setting last
    exact tests.bind fun _ => otherwise.map _
  | cases first same =>
    have subject := compileOption_same setting first
    have rules := compileCases_same setting same
    exact subject.bind fun _ => rules.map _
  | call span span' name same =>
    have inside := compileArguments_same setting same
    refine inside.bind fun arguments => ?_
    exact (Compile.call_transfers setting.environment name arguments).adapt _ _
  | «variable» name => exact .pure _
  | allMetadata => exact .pure _
  | metadata same => exact same.transfers.map _
  | root => exact .pure _
  | current => exact .pure _
  | name name => exact .pure _
  | signed sign same =>
    have inside := compile_same setting same
    exact inside.map _
  | binary sign first second =>
    have left := compile_same setting first
    have right := compile_same setting second
    -- The error of the first operand is reported after the second one has been compiled.
    refine left.attempt (fun error => ?_) fun left => ?_
    · exact .afterAttempt fun _ => (Compile.fails_throw error).bind _
    · refine right.attempt (fun error => ?_) fun right => .pure _
      exact .after fun _ => (Compile.fails_throw error).bind _
  | field same parts =>
    have inside := compile_same setting same
    exact inside.bind fun _ => parts.transfers.map _
  | method span span' name first same =>
    have before := compile_same setting first
    have inside := compileArguments_same setting same
    refine before.bind fun target => inside.bind fun arguments => ?_
    exact (Compile.method_transfers setting.environment target name arguments).adapt _ _
  | lambda name same =>
    have inside := compile_same { setting with lambdas := name :: setting.lambdas } same
    exact inside.map _

/-- Optional terms that are the same but for places. -/
theorem compileOption_same (setting : Setting) {term term' : Option Term}
    (same : Term.FilledOption (fun _ => True) (fun _ _ => False) term term') :
    Transfers (compileOption setting term) (compileOption setting term') := by
  cases same with
  | none => exact .pure _
  | some same =>
    have inside := compile_same setting same
    exact inside.map _

/-- Lists of terms that are the same but for places. -/
theorem compileAll_same (setting : Setting) {terms terms' : List Term}
    (same : Term.FilledAll (fun _ => True) (fun _ _ => False) terms terms') :
    Transfers (compileAll setting terms) (compileAll setting terms') := by
  cases same with
  | nil => exact .pure _
  | cons first later =>
    -- The first terms and the rest are compiled in turn on both sides.
    have term := compile_same setting first
    have rest := compileAll_same setting later
    exact term.bind fun _ => rest.map _

/-- Pairs of terms that are the same but for places. -/
theorem compilePairs_same (setting : Setting) {pairs pairs' : List (Term × Term)}
    (same : Term.FilledPairs (fun _ => True) (fun _ _ => False) pairs pairs') :
    Transfers (compilePairs setting pairs) (compilePairs setting pairs') := by
  cases same with
  | nil => exact .pure _
  | cons first second later =>
    have test := compile_same setting first
    have body := compile_same setting second
    have rest := compilePairs_same setting later
    exact test.bind fun _ => body.bind fun _ => rest.map _

/-- Entries that are the same but for places. -/
theorem compileEntries_same (setting : Setting) {entries entries' : List (Span × Term × Term)}
    (same : Term.FilledEntries (fun _ => True) (fun _ _ => False) entries entries') :
    Transfers (compileEntries setting entries) (compileEntries setting entries') := by
  cases same with
  | nil => exact .pure _
  | cons span span' first second later =>
    have key := compile_same setting first
    have value := compile_same setting second
    have rest := compileEntries_same setting later
    refine key.bind fun key => ?_
    -- A constant key that is no string ends both compilations.
    split
    · exact value.bind fun _ => rest.map _
    · exact value.bind fun _ => rest.map _
    · exact .ofFails (Compile.fails_throw _)

/-- Cases that are the same but for places. -/
theorem compileCases_same (setting : Setting) {rules rules' : List (Option Term × Term)}
    (same : Term.FilledCases (fun _ => True) (fun _ _ => False) rules rules') :
    Transfers (compileCases setting rules) (compileCases setting rules') := by
  cases same with
  | nil => exact .pure _
  | cons first second later =>
    have test := compileOption_same setting first
    have body := compile_same setting second
    have rest := compileCases_same setting later
    exact test.bind fun _ => body.bind fun _ => rest.map _

/-- Arguments that are the same but for places. -/
theorem compileArguments_same (setting : Setting) {given given' : List (Option String × Term)}
    (same : Term.FilledArguments (fun _ => True) (fun _ _ => False) given given') :
    Transfers (compileArguments setting given) (compileArguments setting given') := by
  cases same with
  | nil => exact .pure _
  | cons name first later =>
    have term := compile_same setting first
    have rest := compileArguments_same setting later
    exact term.bind fun _ => rest.map _

end

end Term

end Reshape
