import Reshape.Conformance.Suite
import Reshape.Proofs.Expr.Steady

/-!
Findings on suites: each case of a suite that is loaded has one, in order, and one that is not loaded
counts as a single failure. A suite that is broken leaves what is shared by all mappings as it is, so
that the findings on the others are those without it.
-/

namespace Reshape

namespace Check

variable {α β : Type}

/-- A check gives one result and leaves the same behind, whatever was warned of before. -/
def Steady (action : Check α) : Prop :=
  ∀ shared, Reshape.Steady (action.run shared)

/-- What a check gives and leaves behind. -/
def outcome (action : Check α) (shared : Shared) : α × Shared :=
  ((action.run shared).run []).1

/-- A result on its own. -/
theorem steady_pure (a : α) : Steady (pure a) :=
  fun shared => .pure (a, shared)

/-- What follows a result. -/
theorem Steady.bind {action : Check α} (steady : Steady action) {next : α → Check β}
    (follows : ∀ a, Steady (next a)) : Steady (action >>= next) := by
  intro shared
  rw [StateT.run_bind]
  exact (steady shared).bind fun between => follows between.1 between.2

/-- What is made of a result. -/
theorem Steady.map {action : Check α} (steady : Steady action) (make : α → β) :
    Steady (do return make (← action)) :=
  steady.bind fun a => steady_pure (make a)

/-- Compilation that is steady. -/
theorem steady_compile {action : Compile α} (steady : Reshape.Steady action.run) :
    Steady (compile action) := by
  intro shared
  obtain ⟨outcome, added, gives⟩ := steady
  refine ⟨(outcome, shared), added, fun warnings => ?_⟩
  -- A compilation does nothing but to add warnings, which the check drops.
  have given : action.run warnings = (outcome, warnings ++ added) := gives warnings
  change compile action shared warnings = _
  rw [compile, given]

/-- Evaluation gives no warnings. -/
theorem steady_evaluate (cells : List (Site × Cell)) (action : Eval α) :
    Steady (evaluate cells action) :=
  fun _ => .pure (_, _)

/-- What a check gives is its outcome, whatever was warned of before. -/
theorem Steady.fst_run {action : Check α} (steady : Steady action) (shared : Shared)
    (warnings : List String) : ((action.run shared).run warnings).1 = action.outcome shared :=
  (steady shared).fst_run warnings

/-- What follows a result starts from what that has left behind. -/
theorem Steady.outcome_bind {action : Check α} {next : α → Check β}
    (follows : ∀ a, Steady (next a)) (shared : Shared) :
    (action >>= next).outcome shared =
      (next (action.outcome shared).1).outcome (action.outcome shared).2 := by
  unfold outcome
  rw [StateT.run_bind, StateT.run_bind]
  exact (follows _).fst_run _ _

/-- What is made of a result leaves the same behind. -/
theorem outcome_map (action : Check α) (make : α → β) (shared : Shared) :
    outcome (do return make (← action)) shared =
      (make (action.outcome shared).1, (action.outcome shared).2) := rfl

end Check

namespace Suite

variable {environment : Environment} {surroundings : Surroundings} {path : String}

/-- The mapping of a source, or why it does not compile. -/
def compiled (environment : Environment) (source : String) : Except Error Mapping :=
  ((Mapping.compile environment source).run.run []).1

/-- A suite is broken if it cannot be loaded or its mapping does not compile. -/
inductive Broken (environment : Environment) : Except Error Suite → Prop
  | unloaded (error : Error) : Broken environment (.error error)
  | uncompiled {suite : Suite} {error : Error}
    (refused : compiled environment suite.mapping = .error error) : Broken environment (.ok suite)

/-- The names under which there are findings: one for each case, or one for a suite that cannot be
loaded. -/
def titles : Except Error Suite → List String
  | .error _ => ["load"]
  | .ok suite => (suite.cases.zipIdx 1).map fun (case, position) => case.title position

/-- A suite has something to fail: it cannot be loaded, or has a case that is not skipped. -/
def Shows (loaded : Except Error Suite) : Prop :=
  ∀ suite, loaded = .ok suite → ∃ case ∈ suite.cases, case.isSkipped = false

/-- The verdict on a case without a mapping. -/
def Case.blamed (case : Case) (error : Error) : Verdict :=
  if case.isSkipped then .skipped "marked `skip`" else unrunnable error

/-- The findings on a broken suite. -/
def complaints (environment : Environment) (path : String) :
    Except Error Suite → List Finding
  | .error error => [⟨path, "load", .failed "a valid suite file" (Verdict.report (.error error))⟩]
  | .ok suite =>
    match compiled environment suite.mapping with
    | .ok _ => []
    | .error error =>
      (suite.cases.zipIdx 1).map fun (case, position) =>
        ⟨path, case.title position, case.blamed error⟩

/-- The findings on a suite whose mapping does not compile. -/
theorem complaints_of_refused {suite : Suite} {error : Error}
    (refused : compiled environment suite.mapping = .error error) :
    complaints environment path (.ok suite) =
      (suite.cases.zipIdx 1).map fun (case, position) =>
        ⟨path, case.title position, case.blamed error⟩ := by
  unfold complaints
  dsimp only
  rw [refused]

/-- The check of a case is steady. -/
theorem Case.steady_judge (case : Case) (mapping : Except Error Mapping)
    (cells : List (Site × Cell)) : Check.Steady (case.judge surroundings mapping cells) := by
  unfold Case.judge
  split
  · exact Check.steady_pure _
  -- Only a run of the mapping does anything, and it is steady itself.
  · split
    · exact (Check.steady_evaluate _ _).map _
    · exact Check.steady_pure _
    · exact Check.steady_pure _
    · exact Check.steady_pure _

/-- The check of cases is steady. -/
theorem steady_judgeCases (mapping : Except Error Mapping) (position : Nat)
    (cells : List (Site × Cell)) (cases : List Case) :
    Check.Steady (judgeCases surroundings mapping path position cells cases) := by
  induction cases generalizing position cells with
  | nil => exact Check.steady_pure _
  | cons case rest ih =>
    rw [judgeCases]
    exact (case.steady_judge mapping cells).bind fun _ => (ih _ _).map _

/-- The check of a suite is steady. -/
theorem steady_runLoaded (loaded : Except Error Suite) :
    Check.Steady (runLoaded environment surroundings path loaded) := by
  cases loaded with
  | error error => exact Check.steady_pure _
  | ok suite =>
    refine (Check.steady_compile (Mapping.steady_compile environment suite.mapping)).bind ?_
    exact fun mapping => steady_judgeCases mapping 1 [] suite.cases

/-- A suite that is loaded is judged by what its mapping is compiled to. -/
theorem outcome_run (suite : Suite) (shared : Shared) :
    (runLoaded environment surroundings path (.ok suite)).outcome shared =
      (judgeCases surroundings (compiled environment suite.mapping) path 1 []
        suite.cases).outcome shared :=
  Check.Steady.outcome_bind (fun _ => steady_judgeCases _ _ _ _) shared

/-- Each case has a finding under the name of the case, in order. -/
theorem names_judgeCases (mapping : Except Error Mapping) (position : Nat)
    (cells : List (Site × Cell)) (cases : List Case) (shared : Shared) :
    ((judgeCases surroundings mapping path position cells cases).outcome shared).1.map
        (fun finding => (finding.source, finding.name)) =
      (cases.zipIdx position).map fun (case, position) => (path, case.title position) := by
  induction cases generalizing position cells shared with
  | nil => rfl
  | cons case rest ih =>
    rw [judgeCases, Check.Steady.outcome_bind fun _ => (steady_judgeCases _ _ _ _).map _,
      Check.outcome_map, List.map_cons, List.zipIdx_cons, List.map_cons, ih]

/-- There is one finding under each name of a suite, in order. -/
theorem names_runLoaded (loaded : Except Error Suite) (shared : Shared) :
    ((runLoaded environment surroundings path loaded).outcome shared).1.map
        (fun finding => (finding.source, finding.name)) =
      (titles loaded).map (path, ·) := by
  cases loaded with
  | error error => rfl
  | ok suite =>
    rw [outcome_run, names_judgeCases, titles, List.map_map]
    rfl

/-- Without a mapping every case that is not skipped fails, and nothing happens. -/
theorem outcome_judgeCases_error (error : Error) (position : Nat) (cells : List (Site × Cell))
    (cases : List Case) (shared : Shared) :
    (judgeCases surroundings (.error error) path position cells cases).outcome shared =
      ((cases.zipIdx position).map fun (case, position) =>
        ⟨path, case.title position, case.blamed error⟩, shared) := by
  induction cases generalizing position with
  | nil => rfl
  | cons case rest ih =>
    -- The case is judged without being run, so that the shared state stays as it is.
    have judged : (case.judge surroundings (.error error) cells).outcome shared =
        ((case.blamed error, cells), shared) := by
      unfold Case.judge Case.blamed
      split <;> rfl
    rw [judgeCases, Check.Steady.outcome_bind fun _ => (steady_judgeCases _ _ _ _).map _,
      Check.outcome_map, judged, ih, List.zipIdx_cons, List.map_cons]

/-- A broken suite has its complaints for findings, and leaves everything as it is. -/
theorem Broken.outcome_runLoaded {loaded : Except Error Suite} (broken : Broken environment loaded)
    (shared : Shared) :
    (runLoaded environment surroundings path loaded).outcome shared =
      (complaints environment path loaded, shared) := by
  cases broken with
  | unloaded error => rfl
  | @uncompiled suite error refused =>
    rw [outcome_run, refused, complaints_of_refused refused]
    exact outcome_judgeCases_error error 1 [] suite.cases shared

end Suite

end Reshape
