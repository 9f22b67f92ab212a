import Reshape.Mapping
import Reshape.Proofs.Expr.Nesting

/-!
Balanced accounts of nesting. A source is compiled with one gauge for all its statements, and each
expression is held against the limit by the expressions around it in the tree that matched: nothing
that was compiled before counts, wherever it ended.
-/

namespace Reshape

variable {α : Type}

namespace Compile

open Error (IsShallow)

/-- Names that are compiled one by one are not nested. -/
theorem shallow_segments (segments : List Segment) :
    Reports IsShallow (segments.mapM Compile.segment) := by
  induction segments with
  | nil => exact .pure _
  | cons segment rest ih =>
    rw [List.mapM_cons]
    exact (shallow_segment segment).bind fun _ => ih.bind fun _ => .pure _

/-- The account of the nesting in trees is balanced. With a gauge that starts at zero a compilation
comes to the same as without, and the gauge is at zero again in the end. If each expression in the
trees has at most as many expressions around it as the limit allows, itself counted, then no error
says that one is nested too deeply, whatever warnings were given before, and a higher limit changes
nothing; and if some expression has more, there is no result. -/
structure Balanced (environment : Environment) (nodes : List Grammar.Node) (gauged : Gauged α)
    (action : Environment → Compile α) : Prop where
  follows : gauged.Follows 0 (action environment)
  admits (within : ∀ tree ∈ nodes, ∀ depth, tree.Nests depth → depth ≤ environment.depthLimit)
    (warnings : List String) (limit : Nat) (span : Span) :
    ((action environment).run.run warnings).1 ≠ .error (.tooDeep limit span)
  same (within : ∀ tree ∈ nodes, ∀ depth, tree.Nests depth → depth ≤ environment.depthLimit)
    {higher : Nat} (above : environment.depthLimit ≤ higher) :
    action environment = action (environment.withDepthLimit higher)
  refuses {tree : Grammar.Node} (among : tree ∈ nodes) {depth : Nat} (nests : tree.Nests depth)
    (beyond : environment.depthLimit < depth) : Fails (action environment)

/-- The account is balanced if a compilation needs as many levels as the trees have. -/
theorem Balanced.ofLimited {environment : Environment} {nodes : List Grammar.Node}
    {gauged : Gauged α} {action : Environment → Compile α}
    (follows : gauged.Follows 0 (action environment))
    (limited : ∀ higher, environment.depthLimit ≤ higher →
      Limited environment.depthLimit (Grammar.Node.nestingAll nodes) (action environment)
        (action (environment.withDepthLimit higher))) :
    Balanced environment nodes gauged action where
  follows := follows
  -- Nesting within the limit means that every expression in the trees is, and so does the converse.
  admits within warnings limit span failed := by
    have levels := Grammar.Node.nestingAll_le_iff_nests.2 within
    have reports := (limited _ (Nat.le_refl _)).admits levels warnings
    exact reports.of_error failed limit span rfl
  same within higher above :=
    (limited higher above).same (Grammar.Node.nestingAll_le_iff_nests.2 within)
  refuses among depth nests beyond := by
    refine (limited _ (Nat.le_refl _)).refuses (Nat.lt_of_not_le fun within => ?_)
    have few := Grammar.Node.nestingAll_le_iff_nests.1 within _ among _ nests
    omega

end Compile

open Compile (Balanced Limited Reports)
open Error (IsShallow)

variable {environment : Environment} {higher : Nat} {source : String}
  {after : Grammar.Cursor} {nodes : List Grammar.Node} {attempts : Grammar.Attempts}

/-- What is compiled of a reading, or the fault that keeps the source from being read. -/
def Compile.ofReading {α β : Type} (make : β → Compile α) : Except Diagnostic β → Compile α
  | .ok found => make found
  | .error diagnostic => throw (.source diagnostic)

/-- What is compiled of a source needs as many levels as the expressions in the tree that matched are
nested, whatever the rule is and whatever is taken from the part that it makes. -/
theorem Compile.limited_of_read {α β : Type} {rule : Grammar.Rule}
    {take : Grammar.Piece → Option β} {nesting : β → Nat} {make make' : β → Compile α}
    (counts : ∀ piece found, take piece = some found →
      piece ≠ .malformed ∧ ∀ n, piece.Within n ↔ nesting found ≤ n)
    (limited : ∀ found, Limited environment.depthLimit (nesting found) (make found) (make' found))
    (matched : Grammar.matchSource rule source.toList = .matched after nodes attempts)
    {reading : Except Diagnostic β}
    (reads : reading = Grammar.read rule source >>= fun piece =>
      (take piece).elim (throw (Grammar.unreadable ⟨0, source.utf8ByteSize⟩)) pure) :
    Limited environment.depthLimit (Grammar.Node.nestingAll nodes) (ofReading make reading)
      (ofReading make' reading) := by
  -- What matches but cannot be read is reported as that, and not as nested too deeply.
  have unreadable (span : Span) : Limited environment.depthLimit (Grammar.Node.nestingAll nodes)
      (throw (.source (Grammar.unreadable span)) : Compile α)
      (throw (.source (Grammar.unreadable span))) :=
    .fault _ _ _ _ _ (by decide)
  cases given : Grammar.read rule source with
  | error fault =>
    rw [given] at reads
    subst reads
    simp only [Grammar.read, matched] at given
    split at given
    · cases given
    · obtain rfl := Except.error.inj given
      exact unreadable _
  | ok piece =>
    rw [given] at reads
    replace reads : reading =
      (take piece).elim (throw (Grammar.unreadable ⟨0, source.utf8ByteSize⟩)) pure := reads
    cases taken : take piece with
    | none =>
      rw [taken] at reads
      subst reads
      exact unreadable _
    | some found =>
      rw [taken] at reads
      subst reads
      obtain ⟨whole, counts⟩ := counts piece found taken
      rw [← Grammar.nesting_of_read counts whole matched given]
      exact limited found

namespace Mapping

/-- A target has no expressions inside. -/
theorem shallow_target (place : Place) : Reports IsShallow (target place) := by
  -- Only names are read for a target, and none of them contains an expression.
  cases place with
  | «variable» name => exact (Compile.shallow_segment name).bind fun _ => .pure _
  | metadata key =>
    cases key with
    | none => exact .pure _
    | some key => exact (Compile.shallow_segment key).bind fun _ => .pure _
  | root path => exact (Compile.shallow_segments path).bind fun _ => .pure _
  | input span => exact Compile.shallow_fail _ _ _ _ (by decide)

/-- A statement needs as many levels as its expressions are nested. -/
theorem statement_limited (above : environment.depthLimit ≤ higher) (sentence : Sentence) :
    Limited environment.depthLimit sentence.term.nesting (statement environment sentence)
      (statement (environment.withDepthLimit higher) sentence) := by
  have term : Limited environment.depthLimit sentence.term.nesting
      (sentence.term.compile ⟨environment, 0, []⟩)
      (sentence.term.compile ⟨environment.withDepthLimit higher, 0, []⟩) :=
    Term.compile_limited above 0 [] sentence.term
  -- The target comes first, and needs no level.
  have whole := (Limited.ofReports (shallow_target sentence.place)).bind fun target =>
    term.map fun expr => (⟨sentence.line, target, expr⟩ : Statement)
  rwa [Nat.zero_max] at whole

/-- Statements need as many levels as the expressions in any of them are nested. -/
theorem statements_limited (above : environment.depthLimit ≤ higher)
    (sentences : List Sentence) :
    Limited environment.depthLimit (Term.nestingAll (sentences.map Sentence.term))
      (sentences.mapM (statement environment))
      (sentences.mapM (statement (environment.withDepthLimit higher))) := by
  induction sentences with
  | nil => exact .ofReports (.pure _)
  | cons sentence rest ih =>
    -- Each statement has all levels to itself.
    rw [List.mapM_cons, List.mapM_cons]
    exact (statement_limited above sentence).bind fun _ => ih.map _

/-- The statement that a source writes, with a gauge of the expressions around what is compiled. -/
def gaugedStatement (environment : Environment) (sentence : Sentence) : Gauged Statement := do
  let target ← Gauged.lift (target sentence.place)
  return ⟨sentence.line, target, ← sentence.term.gauged environment []⟩

/-- The mapping of a source, with one gauge for all statements. -/
def gauged (environment : Environment) (source : String) : Gauged Mapping :=
  match Sentence.read source with
  | .ok sentences => return ⟨← sentences.mapM (gaugedStatement environment)⟩
  | .error diagnostic => throw (.source diagnostic)

/-- A statement that finds the gauge at zero leaves it there. -/
theorem gaugedStatement_follows (sentence : Sentence) :
    (gaugedStatement environment sentence).Follows 0 (statement environment sentence) := by
  refine (Gauged.Follows.lift _).bind fun target => ?_
  exact (Term.gauged_follows 0 [] sentence.term).map _

/-- Each statement finds the gauge at zero. -/
theorem gauged_follows : (gauged environment source).Follows 0 (compile environment source) := by
  -- The gauge is lowered again after each expression, so every statement finds it at zero.
  have statements (sentences : List Sentence) :
      Gauged.Follows 0 (sentences.mapM (gaugedStatement environment))
        (sentences.mapM (statement environment)) := by
    induction sentences with
    | nil => exact .pure _
    | cons sentence rest ih =>
      rw [List.mapM_cons, List.mapM_cons]
      exact (gaugedStatement_follows sentence).bind fun _ => ih.map _
  unfold gauged compile
  cases Sentence.read source with
  | error diagnostic => exact .lift (throw (.source diagnostic))
  | ok sentences => exact (statements sentences).map _

/-- A mapping needs as many levels as the expressions in the tree of its source are nested. -/
theorem compile_limited (above : environment.depthLimit ≤ higher)
    (matched : Grammar.matchSource .mapping source.toList = .matched after nodes attempts) :
    Limited environment.depthLimit (Grammar.Node.nestingAll nodes) (compile environment source)
      (compile (environment.withDepthLimit higher) source) := by
  -- Reading and compiling are put in the form of the lemma: a text is read, and what is read
  -- compiled.
  have reads : Sentence.read source = Grammar.read .mapping source >>= fun piece =>
      piece.statements?.elim (throw (Grammar.unreadable ⟨0, source.utf8ByteSize⟩)) pure := by
    unfold Sentence.read
    cases Grammar.read .mapping source with
    | error fault => rfl
    | ok piece => cases piece <;> rfl
  have compiled (environment : Environment) : compile environment source =
      Compile.ofReading (fun sentences => do
        return ⟨← sentences.mapM (statement environment)⟩) (Sentence.read source) := by
    unfold compile
    cases Sentence.read source with
    | ok sentences => rfl
    | error diagnostic => rfl
  have counts (piece : Grammar.Piece) (found : List Sentence)
      (taken : piece.statements? = some found) : piece ≠ .malformed ∧
        ∀ n, piece.Within n ↔ Term.nestingAll (found.map Sentence.term) ≤ n := by
    cases piece with
    | mapping =>
      obtain rfl := Option.some.inj taken
      refine ⟨nofun, fun n => ?_⟩
      rw [Term.nestingAll_le_iff, List.forall_mem_map]
      rfl
    | _ => cases taken
  rw [compiled, compiled]
  refine Compile.limited_of_read counts (fun sentences => ?_) matched reads
  exact (statements_limited above sentences).map _

end Mapping

namespace Expr

/-- The expression of a source, with a gauge of the expressions around what is compiled. -/
def gauged (environment : Environment) (source : String) : Gauged Expr :=
  match Term.read source with
  | .ok term => term.gauged environment []
  | .error diagnostic => throw (.source diagnostic)

/-- An expression finds the gauge at zero. -/
theorem gauged_follows : (gauged environment source).Follows 0 (compile environment source) := by
  unfold gauged compile
  cases Term.read source with
  | error diagnostic => exact .lift (throw (.source diagnostic))
  | ok term => exact Term.gauged_follows 0 [] term

/-- An expression needs as many levels as the expressions in the tree of its source are nested. -/
theorem compile_limited (above : environment.depthLimit ≤ higher)
    (matched : Grammar.matchSource .query source.toList = .matched after nodes attempts) :
    Limited environment.depthLimit (Grammar.Node.nestingAll nodes) (compile environment source)
      (compile (environment.withDepthLimit higher) source) := by
  -- Reading and compiling are put in the form of the lemma: a text is read, and what is read
  -- compiled.
  have reads : Term.read source = Grammar.read .query source >>= fun piece =>
      piece.expression?.elim (throw (Grammar.unreadable ⟨0, source.utf8ByteSize⟩)) pure := by
    unfold Term.read
    cases Grammar.read .query source with
    | error fault => rfl
    | ok piece => cases piece <;> rfl
  have compiled (environment : Environment) : compile environment source =
      Compile.ofReading (fun term => term.compile ⟨environment, 0, []⟩) (Term.read source) := by
    unfold compile
    cases Term.read source with
    | ok term => rfl
    | error diagnostic => rfl
  have counts (piece : Grammar.Piece) (found : Term) (taken : piece.expression? = some found) :
      piece ≠ .malformed ∧ ∀ n, piece.Within n ↔ found.nesting ≤ n := by
    cases piece with
    | term =>
      obtain rfl := Option.some.inj taken
      exact ⟨nofun, fun n => Iff.rfl⟩
    | _ => cases taken
  rw [compiled, compiled]
  exact Compile.limited_of_read counts (Term.compile_limited above 0 []) matched reads

end Expr

/-- Whatever the environment is and whatever a grammatical source holds, the account of its nesting
is balanced, in a mapping as in a single expression. -/
theorem nesting_balanced (environment : Environment) (source : String) :
    (∀ after nodes attempts,
      Grammar.matchSource .mapping source.toList = .matched after nodes attempts →
        Balanced environment nodes (Mapping.gauged environment source)
          (Mapping.compile · source)) ∧
    ∀ after nodes attempts,
      Grammar.matchSource .query source.toList = .matched after nodes attempts →
        Balanced environment nodes (Expr.gauged environment source)
          (Expr.compile · source) := by
  constructor
  · intro after nodes attempts matched
    exact .ofLimited Mapping.gauged_follows fun _ above => Mapping.compile_limited above matched
  · intro after nodes attempts matched
    exact .ofLimited Expr.gauged_follows fun _ above => Expr.compile_limited above matched

/-- A mapping of two statements, and an expression with a lambda: in both, three expressions stand
around each other and no more, so that three levels are as good as more and two are not enough. -/
theorem nesting_balanced_siblings :
    (∃ after nodes attempts,
      Grammar.matchSource .mapping "root.a = [1, (2)]\nroot.b = [(3)]".toList =
        .matched after nodes attempts ∧
      (∀ tree ∈ nodes, ∀ depth, tree.Nests depth → depth ≤ 3) ∧
      (∃ tree ∈ nodes, tree.Nests 3) ∧
      (∀ warnings limit span,
        ((Mapping.compile (.withDepthLimit .standard 3)
          "root.a = [1, (2)]\nroot.b = [(3)]").run.run warnings).1 ≠
            .error (.tooDeep limit span)) ∧
      Mapping.compile (.withDepthLimit .standard 3) "root.a = [1, (2)]\nroot.b = [(3)]" =
        Mapping.compile .standard "root.a = [1, (2)]\nroot.b = [(3)]" ∧
      (Mapping.compile (.withDepthLimit .standard 2) "root.a = [1, (2)]\nroot.b = [(3)]").Fails) ∧
    ∃ after nodes attempts,
      Grammar.matchSource .query "[1, 2].map_each(x -> [x])".toList =
        .matched after nodes attempts ∧
      (∀ tree ∈ nodes, ∀ depth, tree.Nests depth → depth ≤ 3) ∧
      (∃ tree ∈ nodes, tree.Nests 3) ∧
      (∀ warnings limit span,
        ((Expr.compile (.withDepthLimit .standard 3) "[1, 2].map_each(x -> [x])").run.run
          warnings).1 ≠ .error (.tooDeep limit span)) ∧
      Expr.compile (.withDepthLimit .standard 3) "[1, 2].map_each(x -> [x])" =
        Expr.compile .standard "[1, 2].map_each(x -> [x])" ∧
      (Expr.compile (.withDepthLimit .standard 2) "[1, 2].map_each(x -> [x])").Fails := by
  -- The depths are computed, and the rest are instances of the theorem at the limits two and three.
  have first : Grammar.nesting? .mapping "root.a = [1, (2)]\nroot.b = [(3)]" = some 3 := by
    decide +kernel
  have second : Grammar.nesting? .query "[1, 2].map_each(x -> [x])" = some 3 := by decide +kernel
  have below : (Environment.standard.withDepthLimit 3).depthLimit ≤
      Environment.standard.depthLimit := by decide
  constructor
  · obtain ⟨after, nodes, attempts, matched, within, deepest⟩ := Grammar.exists_of_nesting? first
    obtain ⟨tree, among, nests⟩ := deepest (by decide)
    refine ⟨after, nodes, attempts, matched, within, ⟨tree, among, nests⟩, ?_, ?_, ?_⟩
    · exact ((nesting_balanced _ _).1 after nodes attempts matched).admits within
    · exact ((nesting_balanced _ _).1 after nodes attempts matched).same within below
    · exact ((nesting_balanced _ _).1 after nodes attempts matched).refuses among nests (by decide)
  · obtain ⟨after, nodes, attempts, matched, within, deepest⟩ := Grammar.exists_of_nesting? second
    obtain ⟨tree, among, nests⟩ := deepest (by decide)
    refine ⟨after, nodes, attempts, matched, within, ⟨tree, among, nests⟩, ?_, ?_, ?_⟩
    · exact ((nesting_balanced _ _).2 after nodes attempts matched).admits within
    · exact ((nesting_balanced _ _).2 after nodes attempts matched).same within below
    · exact ((nesting_balanced _ _).2 after nodes attempts matched).refuses among nests (by decide)

end Reshape
