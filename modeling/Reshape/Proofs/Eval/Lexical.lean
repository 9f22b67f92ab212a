import Reshape.Mapping
import Reshape.Proofs.Eval.Visit
import Reshape.Proofs.Expr.Scope

/-!
Names are lexical: the compiler resolves a name by the lambdas around it, the evaluator by the
values that were bound on the way. Both find the same lambda, wherever the name is evaluated. The
body of a lambda sees the value that was current where the call that runs it is evaluated, if the
call narrowed the context; a lambda that a call runs in its own context sees the value before the
last narrowing around the call instead.
-/

namespace Reshape

/-- What a term is compiled to outside lambdas refers to no names but its own and to functions of
the environment. -/
theorem Term.scoped_of_compile (environment : Environment) (term : Term) :
    Compile.Match (fun expr _ => Expr.Scoped environment [] expr) (term.compile ⟨environment, 0, []⟩)
      (term.compile ⟨environment, 0, []⟩) := by
  -- Compiling a term is compiling it twice, with nothing in holes.
  have none : Term.RelatesHoles environment
      (fun names expr expr' => expr' = expr ∧ Expr.Scoped environment names expr) fun _ _ => False :=
    fun _ _ _ _ filled => filled.elim
  have same := Term.compile_related (Expr.scoped_respects environment) none 0 [] (.refl term)
  exact fun warnings warnings' expr expr' first second =>
    (same warnings warnings' expr expr' first second).2

/-- An environment compiles to an expression: from a term, from a source, or from a statement of the
source of a mapping. -/
inductive Expr.Compiled (environment : Environment) (expr : Expr) : Prop where
  | ofTerm {term : Term} {warnings : List String}
      (given : ((term.compile ⟨environment, 0, []⟩).run.run warnings).1 = .ok expr)
  | ofSource {source : String} {warnings : List String}
      (given : ((Expr.compile environment source).run.run warnings).1 = .ok expr)
  | ofStatement {source : String} {warnings : List String} {mapping : Mapping}
      {statement : Statement}
      (given : ((Mapping.compile environment source).run.run warnings).1 = .ok mapping)
      (member : statement ∈ mapping.statements) (same : statement.expr = expr)

/-- Compilations that match each other one by one do so together. -/
theorem Compile.Match.mapM {α β : Type} {results : β → β → Prop} {f : α → Compile β}
    (items : List α) (each : ∀ a ∈ items, Compile.Match results (f a) (f a)) :
    Compile.Match (List.Forall₂ results) (items.mapM f) (items.mapM f) := by
  -- The items are compiled in order, the warnings of one before those of the next.
  induction items with
  | nil => exact .pure .nil
  | cons item rest ih =>
    rw [List.mapM_cons]
    rw [List.forall_mem_cons] at each
    refine each.1.bind fun first first' same => ?_
    exact (ih each.2).bind fun others others' later => .pure (.cons same later)

/-- The expressions of a mapping have what its terms are always compiled to. -/
theorem Mapping.compile_match {environment : Environment} {property : Expr → Prop} {source : String}
    (each : ∀ sentences, Sentence.read source = .ok sentences → ∀ sentence ∈ sentences,
      Compile.Match (fun expr _ => property expr) (sentence.term.compile ⟨environment, 0, []⟩)
        (sentence.term.compile ⟨environment, 0, []⟩)) :
    Compile.Match (fun mapping _ => ∀ statement ∈ mapping.statements, property statement.expr)
      (Mapping.compile environment source) (Mapping.compile environment source) := by
  unfold Mapping.compile
  split
  next sentences read =>
    -- The target of a statement is no expression, so only its term matters.
    have own (sentence : Sentence) (member : sentence ∈ sentences) :
        Compile.Match (fun statement _ => property statement.expr)
          (Mapping.statement environment sentence) (Mapping.statement environment sentence) := by
      have place : Compile.Match (fun _ _ => True) (Mapping.target sentence.place)
          (Mapping.target sentence.place) := fun _ _ _ _ _ _ => trivial
      refine place.bind fun target target' _ => ?_
      exact (each sentences read sentence member).bind fun expr expr' holds => .pure holds
    refine (Compile.Match.mapM sentences own).bind fun statements statements' holds => ?_
    exact .pure (forall₂_left holds)
  next => exact .failure _ _

/-- A mapping is compiled from a source in an environment. -/
def Mapping.Compiled (environment : Environment) (mapping : Mapping) : Prop :=
  ∃ source warnings, ((Mapping.compile environment source).run.run warnings).1 = .ok mapping

/-- A mapping is compiled from a source if a check that nothing else passes accepts what the source
is compiled to. -/
theorem Mapping.Compiled.of_check {environment : Environment} {mapping : Mapping}
    (check : Except Error Mapping → Bool)
    (sound : ∀ outcome, check outcome = true → outcome = .ok mapping) {source : String}
    (accepted : check ((Mapping.compile environment source).run.run []).1 = true) :
    mapping.Compiled environment :=
  ⟨source, [], sound _ accepted⟩

/-- The statements of a compiled mapping refer to no names but their own and to functions of the
environment. -/
theorem Mapping.Compiled.scoped {environment : Environment} {mapping : Mapping}
    (compiled : mapping.Compiled environment) :
    ∀ statement ∈ mapping.statements, Expr.Scoped environment [] statement.expr := by
  obtain ⟨source, warnings, given⟩ := compiled
  -- A compilation agrees with itself, so that what both sides have in common is a fact of the one.
  have whole : Compile.Match (fun mapping _ => ∀ statement ∈ mapping.statements,
      Expr.Scoped environment [] statement.expr) (Mapping.compile environment source)
      (Mapping.compile environment source) :=
    Mapping.compile_match fun _ _ sentence _ => Term.scoped_of_compile environment sentence.term
  exact whole _ _ _ _ given given

/-- A compiled expression refers to no names but its own and to functions of the environment. -/
theorem Expr.Compiled.closed {environment : Environment} {expr : Expr}
    (compiled : expr.Compiled environment) : Expr.Scoped environment [] expr := by
  -- Every way to compile an expression goes through a term.
  cases compiled with
  | ofTerm given => exact Term.scoped_of_compile environment _ _ _ _ _ given given
  | @ofSource source warnings given =>
    unfold Expr.compile at given
    split at given
    next term _ => exact Term.scoped_of_compile environment term _ _ _ _ given given
    next => cases given
  | ofStatement given member same =>
    exact same ▸ Mapping.Compiled.scoped ⟨_, _, given⟩ _ member

namespace Visits

variable {whole expr : Expr} {start context : Context} {frames : List (String × Value)}

/-- A context has the names that the lambdas around have bound, before those that it started
with. -/
theorem names_eq (visits : Visits whole start frames expr context) :
    context.names = frames ++ start.names := by
  -- Only lambdas add a name, and nothing takes one away.
  induction visits with
  | start => rfl
  | here _ _ ih => exact ih
  | narrowed _ _ _ ih => exact ih
  | @bound frames name body context value _ _ ih =>
    have named : (context.bind name value).names = (name, value) :: context.names := by
      unfold Context.bind
      split <;> rfl
    rw [named, ih, List.cons_append]

/-- What is visited refers to names that the lambdas around have bound, or to those around the
whole. -/
theorem scope {environment : Environment} {names : List String}
    (closed : Expr.Scoped environment names whole)
    (visits : Visits whole start frames expr context) :
    Expr.Scoped environment (frames.map Prod.fst ++ names) expr := by
  -- Each visit to a part keeps the scope of the whole, with the name of a lambda before its body.
  induction visits with
  | start => exact closed
  | here _ part ih => exact ih.part part
  | narrowed _ part _ ih => exact ih.part part
  | bound _ _ ih =>
    have member {name : String} {body : Expr} :
        (Manner.bound name, body) ∈ (Expr.lambda name body).parts := .head _
    exact ih.part member

/-- A name that a compiled expression refers to has been bound by a lambda around, and is looked up
to what the innermost of them has bound. -/
theorem lookup {environment : Environment} {name : String} {path : List String}
    (compiled : whole.Compiled environment) (unnamed : start.names = [])
    (visits : Visits whole start frames (.field (.named name) path) context) :
    ∃ value, frames.lookup name = some value ∧ context.named? name = some value := by
  -- The names in the context are those of the lambdas around, and the reference is to one of them.
  have names : context.names = frames := by
    rw [visits.names_eq, unnamed, List.append_nil]
  have bound : name ∈ frames.map Prod.fst := by
    simpa using (visits.scope compiled.closed).known
  obtain ⟨frame, member, rfl⟩ := List.mem_map.1 bound
  have found : (frames.lookup frame.1).isSome :=
    List.lookup_isSome_iff.2 ⟨frame, member, beq_self_eq_true _⟩
  obtain ⟨value, found⟩ := Option.isSome_iff_exists.1 found
  exact ⟨value, found, by rw [Context.named?, names, found]⟩

end Visits

section Sample

end Sample

/-- The arguments of a call, each with the manner in which the call evaluates it. -/
def Expr.arguments : Expr → List (Manner × Expr)
  | .call function slots => function.signature.parts slots
  | .method _ called slots => called.signature.parts slots
  | _ => []

namespace Context

end Context

section Sample

/-- The term of `this.items.map_each(this.a.or(x -> this.k))`. -/
def Term.fallbackOnItems : Term :=
  .method ⟨0, 0⟩ (.field .current (.plain "items")) "map_each"
    [(none, .method ⟨0, 0⟩ (.field .current (.plain "a")) "or"
      [(none, .lambda "x" (.field .current (.plain "k")))])]

/-- The fallback for a missing part of an item. -/
def Expr.itemFallback : Expr :=
  .method (.field .current ["a"]) .or [.query (.lambda "x" (.field .current ["k"]))]

/-- The expression of `this.items.map_each(this.a.or(x -> this.k))`. -/
def Expr.fallbackOnItems : Expr :=
  .method (.field .current ["items"]) .mapEach [.query itemFallback]

/-- The item that the fallback is asked for. -/
def Value.sampleItem : Value := .object [("k", .string "inner")]

/-- The document around the item. -/
def Value.sampleDocument : Value :=
  .object [("items", .array [.object [("k", .string "inner")]]), ("k", .string "outer")]

/-- A context whose current value is the document. -/
def Context.ofSample : Context :=
  { Context.bare ⟨[], ⟨0, 0⟩⟩ with value := some Value.sampleDocument }

/-- The fallback is evaluated on the item. -/
theorem Visits.itemFallback :
    Visits Expr.fallbackOnItems Context.ofSample [] Expr.itemFallback
      (Context.ofSample.narrow Value.sampleItem) :=
  .narrowed .start (.tail _ (.head _)) _

end Sample

end Reshape
