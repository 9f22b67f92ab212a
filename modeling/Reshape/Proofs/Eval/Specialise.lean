import Reshape.Proofs.Environment.Narrowing
import Reshape.Proofs.Eval.Fold
import Reshape.Proofs.Expr.Constant
import Reshape.Proofs.Expr.Filled

/-!
Specialisation: an expression with a constant in it gives what it gives with a variable in that
place that is bound to the constant, so that one can be put in place of the other. The compiler makes
use of a constant where it can, but reads a variable at each call. Constants that an application adds
to an environment can get in the way: one that is a marker stays in an object that the compiler makes
known, and is left out of any other object.
-/

namespace Reshape

/-- The value that is known for a call is no marker, unless the function is a constant. -/
theorem Function.unmarked_of_constant {function : Function} {bound : Bound Expr} {value : Value}
    (prepared : function.prepare bound = .ok (.constant value)) :
    value.isMarker = false ∨ ∃ label, function = .constant label value := by
  -- Only ranges and constants have a value before they are called.
  cases Function.makes_of_prepare prepared with
  | range items => exact .inl rfl
  | constant label value => exact .inr ⟨label, rfl⟩

/-- An expression with a constant and one with a variable in its place: they are no markers, and
they agree where the variable is bound to the constant. -/
structure Expr.Specialised (name : String) (value : Value) (expr expr' : Expr) : Prop where
  unmarked : ∀ constant, expr = .literal constant → constant.isMarker = false
  unmarked' : ∀ constant, expr' = .literal constant → constant.isMarker = false
  agree : ∀ context : Context, context.locals.get? name = some value →
    Expr.Agree Eq context context expr expr'

/-- Slots with a constant and with a variable in its place correspond where the variable is bound to
the constant. -/
def Slot.Specialised (name : String) (value : Value) (isScoped : Bool)
    (parameter : Option Parameter) (slot slot' : Slot Expr) : Prop :=
  ∀ context : Context, context.locals.get? name = some value →
    Slot.Agree Eq context context isScoped parameter slot slot'

variable {name : String} {value : Value}

/-- Where a call runs the expressions, they agree. -/
theorem Expr.Specialised.agreeOn {expr expr' : Expr} (same : Expr.Specialised name value expr expr')
    {context : Context} (bound : context.locals.get? name = some value) (isScoped : Bool) :
    Expr.AgreeOn Eq context context isScoped expr expr' := by
  intro site
  -- Narrowing the context does not change its variables.
  cases isScoped with
  | true => exact fun element => same.agree (context.narrow element) bound site
  | false => exact same.agree context bound site

namespace Slot.Specialised

variable {isScoped : Bool} {expr expr' : Expr}

/-- The slots that two arguments leave. -/
theorem ofArgument (parameter : Parameter) (same : Expr.Specialised name value expr expr') :
    Outcome.Match (Slot.Specialised name value isScoped (some parameter))
      (Slot.ofArgument parameter expr) (Slot.ofArgument parameter expr') := by
  -- A query keeps the expressions themselves.
  by_cases kind : parameter.kind = .query
  · unfold Slot.ofArgument
    rw [if_pos kind, if_pos kind]
    exact .value fun context bound => .query (same.agreeOn bound isScoped)
  -- Any other slot resolves as if the argument were read at the call.
  intro slot slot' first second context bound site
  have resolved : Slot.Agree Eq context context isScoped (some parameter) (.dynamic expr)
      (.dynamic expr') := .dynamic (same.agree context bound)
  have reached := resolved site
  unfold Query.Resolves Slot.Resolves at reached ⊢
  rw [Slot.resolve_ofArgument kind first, Slot.resolve_ofArgument kind second]
  exact reached

/-- The slots that two arguments leave, if they are given at all. -/
theorem bind (parameter : Parameter) {argument argument' : Option Expr}
    (same : Option.Rel (Expr.Specialised name value) argument argument') :
    Outcome.Match (Slot.Specialised name value isScoped (some parameter))
      (Slot.bind parameter argument) (Slot.bind parameter argument') := by
  -- An argument that is not given leaves the same slot on both sides.
  cases same with
  | some same => exact ofArgument parameter same
  | none =>
    intro slot slot' first second context _
    obtain rfl := Except.ok.inj (first.symm.trans second)
    cases slot with
    | absent => exact .absent
    | value constant => exact .value constant
    | query expr =>
      refine .query fun site => ?_
      cases isScoped with
      | true => exact fun element => Expr.Agree.refl expr site
      | false => exact Expr.Agree.refl expr site
    | dynamic expr => exact .dynamic (.refl expr)

/-- The slots of two arguments that are collected. -/
theorem collected (same : Expr.Specialised name value expr expr') :
    Slot.Specialised name value isScoped none (Signature.collected expr)
      (Signature.collected expr') := by
  intro context bound site
  have resolved : Slot.Agree Eq context context isScoped none (.dynamic expr) (.dynamic expr') :=
    .dynamic (same.agree context bound)
  have reached := resolved site
  unfold Query.Resolves Slot.Resolves at reached ⊢
  -- Both slots resolve as if the expressions were read at the call.
  rw [Signature.resolve_collected, Signature.resolve_collected]
  exact reached

end Slot.Specialised

/-- The slots of two calls correspond where the variable is bound to the constant. -/
theorem Signature.bindSlots_specialised (signature : Signature)
    {given given' : List (Argument Expr)}
    (same : List.Forall₂ (Argument.Related (Expr.Specialised name value)) given given') :
    Outcome.Match
      (fun slots slots' => ∀ context : Context, context.locals.get? name = some value →
        Expr.AgreeSlots Eq context context signature slots slots')
      (signature.bindSlots given) (signature.bindSlots given') := by
  -- Every parameter takes specialised arguments, and so does the end of a variadic signature.
  have declared (parameter : Parameter) (argument argument' : Option Expr)
      (same : Option.Rel (Expr.Specialised name value) argument argument') :
      Outcome.Match (Slot.Specialised name value parameter.isScoped (some parameter))
        (Slot.bind parameter argument) (Slot.bind parameter argument') :=
    Slot.Specialised.bind parameter same
  have gathered (expr expr' : Expr) (same : Expr.Specialised name value expr expr') :
      Slot.Specialised name value false none (Signature.collected expr)
        (Signature.collected expr') := .collected same
  intro slots slots' first second context bound
  have related := bindSlots_related declared gathered signature same slots slots' first second
  exact related.mono (fun _ _ _ same => same context bound) fun _ _ same => same context bound

namespace Expr.Specialised

/-- An expression without a place for the constant that is no literal. -/
theorem same {expr : Expr} (plain : expr.literal? = none) :
    Expr.Specialised name value expr expr := by
  refine ⟨?_, ?_, fun _ _ => .refl expr⟩
  · rintro constant rfl
    cases plain
  · rintro constant rfl
    cases plain

/-- Expressions that are no literals and agree. -/
theorem ofAgree {expr expr' : Expr} (plain : expr.literal? = none) (plain' : expr'.literal? = none)
    (agree : ∀ context : Context, context.locals.get? name = some value →
      Expr.Agree Eq context context expr expr') : Expr.Specialised name value expr expr' := by
  refine ⟨?_, ?_, agree⟩
  · rintro constant rfl
    cases plain
  · rintro constant rfl
    cases plain'

/-- The constant and the variable. -/
theorem hole (unmarked : value.isMarker = false) :
    Expr.Specialised name value (.literal value) (.variable name []) := by
  refine ⟨?_, ?_, fun context bound site => ?_⟩
  · rintro constant ⟨⟩
    exact unmarked
  · rintro constant ⟨⟩
  -- The variable is bound to the constant.
  · simp only [Query.Agree, denote, Query.variableAt, bound]
    exact .pure rfl

/-- An array is specialised if its items are. -/
theorem array {items items' : List Expr}
    (same : List.Forall₂ (Expr.Specialised name value) items items') :
    Expr.Specialised name value (ofItems items) (ofItems items') := by
  have unmarked (items : List Expr) (constant : Value) (given : ofItems items = .literal constant) :
      constant.isMarker = false := by
    unfold ofItems at given
    split at given
    · obtain rfl := Expr.literal.inj given
      rfl
    · cases given
  refine ⟨unmarked items, unmarked items', fun context bound => ?_⟩
  have inside : List.Forall₂ (Expr.Agree Eq context context) items items' :=
    same.imp fun _ _ same => same.agree context bound
  -- Folding the constant items changes neither side.
  exact (ofItems_agree items).trans ((Agree.array inside).trans (ofItems_agree items').symm)

/-- An object is specialised if its keys and values are. -/
theorem object {entries entries' : List (Expr × Expr)}
    (same : List.Forall₂ (RelatedPairs (Expr.Specialised name value)) entries entries') :
    Expr.Specialised name value (ofEntries entries) (ofEntries entries') := by
  have unmarked (entries : List (Expr × Expr)) (constant : Value)
      (given : ofEntries entries = .literal constant) : constant.isMarker = false := by
    unfold ofEntries at given
    split at given
    · obtain rfl := Expr.literal.inj given
      rfl
    · cases given
  refine ⟨unmarked entries, unmarked entries', fun context bound => ?_⟩
  have inside : List.Forall₂ (AgreePairs Eq context context) entries entries' :=
    same.imp fun _ _ same => ⟨same.1.agree context bound, same.2.agree context bound⟩
  -- None of the values is a marker, so folding keeps the meaning on both sides.
  have left := forall₂_left (same.imp fun _ _ same => same.2.unmarked)
  have right := forall₂_left (same.flip.imp fun _ _ same => same.2.unmarked')
  exact (ofEntries_agree left).trans ((Agree.object inside).trans (ofEntries_agree right).symm)

/-- Optional expressions agree where the variable is bound to the constant. -/
theorem option {expr expr' : Option Expr}
    (same : Option.Rel (Expr.Specialised name value) expr expr') {context : Context}
    (bound : context.locals.get? name = some value) :
    Option.Rel (Expr.Agree Eq context context) expr expr' := by
  cases same with
  | some same => exact .some (same.agree context bound)
  | none => exact .none

/-- Branches are specialised if their conditions and bodies are. -/
theorem branches {tests tests' : List (Expr × Expr)} {otherwise otherwise' : Option Expr}
    (same : List.Forall₂ (RelatedPairs (Expr.Specialised name value)) tests tests')
    (last : Option.Rel (Expr.Specialised name value) otherwise otherwise') :
    Expr.Specialised name value (.branches tests otherwise) (.branches tests' otherwise') := by
  refine ofAgree rfl rfl fun context bound => Agree.branches ?_ (option last bound)
  -- Nothing is folded here.
  exact same.imp fun _ _ same => ⟨same.1.agree context bound, same.2.agree context bound⟩

/-- Rules agree where the variable is bound to the constant. -/
theorem rules {rules rules' : List (Option Expr × Expr)}
    (same : List.Forall₂ (RelatedRules (Expr.Specialised name value)) rules rules')
    {context : Context} (bound : context.locals.get? name = some value) :
    List.Forall₂ (AgreeRules Eq context context) (rules.map fun rule => Expr.rule rule.1 rule.2)
      (rules'.map fun rule => Expr.rule rule.1 rule.2) := by
  rw [List.forall₂_map_left_iff, List.forall₂_map_right_iff]
  refine same.imp ?_
  rintro ⟨test, body⟩ ⟨test', body'⟩ ⟨first, second⟩
  refine ⟨?_, second.agree context bound⟩
  cases first with
  | none => exact fun site => .pure rfl
  | some first =>
    -- Both tests apply where the expressions themselves do.
    intro site
    have inside := (first.agree context bound site).applies rfl
    exact (toCase_agree _ site).trans (inside.trans (toCase_agree _ site).symm)

/-- Cases are specialised if the subject, the tests and the bodies are. -/
theorem cases {subject subject' : Option Expr} {rules rules' : List (Option Expr × Expr)}
    (first : Option.Rel (Expr.Specialised name value) subject subject')
    (same : List.Forall₂ (RelatedRules (Expr.Specialised name value)) rules rules') :
    Expr.Specialised name value (.cases subject (rules.map fun rule => Expr.rule rule.1 rule.2))
      (.cases subject' (rules'.map fun rule => Expr.rule rule.1 rule.2)) := by
  refine ofAgree rfl rfl fun context bound => ?_
  -- With a subject the cases are tried on its value, which is the same on both sides.
  cases first with
  | none => exact Agree.cases (Specialised.rules same bound)
  | some first =>
    exact Agree.casesOf (first.agree context bound) fun value => Specialised.rules same bound

/-- A sign before a specialised expression makes a specialised one. -/
theorem signed (sign : PrefixSign) {operand operand' : Expr}
    (same : Expr.Specialised name value operand operand') :
    Expr.Specialised name value (Expr.signed sign operand) (Expr.signed sign operand') := by
  have unmarked (operand : Expr) (constant : Value)
      (given : Expr.signed sign operand = .literal constant) : constant.isMarker = false := by
    unfold Expr.signed at given
    split at given
    next value known =>
      obtain rfl := Expr.literal.inj given
      exact isMarker_of_signed? known
    next => cases sign <;> cases given
  refine ⟨unmarked operand, unmarked operand', fun context bound => ?_⟩
  have inside : Expr.Agree Eq context context (turned sign operand) (turned sign operand') := by
    cases sign with
    | negate => exact (same.agree context bound).negate
    | not => exact (same.agree context bound).not
  -- Turning a constant when it is compiled is turning it at each call.
  exact (signed_agree sign operand).trans (inside.trans (signed_agree sign operand').symm)

/-- A sign between specialised expressions makes a specialised one. -/
theorem joined (sign : Sign) {left left' right right' : Expr}
    (first : Expr.Specialised name value left left')
    (second : Expr.Specialised name value right right') :
    Expr.Specialised name value (Expr.joined sign left right) (Expr.joined sign left' right') := by
  -- Nothing is folded between two expressions.
  cases sign with
  | coalesce =>
    exact ofAgree rfl rfl fun context bound =>
      (first.agree context bound).coalesce (second.agree context bound)
  | operator operator =>
    exact ofAgree rfl rfl fun context bound =>
      (first.agree context bound).binary operator (second.agree context bound)

/-- A segment behind a specialised expression makes a specialised one. -/
theorem child (segment : String) {target target' : Expr}
    (same : Expr.Specialised name value target target') :
    Expr.Specialised name value (target.child segment) (target'.child segment) := by
  have plain (target : Expr) : (target.child segment).literal? = none := by
    cases target <;> rfl
  refine ofAgree (plain target) (plain target') fun context bound => ?_
  -- A path that grows reads the same part as a step behind it.
  exact (child_agree segment target).trans
    (((same.agree context bound).get segment).trans (child_agree segment target').symm)

/-- A lambda is specialised if its body is. -/
theorem lambda (label : String) {body body' : Expr}
    (same : Expr.Specialised name value body body') :
    Expr.Specialised name value (.lambda label body) (.lambda label body') := by
  refine ofAgree rfl rfl fun context bound => Agree.lambda label ?_
  -- A name for the current value leaves the variables as they are.
  cases context.value with
  | none => exact .none
  | some current =>
    refine .some (same.agree _ ?_)
    unfold Context.bind
    split <;> exact bound

/-- A call of a function is specialised if its arguments are, and no constant is a marker. -/
theorem call {environment : Environment} (unmarked : environment.Unmarked) (label : String)
    {given given' : List (Argument Expr)}
    (same : List.Forall₂ (Argument.Related (Expr.Specialised name value)) given given') :
    Compile.Match (Expr.Specialised name value) (Compile.call environment label given)
      (Compile.call environment label given') := by
  refine Compile.call_match environment label fun function calls => ?_
  -- A call is folded to the constant that the function stands for, or to a range.
  have plain (slots : List (Slot Expr)) (expr : Expr)
      (given : Compile.folded function slots = .ok expr) (constant : Value)
      (literal : expr = .literal constant) : constant.isMarker = false := by
    rcases Compile.folded_cases given with rfl | ⟨value, _, prepared, rfl⟩
    · cases literal
    · obtain rfl := Expr.literal.inj literal
      rcases Function.unmarked_of_constant prepared with holds | ⟨other, rfl⟩
      · exact holds
      · exact unmarked label other value calls
  refine (function.signature.bindSlots_specialised same).bind fun slots slots' related => ?_
  intro expr expr' first second
  refine ⟨plain slots expr first, plain slots' expr' second, fun context bound => ?_⟩
  have inside : Expr.Agree Eq context context (.call function slots) (.call function slots') :=
    Agree.call function (related context bound) fun site bound call call' _ alike => alike.run
  -- Folding the call changes neither side.
  exact (folded_agree first).trans (inside.trans (folded_agree second).symm)

/-- A call of a method is specialised if its target and arguments are. -/
theorem method (environment : Environment) (label : String) {target target' : Expr}
    {given given' : List (Argument Expr)} (first : Expr.Specialised name value target target')
    (same : List.Forall₂ (Argument.Related (Expr.Specialised name value)) given given') :
    Compile.Match (Expr.Specialised name value) (Compile.method environment target label given)
      (Compile.method environment target' label given') := by
  refine Compile.method_match environment label fun method => ?_
  -- Nothing is folded here, whatever is checked before.
  refine (method.signature.bindSlots_specialised same).bind fun slots slots' related => ?_
  intro expr expr' left right
  obtain rfl := Compile.checked_eq left
  obtain rfl := Compile.checked_eq right
  exact ofAgree rfl rfl fun context bound =>
    (first.agree context bound).method method (related context bound)

end Expr.Specialised

/-- Expressions with a constant and with a variable in its place are built of such expressions. -/
theorem Expr.specialised_respects {environment : Environment} (unmarked : environment.Unmarked)
    (name : String) (value : Value) :
    Compile.Respects environment (fun constant => constant.isMarker = false)
      fun _ => Expr.Specialised name value where
  atom _ atomic := Value.isMarker_of_isAtom atomic
  literal names constant written := by
    -- What is written is no marker, and a literal agrees with itself.
    refine ⟨?_, ?_, fun _ _ => .refl _⟩ <;>
    · rintro _ ⟨⟩
      exact written
  binding _ _ := .same rfl
  metadata _ _ := .same rfl
  root _ := .same rfl
  current _ := .same rfl
  name names name := .same (by unfold Expr.ofName; split <;> rfl)
  array same := .array same
  object same := .object same
  branches same last := .branches same last
  cases first same := .cases first same
  call label same := .call unmarked label same
  signed sign same := .signed sign same
  joined sign first second := .joined sign first second
  child segment same := .child segment same
  method label first same := .method environment label first same
  lambda same := .lambda _ same

/-- A place of an expression holds a constant in brackets, or a variable. -/
inductive Term.Swapped (constant : Term) (name : String) : Term → Term → Prop where
  | plain (span : Span) : Swapped constant name (.nested span constant) (.variable name)
  | nested (span span' : Span) :
      Swapped constant name (.nested span constant) (.nested span' (.variable name))

/-- A constant in brackets and a variable are compiled to the constant and the variable. -/
theorem Term.Writes.relatesHoles {environment : Environment} {constant : Term}
    (written : Term.Writes constant value) :
    Term.RelatesHoles environment (fun _ => Expr.Specialised name value)
      (Term.Swapped constant name) := by
  intro depth names term term' swapped
  have plain (setting : Compile.Setting) :
      Compile.Gives (fun expr => expr = .variable name [])
        (Term.compile setting (.variable name)) :=
    .pure rfl
  have related (expr expr' : Expr) (first : expr = .literal value)
      (second : expr' = .variable name []) : Expr.Specialised name value expr expr' := by
    rw [first, second]
    exact .hole written.unmarked
  -- The constant is compiled to its literal wherever it stands, and the variable is a variable.
  cases swapped with
  | plain span => exact ((Term.Writes.nested span written).compile _).toMatch (plain _) related
  | nested span span' =>
    refine ((Term.Writes.nested span written).compile _).toMatch ?_ related
    simp only [Term.compile]
    split
    · exact plain ⟨environment, depth + 1, names⟩
    · exact .failure _

/-- In the expressions that an environment compiles, a constant can be put in place of a variable
that is bound to it: if both compile, they give the same value or fail both, from equal memories,
and leave equal memories. -/
def Environment.Specialises (environment : Environment) : Prop :=
  ∀ {constant : Term} {value : Value} {name : String} {term term' : Term}
    {warnings warnings' : List String} {expr expr' : Expr} {context : Context},
    Term.Writes constant value →
    Term.Filled (fun literal => literal.isMarker = false) (Term.Swapped constant name) term term' →
    ((term.compile ⟨environment, 0, []⟩).run.run warnings).1 = .ok expr →
    ((term'.compile ⟨environment, 0, []⟩).run.run warnings').1 = .ok expr' →
    context.locals.get? name = some value → Expr.Agree Eq context context expr expr'

/-- Without markers among its functions, an environment specialises expressions. -/
theorem Environment.Unmarked.specialises {environment : Environment}
    (unmarked : environment.Unmarked) : environment.Specialises := by
  intro constant value name term term' warnings warnings' expr expr' context written filled
    compiled compiled' bound
  -- Specialised parts make specialised expressions, and the holes are filled with such parts.
  have related := Term.compile_related (Expr.specialised_respects unmarked name value)
    written.relatesHoles 0 [] filled
  exact (related warnings warnings' expr expr' compiled compiled').agree context bound

/-- An object with a call of a function that takes no arguments, and with another field. -/
def Term.beside (called : String) (last : Term) : Term :=
  .object [(⟨0, 0⟩, .literal (.string "a"), .call ⟨0, 0⟩ called []),
    (⟨0, 0⟩, .literal (.string "b"), last)]

/-- A call of a constant is compiled to its literal. -/
theorem Compile.call_constant {environment : Environment} {called label : String} {value : Value}
    (calls : Compile.Calls called environment.functions (.constant label value))
    (warnings : List String) :
    ∃ after, (Compile.call environment called []).run.run warnings =
      (.ok (.literal value), after) := by
  obtain ⟨entry, found, function⟩ := calls
  rw [Compile.call_eq]
  unfold Compile.lookUp Environment.entry
  rw [found]
  simp only [Compile.ofExcept, pure_bind]
  -- Whether the function is deprecated or not, its value is known.
  split <;>
  · refine ⟨_, Prod.ext ?_ rfl⟩
    rw [function]
    rfl

/-- What follows a compilation that succeeds starts from its result and its warnings. -/
theorem Compile.run_bind {α β : Type} {action : Compile α} {next : α → Compile β} {result : α}
    {warnings after : List String} (first : action.run.run warnings = (.ok result, after)) :
    (action >>= next).run.run warnings = (next result).run.run after := by
  simp only [ExceptT.run_bind, StateT.run_bind, first]
  rfl

/-- Another text for an error does not change a compilation that succeeds. -/
theorem Compile.run_adapt {α : Type} {action : Compile α} {result : α}
    {warnings after : List String} (change : Error → Error)
    (first : action.run.run warnings = (.ok result, after)) :
    (ExceptT.adapt change action).run.run warnings = (.ok result, after) := by
  change ((action.run.run warnings).1.mapError change, (action.run.run warnings).2) = _
  -- There is no error whose text could be changed.
  rw [first]
  rfl

/-- An object with a call of a constant and another field is compiled to the entries of both. -/
theorem Term.compile_beside {environment : Environment} {called label : String} {value : Value}
    (calls : Compile.Calls called environment.functions (.constant label value)) {last : Term}
    {expr : Expr} (given : ∀ warnings, (last.compile ⟨environment, 0, []⟩).run.run warnings =
      (.ok expr, warnings)) :
    (((Term.beside called last).compile ⟨environment, 0, []⟩).run.run []).1 =
      .ok (Expr.ofEntries [(.literal (.string "a"), .literal value),
        (.literal (.string "b"), expr)]) := by
  obtain ⟨after, first⟩ := Compile.call_constant calls []
  have placed : (Compile.placed "function" ⟨0, 0⟩
      (Compile.call environment called [])).run.run [] = (.ok (.literal value), after) :=
    Compile.run_adapt _ first
  simp only [Term.beside, Term.compile, Term.compileEntries, Term.compileArguments, Expr.literal?,
    pure_bind, bind_assoc]
  -- The call comes first, and the other field starts from its warnings.
  rw [Compile.run_bind placed, Compile.run_bind (given after)]
  rfl

/-- An environment that specialises expressions has no markers among its functions: next to such a
marker a constant makes an object known, and so keeps the marker in it, while a variable does
not. -/
theorem Environment.Specialises.unmarked {environment : Environment}
    (specialises : environment.Specialises) (deep : 0 < environment.depthLimit) :
    environment.Unmarked := by
  intro called label value calls
  cases marked : value.isMarker with
  | false => rfl
  | true =>
    -- A constant next to the marker makes the object known; a variable in its place does not.
    have constant (warnings : List String) :
        ((Term.nested ⟨0, 0⟩ (.literal .null)).compile ⟨environment, 0, []⟩).run.run warnings =
          (.ok (.literal .null), warnings) := by
      simp only [Term.compile]
      rw [if_pos (show 0 + 1 ≤ environment.depthLimit from deep)]
      rfl
    have compiled := Term.compile_beside calls constant
    have compiled' : (((Term.beside called (.variable "v")).compile
        ⟨environment, 0, []⟩).run.run []).1 = .ok (Expr.ofEntries
          [(.literal (.string "a"), .literal value), (.literal (.string "b"), .variable "v" [])]) :=
      Term.compile_beside calls fun warnings => rfl
    have filled : Term.Filled (fun literal => literal.isMarker = false)
        (Term.Swapped (.literal .null) "v") (Term.beside called (.nested ⟨0, 0⟩ (.literal .null)))
        (Term.beside called (.variable "v")) := by
      refine .object (.cons _ _ (.literal rfl) (.call _ _ _ .nil) ?_)
      refine .cons _ _ (.literal rfl) ?_ .nil
      exact .hole (.plain _)
    let context : Context := { Context.bare ⟨[], ⟨0, 0⟩⟩ with locals := [("v", .null)] }
    have agree : Expr.Agree Eq context context _ _ :=
      specialises (.literal rfl) filled compiled compiled' rfl
    obtain ⟨same, _⟩ := agree [] (rfl : Memory.fresh (.seeded 0) = _)
    -- The known object keeps the marker, and the other one leaves it out.
    have kept : Value.object [("a", value), ("b", .null)] = .object [("b", .null)] := by
      cases value with
      | delete | nothing => exact same.related_of_ok rfl rfl
      | _ => cases marked
    simp at kept

/-- A constant and a variable that is bound to it are interchangeable in the expressions of an
environment exactly if none of its functions is a constant that is a marker. -/
theorem Environment.specialises_iff {environment : Environment}
    (deep : 0 < environment.depthLimit) : environment.Specialises ↔ environment.Unmarked :=
  ⟨fun specialises => specialises.unmarked deep, fun unmarked => unmarked.specialises⟩

/-- In the standard environment constants and variables are interchangeable. -/
theorem Environment.specialises_iff_of_standard :
    0 < Environment.standard.depthLimit ∧ Environment.standard.Specialises := by
  have deep : 0 < Environment.standard.depthLimit := by decide
  exact ⟨deep, (Environment.specialises_iff deep).2 Environment.standard_unmarked⟩

/-- The standard environment with a constant of an application that is a marker. -/
def Environment.withGone : Environment :=
  { Environment.standard with
    functions := Environment.standard.functions.insert "gone"
      ⟨.constant "gone" .delete, Function.applicationNotes⟩ }

/-- With a marker among the functions, constants and variables are not interchangeable. -/
theorem Environment.not_specialises : ¬Environment.withGone.Specialises := by
  intro specialises
  -- The marker is one of the functions.
  have calls : Compile.Calls "gone" Environment.withGone.functions
      (.constant "gone" .delete) := ⟨_, rfl, rfl⟩
  have unmarked := specialises.unmarked (by decide) "gone" "gone" .delete calls
  cases unmarked

end Reshape
