import Reshape.Eval.Denote
import Reshape.Proofs.Eval.Call

/-!
Agreement of expressions: each way to build an expression preserves it. The parts of an expression
have sites of their own, so agreement of a part is asked for at every site.
-/

namespace Reshape

variable {memories : Memory → Memory → Prop} {context context' : Context}

/-- Two expressions agree: wherever both stand, each evaluated in a context of its own, they give
equal values or fail. -/
def Expr.Agree (memories : Memory → Memory → Prop) (context context' : Context)
    (expr expr' : Expr) : Prop :=
  ∀ site, Query.Agree memories context context' (expr.denote site) (expr'.denote site)

/-- Two expressions agree where a call runs them. -/
def Expr.AgreeOn (memories : Memory → Memory → Prop) (context context' : Context)
    (isScoped : Bool) (expr expr' : Expr) : Prop :=
  ∀ site, Query.AgreeOn memories context context' isScoped (expr.denote site) (expr'.denote site)

/-- Two slots correspond when the calls that they belong to are evaluated. -/
def Slot.Agree (memories : Memory → Memory → Prop) (context context' : Context)
    (isScoped : Bool) (parameter : Option Parameter) (slot slot' : Slot Expr) : Prop :=
  ∀ site, Query.Resolves memories context context' isScoped parameter
    (Expr.denoteSlot site slot) (Expr.denoteSlot site slot')

/-- Two cases agree on whether they apply. -/
def Case.Agree (memories : Memory → Memory → Prop) (context context' : Context)
    (case case' : Case Expr) : Prop :=
  ∀ site, Eval.Agree memories Eq (Query.applies context (Expr.denoteCase site case))
    (Query.applies context' (Expr.denoteCase site case'))

namespace Slot.Agree

variable {isScoped : Bool} {parameter : Option Parameter}

/-- A slot without a value corresponds to another one. -/
theorem absent : Slot.Agree memories context context' isScoped parameter .absent .absent :=
  fun _ => Eval.Agree.pure .absent

/-- Slots of the same value correspond. -/
theorem value (value : Value) :
    Slot.Agree memories context context' isScoped parameter (.value value) (.value value) :=
  fun _ => Eval.Agree.pure (.value value)

/-- Slots of expressions that agree where the call runs them correspond. -/
theorem query {expr expr' : Expr}
    (agree : Expr.AgreeOn memories context context' isScoped expr expr') :
    Slot.Agree memories context context' isScoped parameter (.query expr) (.query expr') :=
  fun site => Eval.Agree.pure (.query (agree site))

/-- The slot that a value leaves holds no expression. -/
theorem ofValue {ε ε' : Type} {related : ε → ε' → Prop} (parameter : Parameter) (given : Value) :
    Outcome.Agree (Slot.Alike related) (Slot.ofValue parameter given)
      (Slot.ofValue parameter given) := by
  have null : Slot.Alike related (Slot.ofNull parameter) (Slot.ofNull parameter) := by
    unfold Slot.ofNull
    cases parameter.standard with
    | some constant => exact .value constant
    | none => exact .absent
  -- A null may stand for a missing argument; any other value is converted, or is of a wrong kind.
  unfold Slot.ofValue
  split
  · exact .value null
  · cases parameter.kind.convert given with
    | ok converted => exact .value (.value converted)
    | error unexpected => exact .failure _ _

/-- Slots of queries that agree get corresponding values. -/
theorem ofDynamic {query query' : Query}
    (agree : Query.Agree memories context context' query query') :
    Query.Resolves memories context context' isScoped parameter (.dynamic query)
      (.dynamic query') := by
  -- The value at the call decides what the slot holds.
  refine agree.read.andThen fun given => ?_
  cases parameter with
  | none => exact .pure (.value given)
  | some parameter =>
    have same : Outcome.Agree (Slot.Alike (Query.AgreeOn memories context context' isScoped))
        (Slot.ofValue parameter given) (Slot.ofValue parameter given) := ofValue parameter given
    dsimp only
    generalize (Slot.ofValue parameter given : Except Error (Slot Query)) = slot at same ⊢
    cases same with
    | value agree => exact .pure agree
    | failure error _ => exact .failure _ _

/-- Slots of expressions that agree get corresponding values. -/
theorem dynamic {expr expr' : Expr} (agree : Expr.Agree memories context context' expr expr') :
    Slot.Agree memories context context' isScoped parameter (.dynamic expr) (.dynamic expr') :=
  fun site => ofDynamic (agree site)

end Slot.Agree

namespace Expr

/-- Expressions that agree pairwise have meanings that do. -/
theorem denoteAll_agree {items items' : List Expr}
    (agree : List.Forall₂ (Expr.Agree memories context context') items items') (site : Site)
    (position : Nat) :
    List.Forall₂ (Query.Agree memories context context') (denoteAll site position items)
      (denoteAll site position items') := by
  -- Each expression has a site of its own, so the lemma has to hold from any position.
  induction agree generalizing position with
  | nil => exact .nil
  | cons first _ ih => exact .cons (first _) (ih _)

/-- Two pairs of expressions agree if both expressions of one do with those of the other. -/
abbrev AgreePairs (memories : Memory → Memory → Prop) (context context' : Context)
    (pair pair' : Expr × Expr) : Prop :=
  Expr.Agree memories context context' pair.1 pair'.1 ∧
    Expr.Agree memories context context' pair.2 pair'.2

/-- Pairs of expressions that agree have meanings that do. -/
theorem denotePairs_agree {pairs pairs' : List (Expr × Expr)}
    (agree : List.Forall₂ (AgreePairs memories context context') pairs pairs') (site : Site)
    (position : Nat) :
    List.Forall₂ (Query.Agree.Pairs memories context context') (denotePairs site position pairs)
      (denotePairs site position pairs') := by
  -- A pair takes two positions.
  induction agree generalizing position with
  | nil => exact .nil
  | cons first _ ih => exact .cons ⟨first.1 _, first.2 _⟩ (ih _)

/-- Optional expressions that agree have meanings that do. -/
theorem denoteOption_agree {expr expr' : Option Expr}
    (agree : Option.Rel (Expr.Agree memories context context') expr expr') (site : Site) :
    Option.Rel (Query.Agree memories context context') (denoteOption site expr)
      (denoteOption site expr') := by
  -- There is an expression on both sides or on none.
  cases agree with
  | some agree => exact .some (agree site)
  | none => exact .none

/-- Two rules agree if they do on whether they apply and on what they give. -/
abbrev AgreeRules (memories : Memory → Memory → Prop) (context context' : Context)
    (rule rule' : Case Expr × Expr) : Prop :=
  Case.Agree memories context context' rule.1 rule'.1 ∧
    Expr.Agree memories context context' rule.2 rule'.2

/-- Rules that agree pairwise have meanings that do. -/
theorem denoteCases_agree {rules rules' : List (Case Expr × Expr)}
    (agree : List.Forall₂ (AgreeRules memories context context') rules rules') (site : Site)
    (position : Nat) :
    List.Forall₂
      (fun rule rule' =>
        Eval.Agree memories Eq (Query.applies context rule.1) (Query.applies context' rule'.1) ∧
          Query.Agree memories context context' rule.2 rule'.2)
      (denoteCases site position rules) (denoteCases site position rules') := by
  -- A case and what applies in it take two positions.
  induction agree generalizing position with
  | nil => exact .nil
  | cons first _ ih => exact .cons ⟨first.1 _, first.2 _⟩ (ih _)

/-- The slots of two calls correspond when the calls are evaluated. -/
abbrev AgreeSlots (memories : Memory → Memory → Prop) (context context' : Context)
    (signature : Signature) (slots slots' : List (Slot Expr)) : Prop :=
  signature.Related
    (fun parameter => Slot.Agree memories context context' parameter.isScoped (some parameter))
    (Slot.Agree memories context context' false none) slots slots'

/-- Slots that correspond have meanings that do. -/
theorem denoteSlots_agree {signature : Signature} {slots slots' : List (Slot Expr)}
    (agree : AgreeSlots memories context context' signature slots slots') (site : Site)
    (position : Nat) :
    signature.Resolves memories context context' (denoteSlots site position slots)
      (denoteSlots site position slots') := by
  unfold AgreeSlots Signature.Related at agree
  unfold Signature.Resolves Signature.Related
  -- The signature decides in which of the two ways its slots are related.
  split at agree
  next variadic =>
    rw [if_pos variadic]
    induction agree generalizing position with
    | nil => exact .nil
    | cons first _ ih => exact .cons (first _) (ih _)
  next declared =>
    rw [if_neg declared]
    generalize signature.parameters = parameters at agree ⊢
    induction agree generalizing position with
    | done => exact .done
    | short => exact .short
    | next first _ ih => exact .next (first _) (ih _)

namespace Agree

/-- Parts of values that agree are equal. -/
theorem get {target target' : Expr} (agree : Expr.Agree memories context context' target target')
    (segment : String) :
    Expr.Agree memories context context' (.get target segment) (.get target' segment) := by
  intro site
  exact (agree _).read.apply _

/-- Arrays of expressions that agree are equal. -/
theorem array {items items' : List Expr}
    (agree : List.Forall₂ (Expr.Agree memories context context') items items') :
    Expr.Agree memories context context' (.array items) (.array items') := by
  intro site
  exact (Query.Agree.items (denoteAll_agree agree _ _)).apply _

/-- Objects of keys and values that agree are equal. -/
theorem object {entries entries' : List (Expr × Expr)}
    (agree : List.Forall₂ (AgreePairs memories context context') entries entries') :
    Expr.Agree memories context context' (.object entries) (.object entries') := by
  intro site
  exact (Query.Agree.fields (denotePairs_agree agree _ _) []).apply _

/-- An operator on operands that agree gives the same. -/
theorem binary (operator : Operator) {left left' right right' : Expr}
    (first : Expr.Agree memories context context' left left')
    (second : Expr.Agree memories context context' right right') :
    Expr.Agree memories context context' (.binary operator left right)
      (.binary operator left' right') :=
  fun _ => Query.Agree.binary operator (first _) (second _)

/-- Alternatives that agree give the same. -/
theorem coalesce {left left' right right' : Expr}
    (first : Expr.Agree memories context context' left left')
    (second : Expr.Agree memories context context' right right') :
    Expr.Agree memories context context' (.coalesce left right) (.coalesce left' right') :=
  fun _ => Query.Agree.coalesce (first _) (second _)

/-- Truth values that agree are turned alike. -/
theorem not {inner inner' : Expr}
    (agree : Expr.Agree memories context context' inner inner') :
    Expr.Agree memories context context' (.not inner) (.not inner') :=
  fun _ => (agree _).truth.map fun _ _ same => congrArg (fun truth => Value.bool !truth) same

/-- Numbers that agree are turned alike. -/
theorem negate {inner inner' : Expr}
    (agree : Expr.Agree memories context context' inner inner') :
    Expr.Agree memories context context' (.negate inner) (.negate inner') :=
  fun _ => (agree _).negate

/-- Branches that agree give the same. -/
theorem branches {tests tests' : List (Expr × Expr)} {otherwise otherwise' : Option Expr}
    (agree : List.Forall₂ (AgreePairs memories context context') tests tests')
    (last : Option.Rel (Expr.Agree memories context context') otherwise otherwise') :
    Expr.Agree memories context context' (.branches tests otherwise)
      (.branches tests' otherwise') :=
  fun _ => Query.Agree.branches (denoteOption_agree last _) (denotePairs_agree agree _ _)

/-- Cases of the current value that agree give the same. -/
theorem cases {rules rules' : List (Case Expr × Expr)}
    (agree : List.Forall₂ (AgreeRules memories context context') rules rules') :
    Expr.Agree memories context context' (.cases none rules) (.cases none rules') :=
  fun _ => Query.Agree.cases (denoteCases_agree agree _ _)

/-- Cases of a subject agree if the subject does and the cases do on each value. -/
theorem casesOf {subject subject' : Expr} {rules rules' : List (Case Expr × Expr)}
    (same : Expr.Agree memories context context' subject subject')
    (agree : ∀ value, List.Forall₂
      (AgreeRules memories (context.narrow value) (context'.narrow value)) rules rules') :
    Expr.Agree memories context context' (.cases (some subject) rules)
      (.cases (some subject') rules') := by
  intro site
  -- Both subjects give the same value, on which the contexts are narrowed.
  refine (same _).read.andThen fun value => ?_
  exact Query.Agree.cases (denoteCases_agree (agree value) _ _)

/-- Lambdas agree if their bodies do where the current value is bound. -/
theorem lambda (name : String) {body body' : Expr}
    (agree : Option.Rel
      (fun value value' =>
        Expr.Agree memories (context.bind name value) (context'.bind name value') body body')
      context.value context'.value) :
    Expr.Agree memories context context' (.lambda name body) (.lambda name body') := by
  intro site
  -- The body is evaluated on each side where its own current value has the name.
  refine Query.Agree.lambda name ?_
  generalize context.value = current at agree ⊢
  generalize context'.value = current' at agree ⊢
  cases agree with
  | some agree => exact .some (agree _)
  | none => exact .none

/-- Calls of a function agree if their slots correspond and the calls that come of these agree. -/
theorem call (function : Function) {slots slots' : List (Slot Expr)}
    (agree : AgreeSlots memories context context' function.signature slots slots')
    (runs : ∀ site (bound : Bound Query) call call', function.prepare bound = .ok call →
      FunctionCall.Alike (Query.Agree memories context context') call call' →
        Eval.Agree memories Eq (call.run site context) (call'.run site context')) :
    Expr.Agree memories context context' (.call function slots) (.call function slots') :=
  fun site => Query.Agree.function site site function (denoteSlots_agree agree _ _) (runs site)

/-- Calls of a method agree if their targets do and their slots correspond. -/
theorem method {target target' : Expr} (method : Method) {slots slots' : List (Slot Expr)}
    (same : Expr.Agree memories context context' target target')
    (agree : AgreeSlots memories context context' method.signature slots slots') :
    Expr.Agree memories context context' (.method target method slots)
      (.method target' method slots') :=
  fun _ => Query.Agree.method method (same _) (denoteSlots_agree agree _ _)

end Agree

end Expr

end Reshape
