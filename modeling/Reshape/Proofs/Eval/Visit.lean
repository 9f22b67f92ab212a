import Reshape.Proofs.Eval.Denote
import Reshape.Proofs.Expr.Part

/-!
Visits: the contexts in which the parts of an expression are evaluated. A visit is allowed for each
value that a method or a match could narrow the context to, so that there are no fewer visits than
the evaluator makes: what an expression gives depends on its parts only where they are visited.
-/

namespace Reshape

/-- An expression is evaluated in a context while a whole is, inside lambdas that have bound some
names, the innermost first. -/
inductive Visits (whole : Expr) (start : Context) :
    List (String × Value) → Expr → Context → Prop where
  | start : Visits whole start [] whole start
  /-- A part is evaluated in the context of the expression around it. -/
  | here {frames : List (String × Value)} {outer inner : Expr} {context : Context}
      (visits : Visits whole start frames outer context) (part : (.here, inner) ∈ outer.parts) :
      Visits whole start frames inner context
  /-- A part is evaluated on an element or on the subject of a match. -/
  | narrowed {frames : List (String × Value)} {outer inner : Expr} {context : Context}
      (visits : Visits whole start frames outer context)
      (part : (.narrowed, inner) ∈ outer.parts) (value : Value) :
      Visits whole start frames inner (context.narrow value)
  /-- The body of a lambda is evaluated after the current value is bound. -/
  | bound {frames : List (String × Value)} {name : String} {body : Expr} {context : Context}
      {value : Value} (visits : Visits whole start frames (.lambda name body) context)
      (current : context.value = some value) :
      Visits whole start ((name, value) :: frames) body (context.bind name value)

variable {memories : Memory → Memory → Prop} {context context' : Context} {change : Expr → Expr}

/-- A slot corresponds to the changed one if its expression agrees with the changed one where the
call may evaluate it. -/
theorem Slot.agree_map {isScoped : Bool} (parameter : Option Parameter) (slot : Slot Expr)
    (same : ∀ manner part, (manner, part) ∈ slot.parts isScoped → ∀ inner inner',
      manner.LeadsBoth context context' inner inner' →
        Expr.Agree memories inner inner' part (change part)) :
    Slot.Agree memories context context' isScoped parameter slot (slot.map change) := by
  cases slot with
  | absent => exact .absent
  | value given => exact .value given
  | query expr =>
    refine .query fun site => ?_
    -- A query on the target is run on any element, any other query where the call is.
    cases isScoped with
    | true => exact fun value => same _ _ (.head _) _ _ ⟨value, rfl, rfl⟩ site
    | false => exact same _ _ (.head _) _ _ ⟨rfl, rfl⟩ site
  | dynamic expr => exact .dynamic (same _ _ (.head _) _ _ ⟨rfl, rfl⟩)

/-- The slots of a call correspond to the changed ones if the expressions in them agree with the
changed ones where the call may evaluate them. -/
theorem Expr.agreeSlots_map (signature : Signature) (slots : List (Slot Expr))
    (same : ∀ manner part, (manner, part) ∈ signature.parts slots → ∀ inner inner',
      manner.LeadsBoth context context' inner inner' →
        Expr.Agree memories inner inner' part (change part)) :
    Expr.AgreeSlots memories context context' signature slots (slots.map (Slot.map change)) := by
  unfold Signature.parts at same
  unfold AgreeSlots Signature.Related
  -- Parts are listed for the signature in the same two ways in which slots are related.
  split at same
  next variadic =>
    rw [if_pos variadic, List.forall₂_map_right_iff, List.forall₂_same]
    intro slot member
    exact Slot.agree_map none slot fun manner part inside =>
      same manner part (List.mem_flatMap.2 ⟨slot, member, inside⟩)
  next declared =>
    rw [if_neg declared]
    generalize signature.parameters = parameters at same
    induction parameters generalizing slots with
    | nil => exact .done
    | cons parameter parameters ih =>
      cases slots with
      | nil => exact .short
      | cons slot slots =>
        rw [List.zip_cons_cons, List.flatMap_cons] at same
        refine .next (Slot.agree_map _ slot fun manner part inside => ?_) (ih slots ?_)
        · exact same manner part (List.mem_append_left _ inside)
        · exact fun manner part inside => same manner part (List.mem_append_right _ inside)

/-- Pairs agree with the changed ones if their expressions do. -/
theorem Expr.agreePairs_map (pairs : List (Expr × Expr))
    (same : ∀ part, (Manner.here, part) ∈ pairParts pairs →
      Expr.Agree memories context context' part (change part)) :
    List.Forall₂ (AgreePairs memories context context') pairs
      (pairs.map fun (first, second) => (change first, change second)) := by
  rw [List.forall₂_map_right_iff, List.forall₂_same]
  rintro ⟨first, second⟩ member
  -- Both expressions of a pair are parts of the whole.
  have inside (part : Expr) (either : part = first ∨ part = second) :
      (Manner.here, part) ∈ pairParts pairs :=
    List.mem_flatMap.2 ⟨_, member, by simpa using either⟩
  exact ⟨same first (inside first (.inl rfl)), same second (inside second (.inr rfl))⟩

/-- Rules agree with the changed ones on a current value if their expressions do. -/
theorem Expr.agreeRules_map (manner : Manner) (rules : List (Case Expr × Expr))
    (same : ∀ part, (manner, part) ∈ ruleParts manner rules →
      Expr.Agree memories context context' part (change part))
    (current : context'.value = context.value) :
    List.Forall₂ (AgreeRules memories context context') rules
      (rules.map fun (case, body) => (case.map change, change body)) := by
  rw [List.forall₂_map_right_iff, List.forall₂_same]
  rintro ⟨case, body⟩ member
  have inside (part : Expr) (either : part ∈ case.tests ++ [body]) :
      Expr.Agree memories context context' part (change part) :=
    same part (List.mem_flatMap.2 ⟨_, member, List.mem_map_of_mem either⟩)
  refine ⟨fun site => ?_, inside body (by simp)⟩
  -- A constant and a test that gives no truth value are compared with the current value.
  cases case with
  | wildcard => exact .pure rfl
  | equals value => exact .pure (by rw [current])
  | query test => exact Query.Agree.applies (inside test (.head _) site) current

/-- An expression looks at its context by itself, and not only through its parts. -/
def Expr.looks : Expr → Bool
  | .field .. | .variable .. | .metadata _ | .cases none _ | .lambda .. | .call .. => true
  | _ => false

/-- Expressions that agree in the contexts that they are led to make expressions that agree, unless
these look at their contexts by themselves. -/
theorem Expr.agree_mapParts (expr : Expr)
    (same : ∀ manner part, (manner, part) ∈ expr.parts → ∀ inner inner',
      manner.LeadsBoth context context' inner inner' →
        Expr.Agree memories inner inner' part (change part))
    (looks : expr.looks = true →
      Expr.Agree memories context context' expr (expr.mapParts change)) :
    Expr.Agree memories context context' expr (expr.mapParts change) := by
  have here (part : Expr) (member : (Manner.here, part) ∈ expr.parts) :
      Expr.Agree memories context context' part (change part) :=
    same .here part member context context' ⟨rfl, rfl⟩
  -- Each way to build an expression preserves agreement.
  cases expr with
  | literal value => exact fun site => .pure rfl
  | get target segment => exact (here target (by simp [parts])).get segment
  | array items =>
    refine Agree.array ?_
    rw [List.forall₂_map_right_iff, List.forall₂_same]
    exact fun item member => here item (by simpa [parts] using member)
  | object entries => exact Agree.object (agreePairs_map entries here)
  | binary operator left right =>
    exact (here left (by simp [parts])).binary operator (here right (by simp [parts]))
  | coalesce left right =>
    exact (here left (by simp [parts])).coalesce (here right (by simp [parts]))
  | not inner => exact (here inner (by simp [parts])).not
  | negate inner => exact (here inner (by simp [parts])).negate
  | branches tests otherwise =>
    refine Agree.branches (agreePairs_map tests fun part member => ?_) ?_
    · exact here part (List.mem_append_left _ member)
    · cases otherwise with
      | none => exact .none
      | some body => exact .some (here body (by simp [parts]))
  | cases subject rules =>
    cases subject with
    | none => exact looks rfl
    | some subject =>
      refine Agree.casesOf (here subject (by simp [parts])) fun value => ?_
      refine agreeRules_map .narrowed rules (fun part member => ?_) rfl
      exact same .narrowed part (List.mem_cons_of_mem _ member) _ _ ⟨value, rfl, rfl⟩
  | method target called list =>
    refine Agree.method called (here target (by simp [parts])) ?_
    refine agreeSlots_map called.signature list fun manner part member => ?_
    exact same manner part (List.mem_cons_of_mem _ member)
  | _ => exact looks rfl

end Reshape
