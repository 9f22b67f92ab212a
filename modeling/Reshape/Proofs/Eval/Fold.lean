import Reshape.Proofs.Eval.Denote
import Reshape.Proofs.Expr.Match
import Reshape.Proofs.Value.Path

/-!
Folding: a literal that the compiler makes of constant parts agrees with the expression that it
stands for. An object is the exception: a literal keeps the markers in it, which are left out of an
object that is put together at a call.
-/

namespace Reshape

/-- Items that a function has results for are what the results are mapped back to. -/
theorem eq_map_of_mapM {α β : Type} {f : α → Option β} {back : β → α}
    (inverts : ∀ a b, f a = some b → a = back b) {items : List α} {results : List β}
    (given : items.mapM f = some results) : items = results.map back := by
  -- The first item gives the first result, and the others give the others.
  induction items generalizing results with
  | nil =>
    obtain rfl := Option.some.inj given
    rfl
  | cons item rest ih =>
    rw [List.mapM_cons] at given
    obtain ⟨result, first, given⟩ := Option.bind_eq_some_iff.1 given
    obtain ⟨results, later, given⟩ := Option.bind_eq_some_iff.1 given
    obtain rfl := Option.some.inj given
    rw [List.map_cons, ← inverts _ _ first, ← ih later]

/-- Agreeing in equal values is symmetric. -/
theorem Outcome.Agree.symm {ε ε' α : Type} {left : Except ε α} {right : Except ε' α}
    (agree : Outcome.Agree Eq left right) : Outcome.Agree Eq right left := by
  -- Both sides give the same value or fail.
  cases agree with
  | value same => exact .value same.symm
  | failure first second => exact .failure second first

/-- Agreeing in equal values is transitive. -/
theorem Outcome.Agree.trans {ε ε' ε'' α : Type} {left : Except ε α} {middle : Except ε' α}
    {right : Except ε'' α} (first : Outcome.Agree Eq left middle)
    (second : Outcome.Agree Eq middle right) : Outcome.Agree Eq left right := by
  -- The outcome in the middle is a value or an error, and both sides go by it.
  cases first with
  | value same =>
    cases same
    cases second with
    | value same => exact .value same
  | failure error _ =>
    cases second with
    | failure _ error' => exact .failure error error'

namespace Eval.Agree

variable {α : Type} {left middle right : Eval α}

/-- Agreement in equal values from equal memories is symmetric. -/
theorem symm (agree : Eval.Agree Eq Eq left right) : Eval.Agree Eq Eq right left := by
  -- Both evaluations start from the same memory.
  rintro before _ rfl
  obtain ⟨same, reached⟩ := agree (rfl : before = before)
  exact ⟨same.symm, reached.symm⟩

/-- Agreement in equal values from equal memories is transitive. -/
theorem trans (first : Eval.Agree Eq Eq left middle) (second : Eval.Agree Eq Eq middle right) :
    Eval.Agree Eq Eq left right := by
  -- All three evaluations start from the same memory.
  rintro before _ rfl
  obtain ⟨same, reached⟩ := first (rfl : before = before)
  obtain ⟨later, after⟩ := second (rfl : before = before)
  exact ⟨same.trans later, reached.trans after⟩

end Eval.Agree

namespace Expr.Agree

variable {context : Context} {expr expr' expr'' : Expr}

/-- An expression agrees with itself. -/
theorem refl (expr : Expr) : Expr.Agree Eq context context expr expr := fun _ => Eval.Agree.refl _

/-- Agreement from equal memories is symmetric. -/
theorem symm (agree : Expr.Agree Eq context context expr expr') :
    Expr.Agree Eq context context expr' expr := fun site => Eval.Agree.symm (agree site)

/-- Agreement from equal memories is transitive. -/
theorem trans (first : Expr.Agree Eq context context expr expr')
    (second : Expr.Agree Eq context context expr' expr'') :
    Expr.Agree Eq context context expr expr'' :=
  fun site => Eval.Agree.trans (first site) (second site)

/-- Expressions that are evaluated to the same action agree. -/
theorem of_run_eq
    (same : ∀ site, (expr.denote site).run context = (expr'.denote site).run context) :
    Expr.Agree Eq context context expr expr' := by
  intro site
  unfold Query.Agree
  rw [same site]
  exact .refl _

end Expr.Agree

namespace Expr

variable {context : Context}

/-- An expression with a segment behind it gives that part of what the expression gives. -/
theorem child_agree (segment : String) (target : Expr) :
    Expr.Agree Eq context context (target.child segment) (.get target segment) := by
  have part {path : List String} (value : Value) :
      value.getOrNull (path ++ [segment]) = (value.getOrNull path).getOrNull [segment] :=
    Value.getOrNull_append path [segment] value
  -- Only paths from a value and paths into a variable grow; anything else is read step by step.
  cases target with
  | field scope path =>
    intro site
    simp only [Query.Agree, child, denote, Query.field, Query.read, Context.get]
    cases scope with
    | current =>
      cases context.value with
      | none => exact .failure _ _
      | some value => exact .pure (part value)
    | root =>
      cases context.root with
      | none => exact .failure _ _
      | some value => exact .pure (part value)
    | named name =>
      dsimp only
      cases context.named? name with
      | none => exact .failure _ _
      | some value => exact .pure (part value)
  | «variable» name path =>
    intro site
    simp only [Query.Agree, child, denote, Query.variableAt, Query.read]
    cases context.locals.get? name with
    | none => exact .failure _ _
    | some value => exact .pure (part value)
  | _ => exact .refl _

/-- A literal is the literal of its value. -/
theorem eq_of_literal? {expr : Expr} {value : Value} (constant : expr.literal? = some value) :
    expr = .literal value := by
  -- Only a literal has a constant.
  cases expr with
  | literal inner =>
    obtain rfl := Option.some.inj constant
    rfl
  | _ => cases constant

/-- The items that literals make are their values but for the markers. -/
theorem items_literal (site : Site) (position : Nat) (values : List Value) :
    Query.items context (denoteAll site position (values.map .literal)) =
      pure (values.filter fun value => !value.isMarker) := by
  -- Each literal gives its value at once, and markers are left out of an array that is folded as
  -- well.
  induction values generalizing position with
  | nil => rfl
  | cons value rest ih =>
    rw [List.map_cons, denoteAll, Query.items, ih, List.filter_cons]
    change (pure (if value.isMarker then _ else _) : Eval (List Value)) = _
    cases value.isMarker <;> rfl

/-- An array of constants agrees with the array that is put together of them. -/
theorem ofItems_agree (items : List Expr) :
    Expr.Agree Eq context context (ofItems items) (.array items) := by
  unfold ofItems
  -- Either all items are literals, or the array is left as it is.
  split
  next values constant =>
    obtain rfl := eq_map_of_mapM (fun _ _ => eq_of_literal?) constant
    refine .of_run_eq fun site => ?_
    simp only [denote, items_literal]
    rfl
  next => exact .refl _

/-- A constant entry is made of literals. -/
theorem eq_of_entry? {entry : Expr × Expr} {field : String × Value}
    (constant : entry? entry = some field) :
    entry = (.literal (.string field.1), .literal field.2) := by
  obtain ⟨key, value⟩ := entry
  obtain ⟨name, first, constant⟩ := Option.bind_eq_some_iff.1 constant
  obtain rfl := eq_of_literal? first
  -- The key of a constant entry is a text.
  cases name with
  | string name =>
    obtain ⟨value, second, constant⟩ := Option.bind_eq_some_iff.1 constant
    obtain rfl := eq_of_literal? second
    obtain rfl := Option.some.inj constant
    rfl
  | _ => cases constant

/-- The fields that constant entries make, if none of their values is a marker. -/
theorem fields_literal (site : Site) (position : Nat) {fields : List (String × Value)}
    (unmarked : ∀ field ∈ fields, field.2.isMarker = false) (done : Fields Value) :
    Query.fields context done (denotePairs site position
        (fields.map fun field => (.literal (.string field.1), .literal field.2))) =
      pure (fields.foldl (fun done field => done.insert field.1 field.2) done) := by
  -- No value is a marker, so each field is put in as the folding does it.
  induction fields generalizing position done with
  | nil => rfl
  | cons field rest ih =>
    have plain := unmarked field (.head _)
    have later := ih (position + 2) (fun other member => unmarked other (.tail _ member))
      (done.insert field.1 field.2)
    rw [List.foldl_cons, ← later, List.map_cons, denotePairs, Query.fields]
    change Query.fields context (if field.2.isMarker then done else _) _ = _
    rw [plain]
    rfl

/-- An object of constants agrees with the object that is put together of them, if none of its
values is a marker. -/
theorem ofEntries_agree {entries : List (Expr × Expr)}
    (unmarked : ∀ entry ∈ entries, ∀ value, entry.2 = .literal value → value.isMarker = false) :
    Expr.Agree Eq context context (ofEntries entries) (.object entries) := by
  unfold ofEntries
  -- Either all entries are constant, or the object is left as it is.
  split
  next fields constant =>
    obtain rfl := eq_map_of_mapM (fun _ _ => eq_of_entry?) constant
    refine .of_run_eq fun site => ?_
    have plain : ∀ field ∈ fields, field.2.isMarker = false := fun field member =>
      unmarked _ (List.mem_map_of_mem member) field.2 rfl
    simp only [denote, fields_literal site 0 plain []]
    rfl
  next => exact .refl _

/-- The expression that a sign is evaluated to where it stands before no constant. -/
def turned : PrefixSign → Expr → Expr
  | .negate, operand => .negate operand
  | .not, operand => .not operand

/-- A sign before a constant agrees with the sign that is applied at each call. -/
theorem signed_agree (sign : PrefixSign) (operand : Expr) :
    Expr.Agree Eq context context (signed sign operand) (turned sign operand) := by
  unfold signed
  -- Either the operand is a literal that can be turned, or the sign is left for the call.
  split
  next value constant =>
    obtain ⟨inner, given, turns⟩ := Option.bind_eq_some_iff.1 constant
    obtain rfl := eq_of_literal? given
    refine .of_run_eq fun site => ?_
    cases sign with
    | negate =>
      have negated : inner.negate = some value := turns
      simp only [turned, denote, Query.negate]
      change _ = (pure inner >>= _ : Eval Value)
      rw [pure_bind, negated]
      rfl
    | not =>
      cases inner with
      | bool truth =>
        obtain rfl := Option.some.inj turns
        rfl
      | _ => cases turns
  next => cases sign <;> exact .refl _

/-- A case of a constant agrees with the case that compares what is read. -/
theorem toCase_agree (expr : Expr) :
    Case.Agree Eq context context expr.toCase (.query expr) := by
  intro site
  unfold toCase
  -- Only the literal of a truth value stays a test; any other one is compared with at once.
  split
  · exact .refl _
  next value plain =>
    cases value with
    | bool truth => exact absurd rfl (plain truth)
    | _ => exact .refl _
  · exact .refl _

/-- A slot that has its value before a call stands for the same value at the call. -/
theorem resolve_static (run : Query → Eval Value) (parameter : Option Parameter) {slot : Slot Expr}
    (static : slot.isDynamic = false) (site : Site) :
    (denoteSlot site slot).resolve run parameter = pure (denoteSlot site slot) ∧
      Slot.Alike (fun _ _ => True) slot (denoteSlot site slot) := by
  -- Only a dynamic slot is read at the call.
  cases slot with
  | absent => exact ⟨rfl, .absent⟩
  | value value => exact ⟨rfl, .value value⟩
  | query expr => exact ⟨rfl, .query trivial⟩
  | dynamic expr => cases static

/-- Slots that have their values before a call stand for the same values at the call. -/
theorem resolveAll_static (run : Query → Eval Value) (parameters : List Parameter)
    {slots : List (Slot Expr)} (static : ∀ slot ∈ slots, slot.isDynamic = false) (site : Site)
    (position : Nat) :
    ((parameters.zip (denoteSlots site position slots)).mapM fun (parameter, slot) =>
        slot.resolve run (some parameter)) =
      pure ((parameters.zip (denoteSlots site position slots)).map Prod.snd) ∧
    ByParameter (fun _ => Slot.Alike fun _ _ => True) parameters slots
      ((parameters.zip (denoteSlots site position slots)).map Prod.snd) := by
  -- Each slot of a parameter stands for itself, so that nothing is read.
  induction parameters generalizing slots position with
  | nil => exact ⟨rfl, .done⟩
  | cons parameter parameters ih =>
    cases slots with
    | nil => exact ⟨rfl, .short⟩
    | cons slot slots =>
      obtain ⟨first, same⟩ := resolve_static run (some parameter) (static slot (.head _))
        (position :: site)
      obtain ⟨later, rest⟩ := ih (fun other member => static other (.tail _ member)) (position + 1)
      refine ⟨?_, .next same rest⟩
      rw [denoteSlots, List.zip_cons_cons, List.mapM_cons, later]
      dsimp only
      rw [first]
      rfl

/-- A call of a function whose arguments are known before it is prepared alike in all contexts. -/
theorem call_static {function : Function} {slots : List (Slot Expr)}
    (static : (function.signature.attach slots).isDynamic = false) (site : Site) :
    ∃ bound : Bound Query,
      Outcome.Agree (FunctionCall.Alike fun _ _ => True)
        (function.prepare (function.signature.attach slots)) (function.prepare bound) ∧
      ∀ context, Query.function site function (denoteSlots site 0 slots) context =
        Eval.ofExcept (function.prepare bound) >>= fun call => call.run site context := by
  -- A function declares its parameters, so each slot belongs to one of them.
  have attached {ε : Type} (slots : List (Slot ε)) :
      function.signature.attach slots = ⟨function.signature.parameters, slots, []⟩ := by
    unfold Signature.attach
    rw [function.not_isVariadic]
    rfl
  rw [attached] at static ⊢
  have known : ∀ slot ∈ slots, slot.isDynamic = false := by simpa [Bound.isDynamic] using static
  -- At each call the slots hold the same values and the same queries.
  let bound : Bound Query := ⟨function.signature.parameters,
    (function.signature.parameters.zip (denoteSlots site 0 slots)).map Prod.snd, []⟩
  refine ⟨bound, ?_, fun context => ?_⟩
  · have same := (resolveAll_static (fun _ => pure .null) bound.parameters known site 0).2
    have alike : Bound.Alike (fun _ _ _ => True) ⟨function.signature.parameters, slots, []⟩
        bound := ⟨rfl, same, .nil⟩
    exact function.prepare_alike alike (fun _ _ => trivial) rfl
  · unfold Query.function
    rw [attached]
    unfold Bound.resolve
    rw [(resolveAll_static _ function.signature.parameters known site 0).1]
    rfl

/-- What a call of a function is folded to agrees with the call. -/
theorem folded_agree {function : Function} {slots : List (Slot Expr)} {expr : Expr}
    (given : Compile.folded function slots = .ok expr) :
    Expr.Agree Eq context context expr (.call function slots) := by
  -- The call is left as it is, or all it needs is known and it gives a constant.
  rcases Compile.folded_cases given with rfl | ⟨value, static, prepared, rfl⟩
  · exact .refl _
  intro site
  obtain ⟨bound, called, run⟩ := call_static static site
  change Eval.Agree Eq Eq (pure value)
    (Query.function site function (denoteSlots site 0 slots) context)
  rw [run]
  rw [prepared] at called
  generalize function.prepare bound = outcome at called ⊢
  cases called with
  | value alike =>
    cases alike with
    | constant value => exact .refl _

end Expr

section Argument

variable {context : Context}

/-- A value leaves a slot without an expression, whatever the type of the expressions. -/
theorem Slot.ofValue_static {parameter : Parameter} {given : Value} {slot : Slot Expr}
    (left : Slot.ofValue parameter given = .ok slot) (site : Site) :
    slot.isDynamic = false ∧
      (Slot.ofValue parameter given : Except Error (Slot Query)) =
        .ok (Expr.denoteSlot site slot) := by
  unfold Slot.ofValue at left ⊢
  -- A null leaves the standard value of the parameter or nothing, any other value itself.
  split at left
  next null =>
    obtain rfl := Except.ok.inj left
    rw [if_pos null]
    unfold Slot.ofNull
    cases parameter.standard <;> exact ⟨rfl, rfl⟩
  next present =>
    rw [if_neg present]
    cases converted : parameter.kind.convert given with
    | ok result =>
      rw [converted] at left
      obtain rfl := Except.ok.inj left
      exact ⟨rfl, rfl⟩
    | error unexpected =>
      rw [converted] at left
      cases left

/-- An argument that is bound before a call resolves to what it would be bound to at the call. -/
theorem Slot.resolve_ofArgument {parameter : Parameter} {expr : Expr} {slot : Slot Expr}
    (plain : parameter.kind ≠ .query) (given : Slot.ofArgument parameter expr = .ok slot)
    (site : Site) :
    (Expr.denoteSlot site slot).resolve (fun query => query.read context) (some parameter) =
      (Expr.denoteSlot site (.dynamic expr)).resolve (fun query => query.read context)
        (some parameter) := by
  unfold Slot.ofArgument at given
  rw [if_neg plain] at given
  -- A literal is converted before the call in the way in which a value is at the call.
  split at given
  next constant known =>
    obtain rfl := Expr.eq_of_literal? known
    obtain ⟨static, given⟩ := Slot.ofValue_static given site
    have literal : (Slot.dynamic (Query.constant constant)).resolve
        (fun query => query.read context) (some parameter) =
          (pure (Expr.denoteSlot site slot) : Eval (Slot Query)) := by
      simp only [Slot.resolve]
      change ((pure constant : Eval Value) >>= _) = _
      rw [pure_bind, given]
    refine Eq.trans ?_ literal.symm
    cases slot with
    | dynamic expr => cases static
    | _ => rfl
  next =>
    split at given
    · cases given
    · obtain rfl := Except.ok.inj given
      rfl

/-- An argument that is collected before a call resolves to what it would be at the call. -/
theorem Signature.resolve_collected (expr : Expr) (site : Site) :
    (Expr.denoteSlot site (Signature.collected expr)).resolve (fun query => query.read context)
        none =
      (Expr.denoteSlot site (.dynamic expr)).resolve (fun query => query.read context) none := by
  unfold Signature.collected
  -- A literal gives its value at the call as well.
  split
  next constant known =>
    obtain rfl := Expr.eq_of_literal? known
    rfl
  next => rfl

end Argument

end Reshape
