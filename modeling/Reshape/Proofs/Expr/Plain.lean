import Reshape.Proofs.Builtin.Contract
import Reshape.Proofs.Environment.Narrowing
import Reshape.Proofs.Eval.Fold
import Reshape.Proofs.Expr.Scope

/-!
Plain expressions: their constants are data under a contract, and they call no functions but those of
every environment. What is compiled from a term whose literals are data is plain.
-/

namespace Reshape

variable {contract : Contract}

/-- The values among the arguments before a call are results. -/
abbrev Bound.IsPlain {ε : Type} (contract : Contract) (bound : Bound ε) : Prop :=
  Bound.Readies contract (fun _ _ => True) (fun _ => True) bound

namespace Expr

/-- The constants of an expression are data, or results among arguments, and a function that it calls
is one of every environment. -/
def IsPlain (contract : Contract) : Expr → Prop
  | .literal value => contract.Data value
  | .call function slots => function ∈ Function.builtin ∧
    Bound.IsPlain contract (function.signature.attach slots)
  | .method _ called slots => Bound.IsPlain contract (called.signature.attach slots)
  | _ => True

/-- An expression and all expressions in it have data for constants and call functions of every
environment. -/
inductive Plain (contract : Contract) : Expr → Prop where
  | intro {expr : Expr} (own : expr.IsPlain contract)
      (parts : ∀ manner part, (manner, part) ∈ expr.parts → Plain contract part) :
      Plain contract expr

namespace Plain

/-- A literal of data is plain. -/
theorem literal {value : Value} (data : contract.Data value) :
    Expr.Plain contract (.literal value) :=
  .intro data (by simp [parts])

/-- The constants and calls of a plain expression. -/
theorem own {expr : Expr} (plain : expr.Plain contract) : expr.IsPlain contract := by
  cases plain with
  | intro own _ => exact own

/-- What a name stands for is plain. -/
theorem ofName (names : List String) (name : String) :
    Expr.Plain contract (Expr.ofName names name) := by
  unfold Expr.ofName
  split <;> exact .intro trivial (by simp [parts])

/-- A path into a plain expression is plain. -/
theorem child {target : Expr} (plain : target.Plain contract) (segment : String) :
    Expr.Plain contract (target.child segment) := by
  have get : Expr.Plain contract (.get target segment) := by
    refine .intro trivial fun manner part member => ?_
    obtain ⟨⟨⟩⟩ := List.mem_singleton.1 member
    exact plain
  -- Paths of references grow, and anything else is read step by step.
  cases target with
  | field | «variable» => exact .intro trivial (by simp [Expr.child, parts])
  | _ => exact get

/-- An array of plain expressions is plain. -/
theorem array {items : List Expr} (plain : ∀ item ∈ items, Expr.Plain contract item) :
    Expr.Plain contract (Expr.ofItems items) := by
  unfold ofItems
  split
  next values constant =>
    obtain rfl := eq_map_of_mapM (fun _ _ => eq_of_literal?) constant
    -- Constant items are data, and so is the array of those that are no markers.
    refine .literal ((contract.array _).2 fun value member => ?_)
    exact (plain _ (List.mem_map_of_mem (List.mem_filter.1 member).1)).own
  next =>
    refine .intro trivial fun manner part member => ?_
    obtain ⟨item, inside, ⟨⟩⟩ := List.mem_map.1 member
    exact plain part inside

/-- An object of plain keys and values is plain. -/
theorem object {entries : List (Expr × Expr)}
    (plain : ∀ entry ∈ entries, Expr.Plain contract entry.1 ∧ Expr.Plain contract entry.2) :
    Expr.Plain contract (Expr.ofEntries entries) := by
  -- Entries of constants are folded into one literal, and other ones are parts as they stand.
  unfold ofEntries
  split
  next fields constant =>
    obtain rfl := eq_map_of_mapM (fun _ _ => eq_of_entry?) constant
    refine .literal ((contract.object _).2 fun field member => ?_)
    exact (plain _ (List.mem_map_of_mem (Fields.mem_ofList member))).2.own
  next =>
    refine .intro trivial fun manner part member => ?_
    obtain ⟨_, entry, inside, rfl | rfl⟩ := mem_pairParts member
    · exact (plain entry inside).1
    · exact (plain entry inside).2

/-- Branches of plain expressions are plain. -/
theorem branches {tests : List (Expr × Expr)} {otherwise : Option Expr}
    (plain : ∀ test ∈ tests, Expr.Plain contract test.1 ∧ Expr.Plain contract test.2)
    (last : ∀ body ∈ otherwise, Expr.Plain contract body) :
    Expr.Plain contract (.branches tests otherwise) := by
  refine .intro trivial fun manner part member => ?_
  -- A part stands in one of the branches, or is what is done otherwise.
  rcases List.mem_append.1 member with inside | inside
  · obtain ⟨_, test, among, rfl | rfl⟩ := mem_pairParts inside
    · exact (plain test among).1
    · exact (plain test among).2
  · obtain ⟨body, given, ⟨⟩⟩ := List.mem_map.1 inside
    exact last part (by simpa using given)

/-- Cases of plain expressions are plain. -/
theorem cases {subject : Option Expr} {rules : List (Option Expr × Expr)}
    (first : ∀ expr ∈ subject, Expr.Plain contract expr)
    (plain : ∀ rule ∈ rules, (∀ test ∈ rule.1, Expr.Plain contract test) ∧
      Expr.Plain contract rule.2) :
    Expr.Plain contract (.cases subject (rules.map fun rule => Expr.rule rule.1 rule.2)) := by
  -- The parts of the cases are their tests and their bodies.
  have inside {manner manner' : Manner} {part : Expr} (member : (manner', part) ∈
      ruleParts manner (rules.map fun rule => Expr.rule rule.1 rule.2)) :
      Expr.Plain contract part := by
    obtain ⟨_, rule, among, test | rfl⟩ := mem_ruleParts member
    · exact (plain rule among).1 part test
    · exact (plain rule among).2
  refine .intro trivial fun manner part member => ?_
  cases subject with
  | none => exact inside member
  | some subject =>
    rcases List.mem_cons.1 member with same | later
    · cases same
      exact first part rfl
    · exact inside later

/-- A sign before a plain expression makes a plain one. -/
theorem signed {operand : Expr} (plain : operand.Plain contract) (sign : PrefixSign) :
    Expr.Plain contract (Expr.signed sign operand) := by
  unfold Expr.signed
  split
  next value constant =>
    -- A sign makes an atom of a constant.
    obtain ⟨inner, _, turns⟩ := Option.bind_eq_some_iff.1 constant
    cases sign with
    | negate => exact .literal (contract.atom (Value.isAtom_of_negate turns))
    | not =>
      obtain ⟨truth, _, rfl⟩ := Option.map_eq_some_iff.1 turns
      exact .literal (contract.atom rfl)
  next =>
    cases sign <;>
    · refine .intro trivial fun manner part member => ?_
      obtain ⟨⟨⟩⟩ := List.mem_singleton.1 member
      exact plain

/-- A sign between plain expressions makes a plain one. -/
theorem joined {left right : Expr} (first : left.Plain contract) (second : right.Plain contract)
    (sign : Sign) : Expr.Plain contract (Expr.joined sign left right) := by
  cases sign <;>
  · refine .intro trivial fun manner part member => ?_
    rcases List.mem_pair.1 member with ⟨⟨⟩⟩ | ⟨⟨⟩⟩
    · exact first
    · exact second

/-- A lambda with a plain body is plain. -/
theorem lambda {name : String} {body : Expr} (plain : body.Plain contract) :
    Expr.Plain contract (.lambda name body) := by
  refine .intro trivial fun manner part member => ?_
  obtain ⟨⟨⟩⟩ := List.mem_singleton.1 member
  exact plain

end Plain

end Expr

/-- A slot of plain expressions and results. -/
abbrev Slot.Plain (contract : Contract) (slot : Slot Expr) : Prop :=
  Slot.Readies contract (Expr.Plain contract) (Expr.Plain contract) slot

namespace Slot.Plain

/-- The slot that data leaves is plain. -/
theorem ofValue {parameter : Parameter}
    (standard : ∀ constant ∈ parameter.standard, constant.isAtom = true) {value : Value}
    (data : contract.Data value) {slot : Slot Expr}
    (given : Slot.ofValue parameter value = .ok slot) : Slot.Plain contract slot := by
  have results : ∀ constant ∈ parameter.standard, contract.Result constant :=
    fun constant known => .inr (contract.atom (standard constant known))
  exact .ready ((Slot.keeps_ofValue results (.inr data)).of_ok given)

/-- A plain argument that a parameter takes has a plain slot. -/
theorem bind {parameter : Parameter}
    (standard : ∀ constant ∈ parameter.standard, constant.isAtom = true) {argument : Option Expr}
    (plain : ∀ expr ∈ argument, Expr.Plain contract expr) {slot : Slot Expr}
    (given : Slot.bind parameter argument = .ok slot) : Slot.Plain contract slot := by
  cases argument with
  | some expr =>
    have inside := plain expr rfl
    simp only [Slot.bind, Slot.ofArgument] at given
    -- An expression is kept for a query, converted if it is a literal, or kept for its value.
    split at given
    · obtain rfl := Except.ok.inj given
      exact .ready (.query inside)
    · split at given
      next constant known =>
        obtain rfl := Expr.eq_of_literal? known
        exact .ofValue standard inside.own given
      next =>
        split at given
        · cases given
        · obtain rfl := Except.ok.inj given
          exact .dynamic inside
  | none =>
    simp only [Slot.bind, Slot.missing?] at given
    split at given
    next found =>
      obtain rfl := Except.ok.inj given
      split at found
      next constant known =>
        obtain rfl := Option.some.inj found
        have data := contract.atom (standard constant known)
        split
        · exact .ready (.query (.literal data))
        · exact .ready (.value (.inr data))
      next =>
        split at found
        · obtain rfl := Option.some.inj found
          exact .ready .absent
        · cases found
    next => cases given

/-- A plain argument that is collected has a plain slot. -/
theorem collected {expr : Expr} (plain : expr.Plain contract) :
    Slot.Plain contract (Signature.collected expr) := by
  unfold Signature.collected
  -- A written argument is a value, and any other one is evaluated by the call.
  split
  next value known =>
    obtain rfl := Expr.eq_of_literal? known
    exact .ready (.value (.inr plain.own))
  next => exact .dynamic plain

end Slot.Plain

namespace Signature

/-- The slots of plain arguments are plain. -/
theorem plain_of_bindSlots {signature : Signature}
    (standard : ∀ parameter ∈ signature.parameters, ∀ constant ∈ parameter.standard,
      constant.isAtom = true) {given : List (Argument Expr)}
    (plain : ∀ argument ∈ given, Expr.Plain contract argument.expr) {slots : List (Slot Expr)}
    (bound : signature.bindSlots given = .ok slots) :
    Bound.Readies contract (fun _ => Expr.Plain contract) (Expr.Plain contract)
      (signature.attach slots) := by
  -- Binding related arguments is binding these arguments twice.
  have pairs : List.Forall₂ (Argument.Related fun expr _ => Expr.Plain contract expr) given given :=
    List.forall₂_same.2 fun argument member => .same argument.name (plain argument member)
  have each (parameter : Parameter) (argument argument' : Option Expr)
      (same : Option.Rel (fun expr _ => Expr.Plain contract expr) argument argument') :
      Outcome.Match
        (fun slot _ => (∀ constant ∈ parameter.standard, constant.isAtom = true) →
          Slot.Plain contract slot)
        (Slot.bind parameter argument) (Slot.bind parameter argument') := by
    refine fun slot slot' first _ standard => Slot.Plain.bind standard ?_ first
    rintro expr ⟨⟩
    cases same with
    | some inside => exact inside
  have both : Outcome.Match
      (signature.Related
        (fun parameter slot _ => (∀ constant ∈ parameter.standard, constant.isAtom = true) →
          Slot.Plain contract slot) fun slot _ => Slot.Plain contract slot)
      (signature.bindSlots given) (signature.bindSlots given) :=
    bindSlots_related each (fun _ _ inside => .collected inside) signature pairs
  have related := both slots slots bound bound
  unfold Signature.Related at related
  unfold attach
  split at related
  next variadic =>
    rw [if_pos variadic]
    refine ⟨fun _ _ none => (List.not_mem_nil none).elim, fun slot member => ?_⟩
    exact List.forall₂_same.1 related slot member
  next declared =>
    rw [if_neg declared]
    refine ⟨fun parameter slot member => ?_, fun _ none => (List.not_mem_nil none).elim⟩
    obtain ⟨_, inside⟩ := related.of_mem_zip member
    exact inside (standard parameter (List.of_mem_zip member).1)

/-- An expression in a call has the property that the expressions in its slots have. -/
theorem of_mem_parts {property : Expr → Prop} {signature : Signature} {slots : List (Slot Expr)}
    (readies : Bound.Readies contract (fun _ => property) property (signature.attach slots))
    {manner : Manner} {part : Expr} (member : (manner, part) ∈ signature.parts slots) :
    property part := by
  -- An expression stands in a slot that is a query, or in one that waits for its value.
  have own {isScoped : Bool} {slot : Slot Expr} (ready : Slot.Readies contract property property slot)
      (member : (manner, part) ∈ slot.parts isScoped) : property part := by
    cases ready with
    | ready keeps =>
      cases keeps with
      | absent | value => cases member
      | query inside =>
        obtain ⟨⟨⟩⟩ := List.mem_singleton.1 member
        exact inside
    | dynamic inside =>
      obtain ⟨⟨⟩⟩ := List.mem_singleton.1 member
      exact inside
  unfold parts at member
  unfold attach at readies
  split at member
  next variadic =>
    rw [if_pos variadic] at readies
    obtain ⟨slot, inside, member⟩ := List.mem_flatMap.1 member
    exact own (readies.extra slot inside) member
  next declared =>
    rw [if_neg declared] at readies
    obtain ⟨⟨parameter, slot⟩, inside, member⟩ := List.mem_flatMap.1 member
    exact own (readies.slots parameter slot inside) member

end Signature

/-- The functions of an environment are those of every environment. -/
def Environment.IsBuiltin (environment : Environment) : Prop :=
  ∀ entry ∈ environment.functions, entry.2.called ∈ Function.builtin

/-- Plain expressions are built of plain ones. -/
theorem Expr.plain_respects {environment : Environment} (builtin : environment.IsBuiltin) :
    Compile.Respects environment contract.Data fun _ expr expr' =>
      expr' = expr ∧ Expr.Plain contract expr where
  atom _ atomic := contract.atom atomic
  literal _ _ data := ⟨rfl, .literal data⟩
  binding _ _ := ⟨rfl, .intro trivial (by simp [parts])⟩
  metadata _ _ := ⟨rfl, .intro trivial (by simp [parts])⟩
  root _ := ⟨rfl, .intro trivial (by simp [parts])⟩
  current _ := ⟨rfl, .intro trivial (by simp [parts])⟩
  name names name := ⟨rfl, .ofName names name⟩
  array same := by
    obtain ⟨rfl, plain⟩ := forall₂_of_same (fun _ _ same => same) same
    exact ⟨rfl, .array plain⟩
  object same := by
    obtain ⟨rfl, plain⟩ := forall₂_of_same pairs_of_same same
    exact ⟨rfl, .object plain⟩
  branches same last := by
    obtain ⟨rfl, plain⟩ := forall₂_of_same pairs_of_same same
    obtain ⟨rfl, final⟩ := rel_of_same (fun _ _ same => same) last
    exact ⟨rfl, .branches plain final⟩
  cases first same := by
    obtain ⟨rfl, start⟩ := rel_of_same (fun _ _ same => same) first
    obtain ⟨rfl, plain⟩ := forall₂_of_same rules_of_same same
    exact ⟨rfl, .cases start plain⟩
  signed sign same := by
    obtain ⟨rfl, plain⟩ := same
    exact ⟨rfl, plain.signed sign⟩
  joined sign first second := by
    obtain ⟨rfl, left⟩ := first
    obtain ⟨rfl, right⟩ := second
    exact ⟨rfl, left.joined right sign⟩
  child segment same := by
    obtain ⟨rfl, plain⟩ := same
    exact ⟨rfl, plain.child segment⟩
  lambda same := by
    obtain ⟨rfl, plain⟩ := same
    exact ⟨rfl, plain.lambda⟩
  call name same := by
    obtain ⟨rfl, plain⟩ := forall₂_of_same arguments_of_same same
    refine Compile.call_match environment name fun function calls expr expr' first second => ?_
    refine ⟨Except.ok.inj (second.symm.trans first), ?_⟩
    obtain ⟨entry, found, rfl⟩ := calls
    have known : entry.called ∈ Function.builtin := builtin _ (Fields.mem_of_get? found)
    obtain ⟨slots, bound, given⟩ := Outcome.of_bind_eq_ok first
    have readies := Signature.plain_of_bindSlots entry.called.isAtom_of_standard plain bound
    have weak : Bound.IsPlain contract (entry.called.signature.attach slots) :=
      readies.mono (fun _ _ _ => trivial) fun _ _ => trivial
    rcases Compile.folded_cases given with rfl | ⟨value, static, prepared, rfl⟩
    · exact .intro ⟨known, weak⟩ fun manner part member => Signature.of_mem_parts readies member
    · -- A value that is known before the call is data.
      have declared := Signature.attach_parameters entry.called.signature slots
        (by simp [entry.called.not_isVariadic])
      have made := entry.called.prepare_keeps known (weak.keeps static) (fun _ _ _ => trivial)
        declared
      exact .literal (made.of_ok prepared)
  method name first same := by
    obtain ⟨rfl, start⟩ := first
    obtain ⟨rfl, plain⟩ := forall₂_of_same arguments_of_same same
    refine Compile.method_match environment name fun method expr expr' first second => ?_
    refine ⟨Except.ok.inj (second.symm.trans first), ?_⟩
    obtain ⟨slots, bound, given⟩ := Outcome.of_bind_eq_ok first
    have readies := Signature.plain_of_bindSlots method.isAtom_of_standard plain bound
    obtain rfl := Compile.checked_eq given
    refine .intro (readies.mono (fun _ _ _ => trivial) fun _ _ => trivial)
      fun manner part member => ?_
    rcases List.mem_cons.1 member with same | later
    · cases same
      exact start
    · exact Signature.of_mem_parts readies later

end Reshape
