import Reshape.Proofs.Eval.Denotation
import Reshape.Proofs.Eval.Invocation
import Reshape.Proofs.Expr.Plain

/-!
Plain expressions keep to contracts: each way to build an expression keeps to a contract if its parts
do in the contexts that they are led to, so that it is enough to know what is put into other values
while the expression is evaluated.
-/

namespace Reshape

variable {contract : Contract} {context : Context}

section Slots

variable {narrows : Value → Prop}

/-- The meaning of a slot keeps to the contract if its value is a result and its expression keeps to
the contract where the call runs it. -/
theorem Slot.Readies.denote {isScoped : Bool} {slot : Slot Expr} {holds reads : Expr → Prop}
    (readies : Slot.Readies contract holds reads slot)
    (here : ∀ part, (Manner.here, part) ∈ slot.parts isScoped → ∀ site,
      Query.Keeps contract context (part.denote site))
    (narrowed : ∀ part, (Manner.narrowed, part) ∈ slot.parts isScoped → ∀ value, narrows value →
      contract.Result value → ∀ site,
        Query.Keeps contract (context.narrow value) (part.denote site)) (site : Site) :
    Slot.Readies contract (Query.KeepsOn contract context narrows isScoped)
      (fun query => Eval.Keeps contract (query.read context)) (Expr.denoteSlot site slot) := by
  cases readies with
  | ready keeps =>
    cases keeps with
    | absent => exact .ready .absent
    | value result => exact .ready (.value result)
    | @query expr _ =>
      refine .ready (.query ?_)
      -- A scoped query is run under the value it is narrowed to, any other one where it stands.
      cases isScoped with
      | true => exact fun value narrow result => narrowed expr (.head _) value narrow result site
      | false => exact here expr (.head _) site
  | @dynamic expr _ => exact .dynamic (here expr (.head _) site).read

/-- The meanings of slots are arguments that keep to the contract. -/
theorem Signature.readies_denote {signature : Signature} {slots : List (Slot Expr)}
    {holds : Bool → Expr → Prop} {reads : Expr → Prop}
    (readies : Bound.Readies contract holds reads (signature.attach slots))
    (here : ∀ part, (Manner.here, part) ∈ signature.parts slots → ∀ site,
      Query.Keeps contract context (part.denote site))
    (narrowed : ∀ part, (Manner.narrowed, part) ∈ signature.parts slots → ∀ value, narrows value →
      contract.Result value → ∀ site,
        Query.Keeps contract (context.narrow value) (part.denote site))
    (site : Site) (position : Nat) :
    Bound.Readies contract (Query.KeepsOn contract context narrows)
      (fun query => Eval.Keeps contract (query.read context))
      (signature.attach (Expr.denoteSlots site position slots)) := by
  unfold parts at here narrowed
  unfold attach at readies ⊢
  -- Parts are listed for the signature in the same two ways in which slots are attached.
  split
  next variadic =>
    rw [if_pos variadic] at here narrowed readies
    refine ⟨fun _ _ none => (List.not_mem_nil none).elim, fun slot member => ?_⟩
    obtain ⟨position', given, inside, rfl⟩ := Expr.mem_denoteSlots member
    refine (readies.extra given inside).denote (fun part own => ?_) (fun part own => ?_) _
    · exact here part (List.mem_flatMap.2 ⟨given, inside, own⟩)
    · exact narrowed part (List.mem_flatMap.2 ⟨given, inside, own⟩)
  next declared =>
    rw [if_neg declared] at here narrowed readies
    refine ⟨fun parameter slot member => ?_, fun _ none => (List.not_mem_nil none).elim⟩
    obtain ⟨position', given, inside, rfl⟩ := Expr.mem_zip_denoteSlots member
    refine (readies.slots parameter given inside).denote (fun part own => ?_)
      (fun part own => ?_) _
    · exact here part (List.mem_flatMap.2 ⟨(parameter, given), inside, own⟩)
    · exact narrowed part (List.mem_flatMap.2 ⟨(parameter, given), inside, own⟩)

end Slots

namespace Expr

/-- An expression keeps to a contract if its parts do where they are led to, and what it puts into
other values is data. -/
theorem keeps_of_parts {expr : Expr} (own : expr.IsPlain contract)
    (keeps : Context.Keeps contract context)
    (parts : ∀ manner part, (manner, part) ∈ expr.parts → ∀ inner,
      expr.Leads context inner manner → Context.Keeps contract inner → ∀ site,
        Query.Keeps contract inner (part.denote site))
    (stored : ∀ value, expr.Stores context value → contract.Data value) (site : Site) :
    Query.Keeps contract context (expr.denote site) := by
  have here (part : Expr) (member : (Manner.here, part) ∈ expr.parts) (site : Site) :
      Query.Keeps contract context (part.denote site) :=
    parts .here part member context rfl keeps site
  have narrowed (part : Expr) (member : (Manner.narrowed, part) ∈ expr.parts) (value : Value)
      (narrows : expr.Narrows context value) (result : contract.Result value) (site : Site) :
      Query.Keeps contract (context.narrow value) (part.denote site) :=
    parts .narrowed part member _ ⟨value, narrows, rfl⟩ (keeps.narrow result) site
  cases expr with
  | literal value => exact .pure (.inr own)
  | field scope path => exact Query.keeps_field keeps scope path
  | «variable» name path => exact Query.keeps_variableAt keeps name path
  | metadata key => exact .pure (Query.result_metadata keeps key)
  | get target segment =>
    exact (here target (by simp [Expr.parts]) _).read.bind fun value result =>
      .pure (contract.getOrNull result [segment])
  | array items =>
    have each := forall_denoteAll (fun item member position =>
      here item (by simpa [Expr.parts]) (position :: site)) 0
    exact (Query.Keeps.items each).bind fun values data =>
      .pure (.inr ((contract.array values).2 data))
  | object entries =>
    have each := forall_denotePairs (fun part member position =>
      here part member (position :: site)) 0
    exact (Query.Keeps.fields (by simp) each).bind fun fields data =>
      .pure (.inr ((contract.object fields).2 data))
  | binary operator left right =>
    exact (here left (by simp [Expr.parts]) _).binary operator
      (here right (by simp [Expr.parts]) _)
  | coalesce left right =>
    exact (here left (by simp [Expr.parts]) _).coalesce (here right (by simp [Expr.parts]) _)
  | not inner =>
    exact (here inner (by simp [Expr.parts]) _).truth.bind fun _ _ => Eval.keeps_atom rfl
  | negate inner => exact (here inner (by simp [Expr.parts]) _).negate
  | branches tests otherwise =>
    have each := forall_denotePairs
      (fun part member position =>
        here part (List.mem_append_left _ member) (position :: site)) 1
    refine Query.Keeps.branches (fun body given => ?_) each
    cases otherwise with
    | none => cases given
    | some last =>
      obtain rfl := Option.some.inj given
      exact here last (by simp [Expr.parts]) _
  | cases subject rules =>
    cases subject with
    | none => exact Query.Keeps.cases (forall_denoteCases
        (fun part member position => here part member (position :: site)) 1)
    | some subject =>
      have first := (here subject (by simp [Expr.parts]) (0 :: site)).read.gives
      refine first.bind fun value holds => ?_
      obtain ⟨result, gives⟩ := holds
      -- The cases are asked about the value that the subject gives.
      have each := forall_denoteCases (fun part (member : (Manner.narrowed, part) ∈
        ruleParts .narrowed rules) position => narrowed part (List.mem_cons_of_mem _ member) value
          ⟨_, gives⟩ result (position :: site)) 1
      exact Query.Keeps.cases each
  | lambda name body =>
    refine Query.Keeps.lambda name fun value current => ?_
    have result := keeps.value value current
    exact parts (.bound name) body (by simp [Expr.parts]) _ ⟨value, current, rfl⟩
      (keeps.bind name result) _
  | call function slots =>
    refine Query.keeps_function site function own.1 keeps ?_
    exact Signature.readies_denote own.2 here (fun _ _ _ none => none.elim) site 0
  | method target called slots =>
    have readies := Signature.readies_denote own
      (fun part member => here part (List.mem_cons_of_mem _ member))
      (fun part member => narrowed part (List.mem_cons_of_mem _ member)) site 1
    refine Query.keeps_method _ called (here target (by simp [Expr.parts]) _) readies ?_ ?_ ?_ ?_
    · intro value gives result
      -- Only a merge looks for more than a result in its target.
      unfold Method.Takes
      split
      · exact stored value (.target ⟨_, gives⟩)
      · exact result
    · exact fun bound binds value member => stored value (.argument ⟨_, _, binds⟩ member)
    · exact fun value bound call handed gives binds made hands =>
        ⟨value, bound, call, ⟨_, gives⟩, ⟨_, _, binds⟩, made, hands⟩
    · rintro rfl tally item narrows
      exact stored tally (.tally narrows)

/-- A plain expression keeps to a contract in a context that does, if whatever is put into other
values while it is evaluated is data. -/
theorem Plain.keeps {expr : Expr} (plain : expr.Plain contract)
    (keeps : Context.Keeps contract context)
    (stored : ∀ inner at' value, Evaluates expr context inner at' → inner.Stores at' value →
      contract.Data value) (site : Site) :
    Query.Keeps contract context (expr.denote site) := by
  -- What is evaluated from a part on is evaluated from the whole on.
  induction plain generalizing context site with
  | @intro expr own _ ih =>
    refine keeps_of_parts own keeps (fun manner part member inner leads kept site => ?_)
      (fun value stores => stored expr context value .start stores) site
    exact ih manner part member kept
      (fun deeper at' value evaluates => stored deeper at' value (evaluates.within member leads)) site

end Expr

end Reshape
