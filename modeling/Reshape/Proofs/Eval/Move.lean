import Reshape.Proofs.Eval.Denote
import Reshape.Proofs.Eval.Frame

/-!
Moves: where an expression stands matters only for what its calls have kept. At another site it
gives the same, from a memory in which the cells of its sites are those of the other sites.
-/

namespace Reshape

variable {sites : Site → Site → Prop}

/-- Sites that are paired one to one, together with those below them. -/
structure Site.Pairing (sites : Site → Site → Prop) : Prop where
  below {site site' : Site} (paired : sites site site') (position : Nat) :
    sites (position :: site) (position :: site')
  unique {site site' other other' : Site} (paired : sites site site')
    (paired' : sites other other') : site = other ↔ site' = other'

/-- Two memories share the same, and hold the same in the cells of paired sites. -/
structure Memory.Paired (sites : Site → Site → Prop) (memory memory' : Memory) : Prop where
  cell {site site' : Site} (paired : sites site site') : memory.cell? site = memory'.cell? site'
  shared : memory.shared = memory'.shared

namespace Memory.Paired

/-- Memories of mappings that have not run hold the same anywhere. -/
theorem fresh (shared : Shared) : Memory.Paired sites (.fresh shared) (.fresh shared) where
  cell _ := rfl
  shared := rfl

/-- Paired sites are linked in such memories. -/
theorem linked (pairing : Site.Pairing sites) {site site' : Site} (paired : sites site site') :
    Memory.Linked (Memory.Paired sites) site site' where
  cell related := related.cell paired
  keep {memory memory'} related cell := by
    refine ⟨fun {other other'} paired' => ?_, related.shared⟩
    -- The other sites of a pair are both these ones or both not.
    by_cases same : site = other
    · obtain rfl := same
      obtain rfl := (pairing.unique paired paired').1 rfl
      rw [cell?_keep_self, cell?_keep_self]
    · have apart : site' ≠ other' := fun equal => same ((pairing.unique paired paired').2 equal)
      rw [cell?_keep_of_ne same, cell?_keep_of_ne apart]
      exact related.cell paired'
  shared related := related.shared
  draw related shared := ⟨fun paired => related.cell paired, rfl⟩

end Memory.Paired

namespace Expr

section Lists

/-! The lists of meanings that an expression is evaluated with are related at two sites if the
meanings of its parts are. -/

variable {related : Query → Query → Prop} {memories : Memory → Memory → Prop} {site site' : Site}

/-- Expressions in a list have related meanings. -/
theorem forall₂_denoteAll {items : List Expr}
    (each : ∀ item ∈ items, ∀ position,
      related (item.denote (position :: site)) (item.denote (position :: site')))
    (position : Nat) :
    List.Forall₂ related (denoteAll site position items) (denoteAll site' position items) := by
  -- The positions go up alike at both sites.
  induction items generalizing position with
  | nil => exact .nil
  | cons item rest ih =>
    rw [List.forall_mem_cons] at each
    exact .cons (each.1 _) (ih each.2 _)

/-- Pairs of expressions have related meanings. -/
theorem forall₂_denotePairs {pairs : List (Expr × Expr)}
    (each : ∀ part, (Manner.here, part) ∈ pairParts pairs → ∀ position,
      related (part.denote (position :: site)) (part.denote (position :: site')))
    (position : Nat) :
    List.Forall₂ (fun pair pair' => related pair.1 pair'.1 ∧ related pair.2 pair'.2)
      (denotePairs site position pairs) (denotePairs site' position pairs) := by
  induction pairs generalizing position with
  | nil => exact .nil
  | cons pair rest ih =>
    -- The pairs behind stand one position further on, at either site.
    have later := ih fun part member => each part (List.mem_append_right _ member)
    refine .cons ⟨?_, ?_⟩ (later _)
    · exact each pair.1 (by simp [pairParts]) _
    · exact each pair.2 (by simp [pairParts]) _

/-- The tests and bodies of rules have related meanings. -/
theorem forall₂_denoteCases {manner : Manner} {rules : List (Case Expr × Expr)} {context : Context}
    (each : ∀ part, (manner, part) ∈ ruleParts manner rules → ∀ position,
      Query.Agree memories context context (part.denote (position :: site))
        (part.denote (position :: site')))
    (position : Nat) :
    List.Forall₂
      (fun rule rule' =>
        Eval.Agree memories Eq (Query.applies context rule.1) (Query.applies context rule'.1) ∧
          Query.Agree memories context context rule.2 rule'.2)
      (denoteCases site position rules) (denoteCases site' position rules) := by
  induction rules generalizing position with
  | nil => exact .nil
  | cons rule rest ih =>
    obtain ⟨case, body⟩ := rule
    have later := ih fun part member => each part (List.mem_append_right _ member)
    refine .cons ⟨?_, each body (by simp [ruleParts]) _⟩ (later _)
    -- Only a test is evaluated to tell whether a case applies.
    cases case with
    | wildcard => exact .pure rfl
    | equals value => exact .pure rfl
    | query test => exact (each test (by simp [ruleParts, Case.tests]) position).applies rfl

/-- Slots get corresponding values. -/
theorem resolves_denoteSlot {isScoped : Bool} {parameter : Option Parameter} {slot : Slot Expr}
    {context : Context}
    (each : ∀ manner part, (manner, part) ∈ slot.parts isScoped → ∀ inner position,
      Query.Agree memories inner inner (part.denote (position :: site))
        (part.denote (position :: site')))
    (position : Nat) :
    Query.Resolves memories context context isScoped parameter
      (denoteSlot (position :: site) slot) (denoteSlot (position :: site') slot) := by
  cases slot with
  | absent => exact Eval.Agree.pure .absent
  | value given => exact Eval.Agree.pure (.value given)
  | query expr =>
    have agree := fun inner => each _ expr (.head _) inner position
    refine Eval.Agree.pure (.query ?_)
    -- A query on the target is run on elements, any other one in the context of the call.
    cases isScoped with
    | true => exact fun value => agree (context.narrow value)
    | false => exact agree context
  | dynamic expr => exact Slot.Agree.ofDynamic (each _ expr (.head _) context position)

/-- The slots of a call get corresponding values. -/
theorem resolves_denoteSlots {signature : Signature} {slots : List (Slot Expr)} {context : Context}
    (each : ∀ manner part, (manner, part) ∈ signature.parts slots → ∀ inner position,
      Query.Agree memories inner inner (part.denote (position :: site))
        (part.denote (position :: site')))
    (position : Nat) :
    signature.Resolves memories context context (denoteSlots site position slots)
      (denoteSlots site' position slots) := by
  unfold Signature.parts at each
  unfold Signature.Resolves Signature.Related
  -- Parts are listed for the signature in the same two ways in which slots are related.
  split at each
  next variadic =>
    rw [if_pos variadic]
    induction slots generalizing position with
    | nil => exact .nil
    | cons slot rest ih =>
      rw [List.flatMap_cons] at each
      refine .cons (resolves_denoteSlot (fun manner part own => ?_) _)
        (ih _ fun manner part later => ?_)
      · exact each manner part (List.mem_append_left _ own)
      · exact each manner part (List.mem_append_right _ later)
  next declared =>
    rw [if_neg declared]
    generalize signature.parameters = parameters at each
    induction parameters generalizing slots position with
    | nil => exact .done
    | cons parameter parameters ih =>
      cases slots with
      | nil => exact .short
      | cons slot rest =>
        rw [List.zip_cons_cons, List.flatMap_cons] at each
        refine .next (resolves_denoteSlot (fun manner part own => ?_) _)
          (ih _ fun manner part later => ?_)
        · exact each manner part (List.mem_append_left _ own)
        · exact each manner part (List.mem_append_right _ later)

end Lists

/-- An expression gives the same at paired sites, from memories that are paired. -/
theorem agree_of_paired (pairing : Site.Pairing sites) (expr : Expr) {site site' : Site}
    (paired : sites site site') (context : Context) :
    Query.Agree (Memory.Paired sites) context context (expr.denote site) (expr.denote site') := by
  induction expr using induction_parts generalizing site site' context with
  | step whole ih =>
    -- The parts stand at paired sites as well.
    have part (manner : Manner) (part : Expr) (member : (manner, part) ∈ whole.parts)
        (inner : Context) (position : Nat) :
        Query.Agree (Memory.Paired sites) inner inner (part.denote (position :: site))
          (part.denote (position :: site')) :=
      ih manner part member (pairing.below paired position) inner
    have here (inner : Expr) (member : (Manner.here, inner) ∈ whole.parts) (position : Nat) :
        Query.Agree (Memory.Paired sites) context context (inner.denote (position :: site))
          (inner.denote (position :: site')) := part .here inner member context position
    cases whole with
    | literal value => exact Eval.Agree.pure rfl
    | field scope path =>
      simp only [Query.Agree, denote, Query.field]
      cases scope with
      | current => exact .ofExcept (.refl _)
      | root =>
        dsimp only
        split
        · exact .pure rfl
        · exact .failure _ _
      | named name =>
        dsimp only
        split
        · exact .pure rfl
        · exact .failure _ _
    | «variable» name path =>
      simp only [Query.Agree, denote, Query.variableAt]
      split
      · exact .pure rfl
      · exact .failure _ _
    | metadata key => exact Eval.Agree.pure rfl
    | get target segment => exact (here target (.head _) 0).read.apply _
    | array items =>
      have each := forall₂_denoteAll (fun item member => here item (List.mem_map_of_mem member)) 0
      exact (Query.Agree.items each).apply _
    | object entries =>
      have each := forall₂_denotePairs here 0
      exact (Query.Agree.fields each []).apply _
    | binary operator left right =>
      exact .binary operator (here left (by simp [parts]) 0) (here right (by simp [parts]) 1)
    | coalesce left right =>
      exact .coalesce (here left (by simp [parts]) 0) (here right (by simp [parts]) 1)
    | not inner => exact (here inner (.head _) 0).truth.apply _
    | negate inner => exact (here inner (.head _) 0).negate
    | branches tests otherwise =>
      have each := forall₂_denotePairs
        (fun inner member => here inner (List.mem_append_left _ member)) 1
      refine .branches ?_ each
      cases otherwise with
      | none => exact .none
      | some last => exact .some (here last (by simp [parts]) 0)
    | cases subject rules =>
      cases subject with
      | none => exact .cases (forall₂_denoteCases here 1)
      | some subject =>
        refine (here subject (by simp [parts]) 0).read.andThen fun value => ?_
        have each := forall₂_denoteCases (fun inner member =>
          part .narrowed inner (List.mem_cons_of_mem _ member) (context.narrow value)) 1
        exact Query.Agree.cases each
    | lambda name body =>
      refine Query.Agree.lambda name ?_
      -- Without a current value there is nothing to name.
      cases context.value with
      | none => exact .none
      | some value => exact .some (part (.bound name) body (.head _) _ 0)
    | call function slots =>
      refine Query.Agree.function site site' function (resolves_denoteSlots part 0) ?_
      exact fun bound call call' _ alike => alike.run_linked (Memory.Paired.linked pairing paired)
    | method target called slots =>
      refine (here target (.head _) 0).method called (resolves_denoteSlots ?_ 1)
      exact fun manner inner member => part manner inner (List.mem_cons_of_mem _ member)

end Expr

end Reshape
