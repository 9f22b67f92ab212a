import Reshape.Proofs.Call.Argument
import Reshape.Proofs.Eval.Call
import Reshape.Proofs.Eval.Denotation
import Reshape.Proofs.Eval.Discipline
import Reshape.Proofs.Expr.Reads

/-!
Disciplines of expressions: calls obey a discipline if their arguments do, and so an expression obeys
it if the functions that it calls do.
-/

namespace Reshape

variable {discipline : Discipline} {α β : Type}

section Arguments

/-! Arguments at a call hold no other expressions than before. -/

variable {ε : Type} {property : ε → Prop}

/-- The expression in a slot has a property. -/
def Slot.Each (property : ε → Prop) : Slot ε → Prop
  | .absent | .value _ => True
  | .query expr | .dynamic expr => property expr

/-- The expressions in the slots of a call have a property. -/
structure Bound.Each (property : ε → Prop) (bound : Bound ε) : Prop where
  slots : ∀ parameter slot, (parameter, slot) ∈ bound.parameters.zip bound.slots →
    slot.Each property
  extra : ∀ slot ∈ bound.extra, slot.Each property

/-- The slot that a value leaves holds no expression. -/
theorem Slot.alike_of_ofValue {parameter : Parameter} {value : Value} {slot : Slot ε}
    (given : Slot.ofValue parameter value = .ok slot) :
    Slot.Alike (fun expr _ => property expr) slot slot := by
  unfold Slot.ofValue Slot.ofNull at given
  -- A value leaves a value or nothing.
  split at given
  · obtain rfl := Except.ok.inj given
    split
    · exact .value _
    · exact .absent
  · split at given
    · obtain rfl := Except.ok.inj given
      exact .value _
    · cases given

/-- A slot at a call obeys if its expression does, and holds no other expression. -/
theorem Slot.Each.resolve {run : ε → Eval Value}
    (runs : ∀ expr, property expr → Eval.Obeys discipline (run expr)) {slot : Slot ε}
    (each : slot.Each property) (parameter : Option Parameter) :
    discipline.Holds (fun resolved => Slot.Alike (fun expr _ => property expr) resolved resolved)
      (slot.resolve run parameter) := by
  -- Only an expression that has its value at the call is run.
  cases slot with
  | absent => exact discipline.pure .absent
  | value value => exact discipline.pure (.value value)
  | query expr => exact discipline.pure (.query each)
  | dynamic expr =>
    refine discipline.bind (runs expr each) fun value _ => ?_
    cases parameter with
    | none => exact discipline.pure (.value value)
    | some parameter =>
      dsimp only
      split
      next slot given => exact discipline.pure (Slot.alike_of_ofValue given)
      next => exact discipline.failure _

/-- Slots that correspond to themselves do so for any parameters. -/
theorem ByParameter.of_forall {related : ε → ε → Prop} {slots : List ε}
    (each : ∀ slot ∈ slots, related slot slot) (parameters : List Parameter) :
    ByParameter (fun _ => related) parameters slots slots := by
  induction slots generalizing parameters with
  | nil => exact .short
  | cons slot rest ih =>
    rw [List.forall_mem_cons] at each
    -- There may be fewer parameters than slots, and then no more is asked.
    cases parameters with
    | nil => exact .done
    | cons parameter others => exact .next each.1 (ih each.2 others)

/-- The arguments of a call obey if the expressions in them do, and hold no other expressions. -/
theorem Bound.Each.resolve {run : ε → Eval Value}
    (runs : ∀ expr, property expr → Eval.Obeys discipline (run expr)) {bound : Bound ε}
    (each : bound.Each property) :
    discipline.Holds
      (fun resolved => Bound.Alike (fun _ expr _ => property expr) resolved resolved ∧
        resolved.parameters = bound.parameters) (bound.resolve run) := by
  have declared := discipline.mapM (bound.parameters.zip bound.slots) fun pair member =>
    (each.slots pair.1 pair.2 member).resolve runs (some pair.1)
  have collected := discipline.mapM bound.extra fun slot member =>
    (each.extra slot member).resolve runs none
  -- Declared slots are resolved before those that are collected.
  refine discipline.bind declared fun slots first => ?_
  refine discipline.bind collected fun extra second => discipline.pure ⟨⟨rfl, ?_, ?_⟩, rfl⟩
  · have own : ∀ slot ∈ slots, Slot.Alike (fun expr _ => property expr) slot slot :=
      forall₂_left first.flip
    exact .of_forall own bound.parameters
  · exact List.forall₂_same.2 (forall₂_left second.flip)

end Arguments

namespace Eval.Obeys

/-! Operations that run a query for each element obey if the query does. -/

variable {run : Value → Eval Value} {test : Value → Eval Bool}

/-- Items that are mapped or left out obey if each of them does. -/
theorem filterMapM {f : α → Eval (Option β)} (each : ∀ a, Eval.Obeys discipline (f a))
    (items : List α) : Eval.Obeys discipline (items.filterMapM f) := by
  have given : discipline.Holds (fun results => ∀ b ∈ results, True) (items.filterMapM f) :=
    discipline.filterMapM items fun item _ => discipline.mono (fun _ _ _ _ => trivial) (each item)
  exact of_holds given

/-- Items that are mapped obey if each of them does. -/
theorem mapM {f : α → Eval β} (each : ∀ a, Eval.Obeys discipline (f a)) (items : List α) :
    Eval.Obeys discipline (items.mapM f) := by
  have given : discipline.Holds (List.Forall₂ (fun _ _ => True) items) (items.mapM f) :=
    discipline.mapM items fun item _ => each item
  exact of_holds given

/-- Sorting items obeys if each comparison does. -/
theorem sortItems {less : α → α → Eval Bool} (each : ∀ a b, Eval.Obeys discipline (less a b))
    (items : List α) : Eval.Obeys discipline (Collection.sortItems less items) := by
  have given : discipline.Holds (fun sorted => ∀ item ∈ sorted, True)
      (Collection.sortItems less items) :=
    discipline.sortItems (fun a b _ _ => each a b) items fun _ _ => trivial
  exact of_holds given

/-- Mapping elements obeys. -/
theorem mapEach (each : ∀ value, Eval.Obeys discipline (run value)) (value : Value) :
    Eval.Obeys discipline (Collection.mapEach run value) := by
  -- Only arrays and objects have elements.
  cases value with
  | array items => exact (filterMapM (fun item => (each item).map _) items).map _
  | object fields => exact (filterMapM (fun field => (each _).map _) fields).map _
  | _ => exact .failure _

/-- Filtering elements obeys. -/
theorem filter (each : ∀ value, Eval.Obeys discipline (test value)) (value : Value) :
    Eval.Obeys discipline (Collection.filter test value) := by
  cases value with
  | array items => exact (filterMapM (fun item => (each item).map _) items).map _
  | object fields => exact (filterMapM (fun field => (each _).map _) fields).map _
  | _ => exact .failure _

/-- A verdict on the items obeys. -/
theorem searched (verdict : Bool) (each : ∀ value, Eval.Obeys discipline (test value))
    (value : Value) : Eval.Obeys discipline (Collection.searched verdict test value) := by
  unfold Collection.searched
  -- Only an array has items.
  cases Collection.items value with
  | ok items =>
    have asked : Eval.Obeys discipline (Collection.searchM verdict test items) :=
      discipline.searchM verdict items fun item _ => each item
    exact asked.map _
  | error error => exact .failure error

/-- Folding the items obeys. -/
theorem fold (each : ∀ value, Eval.Obeys discipline (run value)) (initial value : Value) :
    Eval.Obeys discipline (Collection.fold run initial value) := by
  unfold Collection.fold
  cases Collection.items value with
  | ok items =>
    -- Nothing is asked of the tally, as the query obeys under each value.
    exact discipline.foldlM (motive := fun _ _ => True) items initial trivial
      fun tally item _ _ => each (Collection.tallied tally item)
  | error error => exact .failure error

end Eval.Obeys

/-- A call of a function looks at the memory or changes it. -/
def FunctionCall.isStateful : FunctionCall Query → Bool
  | .counter .. | .random .. | .count _ | .identifier => true
  | _ => false

/-- A call of a function that does nothing with the memory obeys every discipline. -/
theorem FunctionCall.obeys_of_stateless {call : FunctionCall Query}
    (stateless : call.isStateful = false) (site : Site) (context : Context) :
    Eval.Obeys discipline (call.run site context) := by
  have message : Eval.Obeys discipline (Eval.message context) := by
    unfold Eval.message
    split
    · exact .pure _
    · exact .failure _
  -- There may be no message, or none with a value; nothing else makes such a call fail.
  cases call with
  | content =>
    refine message.bind fun batch => ?_
    split
    · exact .pure _
    · exact .failure _
  | json path => exact message.bind fun batch => (Eval.Obeys.ofExcept _).map _
  | throw text => exact .failure _
  | failing failure => exact .failure _
  | incoming key => cases key <;> exact .pure _
  | counter | random | count | identifier => cases stateless
  | _ => exact .pure _

/-- A call of a method obeys if the queries in it do. -/
theorem MethodCall.obeys {call : MethodCall Query}
    (alike : MethodCall.Alike (fun _ query _ => Query.Obeys discipline query) call call)
    (target : Except Error Value) (context : Context) :
    Eval.Obeys discipline (call.run target context) := by
  have element {query : Query} (obeys : Query.Obeys discipline query) (value : Value) :
      Eval.Obeys discipline (element query context value) := obeys.read _
  have accepts {query : Query} (obeys : Query.Obeys discipline query) (value : Value) :
      Eval.Obeys discipline (accepts query context value) := by
    refine (element obeys value).bind fun result => ?_
    -- A test that gives no truth value fails.
    cases result with
    | bool truth => exact .pure truth
    | _ => exact .failure _
  -- Only a fallback is asked for where the target has failed.
  cases target with
  | error error =>
    cases alike with
    | fallback isForNull obeys => exact obeys.read context
    | _ => exact .failure _
  | ok value =>
    cases alike with
    | plain operation => exact .ofExcept _
    | fallback isForNull obeys =>
      simp only [MethodCall.run]
      split
      · exact obeys.read context
      · exact .pure value
    | mapEach obeys => exact .mapEach (element obeys) value
    | filter obeys => exact .filter (accepts obeys) value
    | any obeys =>
      rw [MethodCall.run, Collection.any_eq_searched]
      exact .searched true (accepts obeys) value
    | all obeys =>
      rw [MethodCall.run, Collection.all_eq_searched]
      exact .searched false (accepts obeys) value
    | fold initial obeys => exact .fold (element obeys) initial value
    | sort obeys =>
      refine (Eval.Obeys.ofExcept _).bind fun items => ?_
      exact (Eval.Obeys.sortItems (fun a b => accepts obeys (Collection.compared a b)) items).map _
    | sortBy obeys =>
      refine (Eval.Obeys.ofExcept _).bind fun items => ?_
      have keyed (item : Value) := (element obeys item).map fun key => (key, item)
      exact (Eval.Obeys.mapM keyed items).bind fun keyed => .ofExcept _

/-- What a method gives obeys if its target and its arguments do. -/
theorem Query.Obeys.method {target : Query} (obeys : Query.Obeys discipline target)
    (method : Method) {slots : List (Slot Query)}
    (each : (method.signature.attach slots).Each (Query.Obeys discipline)) (context : Context) :
    Eval.Obeys discipline (Query.method target method slots context) := by
  have attempted : Eval.Obeys discipline (target.read context).attempt :=
    discipline.attempt (obeys.read context)
  refine discipline.adapt _ (attempted.bind fun outcome => ?_)
  have resolved := each.resolve fun query obeys => obeys.read context
  refine discipline.bind resolved fun bound ⟨alike, parameters⟩ => ?_
  -- The arguments belong to the parameters of the method, and make a call of what they hold.
  have declared : bound.parameters = method.signature.parameters := by
    rw [parameters, Signature.attach_parameters _ _ method.parameters_of_isVariadic]
  have prepared := method.prepare_alike alike (fun _ value => Query.Obeys.constant value) declared
  cases made : method.prepare bound with
  | error error => exact Eval.Obeys.failure error
  | ok call => exact MethodCall.obeys (prepared.related_of_ok made made) outcome context

/-- What a function gives obeys if its arguments do and the calls that come of them. -/
theorem Query.Obeys.function {site : Site} {function : Function} {slots : List (Slot Query)}
    (each : (function.signature.attach slots).Each (Query.Obeys discipline)) {context : Context}
    (runs : ∀ call : FunctionCall Query, function.Makes call →
      FunctionCall.Alike (fun query _ => Query.Obeys discipline query) call call →
        Eval.Obeys discipline (call.run site context)) :
    Eval.Obeys discipline (Query.function site function slots context) := by
  have resolved := each.resolve fun query obeys => obeys.read context
  refine discipline.bind resolved fun bound ⟨alike, parameters⟩ => ?_
  -- The arguments belong to the parameters of the function, and make a call of what they hold.
  have declared : bound.parameters = function.signature.parameters := by
    rw [parameters, Signature.attach_parameters _ _ (by simp [function.not_isVariadic])]
  have prepared := function.prepare_alike alike (fun _ value => Query.Obeys.constant value) declared
  cases made : function.prepare bound with
  | error error => exact Eval.Obeys.failure error
  | ok call =>
    exact runs call (Function.makes_of_prepare made) (prepared.related_of_ok made made)

/-- The expressions in the slots of a call have meanings of their own. -/
theorem Signature.each_denote {property : Query → Prop} {signature : Signature}
    {slots : List (Slot Expr)} {site : Site}
    (each : ∀ manner part, (manner, part) ∈ signature.parts slots →
      ∀ position, property (part.denote (position :: site))) (position : Nat) :
    (signature.attach (Expr.denoteSlots site position slots)).Each property := by
  have single {isScoped : Bool} {slot : Slot Expr} {position : Nat}
      (inside : ∀ manner part, (manner, part) ∈ slot.parts isScoped →
        ∀ position, property (part.denote (position :: site))) :
      (Expr.denoteSlot (position :: site) slot).Each property := by
    cases slot with
    | absent => trivial
    | value => trivial
    | query expr => exact inside _ expr (.head _) position
    | dynamic expr => exact inside _ expr (.head _) position
  unfold parts at each
  unfold attach
  -- Parts are listed for the signature in the same two ways in which slots are attached.
  split
  next variadic =>
    rw [if_pos variadic] at each
    refine ⟨fun _ _ none => (List.not_mem_nil none).elim, fun slot member => ?_⟩
    obtain ⟨position', given, inside, rfl⟩ := Expr.mem_denoteSlots member
    exact single fun manner part own => each manner part (List.mem_flatMap.2 ⟨given, inside, own⟩)
  next declared =>
    rw [if_neg declared] at each
    refine ⟨fun parameter slot member => ?_, fun _ none => (List.not_mem_nil none).elim⟩
    obtain ⟨position', given, inside, rfl⟩ := Expr.mem_zip_denoteSlots member
    exact single fun manner part own =>
      each manner part (List.mem_flatMap.2 ⟨(parameter, given), inside, own⟩)

/-- An expression obeys a discipline at sites that go with all sites below them, if the functions
that it calls do there. -/
theorem Expr.obeys_of_calls {sites : Site → Prop}
    (below : ∀ position site, sites site → sites (position :: site)) (expr : Expr)
    (runs : ∀ function, expr.Calls function → ∀ call : FunctionCall Query, function.Makes call →
      FunctionCall.Alike (fun query _ => Query.Obeys discipline query) call call →
        ∀ site, sites site → ∀ context, Eval.Obeys discipline (call.run site context))
    (site : Site) (among : sites site) : Query.Obeys discipline (expr.denote site) := by
  induction expr using induction_parts generalizing site with
  | step whole ih =>
    -- The parts obey by induction, and the functions that they call are those of the whole.
    have part (manner : Manner) (part : Expr) (member : (manner, part) ∈ whole.parts)
        (position : Nat) : Query.Obeys discipline (part.denote (position :: site)) :=
      ih manner part member (fun function calls => runs function (.part member calls)) _
        (below position site among)
    have here (inner : Expr) (member : (Manner.here, inner) ∈ whole.parts) (position : Nat) :
        Query.Obeys discipline (inner.denote (position :: site)) := part .here inner member position
    cases whole with
    | literal value => exact .constant value
    | field scope path =>
      intro context
      -- A path is looked up, or there is nothing to look it up in.
      cases scope with
      | current => exact .ofExcept _
      | root =>
        simp only [denote, Query.field]
        split
        · exact .pure _
        · exact .failure _
      | named name =>
        simp only [denote, Query.field]
        split
        · exact .pure _
        · exact .failure _
    | «variable» name path =>
      intro context
      simp only [denote, Query.variableAt]
      split
      · exact .pure _
      · exact .failure _
    | metadata key => exact fun context => .pure _
    | get target segment => exact fun context => ((here target (.head _) 0).read context).map _
    | array items =>
      have each := forall_denoteAll (fun item member => here item (List.mem_map_of_mem member)) 0
      exact fun context => (Query.Obeys.items each context).map _
    | object entries =>
      have each := forall_denotePairs here 0
      exact fun context => (Query.Obeys.fields each context []).map _
    | binary operator left right =>
      exact .binary operator (here left (by simp [parts]) 0) (here right (by simp [parts]) 1)
    | coalesce left right =>
      exact .coalesce (here left (by simp [parts]) 0) (here right (by simp [parts]) 1)
    | not inner => exact fun context => ((here inner (.head _) 0).truth context).map _
    | negate inner => exact (here inner (.head _) 0).negate
    | branches tests otherwise =>
      have each := forall_denotePairs
        (fun inner member => here inner (List.mem_append_left _ member)) 1
      refine .branches (fun body given => ?_) each
      cases otherwise with
      | none => cases given
      | some last =>
        obtain rfl := Option.some.inj given
        exact here last (by simp [parts]) 0
    | cases subject rules =>
      cases subject with
      | none => exact .cases (forall_denoteCases here 1)
      | some subject =>
        have each := forall_denoteCases
          (fun inner member => part .narrowed inner (List.mem_cons_of_mem _ member)) 1
        exact fun context => ((here subject (by simp [parts]) 0).read context).bind
          fun value => Query.Obeys.cases each _
    | lambda name body => exact (part (.bound name) body (.head _) 0).lambda name
    | call function slots =>
      refine fun context => Query.Obeys.function (Signature.each_denote part 0) ?_
      exact fun call makes alike =>
        runs function (.here function slots) call makes alike site among context
    | method target called slots =>
      refine (here target (.head _) 0).method called (Signature.each_denote ?_ 1)
      exact fun manner inner member => part manner inner (List.mem_cons_of_mem _ member)

end Reshape
