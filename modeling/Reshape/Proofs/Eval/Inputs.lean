import Reshape.Proofs.Eval.Fold
import Reshape.Proofs.Expr.Reads

/-!
Contexts that agree on inputs. As evaluation goes on, current values and names that were given agree
on the inputs, and those that were computed are equal. Functions that read nothing else give the
same in such contexts.
-/

namespace Reshape

/-- Two values agree on the inputs of an origin. -/
def Value.AgreeAt (dependencies : List Dependency) (origin : Origin) (value value' : Value) :
    Prop :=
  ∀ input ∈ dependencies, input.origin = origin →
    value.getOrNull input.path = value'.getOrNull input.path

/-- Values that agree on inputs agree on what these cover. -/
theorem Value.AgreeAt.covered {dependencies : List Dependency} {origin : Origin}
    {value value' : Value} (agree : Value.AgreeAt dependencies origin value value')
    {path : List String} (covered : Dependency.CoveredBy dependencies ⟨origin, path⟩) :
    value.getOrNull path = value'.getOrNull path := by
  -- The values agree on the input that covers the path, and the rest is read from there.
  obtain ⟨covering, member, same, rest, rfl⟩ := covered
  rw [getOrNull_append, getOrNull_append, agree covering member same]

namespace Context

/-- The value that the content of the message holds, if there is a message that holds one. -/
def parsed? (context : Context) : Option Value :=
  context.batch.bind fun batch => (batch.value context.index).toOption

/-- The metadata that the message came with; null if there is no message. -/
def incoming (context : Context) : Value :=
  ((context.batch.bind fun batch => batch.allMetadata? context.index).map .object).getD .null

/-- Two contexts agree on inputs, apart from their current values and the names in them; they have
the same variables. -/
structure AgreeAt (dependencies : List Dependency) (context context' : Context) : Prop where
  root : Option.Rel (Value.AgreeAt dependencies .root) context.root context'.root
  parsed : Option.Rel (Value.AgreeAt dependencies .value) context.parsed? context'.parsed?
  known : ∀ name, (context.locals.get? name).isSome = (context'.locals.get? name).isSome
  locals : Value.AgreeAt dependencies .variable (.object context.locals)
    (.object context'.locals)
  metadata : Value.AgreeAt dependencies .metadata (.object context.metadata)
    (.object context'.metadata)
  incoming : Value.AgreeAt dependencies .metadata context.incoming context'.incoming

/-- Two contexts agree on inputs, and lambdas have named nothing in them. -/
structure AgreeOn (dependencies : List Dependency) (context context' : Context) : Prop where
  inputs : AgreeAt dependencies context context'
  value : Option.Rel (Value.AgreeAt dependencies .value) context.value context'.value
  outer : List.Forall₂ (Option.Rel (Value.AgreeAt dependencies .value)) context.outer context'.outer
  unnamed : context.names = []
  unnamed' : context'.names = []

variable {dependencies : List Dependency} {context context' : Context}

/-- Other current values do not matter to the other inputs. -/
theorem AgreeAt.narrow (agree : AgreeAt dependencies context context') (value value' : Value) :
    AgreeAt dependencies (context.narrow value) (context'.narrow value') :=
  ⟨agree.root, agree.parsed, agree.known, agree.locals, agree.metadata, agree.incoming⟩

/-- Names do not matter to the other inputs. -/
theorem AgreeAt.bind (agree : AgreeAt dependencies context context') (name : String)
    (value value' : Value) :
    AgreeAt dependencies (context.bind name value) (context'.bind name value') := by
  -- A name changes the names, the current value and those before it.
  unfold Context.bind
  split <;> split <;>
    exact ⟨agree.root, agree.parsed, agree.known, agree.locals, agree.metadata, agree.incoming⟩

end Context

/-- Two values are related: they agree on the inputs if they are given, and else they are equal. -/
def Provenance.Relates (dependencies : List Dependency) : Provenance → Value → Value → Prop
  | .input => Value.AgreeAt dependencies .value
  | .computed => Eq

/-- Related values agree on the inputs, whether they are given or not. -/
theorem Provenance.Relates.agreeAt {dependencies : List Dependency} {provenance : Provenance}
    {value value' : Value} (related : provenance.Relates dependencies value value') :
    Value.AgreeAt dependencies .value value value' := by
  -- Equal values agree on everything.
  cases provenance with
  | input => exact related
  | computed =>
    obtain rfl := related
    exact fun _ _ _ => rfl

namespace Sight

/-- The values before the current ones are related. -/
inductive ShowsOuter (dependencies : List Dependency) :
    List Provenance → List (Option Value) → List (Option Value) → Prop where
  | given {outer outer' : List (Option Value)}
      (same : List.Forall₂ (Option.Rel (Provenance.Relates dependencies .input)) outer outer') :
      ShowsOuter dependencies [] outer outer'
  | next {provenance : Provenance} {rest : List Provenance} {before before' : Option Value}
      {outer outer' : List (Option Value)}
      (first : Option.Rel (provenance.Relates dependencies) before before')
      (later : ShowsOuter dependencies rest outer outer') :
      ShowsOuter dependencies (provenance :: rest) (before :: outer) (before' :: outer')

/-- The values that have names are related. -/
inductive ShowsNames (dependencies : List Dependency) :
    List (String × Provenance) → List (String × Value) → List (String × Value) → Prop where
  | nil : ShowsNames dependencies [] [] []
  | cons (name : String) {provenance : Provenance} {value value' : Value}
      {rest : List (String × Provenance)} {names names' : List (String × Value)}
      (first : provenance.Relates dependencies value value')
      (later : ShowsNames dependencies rest names names') :
      ShowsNames dependencies ((name, provenance) :: rest) ((name, value) :: names)
        ((name, value') :: names')

/-- What is seen at a place tells how the contexts there are related. -/
structure Shows (dependencies : List Dependency) (sight : Sight) (context context' : Context) :
    Prop where
  inputs : Context.AgreeAt dependencies context context'
  current : Option.Rel (sight.current.Relates dependencies) context.value context'.value
  outer : ShowsOuter dependencies sight.outer context.outer context'.outer
  names : ShowsNames dependencies sight.names context.names context'.names

variable {dependencies : List Dependency} {sight : Sight} {context context' : Context}

/-- A name that is looked up has related values, or none. -/
theorem ShowsNames.lookup {seen : List (String × Provenance)} {names names' : List (String × Value)}
    (shows : ShowsNames dependencies seen names names') (name : String) :
    (∃ provenance, seen.lookup name = some provenance ∧
      ∃ value value', names.lookup name = some value ∧ names'.lookup name = some value' ∧
        provenance.Relates dependencies value value') ∨
      names.lookup name = none ∧ names'.lookup name = none := by
  -- The names are the same on both sides, so both stop at the same frame.
  induction shows with
  | nil => exact .inr ⟨rfl, rfl⟩
  | @cons other provenance value value' rest names names' first _ ih =>
    simp only [List.lookup_cons]
    cases name == other with
    | true => exact .inl ⟨provenance, rfl, value, value', rfl, rfl, first⟩
    | false => exact ih

/-- Contexts that agree on inputs are seen as given. -/
theorem shows_document (agree : Context.AgreeOn dependencies context context') :
    Sight.document.Shows dependencies context context' := by
  refine ⟨agree.inputs, agree.value, .given agree.outer, ?_⟩
  rw [agree.unnamed, agree.unnamed']
  exact .nil

/-- Contexts stay related where a value that was computed becomes current. -/
theorem Shows.narrow (shows : sight.Shows dependencies context context') (value : Value) :
    sight.narrow.Shows dependencies (context.narrow value) (context'.narrow value) :=
  ⟨shows.inputs.narrow value value, .some rfl, .next shows.current shows.outer, shows.names⟩

/-- Contexts stay related where the current value gets a name. -/
theorem Shows.bind (shows : sight.Shows dependencies context context') (name : String)
    {value value' : Value} (current : context.value = some value)
    (current' : context'.value = some value') :
    (sight.bind name).Shows dependencies (context.bind name value)
      (context'.bind name value') := by
  have related : sight.current.Relates dependencies value value' := by
    have same := shows.current
    rw [current, current'] at same
    cases same with
    | some related => exact related
  have inputs := shows.inputs.bind name value value'
  have names := ShowsNames.cons name related shows.names
  have outer := shows.outer
  unfold Context.bind Sight.bind at *
  generalize sight.outer = seen at outer ⊢
  generalize context.outer = values at outer inputs ⊢
  generalize context'.outer = values' at outer inputs ⊢
  -- The value that comes back is the last one before, if there is one.
  cases outer with
  | given same =>
    cases same with
    | nil =>
      -- With nothing narrowed the current value stays.
      refine ⟨inputs, ?_, .given .nil, names⟩
      rw [current, current']
      exact .some related.agreeAt
    | cons first later => exact ⟨inputs, first, .given later, names⟩
  | next first later => exact ⟨inputs, first, later, names⟩

/-- Contexts stay related where a part is evaluated. -/
theorem Shows.leads (shows : sight.Shows dependencies context context') {manner : Manner}
    {inner inner' : Context} (leads : manner.LeadsBoth context context' inner inner') :
    (manner.sees sight).Shows dependencies inner inner' := by
  -- A part sees what the whole sees, or a value that was computed, or a name for the current
  -- value.
  cases manner with
  | here =>
    obtain ⟨rfl, rfl⟩ := leads
    exact shows
  | narrowed =>
    obtain ⟨value, rfl, rfl⟩ := leads
    exact shows.narrow value
  | bound name =>
    obtain ⟨value, value', current, current', rfl, rfl⟩ := leads
    exact shows.bind name current current'

end Sight

/-- A path into an object leads on from the field that it starts with. -/
theorem Value.getOrNull_field (name : String) (path : List String) (fields : Fields Value) :
    (Value.object fields).getOrNull (name :: path) =
      ((fields.get? name).getD .null).getOrNull path := by
  -- The first segment reads the field, and the rest is read from its value.
  have whole := getOrNull_append [name] path (.object fields)
  rw [List.singleton_append] at whole
  rw [whole]
  change (((Fields.get? name fields).bind some).getD .null).getOrNull path = _
  cases Fields.get? name fields <;> rfl

/-- Metadata are read from the object of them. -/
theorem Query.metadata_eq (key : Option String) (context : Context) :
    Query.metadata key context = (Value.object context.metadata).getOrNull key.toList := by
  -- All metadata are the object itself.
  cases key with
  | none => rfl
  | some key => exact (Value.getOrNull_field key [] context.metadata).symm

/-- The metadata that a message came with are read from the object of them. -/
theorem FunctionCall.run_incoming (site : Site) (key : Option String) (context : Context) :
    (FunctionCall.incoming key : FunctionCall Query).run site context =
      pure (context.incoming.getOrNull key.toList) := by
  -- All metadata are the object itself.
  cases key with
  | none => rfl
  | some key =>
    simp only [FunctionCall.run, Context.incoming, Option.toList_some]
    cases context.batch with
    | none => rfl
    | some batch =>
      simp only [Option.bind_some, Batch.metadata?, Batch.allMetadata?]
      cases batch[context.index]? with
      | none => rfl
      | some message => exact congrArg _ (Value.getOrNull_field key [] message.metadata).symm

/-- The document is read from the content of the message, if it holds one. -/
theorem FunctionCall.run_json (site : Site) (path : List String) (context : Context) :
    (∃ document, context.parsed? = some document ∧
      (FunctionCall.json path : FunctionCall Query).run site context =
        pure (document.getOrNull path)) ∨
    (context.parsed? = none ∧ ∃ error,
      (FunctionCall.json path : FunctionCall Query).run site context =
        Eval.ofExcept (.error error)) := by
  simp only [FunctionCall.run, Eval.message, Context.parsed?]
  -- Without a message there is no document, and neither is there in one that does not parse.
  cases context.batch with
  | none => exact .inr ⟨rfl, _, rfl⟩
  | some batch =>
    simp only [Option.bind_some, pure_bind]
    cases batch.value context.index with
    | ok document => exact .inl ⟨document, rfl, rfl⟩
    | error error => exact .inr ⟨rfl, error, rfl⟩

/-- What a call gives depends on its arguments, the document, metadata and variables only. -/
def FunctionCall.isSteady {ε : Type} : FunctionCall ε → Bool
  | .constant _ | .deleted | .nothing | .throw _ | .variable _ | .json _ | .incoming _
  | .working _ => true
  | _ => false

/-- A steady function makes steady calls. -/
theorem Function.Makes.isSteady {ε : Type} {function : Function} {call : FunctionCall ε}
    (makes : function.Makes call) (steady : function.isSteady = true) : call.isSteady = true := by
  -- Functions that make other calls are not steady.
  cases makes with
  | deleted | nothing | throw | range | var | json | incoming | working => rfl
  | _ => cases steady

/-- A function reads by itself what it may read, whatever the arguments. -/
theorem Function.Makes.inputs {ε : Type} {function : Function} {call : FunctionCall ε}
    (makes : function.Makes call) {input : Dependency} (member : input ∈ call.inputs) :
    Dependency.CoveredBy function.anywhere input := by
  -- Only these four read an input, and the function may read everything of that origin.
  cases makes with
  | var | json | incoming | working =>
    obtain rfl := List.mem_singleton.1 member
    exact ⟨_, .head _, rfl, List.nil_prefix⟩
  | _ => cases member

section Reading

variable {memories : Memory → Memory → Prop} {dependencies : List Dependency}
  {context context' : Context} {wanted : List String}

/-- Two evaluations agree on a part of what they give. -/
abbrev Eval.AgreePart (memories : Memory → Memory → Prop) (wanted : List String)
    (left right : Eval Value) : Prop :=
  Eval.Agree memories (fun value value' => value.getOrNull wanted = value'.getOrNull wanted) left
    right

/-- Steady calls give the same in contexts that agree on the inputs that they read. -/
theorem FunctionCall.run_agree {call : FunctionCall Query} (steady : call.isSteady = true)
    (agree : Context.AgreeAt dependencies context context')
    (covered : ∀ input ∈ call.inputs, Dependency.CoveredBy dependencies (input.child wanted))
    (site : Site) :
    Eval.AgreePart memories wanted (call.run site context) (call.run site context') := by
  -- A steady call has its result, or reads it at a path of one input.
  cases call with
  | constant | deleted | nothing => exact .pure rfl
  | throw message => exact .failure _ _
  | «variable» name =>
    refine .pure ?_
    rw [← Value.getOrNull_field, ← Value.getOrNull_field]
    exact agree.locals.covered (covered _ (.head _))
  | json path =>
    have same := agree.parsed
    have reached := covered _ (.head _)
    -- Either both contexts hold a document or none does.
    rcases run_json site path context with ⟨document, holds, run⟩ | ⟨holds, error, run⟩ <;>
      rcases run_json site path context' with ⟨document', holds', run'⟩ | ⟨holds', error', run'⟩ <;>
        rw [holds, holds'] at same <;> rw [run, run'] <;> cases same
    next related =>
      refine .pure ?_
      rw [← Value.getOrNull_append, ← Value.getOrNull_append]
      exact related.covered reached
    next => exact .failure _ _
  | incoming key =>
    rw [run_incoming, run_incoming]
    refine .pure ?_
    rw [← Value.getOrNull_append, ← Value.getOrNull_append]
    exact agree.incoming.covered (covered _ (.head _))
  | working key =>
    refine .pure ?_
    rw [Query.metadata_eq, Query.metadata_eq, ← Value.getOrNull_append, ← Value.getOrNull_append]
    exact agree.metadata.covered (covered _ (.head _))
  | _ => cases steady

/-- Steady calls that correspond are equal. -/
theorem FunctionCall.Alike.eq_of_isSteady {ε : Type} {related : ε → ε → Prop}
    {call call' : FunctionCall ε} (alike : FunctionCall.Alike related call call')
    (steady : call.isSteady = true) : call' = call := by
  -- Calls that hold expressions are not steady.
  cases alike <;> first | rfl | cases steady

/-- Calls that correspond read the same inputs by themselves. -/
theorem FunctionCall.Alike.inputs {ε ε' : Type} {related : ε → ε' → Prop} {call : FunctionCall ε}
    {call' : FunctionCall ε'} (alike : FunctionCall.Alike related call call') :
    call.inputs = call'.inputs := by
  cases alike <;> rfl

end Reading

end Reshape
