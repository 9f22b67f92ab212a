import Reshape.Proofs.Builtin.Contract
import Reshape.Proofs.Eval.Call

/-!
Queries keep to every contract that their contexts and the queries inside them keep to: they give
results, and report errors under the label of the query that these come from.
-/

namespace Reshape

variable {contract : Contract} {context : Context}

/-- A message keeps to a contract: what is known of its content is a result, and its metadata is
data. -/
structure Message.Keeps (contract : Contract) (message : Message) : Prop where
  written : ∀ value ∈ message.written, contract.Result value
  metadata : ∀ field ∈ message.metadata, contract.Data field.2

/-- A context keeps to a contract: single values in it are results, and fields hold data. -/
structure Context.Keeps (contract : Contract) (context : Context) : Prop where
  value : ∀ value ∈ context.value, contract.Result value
  outer : ∀ before ∈ context.outer, ∀ value ∈ before, contract.Result value
  names : ∀ entry ∈ context.names, contract.Result entry.2
  root : ∀ root ∈ context.root, contract.Result root
  locals : ∀ field ∈ context.locals, contract.Data field.2
  metadata : ∀ field ∈ context.metadata, contract.Data field.2
  message : ∀ batch ∈ context.batch, ∀ message ∈ batch[context.index]?,
    Message.Keeps contract message

namespace Context.Keeps

/-- A context narrowed to a result keeps to the contract. -/
theorem narrow (keeps : Context.Keeps contract context) {value : Value}
    (result : contract.Result value) : Context.Keeps contract (context.narrow value) :=
  { keeps with
    value := fun _ given => Option.some.inj given ▸ result
    outer := List.forall_mem_cons.2 ⟨keeps.value, keeps.outer⟩ }

/-- A context with a name for a result keeps to the contract. -/
theorem bind (keeps : Context.Keeps contract context) (name : String) {value : Value}
    (result : contract.Result value) : Context.Keeps contract (context.bind name value) := by
  have names : ∀ entry ∈ (name, value) :: context.names, contract.Result entry.2 :=
    List.forall_mem_cons.2 ⟨result, keeps.names⟩
  unfold Context.bind
  -- The value before the current one is current again, if there is one.
  split
  next none => exact { keeps with names }
  next before outer some =>
    have both := keeps.outer
    rw [some, List.forall_mem_cons] at both
    exact { keeps with names, value := both.1, outer := both.2 }

end Context.Keeps

/-- The value that a message holds is a result. -/
theorem Message.Keeps.value? {message : Message} (keeps : Message.Keeps contract message) :
    ∀ value ∈ message.value?, contract.Result value := by
  intro value given
  -- A parsed payload holds what JSON can write, which no contract forbids.
  rcases Option.or_eq_some_iff.1 given with written | ⟨_, parsed⟩
  · exact keeps.written value written
  · obtain ⟨_, _, found⟩ := Option.bind_eq_some_iff.1 parsed
    obtain ⟨json, _, found⟩ := Option.bind_eq_some_iff.1 found
    obtain rfl := Option.some.inj found
    exact .inr (contract.ofJson json)

/-- A query keeps to a contract in a context: it gives a result or an error that may be reported. -/
def Query.Keeps (contract : Contract) (context : Context) (query : Query) : Prop :=
  Eval.Ensures contract.Result contract.Reported (query.run context)

/-- An evaluation keeps to a contract: it gives a result or an error that may be reported. -/
abbrev Eval.Keeps (contract : Contract) (action : Eval Value) : Prop :=
  Eval.Ensures contract.Result contract.Reported action

namespace Eval

/-- An atom keeps to a contract. -/
theorem keeps_atom {value : Value} (atomic : value.isAtom = true) :
    Eval.Keeps contract (pure value) :=
  .pure (.inr (contract.atom atomic))

/-- A failure that does not say where it came from keeps to a contract. -/
theorem keeps_error {α : Type} {values : α → Prop} {error : Error} (bare : error.isPlaced = false) :
    Eval.Ensures values contract.Reported (throw error) :=
  .failure (contract.unplaced bare)

end Eval

namespace Query

/-- The error of a value of another kind is reported under the label of the query. -/
theorem keeps_expected {α : Type} {values : α → Prop} (query : Query) (what : String)
    (value : Value) : Eval.Ensures values contract.Reported (query.expected what value) :=
  .failure (contract.label (contract.expected what value) query.label)

/-- What a path gives keeps to the contract of the context. -/
theorem keeps_field (keeps : Context.Keeps contract context) (scope : Scope) (path : List String) :
    Eval.Keeps contract (field scope path context) := by
  -- Each scope may have no value, which is reported, and a path in a result gives a result.
  cases scope with
  | current =>
    simp only [field, Context.get]
    cases current : context.value with
    | some value => exact .pure (contract.getOrNull (keeps.value value current) path)
    | none => exact Eval.keeps_error rfl
  | root =>
    simp only [field]
    cases current : context.root with
    | some root => exact .pure (contract.getOrNull (keeps.root root current) path)
    | none => exact Eval.keeps_error rfl
  | named name =>
    simp only [field, Context.named?]
    cases found : context.names.lookup name with
    | some value =>
      obtain ⟨before, after, split, _⟩ := List.lookup_eq_some_iff.1 found
      have result := keeps.names (name, value) (by simp [split])
      exact .pure (contract.getOrNull result path)
    | none => exact Eval.keeps_error rfl

/-- What a path into a variable gives keeps to the contract of the context. -/
theorem keeps_variableAt (keeps : Context.Keeps contract context) (name : String)
    (path : List String) : Eval.Keeps contract (variableAt name path context) := by
  unfold variableAt
  -- A variable that is not bound fails, and a path into a bound one leads to data of the value.
  cases found : context.locals.get? name with
  | some value =>
    have data := keeps.locals _ (Fields.mem_of_get? found)
    exact .pure (contract.getOrNull (.inr data) path)
  | none => exact Eval.keeps_error rfl

/-- A field of data, or null in place of a missing one, is a result. -/
theorem result_getD {fields : Fields Value} (data : ∀ field ∈ fields, contract.Data field.2)
    (name : String) : contract.Result ((fields.get? name).getD .null) := by
  cases found : fields.get? name with
  | some value => exact .inr (data _ (Fields.mem_of_get? found))
  | none => exact .inr (contract.atom rfl)

/-- Metadata of data is a result. -/
theorem result_metadata (keeps : Context.Keeps contract context) (key : Option String) :
    contract.Result (metadata key context) := by
  cases key with
  | some key => exact result_getD keeps.metadata key
  | none => exact .inr ((contract.object _).2 keeps.metadata)

namespace Keeps

variable {query : Query}

/-- A query is read as it runs, its errors under its label. -/
theorem read (keeps : Query.Keeps contract context query) :
    Eval.Keeps contract (query.read context) :=
  Eval.Ensures.adapt keeps fun _ reported => contract.label reported query.label

/-- A truth value is read, or what is wrong is reported. -/
theorem truth (keeps : Query.Keeps contract context query) :
    Eval.Ensures (fun _ => True) contract.Reported (query.truth context) := by
  refine keeps.read.bind fun value _ => ?_
  cases value with
  | bool truth => exact .pure trivial
  | _ => exact keeps_expected query "bool" _

/-- A key is read, or what is wrong is reported. -/
theorem key (keeps : Query.Keeps contract context query) :
    Eval.Ensures (fun _ => True) contract.Reported (query.key context) := by
  refine keeps.read.bind fun value _ => ?_
  cases value with
  | string name => exact .pure trivial
  | _ => exact .failure (contract.label (contract.expected "string" _) _)

/-- The items that queries give are data, as markers are left out. -/
theorem items {queries : List Query} (keeps : ∀ query ∈ queries, Query.Keeps contract context query) :
    Eval.Ensures (fun values => ∀ value ∈ values, contract.Data value) contract.Reported
      (Query.items context queries) := by
  -- A marker is left out, and everything else that is a result is data.
  induction queries with
  | nil => exact .pure (by simp)
  | cons query rest ih =>
    rw [List.forall_mem_cons] at keeps
    refine keeps.1.read.bind fun value result => (ih keeps.2).bind fun values data => .pure ?_
    cases marker : value.isMarker with
    | true => simpa using data
    | false => simpa using ⟨result.data marker, data⟩

/-- The fields that queries give hold data, as markers are left out. -/
theorem fields {queries : List (Query × Query)} {done : Fields Value}
    (data : ∀ field ∈ done, contract.Data field.2)
    (keeps : ∀ pair ∈ queries, Query.Keeps contract context pair.1 ∧
      Query.Keeps contract context pair.2) :
    Eval.Ensures (fun fields : Fields Value => ∀ field ∈ fields, contract.Data field.2)
      contract.Reported (Query.fields context done queries) := by
  -- The fields that are done go along.
  induction queries generalizing done with
  | nil => exact .pure data
  | cons pair rest ih =>
    rw [List.forall_mem_cons] at keeps
    refine keeps.1.1.key.bind fun name _ => keeps.1.2.read.bind fun value result => ?_
    refine ih ?_ keeps.2
    cases marker : value.isMarker with
    | true => exact data
    | false => exact contract.insert data (result.data marker)

/-- An operator keeps to the contract of its operands. -/
theorem binary (operator : Operator) {left right : Query}
    (first : Query.Keeps contract context left) (second : Query.Keeps contract context right) :
    Eval.Keeps contract (Query.binary operator left right context) := by
  have last : Eval.Keeps contract (do return Value.bool (← right.truth context)) :=
    second.truth.bind fun _ _ => Eval.keeps_atom rfl
  cases operator with
  | and => exact first.truth.ite last (Eval.keeps_atom rfl)
  | or => exact first.truth.ite (Eval.keeps_atom rfl) last
  | _ =>
    refine first.read.bind fun a _ => second.read.bind fun b _ => ?_
    -- Both operands are read, and the result is an atom.
    cases given : Operator.result? _ a b with
    | error fault => exact Eval.keeps_error rfl
    | ok result =>
      cases result with
      | some value => exact Eval.keeps_atom (Operator.isAtom_of_result? given)
      | none => exact .failure (contract.mismatch _)

/-- Alternatives keep to a contract. -/
theorem coalesce {left right : Query} (first : Query.Keeps contract context left)
    (second : Query.Keeps contract context right) :
    Eval.Keeps contract (Query.coalesce left right context) := by
  have attempted : Eval.Ensures _ contract.Reported (left.run context).attempt :=
    Eval.Ensures.attempt first
  refine attempted.bind fun outcome ensures => ?_
  cases ensures with
  | failure _ => exact second.read
  | @value value holds =>
    -- A null and the marker for nothing lead to the second alternative.
    cases value with
    | null | nothing => exact second.read
    | _ => exact .pure holds.1

/-- A number with its sign turned keeps to a contract. -/
theorem negate (keeps : Query.Keeps contract context query) :
    Eval.Keeps contract (query.negate context) := by
  refine keeps.read.bind fun value _ => ?_
  cases given : value.negate with
  | some result => exact Eval.keeps_atom (Value.isAtom_of_negate given)
  | none => exact keeps_expected query "number" value

/-- Branches keep to a contract. -/
theorem branches {otherwise : Option Query} {tests : List (Query × Query)}
    (last : ∀ body ∈ otherwise, Query.Keeps contract context body)
    (keeps : ∀ pair ∈ tests, Query.Keeps contract context pair.1 ∧
      Query.Keeps contract context pair.2) :
    Eval.Keeps contract (Query.branches otherwise context tests) := by
  -- The first test that holds gives its body, and after the last one the rest applies.
  induction tests with
  | nil =>
    cases otherwise with
    | some body => exact (last body rfl).read
    | none => exact .pure (.inl rfl)
  | cons pair rest ih =>
    rw [List.forall_mem_cons] at keeps
    exact keeps.1.1.truth.ite keeps.1.2.read (ih keeps.2)

/-- Whether a case applies is found, or what is wrong is reported. -/
theorem applies {case : Case Query}
    (keeps : ∀ test, case = .query test → Query.Keeps contract context test) :
    Eval.Ensures (fun _ => True) contract.Reported (Query.applies context case) := by
  cases case with
  | wildcard | equals => exact .pure trivial
  | query test =>
    refine (keeps test rfl).read.bind fun value _ => ?_
    cases value <;> exact .pure trivial

/-- Cases keep to a contract. -/
theorem cases {rules : List (Case Query × Query)}
    (keeps : ∀ rule ∈ rules, (∀ test, rule.1 = .query test → Query.Keeps contract context test) ∧
      Query.Keeps contract context rule.2) :
    Eval.Keeps contract (Query.cases context rules) := by
  induction rules with
  | nil => exact .pure (.inl rfl)
  | cons rule rest ih =>
    rw [List.forall_mem_cons] at keeps
    exact (applies keeps.1.1).ite keeps.1.2.read (ih keeps.2)

/-- A lambda keeps to a contract if its body does where the current value is bound. -/
theorem lambda (name : String) {body : Query}
    (keeps : ∀ value, context.value = some value →
      Query.Keeps contract (context.bind name value) body) :
    Eval.Keeps contract (Query.lambda name body context) := by
  unfold Query.lambda
  cases current : context.value with
  | some value => exact (keeps value current).read
  | none => exact Eval.keeps_error rfl

end Keeps

end Query

end Reshape
