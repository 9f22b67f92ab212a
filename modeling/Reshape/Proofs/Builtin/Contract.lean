import Reshape.Environment
import Reshape.Proofs.Builtin.Collection
import Reshape.Proofs.Builtin.Prepared
import Reshape.Proofs.Call.Contract

/-!
Functions and methods keep to every contract: of results they make results, and they report no error
that is not theirs. A method that puts its arguments or its target into other values without a look
at them does so only if these are data.
-/

namespace Reshape

variable {contract : Contract} {value : Value}

namespace Template

/-- An argument is shown, or what is wrong is reported. -/
theorem keeps_shown (verb : Char) (argument : Value) :
    Outcome.Ensures (fun _ => True) contract.Reported (shown verb argument) := by
  -- Only an argument that is to be shown as an integer can be refused.
  unfold shown
  split
  · exact .value trivial
  · split
    · cases argument.toInt64? with
      | some number => exact .value trivial
      | none => exact contract.keeps_error rfl
    · exact contract.keeps_error rfl

/-- A template is filled, or what is wrong is reported. -/
theorem keeps_fillFrom (consumed : Nat) (template : List Char) (arguments : List Value) :
    Outcome.Ensures (fun _ => True) contract.Reported (fillFrom consumed template arguments) := by
  -- The cases are those of the recursion over the template.
  induction consumed, template, arguments using fillFrom.induct with
  | case1 consumed arguments none => simpa [fillFrom, none] using .value trivial
  | case2 consumed arguments some => simpa [fillFrom, some] using contract.keeps_error rfl
  | case3 consumed arguments => simpa [fillFrom] using contract.keeps_error rfl
  | case4 consumed rest arguments ih =>
    have escaped : fillFrom consumed ('%' :: '%' :: rest) arguments =
        (fillFrom consumed rest arguments).bind fun text => .ok ('%' :: text) := by
      cases arguments <;> rfl
    rw [escaped]
    exact ih.bind fun _ _ => .value trivial
  | case5 consumed verb rest other =>
    simp only [fillFrom, other, if_false]
    exact contract.keeps_error rfl
  | case6 consumed verb rest other argument arguments ih =>
    simp only [fillFrom, other, if_false]
    refine (keeps_shown verb argument).bind fun text _ => ?_
    exact ih.bind fun _ _ => .value trivial
  | case7 consumed c rest arguments alone verb ih =>
    rw [fillFrom]
    · exact ih.bind fun _ _ => .value trivial
    · exact alone
    · exact verb

/-- A template is filled, or what is wrong is reported. -/
theorem keeps_fill (template : String) (arguments : List Value) :
    Outcome.Ensures (fun _ => True) contract.Reported (fill template arguments) := by
  exact (keeps_fillFrom 0 template.toList arguments).map fun _ _ => trivial

end Template

namespace Range

/-- A range is data, or what is wrong is reported. -/
theorem keeps_build (start stop step : Int64) :
    Outcome.Ensures contract.Data contract.Reported (build start stop step) := by
  -- Three checks are reported, and then the items are integers.
  unfold build
  dsimp only
  split
  · exact contract.keeps_error rfl
  · split
    · exact contract.keeps_error rfl
    · split
      · exact contract.keeps_error rfl
      · refine .value ((contract.array _).2 fun item member => ?_)
        obtain ⟨n, _, rfl⟩ := List.mem_map.1 member
        exact contract.atom rfl

end Range

namespace Value

/-- A number operation keeps to a contract. -/
theorem keeps_numeric {operation : Value → Option Value}
    (atomic : ∀ value result, operation value = some result → result.isAtom = true)
    (value : Value) : contract.Keeps (numeric operation value) := by
  unfold numeric
  cases given : operation value with
  | some result => exact contract.keeps_atom (atomic value result given)
  | none => exact contract.keeps_error rfl

/-- The number of a value is found, or it is reported that there is none. -/
theorem keeps_toNumber (value : Value) : contract.Keeps value.toNumber := by
  unfold toNumber
  cases given : value.toNumber? with
  | some number => exact contract.keeps_atom (isAtom_of_toNumber? given)
  | none => exact contract.keeps_error rfl

/-- The signed integer of a value keeps to a contract. -/
theorem keeps_toSigned (value : Value) : contract.Keeps value.toSigned := by
  refine (keeps_toNumber value).bind fun number _ => ?_
  cases number.toInt64? with
  | some result => exact contract.keeps_atom rfl
  | none => exact contract.keeps_error rfl

/-- The unsigned integer of a value keeps to a contract. -/
theorem keeps_toUnsigned (value : Value) : contract.Keeps value.toUnsigned := by
  refine (keeps_toNumber value).bind fun number _ => ?_
  cases number.toUInt64? with
  | some result => exact contract.keeps_atom rfl
  | none => exact contract.keeps_error rfl

/-- The floating-point number of a value keeps to a contract. -/
theorem keeps_toFloating (value : Value) : contract.Keeps value.toFloating := by
  unfold toFloating
  cases value.toNumber?.bind toFloat? with
  | some result => exact contract.keeps_atom rfl
  | none => exact contract.keeps_error rfl

end Value

namespace Method

/-- A converted value keeps to a contract, if what stands for a missing one does. -/
theorem keeps_converted {what : String} {convert : Value → Option Value} {standard : Option Value}
    (atomic : ∀ value result, convert value = some result → result.isAtom = true)
    (result : ∀ value ∈ standard, contract.Result value) (value : Value) :
    contract.Keeps (converted what convert standard value) := by
  -- What is converted itself is an atom; a default is only promised to be a result.
  unfold converted
  split
  next other found =>
    rcases Option.or_eq_some_iff.1 found with own | ⟨_, given⟩
    · exact contract.keeps_atom (atomic value other own)
    · exact .value (result other given)
  next => exact contract.keeps_error rfl

/-- Octets that are decoded keep to a contract. -/
theorem keeps_decoded (scheme : Scheme) (value : Value) : contract.Keeps (decoded scheme value) := by
  refine contract.keeps_ofText (fun text => ?_) value
  cases scheme.decode? text.toOctets with
  | some octets => exact contract.keeps_atom rfl
  | none => exact contract.keeps_error rfl

/-- A value that is read from JSON keeps to a contract. -/
theorem keeps_parsedJson (value : Value) : contract.Keeps (parsedJson value) := by
  -- A text that is no document is reported, and a document is data.
  refine contract.keeps_ofText (fun text => ?_) value
  cases found : Value.parseJsonOctets? text.toOctets with
  | some result =>
    obtain ⟨_, _, found⟩ := Option.bind_eq_some_iff.1 found
    obtain ⟨json, _, found⟩ := Option.bind_eq_some_iff.1 found
    obtain rfl := Option.some.inj found
    exact .value (.inr (contract.ofJson json))
  | none => exact contract.keeps_error rfl

/-- An algorithm is found, or its name is reported. -/
theorem keeps_algorithm (name : String) :
    Outcome.Ensures (fun _ => True) contract.Reported (algorithm name) := by
  unfold algorithm
  cases HashAlgorithm.named? name with
  | some _ => exact .value trivial
  | none => exact contract.keeps_error rfl

/-- A scheme is found, or its name is reported. -/
theorem keeps_scheme (name : String) :
    Outcome.Ensures (fun _ => True) contract.Reported (scheme name) := by
  unfold scheme
  cases Scheme.named? name with
  | some _ => exact .value trivial
  | none => exact contract.keeps_error rfl

/-- A pattern is read, or it is reported. -/
theorem keeps_searcher (pattern : String) :
    Outcome.Ensures (fun _ => True) contract.Reported (searcher pattern) := by
  unfold searcher
  cases Regex.Searcher.ofText? pattern with
  | some _ => exact .value trivial
  | none => exact contract.keeps_error rfl

/-- The values that a method takes for its target: what it puts into others has to be data. -/
def Takes (contract : Contract) : Method → Value → Prop
  | .merge => contract.Data
  | _ => contract.Result

/-- The arguments that a method puts into other values as they are. -/
def stored {ε : Type} (bound : Bound ε) : Method → List Value
  | .append => bound.values
  | .merge => (bound.get? "with").toList
  | _ => []

end Method

variable {ε : Type} {holds : Bool → ε → Prop} {bound : Bound ε}

/-- A call of a method keeps to a contract: what it does to the targets that the method takes does,
and the expressions in it have a property. -/
def MethodCall.Keeps (contract : Contract) (method : Method) (holds : Bool → ε → Prop) :
    MethodCall ε → Prop
  | .plain operation => ∀ value, method.Takes contract value → contract.Keeps (operation value)
  | .fallback _ query => holds false query
  | .fold initial query => method = .fold ∧ contract.Result initial ∧ holds true query
  | .mapEach query | .filter query | .any query | .all query | .sort query | .sortBy query =>
    holds true query

/-- A call of a function keeps to a contract. -/
def FunctionCall.Keeps (contract : Contract) (holds : ε → Prop) : FunctionCall ε → Prop
  | .constant value => contract.Data value
  | .counter least greatest override =>
    holds least ∧ holds greatest ∧ ∀ query ∈ override, holds query
  | .random seed _ _ => holds seed
  | .failing _ => False
  | _ => True

variable [Bindable ε]

/-- What stands for a missing argument of a function is an atom. -/
theorem Function.isAtom_of_standard (function : Function) :
    ∀ parameter ∈ function.signature.parameters, ∀ constant ∈ parameter.standard,
      constant.isAtom = true := by
  -- This can be read off the signatures.
  cases function <;> simp [signature, Signature.of, Parameter.required, Parameter.optional,
    Parameter.defaulting, Parameter.static, Value.isAtom]

/-- What stands for a missing argument of a method is an atom. -/
theorem Method.isAtom_of_standard (method : Method) :
    ∀ parameter ∈ method.signature.parameters, ∀ constant ∈ parameter.standard,
      constant.isAtom = true := by
  -- This can be read off the signatures.
  cases method <;> simp [signature, Signature.of, Parameter.required, Parameter.optional,
    Parameter.defaulting, Parameter.static, Parameter.onTarget, Signature.variadic,
    elementQuery, patternParameter, Value.isAtom]

namespace Method

/-- A text that is made of the target keeps to a contract. -/
theorem keeps_written (operation : Text → Text) (value : Value) :
    contract.Keeps (onText operation value) :=
  contract.keeps_ofText (fun _ => contract.keeps_atom (Value.isAtom_toValue _)) value

/-- What is told of the text of the target keeps to a contract. -/
theorem keeps_tested (test : Text → Bool) (value : Value) : contract.Keeps (testing test value) :=
  contract.keeps_ofText (fun _ => contract.keeps_atom rfl) value

/-- An array of texts keeps to a contract. -/
theorem keeps_texts (texts : List Text) :
    contract.Keeps (.ok (.array (texts.map Text.toValue))) := by
  refine contract.keeps_array fun item member => ?_
  obtain ⟨text, _, rfl⟩ := List.mem_map.1 member
  exact contract.atom (Value.isAtom_toValue text)

/-- The arguments make a call of the method that keeps to the contract, or it is reported why they do
not. -/
def PreparesKept (contract : Contract) (holds : Bool → ε → Prop) (bound : Bound ε)
    (method : Method) : Prop :=
  Outcome.Ensures (MethodCall.Keeps contract method holds) contract.Reported (method.prepare bound)

/-- `bool` reads what stands for a value that is none. -/
theorem prepares_bool : PreparesKept contract holds bound .bool := by
  refine (bound.keeps_read? "default" _ _).bind fun standard _ => .value fun value _ => ?_
  refine keeps_converted (fun other result given => ?_) (fun other member => ?_) value
  · obtain ⟨_, _, rfl⟩ := Option.map_eq_some_iff.1 given
    rfl
  · obtain ⟨_, _, rfl⟩ := Option.map_eq_some_iff.1 member
    exact .inr (contract.atom rfl)

/-- `slice` reads where the part of its target begins, and where it ends. -/
theorem prepares_slice : PreparesKept contract holds bound .slice := by
  refine (bound.keeps_int "low").bind fun low _ => ?_
  refine (bound.keeps_read? "high" _ _).bind fun high _ => ?_
  exact .value fun value result => Collection.keeps_slice _ _ result

/-- `format` fills its target with all arguments. -/
theorem prepares_format : PreparesKept contract holds bound .format := by
  refine .value fun value _ => contract.keeps_ofText (fun text => ?_) value
  exact (Template.keeps_fill text.lossy bound.values).bind fun _ _ => contract.keeps_atom rfl

/-- `hash` finds its algorithm first. -/
theorem prepares_hash : PreparesKept contract holds bound .hash := by
  refine (bound.keeps_string "algorithm").bind fun name _ => ?_
  refine (keeps_algorithm name).bind fun _ _ => .value fun value _ => ?_
  exact contract.keeps_ofText (fun _ => contract.keeps_atom rfl) value

/-- `encode` finds its scheme first. -/
theorem prepares_encode : PreparesKept contract holds bound .encode := by
  refine (bound.keeps_string "scheme").bind fun name _ => ?_
  refine (keeps_scheme name).bind fun _ _ => .value fun value _ => ?_
  exact contract.keeps_ofText (fun _ => contract.keeps_atom rfl) value

/-- `decode` finds its scheme first. -/
theorem prepares_decode : PreparesKept contract holds bound .decode := by
  refine (bound.keeps_string "scheme").bind fun name _ => ?_
  exact (keeps_scheme name).bind fun scheme _ => .value fun value _ => keeps_decoded scheme value

/-- `format_json` reads how the text is indented. -/
theorem prepares_formatJson : PreparesKept contract holds bound .formatJson := by
  refine (bound.keeps_string "indent").bind fun indent _ => ?_
  refine (bound.keeps_bool "no_indent").bind fun _ _ => ?_
  exact .value fun value _ => contract.keeps_atom rfl

/-- `re_match` reads its pattern first. -/
theorem prepares_reMatch : PreparesKept contract holds bound .reMatch := by
  refine (bound.keeps_string "pattern").bind fun pattern _ => ?_
  exact (keeps_searcher pattern).bind fun _ _ => .value fun value _ => keeps_tested _ value

/-- `re_find_all` reads its pattern first. -/
theorem prepares_reFindAll : PreparesKept contract holds bound .reFindAll := by
  refine (bound.keeps_string "pattern").bind fun pattern _ => ?_
  refine (keeps_searcher pattern).bind fun _ _ => .value fun value _ => ?_
  exact contract.keeps_ofText (fun text => keeps_texts _) value

/-- `re_replace_all` reads its pattern first, and then what stands for the matches. -/
theorem prepares_reReplaceAll : PreparesKept contract holds bound .reReplaceAll := by
  refine (bound.keeps_string "pattern").bind fun pattern _ => ?_
  refine (keeps_searcher pattern).bind fun _ _ => ?_
  exact (bound.keeps_string "value").bind fun _ _ => .value fun value _ => keeps_written _ value

/-- `merge` puts parts of its target into its source, so that both have to be data. -/
theorem prepares_merge (data : ∀ value ∈ Method.merge.stored bound, contract.Data value) :
    PreparesKept contract holds bound .merge := by
  have source : Outcome.Ensures contract.Data contract.Reported (bound.value "with") :=
    Bound.keeps_demand "with" fun value given => data value (by simpa [stored] using given)
  exact source.bind fun source second =>
    .value fun value first => .value (.inr (contract.merge first source second))

/-- `without` reads a path from each argument. -/
theorem prepares_without : PreparesKept contract holds bound .without := by
  have paths : Outcome.Ensures (List.Forall₂ (fun _ _ => True) bound.values) contract.Reported
      (Collection.paths bound.values) := by
    refine (Assertion.outcome contract.Reported).mapM bound.values fun text _ => ?_
    exact (Collection.keeps_string text).map fun _ _ => trivial
  exact paths.bind fun paths _ => .value fun value result => Collection.keeps_without paths result

/-- `sort` compares by a query, if there is one. -/
theorem prepares_sort (compare : ∀ query, bound.query? "compare" = some query → holds true query) :
    PreparesKept contract holds bound .sort := by
  unfold PreparesKept
  simp only [prepare]
  cases given : bound.query? "compare" with
  | some query => exact .value (compare query given)
  | none => exact .value fun value result => Collection.keeps_sort result

/-- Arguments that keep to a contract make calls of methods that do, if those that are put into other
values are data. -/
theorem prepare_keeps (method : Method) (keeps : Bound.Keeps contract holds bound)
    (literals : ∀ isScoped value, contract.Result value →
      holds isScoped (Bindable.ofLiteral value))
    (parameters : bound.parameters = method.signature.parameters)
    (data : ∀ value ∈ method.stored bound, contract.Data value) :
    Outcome.Ensures (MethodCall.Keeps contract method holds) contract.Reported
      (method.prepare bound) := by
  have scoping (name : String) : ∀ parameter ∈ bound.parameters, parameter.name = name →
      parameter.isScoped = runsOnTarget name := by
    rintro parameter member rfl
    exact method.isScoped_eq parameter (parameters ▸ member)
  have query (name : String) := keeps.query literals (scoping name)
  -- Most methods read their arguments and operate on their targets then.
  cases method with
  | type | string | bytes => exact .value fun value _ => contract.keeps_atom rfl
  | notNull =>
    refine .value fun value result => ?_
    dsimp only
    split
    · exact contract.keeps_error rfl
    · exact .value result
  | or | «catch» => exact (query "fallback").bind fun _ inside => .value inside
  | bool => exact prepares_bool
  | notEmpty => exact .value fun value result => Collection.keeps_notEmpty result
  | ceil | floor | round =>
    exact .value fun value _ => Value.keeps_numeric (fun _ _ => Value.isAtom_of_round) value
  | abs =>
    exact .value fun value _ => Value.keeps_numeric (fun _ _ => Value.isAtom_of_absolute) value
  | number =>
    exact .value fun value _ => keeps_converted (fun _ _ => Value.isAtom_of_toNumber?) keeps.get? value
  | int64 => exact .value fun value _ => Value.keeps_toSigned value
  | uint64 => exact .value fun value _ => Value.keeps_toUnsigned value
  | float64 => exact .value fun value _ => Value.keeps_toFloating value
  | uppercase | lowercase | trim | capitalize => exact .value fun value _ => keeps_written _ value
  | length => exact .value fun value _ => Collection.keeps_length value
  | contains =>
    exact (keeps.value "value").bind fun wanted _ =>
      .value fun value _ => Collection.keeps_contains wanted value
  | hasPrefix | hasSuffix =>
    exact (bound.keeps_string _).bind fun needle _ => .value fun value _ => keeps_tested _ value
  | replaceAll =>
    exact (bound.keeps_string "old").bind fun old _ => (bound.keeps_string "new").bind fun new _ =>
      .value fun value _ => keeps_written _ value
  | split =>
    exact (bound.keeps_string "delimiter").bind fun delimiter _ =>
      .value fun value _ => contract.keeps_ofText (fun text => keeps_texts _) value
  | reverse => exact .value fun value result => Collection.keeps_reverse result
  | slice => exact prepares_slice
  | format => exact prepares_format
  | quote =>
    exact .value fun value _ => contract.keeps_ofText (fun _ => contract.keeps_atom rfl) value
  | hash => exact prepares_hash
  | encode => exact prepares_encode
  | decode => exact prepares_decode
  | parseJson => exact .value fun value _ => keeps_parsedJson value
  | formatJson => exact prepares_formatJson
  | reMatch => exact prepares_reMatch
  | reFindAll => exact prepares_reFindAll
  | reReplaceAll => exact prepares_reReplaceAll
  | mapEach | sortBy => exact (query "query").bind fun _ inside => .value inside
  | filter | any | all => exact (query "test").bind fun _ inside => .value inside
  | fold =>
    exact (keeps.value "initial").bind fun initial result =>
      (query "query").bind fun _ inside => .value ⟨rfl, result, inside⟩
  | sort => exact prepares_sort (keeps.query? literals (scoping "compare"))
  | sum => exact .value fun value result => Collection.keeps_sum result
  | join =>
    exact (bound.keeps_string "delimiter").bind fun delimiter _ =>
      .value fun value result => Collection.keeps_join delimiter result
  | keys => exact .value fun value result => Collection.keeps_keys result
  | values => exact .value fun value result => Collection.keeps_values result
  | index =>
    exact (bound.keeps_int "index").bind fun index _ =>
      .value fun value result => Collection.keeps_index _ result
  | append => exact .value fun value result => Collection.keeps_append data result
  | merge => exact prepares_merge data
  | without => exact prepares_without
  | «exists» =>
    exact (bound.keeps_string "path").bind fun path _ => .value fun value _ => contract.keeps_atom rfl
  | get =>
    exact (bound.keeps_string "path").bind fun path _ =>
      .value fun value result => .value (contract.getOrNull result _)
  | flatten => exact .value fun value result => Collection.keeps_flatten result
  | unique => exact .value fun value result => Collection.keeps_unique result
  | identity name => exact .value fun value result => .value result

end Method

/-- The bounds of a generator are checked, or what is wrong is reported. -/
theorem keeps_randomBounds (least greatest : Int64) :
    Outcome.Ensures (fun _ => True) contract.Reported (randomBounds least greatest) := by
  -- Three checks are reported, in this order.
  unfold randomBounds
  split
  · exact contract.keeps_error rfl
  · split
    · exact contract.keeps_error rfl
    · split
      · exact contract.keeps_error rfl
      · exact .value trivial

/-- Arguments that keep to a contract make calls of functions that do, for functions that are in
every environment. -/
theorem Function.prepare_keeps (function : Function) (builtin : function ∈ Function.builtin)
    (keeps : Bound.Keeps contract holds bound)
    (literals : ∀ isScoped value, contract.Result value →
      holds isScoped (Bindable.ofLiteral value))
    (parameters : bound.parameters = function.signature.parameters) :
    Outcome.Ensures (FunctionCall.Keeps contract (holds false)) contract.Reported
      (function.prepare bound) := by
  -- The parameters of functions are not scoped, so their queries keep to the contract as they
  -- stand.
  have scoping (name : String) : ∀ parameter ∈ bound.parameters, parameter.name = name →
      parameter.isScoped = false :=
    fun parameter member _ => function.not_isScoped parameter (parameters ▸ member)
  have query (name : String) := keeps.query literals (scoping name)
  have query? (name : String) := keeps.query? literals (scoping name)
  have texts (name : String) : Outcome.Ensures (fun _ => True) contract.Reported
      (bound.string name) := bound.keeps_string name
  have integers (name : String) : Outcome.Ensures (fun _ => True) contract.Reported
      (bound.int name) := bound.keeps_int name
  -- Each function reads its own parameters; most take none.
  cases function with
  | throw | var | json | env | count => exact (texts _).bind fun _ _ => .value trivial
  | range =>
    refine (integers "start").bind fun start _ => (integers "stop").bind fun stop _ => ?_
    refine (integers "step").bind fun step _ => ?_
    exact (Range.keeps_build start stop step).bind fun value data => .value data
  | incoming | working => exact (bound.keeps_read? "key" _ _).bind fun _ _ => .value trivial
  | counter =>
    refine (query "min").bind fun least first => (query "max").bind fun greatest second => ?_
    exact .value ⟨first, second, query? "set"⟩
  | randomInt =>
    refine (query "seed").bind fun seed inside => ?_
    refine (integers "min").bind fun least _ => (integers "max").bind fun greatest _ => ?_
    exact (keeps_randomBounds least greatest).bind fun _ _ => .value inside
  | constant name value => simp [Function.builtin] at builtin
  | failing name failure => simp [Function.builtin] at builtin
  | _ => exact .value trivial

end Reshape
