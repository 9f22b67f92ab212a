import Reshape.Builtin.Prepared
import Reshape.Proofs.Call.Binding

/-!
Calls that correspond: arguments that correspond are prepared to calls that differ in related
expressions only, or to a fault of both.
-/

namespace Reshape

variable {ε ε' : Type}

/-- Two calls of functions correspond: they differ in related expressions only. -/
inductive FunctionCall.Alike (related : ε → ε' → Prop) :
    FunctionCall ε → FunctionCall ε' → Prop where
  | constant (value : Value) : Alike related (.constant value) (.constant value)
  | deleted : Alike related .deleted .deleted
  | nothing : Alike related .nothing .nothing
  | throw (message : String) : Alike related (.throw message) (.throw message)
  | variable (name : String) : Alike related (.variable name) (.variable name)
  | content : Alike related .content .content
  | json (path : List String) : Alike related (.json path) (.json path)
  | incoming (key : Option String) : Alike related (.incoming key) (.incoming key)
  | working (key : Option String) : Alike related (.working key) (.working key)
  | batchIndex : Alike related .batchIndex .batchIndex
  | batchSize : Alike related .batchSize .batchSize
  | traceId : Alike related .traceId .traceId
  | traceHeaders : Alike related .traceHeaders .traceHeaders
  | environment (name : String) : Alike related (.environment name) (.environment name)
  | now : Alike related .now .now
  | unixTime : Alike related .unixTime .unixTime
  | identifier : Alike related .identifier .identifier
  | counter {least greatest : ε} {least' greatest' : ε'} {override : Option ε}
      {override' : Option ε'} (first : related least least') (second : related greatest greatest')
      (third : Option.Rel related override override') :
      Alike related (.counter least greatest override) (.counter least' greatest' override')
  | random {seed : ε} {seed' : ε'} (first : related seed seed') (least greatest : Int64) :
      Alike related (.random seed least greatest) (.random seed' least greatest)
  | count (name : String) : Alike related (.count name) (.count name)
  | failing (failure : ComponentFailure) : Alike related (.failing failure) (.failing failure)

/-- Two calls of methods correspond: they differ in expressions only, which are related as their
queries run on the target or not. -/
inductive MethodCall.Alike (related : Bool → ε → ε' → Prop) :
    MethodCall ε → MethodCall ε' → Prop where
  | plain (operation : Value → Except Error Value) :
      Alike related (.plain operation) (.plain operation)
  | fallback (isForNull : Bool) {query : ε} {query' : ε'} (agree : related false query query') :
      Alike related (.fallback isForNull query) (.fallback isForNull query')
  | mapEach {query : ε} {query' : ε'} (agree : related true query query') :
      Alike related (.mapEach query) (.mapEach query')
  | filter {test : ε} {test' : ε'} (agree : related true test test') :
      Alike related (.filter test) (.filter test')
  | any {test : ε} {test' : ε'} (agree : related true test test') :
      Alike related (.any test) (.any test')
  | all {test : ε} {test' : ε'} (agree : related true test test') :
      Alike related (.all test) (.all test')
  | fold (initial : Value) {query : ε} {query' : ε'} (agree : related true query query') :
      Alike related (.fold initial query) (.fold initial query')
  | sort {before : ε} {before' : ε'} (agree : related true before before') :
      Alike related (.sort before) (.sort before')
  | sortBy {key : ε} {key' : ε'} (agree : related true key key') :
      Alike related (.sortBy key) (.sortBy key')

variable [Bindable ε] [Bindable ε'] {related : Bool → ε → ε' → Prop} {bound : Bound ε}
  {bound' : Bound ε'}

/-- No query of a function runs on a target. -/
theorem Function.not_isScoped (function : Function) :
    ∀ parameter ∈ function.signature.parameters, parameter.isScoped = false := by
  -- This can be read off the signatures.
  cases function <;> simp [signature, Signature.of, Parameter.required, Parameter.optional,
    Parameter.defaulting, Parameter.static]

/-- Arguments that correspond make corresponding calls of a function. -/
theorem Function.prepare_alike (function : Function) (alike : Bound.Alike related bound bound')
    (literals : ∀ isScoped value,
      related isScoped (Bindable.ofLiteral value) (Bindable.ofLiteral value))
    (parameters : bound.parameters = function.signature.parameters) :
    Outcome.Agree (FunctionCall.Alike (related false)) (function.prepare bound)
      (function.prepare bound') := by
  have scoping (name : String) : ∀ parameter ∈ bound.parameters, parameter.name = name →
      parameter.isScoped = false :=
    fun parameter member _ => function.not_isScoped parameter (parameters ▸ member)
  have query (name : String) := alike.query literals (scoping name)
  have query? (name : String) := alike.query? literals (scoping name)
  -- Arguments are read in the order of the source, and each is read alike.
  cases function with
  | counter =>
    refine (query "min").bind fun least least' first => ?_
    refine (query "max").bind fun greatest greatest' second => ?_
    exact .value (.counter first second (query? "set"))
  | randomInt =>
    simp only [prepare, alike.int]
    refine (query "seed").bind fun seed seed' first => ?_
    refine .after _ fun least => .after _ fun greatest => .after _ fun _ => ?_
    exact .value (.random first least greatest)
  | range =>
    simp only [prepare, alike.int]
    refine .after _ fun start => .after _ fun stop => .after _ fun step => .after _ fun values => ?_
    exact .value (.constant values)
  | throw =>
    simp only [prepare, alike.string]
    exact .after _ fun message => .value (.throw message)
  | var =>
    simp only [prepare, alike.string]
    exact .after _ fun name => .value (.variable name)
  | json =>
    simp only [prepare, alike.string]
    exact .after _ fun path => .value (.json _)
  | incoming =>
    simp only [prepare, alike.string?]
    exact .after _ fun key => .value (.incoming key)
  | working =>
    simp only [prepare, alike.string?]
    exact .after _ fun key => .value (.working key)
  | env =>
    simp only [prepare, alike.string]
    exact .after _ fun name => .value (.environment name)
  | count =>
    simp only [prepare, alike.string]
    exact .after _ fun name => .value (.count name)
  | deleted => exact .value .deleted
  | nothing => exact .value .nothing
  | content => exact .value .content
  | batchIndex => exact .value .batchIndex
  | batchSize => exact .value .batchSize
  | tracingId => exact .value .traceId
  | tracingSpan => exact .value .traceHeaders
  | now => exact .value .now
  | timestampUnix => exact .value .unixTime
  | uuid => exact .value .identifier
  | constant name value => exact .value (.constant value)
  | failing name failure => exact .value (.failing failure)

/-- A function is prepared to a call, as far as its arguments do not matter. -/
inductive Function.Makes : Function → FunctionCall ε → Prop where
  | deleted : Makes .deleted .deleted
  | nothing : Makes .nothing .nothing
  | throw (message : String) : Makes .throw (.throw message)
  | range (items : List Value) : Makes .range (.constant (.array items))
  | var (name : String) : Makes .var (.variable name)
  | content : Makes .content .content
  | json (path : List String) : Makes .json (.json path)
  | incoming (key : Option String) : Makes .incoming (.incoming key)
  | working (key : Option String) : Makes .working (.working key)
  | batchIndex : Makes .batchIndex .batchIndex
  | batchSize : Makes .batchSize .batchSize
  | tracingId : Makes .tracingId .traceId
  | tracingSpan : Makes .tracingSpan .traceHeaders
  | env (name : String) : Makes .env (.environment name)
  | now : Makes .now .now
  | timestampUnix : Makes .timestampUnix .unixTime
  | uuid : Makes .uuid .identifier
  | counter (least greatest : ε) (override : Option ε) :
      Makes .counter (.counter least greatest override)
  | randomInt (seed : ε) (least greatest : Int64) :
      Makes .randomInt (.random seed least greatest)
  | count (name : String) : Makes .count (.count name)
  | constant (name : String) (value : Value) : Makes (.constant name value) (.constant value)
  | failing (name : String) (failure : ComponentFailure) :
      Makes (.failing name failure) (.failing failure)

/-- A range is an array. -/
theorem Range.isArray_of_build {start stop step : Int64} {value : Value}
    (built : Range.build start stop step = .ok value) : ∃ items, value = .array items := by
  unfold build at built
  -- A range that passes all checks is an array.
  dsimp only at built
  split at built <;> [cases built; skip]
  split at built <;> [cases built; skip]
  split at built <;> [cases built; skip]
  exact ⟨_, (Except.ok.inj built).symm⟩

/-- What a function is prepared to is a call that it makes. -/
theorem Function.makes_of_prepare {function : Function} {call : FunctionCall ε}
    (prepared : function.prepare bound = .ok call) : function.Makes call := by
  -- What is read of the arguments decides on what is in the call, not on which call it is.
  cases function with
  | range =>
    obtain ⟨start, _, rest⟩ := Outcome.of_bind_eq_ok prepared
    obtain ⟨stop, _, rest⟩ := Outcome.of_bind_eq_ok rest
    obtain ⟨step, _, rest⟩ := Outcome.of_bind_eq_ok rest
    obtain ⟨values, built, rest⟩ := Outcome.of_bind_eq_ok rest
    obtain ⟨items, rfl⟩ := Range.isArray_of_build built
    obtain rfl := Except.ok.inj rest
    exact .range items
  | counter =>
    obtain ⟨_, _, rest⟩ := Outcome.of_bind_eq_ok prepared
    obtain ⟨_, _, rest⟩ := Outcome.of_bind_eq_ok rest
    obtain rfl := Except.ok.inj rest
    exact .counter _ _ _
  | randomInt =>
    obtain ⟨_, _, rest⟩ := Outcome.of_bind_eq_ok prepared
    obtain ⟨_, _, rest⟩ := Outcome.of_bind_eq_ok rest
    obtain ⟨_, _, rest⟩ := Outcome.of_bind_eq_ok rest
    obtain ⟨_, _, rest⟩ := Outcome.of_bind_eq_ok rest
    obtain rfl := Except.ok.inj rest
    exact .randomInt _ _ _
  | throw | var | json | incoming | working | env | count =>
    obtain ⟨_, _, rest⟩ := Outcome.of_bind_eq_ok prepared
    obtain rfl := Except.ok.inj rest
    constructor
  | _ =>
    obtain rfl := Except.ok.inj prepared
    constructor

namespace Method

/-- The name of a parameter tells whether its query runs on the target of the method. -/
def runsOnTarget (name : String) : Bool := name = "query" ∨ name = "test" ∨ name = "compare"

/-- A query runs on the target of a method if the name of its parameter says so. -/
theorem isScoped_eq (method : Method) :
    ∀ parameter ∈ method.signature.parameters,
      parameter.isScoped = runsOnTarget parameter.name := by
  -- This can be read off the signatures.
  cases method <;> simp [signature, Signature.of, Parameter.required, Parameter.optional,
    Parameter.defaulting, Parameter.static, Parameter.onTarget, Signature.variadic,
    elementQuery, patternParameter, runsOnTarget]

/-- Arguments that correspond make corresponding calls of a method. -/
theorem prepare_alike (method : Method) (alike : Bound.Alike related bound bound')
    (literals : ∀ isScoped value,
      related isScoped (Bindable.ofLiteral value) (Bindable.ofLiteral value))
    (parameters : bound.parameters = method.signature.parameters) :
    Outcome.Agree (MethodCall.Alike related) (method.prepare bound) (method.prepare bound') := by
  have scoping (name : String) : ∀ parameter ∈ bound.parameters, parameter.name = name →
      parameter.isScoped = runsOnTarget name := by
    rintro parameter member rfl
    exact method.isScoped_eq parameter (parameters ▸ member)
  have query (name : String) := alike.query literals (scoping name)
  have query? (name : String) := alike.query? literals (scoping name)
  -- Methods that run queries read them by name; the name tells whether they run on the target.
  cases method with
  | or => exact (query "fallback").bind fun _ _ agree => .value (.fallback true agree)
  | «catch» => exact (query "fallback").bind fun _ _ agree => .value (.fallback false agree)
  | mapEach => exact (query "query").bind fun _ _ agree => .value (.mapEach agree)
  | filter => exact (query "test").bind fun _ _ agree => .value (.filter agree)
  | any => exact (query "test").bind fun _ _ agree => .value (.any agree)
  | all => exact (query "test").bind fun _ _ agree => .value (.all agree)
  | sortBy => exact (query "query").bind fun _ _ agree => .value (.sortBy agree)
  | fold =>
    simp only [prepare, alike.value]
    refine .after _ fun initial => ?_
    exact (query "query").bind fun _ _ agree => .value (.fold initial agree)
  | sort =>
    have before := query? "compare"
    simp only [prepare]
    revert before
    generalize bound.query? "compare" = before
    generalize bound'.query? "compare" = before'
    rintro (agree | _)
    · exact .value (.sort agree)
    · exact .value (.plain _)
  | _ =>
    -- Every other method is an operation made of values, which are the same on both sides.
    simp only [prepare, alike.string, alike.int, alike.int?, alike.bool, alike.bool?, alike.get?,
      alike.value, alike.values]
    repeat' first | exact .value (.plain _) | refine .after _ fun _ => ?_

end Method

end Reshape
