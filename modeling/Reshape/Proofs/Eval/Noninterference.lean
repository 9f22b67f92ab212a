import Reshape.Proofs.Eval.Inputs
import Reshape.Proofs.Eval.Visit
import Reshape.Proofs.Expr.Coverage

/-!
Noninterference: contexts that agree on the inputs that an expression reads make it give the same.
The inputs that the analysis finds are enough for that wherever they cover those that are read.
-/

namespace Reshape

variable {memories : Memory → Memory → Prop} {dependencies : List Dependency}
  {context context' : Context} {wanted : List String}

namespace Expr

/-- Expressions that agree do so on every part of what they give. -/
theorem Agree.part {expr : Expr} (agree : Expr.Agree memories context context' expr expr)
    (site : Site) :
    Eval.AgreePart memories wanted ((expr.denote site).run context)
      ((expr.denote site).run context') :=
  Eval.Agree.mono (fun _ _ same => congrArg (Value.getOrNull wanted) same) (agree site)

/-- A path gives the same if the contexts agree where it leads. -/
theorem field_agree {scope : Scope} {path : List String} {sight : Sight}
    (covered : ∀ input, Reads sight wanted (.field scope path) input →
      Dependency.CoveredBy dependencies input)
    (shows : sight.Shows dependencies context context') :
    Eval.AgreePart memories wanted (Query.field scope path context)
      (Query.field scope path context') := by
  -- A value that was computed is the same in both contexts, and one that was given agrees where it
  -- is read.
  have part {provenance : Provenance} {value value' : Value}
      (related : provenance.Relates dependencies value value')
      (read : provenance = .input → Dependency.CoveredBy dependencies ⟨.value, path ++ wanted⟩) :
      (value.getOrNull path).getOrNull wanted = (value'.getOrNull path).getOrNull wanted := by
    cases provenance with
    | computed => exact congrArg (fun value => (value.getOrNull path).getOrNull wanted) related
    | input =>
      rw [← Value.getOrNull_append, ← Value.getOrNull_append]
      exact Value.AgreeAt.covered related (read rfl)
  -- The path starts from the current value, from the root or from the value of a name.
  cases scope with
  | current =>
    have same := shows.current
    simp only [Query.field, Context.get]
    generalize context.value = current at same ⊢
    generalize context'.value = current' at same ⊢
    cases same with
    | none => exact .failure _ _
    | some related => exact .pure (part related fun given => covered _ (.current given))
  | root =>
    have same := shows.inputs.root
    simp only [Query.field]
    generalize context.root = root at same ⊢
    generalize context'.root = root' at same ⊢
    cases same with
    | none => exact .failure _ _
    | some related =>
      refine .pure ?_
      rw [← Value.getOrNull_append, ← Value.getOrNull_append]
      exact related.covered (covered _ .root)
  | named name =>
    simp only [Query.field, Context.named?]
    rcases shows.names.lookup name with
      ⟨provenance, seen, value, value', found, found', related⟩ | ⟨missing, missing'⟩
    · rw [found, found']
      exact .pure (part related fun given => covered _ (.named (given ▸ seen)))
    · rw [missing, missing']
      exact .failure _ _

/-- A path into a variable gives the same if the variables agree there. -/
theorem variableAt_agree {name : String} {path : List String}
    (covered : Dependency.CoveredBy dependencies ⟨.variable, name :: path ++ wanted⟩)
    (agree : Context.AgreeAt dependencies context context') :
    Eval.AgreePart memories wanted (Query.variableAt name path context)
      (Query.variableAt name path context') := by
  have known := agree.known name
  have same := agree.locals.covered covered
  simp only [List.cons_append, Value.getOrNull_field] at same
  unfold Query.variableAt
  generalize context.locals.get? name = value at known same ⊢
  generalize context'.locals.get? name = value' at known same ⊢
  -- The variable is bound in both contexts or in none.
  cases value with
  | none =>
    cases value' with
    | none => exact .failure _ _
    | some _ => cases known
  | some value =>
    cases value' with
    | none => cases known
    | some value' =>
      refine .pure ?_
      rw [← Value.getOrNull_append, ← Value.getOrNull_append]
      exact same

/-- A call whose arguments are known gives the same if the contexts agree on what it reads. -/
theorem call_agree_static {function : Function} {slots : List (Slot Expr)}
    (static : (function.signature.attach slots).isDynamic = false)
    (steady : function.isSteady = true)
    (covered : ∀ input ∈ function.inputs slots,
      Dependency.CoveredBy dependencies (input.child wanted))
    (agree : Context.AgreeAt dependencies context context') (site : Site) :
    Eval.AgreePart memories wanted
      (Query.function site function (denoteSlots site 0 slots) context)
      (Query.function site function (denoteSlots site 0 slots) context') := by
  obtain ⟨bound, called, run⟩ := call_static static site
  rw [run, run]
  unfold Function.inputs at covered
  simp only [static, Bool.false_eq_true, if_false] at covered
  generalize function.prepare (function.signature.attach slots) = outcome at called covered
  generalize prepared : function.prepare bound = outcome' at called ⊢
  -- The arguments are the same in both contexts, and so is the call that they make.
  cases called with
  | failure _ error => exact .failure error error
  | value alike =>
    dsimp only at covered
    rw [alike.inputs] at covered
    have makes := Function.makes_of_prepare prepared
    exact FunctionCall.run_agree (makes.isSteady steady) agree covered site

/-- A call whose arguments are not known gives the same if the arguments do and the contexts agree
on what it may read. -/
theorem call_agree_dynamic {function : Function} {slots : List (Slot Expr)}
    (steady : function.isSteady = true)
    (covered : ∀ input ∈ function.anywhere, Dependency.CoveredBy dependencies input)
    (agree : Context.AgreeAt dependencies context context')
    (same : ∀ manner part, (manner, part) ∈ function.signature.parts slots → ∀ inner inner',
      manner.LeadsBoth context context' inner inner' →
        Expr.Agree memories inner inner' part part) :
    Expr.Agree memories context context' (.call function slots) (.call function slots) := by
  have slotted : AgreeSlots memories context context' function.signature slots
      (slots.map (Slot.map id)) := agreeSlots_map function.signature slots same
  rw [Slot.map_id_list] at slotted
  refine Agree.call function slotted fun site bound call call' prepared alike => ?_
  have makes := Function.makes_of_prepare prepared
  have calm := makes.isSteady steady
  rw [alike.eq_of_isSteady calm]
  -- What the call reads by itself is a part of what the function may read anywhere.
  have reached (input : Dependency) (member : input ∈ call.inputs) :
      Dependency.CoveredBy dependencies (input.child []) := by
    obtain ⟨wide, among, origin, leading⟩ := makes.inputs member
    obtain ⟨covering, found, origin', leading'⟩ := covered wide among
    refine ⟨covering, found, origin'.trans origin, ?_⟩
    rw [Dependency.child, List.append_nil]
    exact leading'.trans leading
  exact FunctionCall.run_agree calm agree reached site

/-- Cases without a subject give the same if the current values are compared with no case, or agree
where all of them is. -/
theorem cases_agree {rules : List (Case Expr × Expr)} {sight : Sight}
    (covered : ∀ rule ∈ rules, rule.1.compares = true → sight.current = .input →
      Dependency.CoveredBy dependencies ⟨.value, []⟩)
    (shows : sight.Shows dependencies context context')
    (same : ∀ part, (Manner.here, part) ∈ ruleParts .here rules →
      Expr.Agree memories context context' part part) :
    Expr.Agree memories context context' (.cases none rules) (.cases none rules) := by
  -- Where a case compares, all of the current value is known to be the same.
  have equal (rule : Case Expr × Expr) (member : rule ∈ rules)
      (compares : rule.1.compares = true) (given : Value) :
      (context.value.any fun value => value == given) =
        context'.value.any fun value => value == given := by
    have current := shows.current
    have read := covered rule member compares
    generalize context.value = value at current ⊢
    generalize context'.value = value' at current ⊢
    cases current with
    | none => rfl
    | @some value value' related =>
      have whole : value = value' := by
        revert related
        generalize sight.current = provenance at read ⊢
        intro related
        cases provenance with
        | computed => exact related
        | input => exact Value.AgreeAt.covered related (read rfl)
      rw [whole]
  have agree (rule : Case Expr × Expr) (member : rule ∈ rules) :
      AgreeRules memories context context' rule rule := by
    have inside (part : Expr) (either : part ∈ rule.1.tests ++ [rule.2]) :
        Expr.Agree memories context context' part part :=
      same part (List.mem_flatMap.2 ⟨_, member, List.mem_map_of_mem either⟩)
    have compared := equal rule member
    obtain ⟨case, body⟩ := rule
    refine ⟨fun site => ?_, inside body (by simp)⟩
    -- A test that gives truth values does not compare, and neither does a case that always
    -- applies.
    cases case with
    | wildcard => exact .pure rfl
    | equals value => exact .pure (compared rfl value)
    | query test =>
      have tested := inside test (.head _) site
      cases truth : test.isTruth with
      | true => exact Query.Agree.applies_truth tested (yields_truth truth _ context)
      | false =>
        refine Query.Agree.applies_query (Eval.Agree.mono ?_ tested)
        rintro value _ rfl
        exact ⟨rfl, fun _ => compared (by simp [Case.compares, truth]) value⟩
  exact Agree.cases (List.forall₂_same.2 agree)

/-- A lambda gives the same if its body does where the current value is bound. -/
theorem lambda_agree {name : String} {body : Expr} {sight : Sight}
    (shows : sight.Shows dependencies context context')
    (same : ∀ inner inner', (Manner.bound name).LeadsBoth context context' inner inner' →
      Expr.Agree memories inner inner' body body) :
    Expr.Agree memories context context' (.lambda name body) (.lambda name body) := by
  refine Agree.lambda name ?_
  have current := shows.current
  generalize value : context.value = held at current ⊢
  generalize value' : context'.value = held' at current ⊢
  -- Without a current value the lambda fails in both contexts.
  cases current with
  | none => exact .none
  | some related => exact .some (same _ _ ⟨_, _, value, value', rfl, rfl⟩)

/-- An expression gives the same, as far as a part of it is wanted, in contexts that agree on the
inputs that it reads. -/
theorem agree_of_reads (expr : Expr) {sight : Sight} {context context' : Context}
    {wanted : List String}
    (steady : ∀ function, expr.Calls function → function.isSteady = true)
    (covered : ∀ input, Reads sight wanted expr input → Dependency.CoveredBy dependencies input)
    (shows : sight.Shows dependencies context context') (site : Site) :
    Eval.AgreePart memories wanted ((expr.denote site).run context)
      ((expr.denote site).run context') := by
  induction expr using induction_parts generalizing sight context context' wanted site with
  | step whole ih =>
    -- The parts agree by induction, as what they read is read by the whole.
    have parts (plain : ∀ target segment, whole ≠ .get target segment) (manner : Manner)
        (part : Expr) (member : (manner, part) ∈ whole.parts) (inner inner' : Context)
        (leads : manner.LeadsBoth context context' inner inner') :
        Expr.Agree memories inner inner' part part := fun site =>
      ih manner part member (fun function calls => steady function (.part member calls))
        (fun input reads => covered input (.part member plain reads)) (shows.leads leads) site
    -- An expression that looks at nothing by itself agrees because its parts do.
    have unlooked (plain : ∀ target segment, whole ≠ .get target segment)
        (looks : whole.looks = true → Expr.Agree memories context context' whole whole) :
        Expr.Agree memories context context' whole whole := by
      have agree (looks : whole.looks = true →
          Expr.Agree memories context context' whole (whole.mapParts id)) :
          Expr.Agree memories context context' whole (whole.mapParts id) :=
        agree_mapParts whole (parts plain) looks
      rw [mapParts_id] at agree
      exact agree looks
    cases whole with
    | field scope path => exact field_agree covered shows
    | «variable» name path => exact variableAt_agree (covered _ .variable) shows.inputs
    | metadata key =>
      refine .pure ?_
      rw [Query.metadata_eq, Query.metadata_eq, ← Value.getOrNull_append,
        ← Value.getOrNull_append]
      exact shows.inputs.metadata.covered (covered _ .metadata)
    | get target segment =>
      -- Only a segment of the target is wanted, before what is wanted of the whole.
      have agree := ih .here target (.head _)
        (fun function calls => steady function (.part (.head _) calls))
        (fun input reads => covered input (.get reads)) shows (0 :: site)
      refine (Eval.Agree.adapt _ _ agree).map fun value value' same => ?_
      rw [← Value.getOrNull_append, ← Value.getOrNull_append]
      exact same
    | call function slots =>
      have calm := steady function (.here function slots)
      -- With known arguments only some inputs are read; with others it may be any of the
      -- function's origin.
      cases dynamic : (function.signature.attach slots).isDynamic with
      | false =>
        exact call_agree_static dynamic calm (fun input member => covered _ (.known member))
          shows.inputs site
      | true =>
        refine (call_agree_dynamic calm (fun input member => ?_) shows.inputs ?_).part site
        · exact covered input (.unknown dynamic member)
        · exact parts (by simp)
    | cases subject rules =>
      refine (unlooked (by simp) fun looks => ?_).part site
      cases subject with
      | some subject => cases looks
      | none =>
        refine cases_agree (fun rule member compares given => ?_) shows fun part member => ?_
        · exact covered _ (.compared member compares given)
        · exact parts (by simp) .here part member _ _ ⟨rfl, rfl⟩
    | lambda name body =>
      refine Agree.part ?_ site
      exact lambda_agree shows (parts (by simp) (.bound name) body (.head _))
    | _ => exact (unlooked (by simp) (by simp [looks])).part site

/-- An expression gives the same in contexts that agree on the inputs that the analysis finds, if
these cover the inputs that it reads. -/
theorem agree_of_dependencies {expr : Expr}
    (steady : ∀ function, expr.Calls function → function.isSteady = true)
    (covered : ∀ input, Reads .document [] expr input →
      Dependency.CoveredBy expr.dependencies input)
    (agree : Context.AgreeOn expr.dependencies context context') :
    Expr.Agree memories context context' expr expr :=
  fun site => agree_of_reads expr steady covered (Sight.shows_document agree) site

end Expr

section Sample

/-- The expression of `this.items.map_each(i -> …)` for a path. -/
def Expr.perItem (scope : Scope) (path : List String) : Expr :=
  .method (.field .current ["items"]) .mapEach [.query (.lambda "i" (.field scope path))]

/-- The expression of `this.items.map_each(i -> i.price)`. -/
def Expr.prices : Expr := perItem (.named "i") ["price"]

/-- The expression of `this.items.map_each(i -> this.rate)`. -/
def Expr.rates : Expr := perItem .current ["rate"]

/-- The term of `this.items.map_each(i -> this.rate)`. -/
def Term.rates : Term :=
  .method ⟨0, 0⟩ (.field .current (.plain "items")) "map_each"
    [(none, .lambda "i" (.field .current (.plain "rate")))]

/-- An expression of a path for each item has a path and a lambda as its parts. -/
theorem Expr.parts_perItem (scope : Scope) (path : List String) :
    (perItem scope path).parts =
      [(.here, .field .current ["items"]), (.narrowed, .lambda "i" (.field scope path))] := rfl

/-- An expression of a path for each item calls no function. -/
theorem Expr.not_calls_perItem {scope : Scope} {path : List String} {function : Function} :
    ¬(perItem scope path).Calls function := by
  -- Its parts are the list and the query, and both are fields.
  have field {scope : Scope} {path : List String} :
      ¬(Expr.field scope path).Calls function := by
    rintro (_ | ⟨member, _⟩)
    cases member
  rintro (_ | ⟨member, calls⟩)
  rw [parts_perItem] at member
  simp only [List.mem_cons, Prod.mk.injEq, List.not_mem_nil, or_false] at member
  obtain ⟨_, rfl⟩ | ⟨_, rfl⟩ := member
  · exact field calls
  · obtain _ | ⟨inside, calls⟩ := calls
    obtain ⟨_, rfl⟩ := Prod.mk.inj (List.mem_singleton.1 inside)
    exact field calls

/-- A context whose current value is a document with one item and a rate. -/
def Context.ofRate (rate : String) : Context :=
  { Context.bare ⟨[], ⟨0, 0⟩⟩ with
    value := some (.object [("items", .array [.object []]), ("rate", .string rate)]) }

/-- Documents of different rates agree on their items. -/
theorem Context.agreeOn_ofRate {dependencies : List Dependency}
    (items : ∀ input ∈ dependencies, ∃ rest, input.path = "items" :: rest) (rate rate' : String) :
    Context.AgreeOn dependencies (Context.ofRate rate) (Context.ofRate rate') := by
  -- Only the rate differs, and no input starts with it.
  refine ⟨⟨.none, .none, fun _ => rfl, ?_, ?_, ?_⟩, .some fun input member _ => ?_, .nil, rfl, rfl⟩
  · exact fun _ _ _ => rfl
  · exact fun _ _ _ => rfl
  · exact fun _ _ _ => rfl
  · obtain ⟨rest, leading⟩ := items input member
    rw [leading, Value.getOrNull_field, Value.getOrNull_field]
    rfl

/-- The analysis follows a lambda that reads nothing but the item that it names. -/
theorem Expr.prices_isStraight : Expr.prices.IsStraight := by
  -- A field has no parts, and the query reads its item by name.
  have field (scope : Scope) (path : List String) : (Expr.field scope path).IsStraight := by
    refine .of ⟨?_, ?_, ?_, ?_⟩ ?_ <;> simp [parts]
  have query : (Expr.lambda "i" (.field (.named "i") ["price"])).IsStraight := by
    refine .of ⟨?_, ?_, ?_, ?_⟩ ?_ <;> simp [parts, field]
  have blind : ¬(Expr.field (.named "i") ["price"]).Looks := by
    rintro (_ | _ | ⟨member, _⟩)
    cases member
  refine .of ⟨fun manner name body member => ?_, ?_, ?_, ?_⟩ fun manner part member => ?_
  · rw [prices, parts_perItem] at member
    simp only [List.mem_cons, Prod.mk.injEq, reduceCtorEq, and_false, lambda.injEq,
      List.not_mem_nil, or_false, false_or] at member
    obtain ⟨rfl, rfl, rfl⟩ := member
    exact ⟨rfl, blind⟩
  · simp [prices, perItem]
  · simp [prices, perItem]
  · simp [prices, perItem]
  · rw [prices, parts_perItem] at member
    simp only [List.mem_cons, Prod.mk.injEq, List.not_mem_nil, or_false] at member
    obtain ⟨_, rfl⟩ | ⟨_, rfl⟩ := member
    · exact field _ _
    · exact query

/-- The prices of items are the same in documents of different rates. -/
theorem Expr.agree_of_dependencies_of_prices :
    (∀ function, Expr.prices.Calls function → function.isSteady = true) ∧
      (∀ input, Expr.Reads .document [] Expr.prices input →
        Dependency.CoveredBy Expr.prices.dependencies input) ∧
      Context.AgreeOn Expr.prices.dependencies (Context.ofRate "low") (Context.ofRate "high") ∧
        Expr.Agree (fun _ _ => True) (Context.ofRate "low") (Context.ofRate "high") Expr.prices
          Expr.prices := by
  -- No function is called, the analysis is straight, and the documents differ in the rate only.
  have steady : ∀ function, Expr.prices.Calls function → function.isSteady = true :=
    fun function calls => absurd calls Expr.not_calls_perItem
  have covered (input : Dependency) (reads : Expr.Reads .document [] Expr.prices input) :
      Dependency.CoveredBy Expr.prices.dependencies input :=
    Expr.covered_of_isStraight Expr.prices_isStraight (by simp [Expr.prices, Expr.perItem]) reads
  have agree : Context.AgreeOn Expr.prices.dependencies (Context.ofRate "low")
      (Context.ofRate "high") := by
    refine Context.agreeOn_ofRate ?_ "low" "high"
    have found : Expr.prices.dependencies =
      [⟨.value, ["items"]⟩, ⟨.value, ["items", "price"]⟩] := rfl
    simp [found]
  exact ⟨steady, covered, agree, Expr.agree_of_dependencies steady covered agree⟩

/-- A rate that a lambda turns back to is read, but not found: the results differ in documents that
agree on all that is found. -/
theorem Expr.not_agree_of_dependencies :
    ((Term.rates.compile ⟨Environment.standard, 0, []⟩).run.run []).1 = .ok Expr.rates ∧
      (∀ function, Expr.rates.Calls function → function.isSteady = true) ∧
      Context.AgreeOn Expr.rates.dependencies (Context.ofRate "low") (Context.ofRate "high") ∧
      ((Expr.rates.denote []).run (Context.ofRate "low")).outcome (.fresh (.seeded 0)) =
        (.ok (.array [.string "low"]), .fresh (.seeded 0)) ∧
      ((Expr.rates.denote []).run (Context.ofRate "high")).outcome (.fresh (.seeded 0)) =
        (.ok (.array [.string "high"]), .fresh (.seeded 0)) := by
  refine ⟨rfl, fun function calls => absurd calls Expr.not_calls_perItem, ?_, rfl, rfl⟩
  refine Context.agreeOn_ofRate ?_ "low" "high"
  have found : Expr.rates.dependencies =
    [⟨.value, ["items"]⟩, ⟨.value, ["items", "rate"]⟩] := rfl
  simp [found]

end Sample

end Reshape
