import Reshape.Expr.Dependency
import Reshape.Proofs.Expr.Constant
import Reshape.Proofs.Expr.Denotes
import Reshape.Proofs.Expr.Narrowed
import Reshape.Proofs.Grammar.Row

/-!
The leaves of operator expressions: references and constants under signs, parentheses, constructors
of arrays and objects, and conditions. The analysis of such an expression reports its references in
the order in which they are written, each one once and with its whole path, whatever is folded on
the way.
-/

namespace Reshape

/-- The name that a segment stands for, if it is well-formed. -/
def Segment.name? : Segment → Option String
  | .plain name => some name
  | .quoted _ text =>
    match Json.parse text.toList with
    | some (.string inner) => some inner
    | _ => none

namespace Term

/-- The input that a reference names, with the segments behind it. Parentheses around a reference
make no difference. -/
def reference? : Term → Option Dependency
  | .nested _ inner => inner.reference?
  | .current => some ⟨.value, []⟩
  | .name called => some ⟨.value, [called]⟩
  | .root => some ⟨.root, []⟩
  | .variable called => some ⟨.variable, [called]⟩
  | .metadata none => some ⟨.metadata, []⟩
  | .metadata (some key) => do return ⟨.metadata, [← key.name?]⟩
  | .field target part => do return (← target.reference?).child [← part.name?]
  | _ => none

mutual

/-- The inputs that the references of an operator expression name, in the order of the source. -/
def references? : Term → Option (List Dependency)
  | .literal _ | .number _ _ | .quoted _ _ => some []
  | .nested _ inner => inner.references?
  | .signed _ operand => operand.references?
  | .binary _ left right => do return (← left.references?) ++ (← right.references?)
  | .array items => referencesAll? items
  | .object entries => referencesEntries? entries
  | .branches tests otherwise => do
    return (← referencesPairs? tests) ++ (← referencesOption? otherwise)
  | whole => do return [← whole.reference?]

/-- The inputs that are named in an optional expression. -/
def referencesOption? : Option Term → Option (List Dependency)
  | none => some []
  | some term => term.references?

/-- The inputs that are named in expressions. -/
def referencesAll? : List Term → Option (List Dependency)
  | [] => some []
  | term :: rest => do return (← term.references?) ++ (← referencesAll? rest)

/-- The inputs that are named in pairs of expressions. -/
def referencesPairs? : List (Term × Term) → Option (List Dependency)
  | [] => some []
  | (first, second) :: rest => do
    return (← first.references?) ++ (← second.references?) ++ (← referencesPairs? rest)

/-- The inputs that are named in the keys and values of an object. -/
def referencesEntries? : List (Span × Term × Term) → Option (List Dependency)
  | [] => some []
  | (_, key, value) :: rest => do
    return (← key.references?) ++ (← value.references?) ++ (← referencesEntries? rest)

end

end Term

namespace Dependency

/-- Paths are put behind an input one after the other. -/
@[simp]
theorem child_child (input : Dependency) (path path' : List String) :
    (input.child path).child path' = input.child (path ++ path') := by
  simp [child]

end Dependency

namespace Viewpoint

/-- The inputs at a longer path from the current value are those at the shorter one with the rest
of the path behind. -/
theorem child_append (view : Viewpoint) (path path' : List String) :
    view.child (path ++ path') = (view.child path).map fun input => input.child path' := by
  unfold child
  split <;> simp [Dependency.child]

/-- The inputs at a longer path are those at the shorter one with the rest of the path behind. -/
theorem field_append (view : Viewpoint) (scope : Scope) (path path' : List String) :
    view.field scope (path ++ path') =
      (view.field scope path).map fun input => input.child path' := by
  cases scope with
  | current => exact view.child_append path path'
  | root => rfl
  | named name =>
    simp only [field, named]
    -- A name for no inputs stands for the current value.
    split
    · exact view.child_append path path'
    · exact view.child_append path path'
    · simp

end Viewpoint

namespace Expr

variable (view : Viewpoint)

/-- A segment behind an expression is put behind each of its inputs. -/
theorem inspect_child (expr : Expr) (segment : String) :
    (inspect view (expr.child segment)).2 =
      (inspect view expr).2.map fun input => input.child [segment] := by
  -- A reference grows by the segment; of anything else the segment is taken.
  cases expr with
  | field scope path => exact view.field_append scope path [segment]
  | _ => rfl

/-- Expressions that are constants report nothing. -/
theorem inspectAll_eq_nil {items : List Expr} {values : List Value}
    (constant : items.mapM literal? = some values) : inspectAll view items = [] := by
  -- Every item has to be a literal, as one that is none makes the whole list none.
  induction items generalizing values with
  | nil => rfl
  | cons item rest ih =>
    simp only [List.mapM_cons, Option.bind_eq_bind, Option.bind_eq_some_iff] at constant
    obtain ⟨value, isLiteral, values, later, _⟩ := constant
    cases item with
    | literal value => exact ih later
    | _ => cases isLiteral

/-- Entries that are constants report nothing. -/
theorem inspectPairs_eq_nil {entries : List (Expr × Expr)} {fields : List (String × Value)}
    (constant : entries.mapM entry? = some fields) : inspectPairs view entries = [] := by
  induction entries generalizing fields with
  | nil => rfl
  | cons entry rest ih =>
    obtain ⟨key, value⟩ := entry
    simp only [List.mapM_cons, entry?, Option.bind_eq_bind, Option.bind_eq_some_iff] at constant
    obtain ⟨_, ⟨name, isName, single⟩, fields, later, _⟩ := constant
    -- The key is a literal and, as it is a name, so is the value.
    cases key with
    | literal name =>
      cases value with
      | literal value => exact ih later
      | _ => cases name <;> cases isName <;> cases single
    | _ => cases isName

/-- An array reports what its items report, folded or not. -/
theorem inspect_ofItems (items : List Expr) :
    (inspect view (ofItems items)).2 = inspectAll view items := by
  unfold ofItems
  -- What is folded had nothing to report.
  split
  next values constant => exact (inspectAll_eq_nil view constant).symm
  next => rfl

/-- An object reports what its keys and values report, folded or not. -/
theorem inspect_ofEntries (entries : List (Expr × Expr)) :
    (inspect view (ofEntries entries)).2 = inspectPairs view entries := by
  unfold ofEntries
  split
  next fields constant => exact (inspectPairs_eq_nil view constant).symm
  next => rfl

/-- A sign changes nothing of what its operand reports, folded or not. -/
theorem inspect_signed (sign : PrefixSign) (operand : Expr) :
    (inspect view (signed sign operand)).2 = (inspect view operand).2 := by
  unfold signed
  split
  next value constant =>
    -- Only a sign before a literal is folded.
    cases operand with
    | literal inner => rfl
    | _ => cases constant
  next => cases sign <;> rfl

/-- Two operands report what the left one reports and then what the right one does. -/
theorem inspect_joined (sign : Sign) (left right : Expr) :
    (inspect view (joined sign left right)).2 =
      (inspect view left).2 ++ (inspect view right).2 := by
  cases sign <;> rfl

end Expr

open Compile (Setting)

/-- A quoted text is compiled to what it stands for. -/
theorem Segment.compile_name {segment : Segment} {name : String}
    (stands : segment.name? = some name) :
    Compile.Gives (fun result => result = name) (Compile.segment segment) := by
  -- Only a quoted text can be malformed, and then it stands for nothing.
  cases segment with
  | plain text => exact .pure (Option.some.inj stands)
  | quoted span text =>
    simp only [name?] at stands
    split at stands
    next inner parsed =>
      simp only [Compile.segment, Compile.unquote, parsed]
      exact .pure (Option.some.inj stands)
    next => cases stands

namespace Term

/-- A term is compiled, if at all, to an expression that reports these inputs of the document. -/
def Reports (setting : Setting) (term : Term) (inputs : List Dependency) : Prop :=
  Compile.Gives (fun expr => (Expr.inspect .document expr).2 = inputs) (term.compile setting)

/-- Parentheses change nothing of what is reported. -/
theorem Reports.nested {setting : Setting} {inner : Term} {inputs : List Dependency}
    (reports : ∀ depth, inner.Reports { setting with depth } inputs) (span : Span) :
    Reports setting (.nested span inner) inputs := by
  unfold Reports
  rw [compile]
  split
  · exact reports _
  · exact .failure _

/-- A reference reports what it names. -/
theorem reports_reference (setting : Setting) (unbound : setting.lambdas = []) {term : Term}
    {input : Dependency} (names : term.reference? = some input) :
    term.Reports setting [input] := by
  cases term with
  | nested span inner =>
    rw [reference?] at names
    exact .nested (fun depth => reports_reference { setting with depth } unbound names) span
  | current | root | «variable» called =>
    obtain rfl := Option.some.inj names
    exact .pure rfl
  | name called =>
    obtain rfl := Option.some.inj names
    refine .pure ?_
    -- No lambda around it binds the name, which so is a field of the current value.
    rw [unbound]
    rfl
  | metadata key =>
    cases key with
    | none =>
      obtain rfl := Option.some.inj names
      exact .pure rfl
    | some key =>
      obtain ⟨name, stands, same⟩ := Option.bind_eq_some_iff.1 names
      obtain rfl := Option.some.inj same
      refine (Segment.compile_name stands).bind ?_
      rintro _ rfl
      exact .pure rfl
  | field target part =>
    rw [reference?] at names
    obtain ⟨input, reference, rest⟩ := Option.bind_eq_some_iff.1 names
    obtain ⟨name, stands, same⟩ := Option.bind_eq_some_iff.1 rest
    obtain rfl := Option.some.inj same
    refine Compile.Gives.bind (reports_reference setting unbound reference) fun expr reported => ?_
    refine (Segment.compile_name stands).bind ?_
    rintro _ rfl
    refine .pure ?_
    -- The segment extends the path, or is taken of what is in parentheses.
    rw [Expr.inspect_child, reported]
    rfl
  | _ => cases names

mutual

/-- An operator expression reports what its references name. -/
theorem reports_references (setting : Setting) (unbound : setting.lambdas = []) {term : Term}
    {inputs : List Dependency} (names : term.references? = some inputs) :
    term.Reports setting inputs := by
  cases term with
  | literal value =>
    obtain rfl := Option.some.inj names
    exact .pure rfl
  | number span text | quoted span text =>
    obtain rfl := Option.some.inj names
    exact Compile.Gives.after fun _ => .pure rfl
  | nested span inner =>
    rw [references?] at names
    exact .nested (fun depth => reports_references { setting with depth } unbound names) span
  | signed sign operand =>
    rw [references?] at names
    have operand := reports_references setting unbound names
    refine Compile.Gives.bind operand fun expr reported => .pure ?_
    rw [Expr.inspect_signed, reported]
  | binary sign left right =>
    rw [references?] at names
    obtain ⟨before, first, rest⟩ := Option.bind_eq_some_iff.1 names
    obtain ⟨behind, second, same⟩ := Option.bind_eq_some_iff.1 rest
    obtain rfl := Option.some.inj same
    -- Both operands are compiled before either outcome is looked at.
    refine (reports_references setting unbound first).attempt.bind fun left reported => ?_
    refine (reports_references setting unbound second).attempt.bind fun right reported' => ?_
    refine (Compile.Gives.ofExcept reported).bind fun left reported => ?_
    refine (Compile.Gives.ofExcept reported').bind fun right reported' => .pure ?_
    rw [Expr.inspect_joined, reported, reported']
  | array items =>
    rw [references?] at names
    refine (gives_referencesAll setting unbound names).bind fun exprs reported => .pure ?_
    rw [Expr.inspect_ofItems, reported]
  | object entries =>
    rw [references?] at names
    refine (gives_referencesEntries setting unbound names).bind fun exprs reported => .pure ?_
    rw [Expr.inspect_ofEntries, reported]
  | branches tests otherwise =>
    rw [references?] at names
    obtain ⟨before, first, rest⟩ := Option.bind_eq_some_iff.1 names
    obtain ⟨behind, second, same⟩ := Option.bind_eq_some_iff.1 rest
    obtain rfl := Option.some.inj same
    -- All branches are inspected, though only one of them is evaluated.
    refine (gives_referencesPairs setting unbound first).bind fun tests reported => ?_
    refine (gives_referencesOption setting unbound second).bind fun otherwise reported' => .pure ?_
    rw [Expr.inspect, reported, reported']
  | current | root | name _ | «variable» _ | metadata _ | field _ _ =>
    -- A reference names one input.
    simp only [references?] at names
    obtain ⟨input, reference, same⟩ := Option.bind_eq_some_iff.1 names
    obtain rfl := Option.some.inj same
    exact reports_reference setting unbound reference
  | cases _ _ | call _ _ _ | method _ _ _ _ | lambda _ _ =>
    -- These are no operator expressions.
    cases names

/-- An optional operator expression reports what its references name. -/
theorem gives_referencesOption (setting : Setting) (unbound : setting.lambdas = [])
    {term : Option Term} {inputs : List Dependency}
    (names : referencesOption? term = some inputs) :
    Compile.Gives (fun expr => (Expr.inspectOption .document expr).2 = inputs)
      (compileOption setting term) := by
  -- Without a term nothing is reported, and nothing is named.
  cases term with
  | none =>
    obtain rfl := Option.some.inj names
    exact .pure rfl
  | some term =>
    rw [referencesOption?] at names
    exact Compile.Gives.bind (reports_references setting unbound names) fun expr reported =>
      .pure reported

/-- Operator expressions report what their references name. -/
theorem gives_referencesAll (setting : Setting) (unbound : setting.lambdas = [])
    {terms : List Term} {inputs : List Dependency}
    (names : referencesAll? terms = some inputs) :
    Compile.Gives (fun exprs => Expr.inspectAll .document exprs = inputs)
      (compileAll setting terms) := by
  cases terms with
  | nil =>
    obtain rfl := Option.some.inj names
    exact .pure rfl
  | cons term rest =>
    rw [referencesAll?] at names
    obtain ⟨before, first, more⟩ := Option.bind_eq_some_iff.1 names
    obtain ⟨behind, later, same⟩ := Option.bind_eq_some_iff.1 more
    obtain rfl := Option.some.inj same
    -- The references of the first term stand before those of the others.
    refine Compile.Gives.bind (reports_references setting unbound first) fun expr reported => ?_
    refine (gives_referencesAll setting unbound later).bind fun exprs reported' => .pure ?_
    rw [Expr.inspectAll, reported, reported']

/-- Pairs of operator expressions report what their references name. -/
theorem gives_referencesPairs (setting : Setting) (unbound : setting.lambdas = [])
    {pairs : List (Term × Term)} {inputs : List Dependency}
    (names : referencesPairs? pairs = some inputs) :
    Compile.Gives (fun exprs => Expr.inspectPairs .document exprs = inputs)
      (compilePairs setting pairs) := by
  -- The references of both terms of a pair stand before those of the other pairs.
  cases pairs with
  | nil =>
    obtain rfl := Option.some.inj names
    exact .pure rfl
  | cons pair rest =>
    obtain ⟨left, right⟩ := pair
    rw [referencesPairs?] at names
    obtain ⟨before, first, more⟩ := Option.bind_eq_some_iff.1 names
    obtain ⟨between, second, more⟩ := Option.bind_eq_some_iff.1 more
    obtain ⟨behind, later, same⟩ := Option.bind_eq_some_iff.1 more
    obtain rfl := Option.some.inj same
    refine Compile.Gives.bind (reports_references setting unbound first) fun left reported => ?_
    refine Compile.Gives.bind (reports_references setting unbound second) fun right reported' => ?_
    refine (gives_referencesPairs setting unbound later).bind fun exprs reported'' => .pure ?_
    rw [Expr.inspectPairs, reported, reported', reported'']

/-- The keys and values of an object report what their references name. -/
theorem gives_referencesEntries (setting : Setting) (unbound : setting.lambdas = [])
    {entries : List (Span × Term × Term)} {inputs : List Dependency}
    (names : referencesEntries? entries = some inputs) :
    Compile.Gives (fun exprs => Expr.inspectPairs .document exprs = inputs)
      (compileEntries setting entries) := by
  cases entries with
  | nil =>
    obtain rfl := Option.some.inj names
    exact .pure rfl
  | cons entry rest =>
    obtain ⟨span, key, value⟩ := entry
    rw [referencesEntries?] at names
    obtain ⟨before, first, more⟩ := Option.bind_eq_some_iff.1 names
    obtain ⟨between, second, more⟩ := Option.bind_eq_some_iff.1 more
    obtain ⟨behind, later, same⟩ := Option.bind_eq_some_iff.1 more
    obtain rfl := Option.some.inj same
    refine Compile.Gives.bind (reports_references setting unbound first) fun key reported => ?_
    have entry : Compile.Gives (fun exprs => Expr.inspectPairs .document exprs =
        before ++ between ++ behind) (do
          let value ← compile setting value
          return (key, value) :: (← compileEntries setting rest)) := by
      refine Compile.Gives.bind (reports_references setting unbound second) fun _ reported' => ?_
      refine (gives_referencesEntries setting unbound later).bind fun exprs reported'' => .pure ?_
      rw [Expr.inspectPairs, reported, reported', reported'']
    -- A constant key that is no string is a fault.
    split
    · exact entry
    · exact entry
    · exact .failure _

end

end Term

/-- The inputs of an operator expression are those that its references name, one for each reference
and in the order of the source. -/
theorem Expr.dependencies_of_references {environment : Environment} {source : String} {term : Term}
    {inputs : List Dependency} {expr : Expr} {warnings : List String}
    (read : Term.read source = .ok term) (names : term.references? = some inputs)
    (compiled : ((Expr.compile environment source).run.run warnings).1 = .ok expr) :
    expr.dependencies = inputs := by
  rw [Expr.compile_of_read read] at compiled
  exact Term.reports_references _ rfl names warnings expr compiled

section Sample

/-- A condition with signs, parentheses, constructors, constants and references of all kinds. -/
def mixture : String :=
  "if this.on && !root.a \x7b [(root.b).c, -$v.d | e.\"f g\", [1]] \x7d " ++
    "else \x7b \x7b\"k\": @h == x * 2 - this\x7d \x7d"

/-- The inputs that the references in the condition name. -/
def mixtureInputs : List Dependency :=
  [⟨.value, ["on"]⟩, ⟨.root, ["a"]⟩, ⟨.root, ["b", "c"]⟩, ⟨.variable, ["v", "d"]⟩,
    ⟨.value, ["e", "f g"]⟩, ⟨.metadata, ["h"]⟩, ⟨.value, ["x"]⟩, ⟨.value, []⟩]

/-- The condition is compiled and reports its references. -/
theorem Expr.dependencies_of_mixture :
    ∃ term expr after,
      Term.read mixture = .ok term ∧ term.references? = some mixtureInputs ∧
        (Expr.compile .standard mixture).run.run [] = (.ok expr, after) ∧
        expr.dependencies = mixtureInputs := by
  -- What the text is read as and that it compiles is evaluated; what it reports follows by the
  -- theorem.
  have named : (Term.read mixture).toOption.bind Term.references? = some mixtureInputs := by
    decide +kernel
  have success : (Expr.compile .standard mixture).succeeds = true := by decide +kernel
  obtain ⟨term, found, names⟩ := Option.bind_eq_some_iff.1 named
  have read : Term.read mixture = .ok term := by
    cases outcome : Term.read mixture <;> simp_all [Except.toOption]
  obtain ⟨expr, after, compiled⟩ := Compile.exists_of_succeeds success
  exact ⟨term, expr, after, read, names, compiled,
    dependencies_of_references read names (congrArg Prod.fst compiled)⟩

end Sample

end Reshape
