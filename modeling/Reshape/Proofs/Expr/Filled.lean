import Reshape.Proofs.Expr.Match

/-!
Compilation of related terms: terms that are the same but for what stands in some holes have related
expressions, for every relation that the ways to build an expression preserve.
-/

namespace Reshape

/-- Two segments write the same name, perhaps at different places. -/
inductive Segment.Same : Segment → Segment → Prop where
  | plain (name : String) : Same (.plain name) (.plain name)
  | quoted (span span' : Span) (text : String) : Same (.quoted span text) (.quoted span' text)

/-- Segments that write the same name stand for it both. -/
theorem Segment.Same.compile {segment segment' : Segment} (same : Segment.Same segment segment') :
    Compile.Match Eq (Compile.segment segment) (Compile.segment segment') := by
  cases same with
  | plain name => exact .pure rfl
  | quoted span span' text => exact Compile.unquote_match span span' text

mutual

/-- Two terms are the same but for what stands in holes, and for the places of their parts; the
literals in them are plain. -/
inductive Term.Filled (plain : Value → Prop) (hole : Term → Term → Prop) :
    Term → Term → Prop where
  | hole {term term' : Term} (filled : hole term term') : Filled plain hole term term'
  | nested (span span' : Span) {inner inner' : Term} (same : Filled plain hole inner inner') :
      Filled plain hole (.nested span inner) (.nested span' inner')
  | literal {value : Value} (written : plain value) :
      Filled plain hole (.literal value) (.literal value)
  | number (span span' : Span) (text : String) :
      Filled plain hole (.number span text) (.number span' text)
  | quoted (span span' : Span) (text : String) :
      Filled plain hole (.quoted span text) (.quoted span' text)
  | array {items items' : List Term} (same : Term.FilledAll plain hole items items') :
      Filled plain hole (.array items) (.array items')
  | object {entries entries' : List (Span × Term × Term)}
      (same : Term.FilledEntries plain hole entries entries') :
      Filled plain hole (.object entries) (.object entries')
  | branches {tests tests' : List (Term × Term)} {otherwise otherwise' : Option Term}
      (same : Term.FilledPairs plain hole tests tests')
      (last : Term.FilledOption plain hole otherwise otherwise') :
      Filled plain hole (.branches tests otherwise) (.branches tests' otherwise')
  | cases {subject subject' : Option Term} {rules rules' : List (Option Term × Term)}
      (first : Term.FilledOption plain hole subject subject')
      (same : Term.FilledCases plain hole rules rules') :
      Filled plain hole (.cases subject rules) (.cases subject' rules')
  | call (span span' : Span) (name : String) {given given' : List (Option String × Term)}
      (same : Term.FilledArguments plain hole given given') :
      Filled plain hole (.call span name given) (.call span' name given')
  | variable (name : String) : Filled plain hole (.variable name) (.variable name)
  | allMetadata : Filled plain hole (.metadata none) (.metadata none)
  | metadata {key key' : Segment} (same : Segment.Same key key') :
      Filled plain hole (.metadata (some key)) (.metadata (some key'))
  | root : Filled plain hole .root .root
  | current : Filled plain hole .current .current
  | name (name : String) : Filled plain hole (.name name) (.name name)
  | signed (sign : PrefixSign) {operand operand' : Term}
      (same : Filled plain hole operand operand') :
      Filled plain hole (.signed sign operand) (.signed sign operand')
  | binary (sign : Sign) {left left' right right' : Term} (first : Filled plain hole left left')
      (second : Filled plain hole right right') :
      Filled plain hole (.binary sign left right) (.binary sign left' right')
  | field {target target' : Term} {part part' : Segment} (same : Filled plain hole target target')
      (parts : Segment.Same part part') :
      Filled plain hole (.field target part) (.field target' part')
  | method (span span' : Span) {target target' : Term} (name : String)
      {given given' : List (Option String × Term)} (first : Filled plain hole target target')
      (same : Term.FilledArguments plain hole given given') :
      Filled plain hole (.method span target name given) (.method span' target' name given')
  | lambda (name : String) {body body' : Term} (same : Filled plain hole body body') :
      Filled plain hole (.lambda name body) (.lambda name body')

/-- Optional terms that are the same but for what stands in holes. -/
inductive Term.FilledOption (plain : Value → Prop) (hole : Term → Term → Prop) :
    Option Term → Option Term → Prop where
  | none : FilledOption plain hole none none
  | some {term term' : Term} (same : Term.Filled plain hole term term') :
      FilledOption plain hole (some term) (some term')

/-- Terms that are pairwise the same but for what stands in holes. -/
inductive Term.FilledAll (plain : Value → Prop) (hole : Term → Term → Prop) :
    List Term → List Term → Prop where
  | nil : FilledAll plain hole [] []
  | cons {term term' : Term} {rest rest' : List Term} (first : Term.Filled plain hole term term')
      (later : FilledAll plain hole rest rest') :
      FilledAll plain hole (term :: rest) (term' :: rest')

/-- Pairs of terms that are the same but for what stands in holes. -/
inductive Term.FilledPairs (plain : Value → Prop) (hole : Term → Term → Prop) :
    List (Term × Term) → List (Term × Term) → Prop where
  | nil : FilledPairs plain hole [] []
  | cons {left left' right right' : Term} {rest rest' : List (Term × Term)}
      (first : Term.Filled plain hole left left') (second : Term.Filled plain hole right right')
      (later : FilledPairs plain hole rest rest') :
      FilledPairs plain hole ((left, right) :: rest) ((left', right') :: rest')

/-- Entries that are the same but for what stands in holes. -/
inductive Term.FilledEntries (plain : Value → Prop) (hole : Term → Term → Prop) :
    List (Span × Term × Term) → List (Span × Term × Term) → Prop where
  | nil : FilledEntries plain hole [] []
  | cons (span span' : Span) {key key' value value' : Term}
      {rest rest' : List (Span × Term × Term)} (first : Term.Filled plain hole key key')
      (second : Term.Filled plain hole value value') (later : FilledEntries plain hole rest rest') :
      FilledEntries plain hole ((span, key, value) :: rest) ((span', key', value') :: rest')

/-- Cases that are the same but for what stands in holes. -/
inductive Term.FilledCases (plain : Value → Prop) (hole : Term → Term → Prop) :
    List (Option Term × Term) → List (Option Term × Term) → Prop where
  | nil : FilledCases plain hole [] []
  | cons {test test' : Option Term} {body body' : Term} {rest rest' : List (Option Term × Term)}
      (first : Term.FilledOption plain hole test test') (second : Term.Filled plain hole body body')
      (later : FilledCases plain hole rest rest') :
      FilledCases plain hole ((test, body) :: rest) ((test', body') :: rest')

/-- Arguments that are the same but for what stands in holes. -/
inductive Term.FilledArguments (plain : Value → Prop) (hole : Term → Term → Prop) :
    List (Option String × Term) → List (Option String × Term) → Prop where
  | nil : FilledArguments plain hole [] []
  | cons (name : Option String) {term term' : Term} {rest rest' : List (Option String × Term)}
      (first : Term.Filled plain hole term term') (later : FilledArguments plain hole rest rest') :
      FilledArguments plain hole ((name, term) :: rest) ((name, term') :: rest')

end

/-- A segment writes the same name as itself. -/
theorem Segment.Same.refl (segment : Segment) : Segment.Same segment segment := by
  cases segment with
  | plain name => exact .plain name
  | quoted span text => exact .quoted span span text

section Refl

variable {hole : Term → Term → Prop}

mutual

/-- A term is the same as itself. -/
theorem Term.Filled.refl (term : Term) : Term.Filled (fun _ => True) hole term term := by
  -- Nothing stands in a hole, and all literals are plain.
  cases term with
  | nested span inner => exact .nested span span (.refl inner)
  | literal value => exact .literal trivial
  | number span text => exact .number span span text
  | quoted span text => exact .quoted span span text
  | array items => exact .array (.refl items)
  | object entries => exact .object (.refl entries)
  | branches tests otherwise => exact .branches (.refl tests) (.refl otherwise)
  | cases subject rules => exact .cases (.refl subject) (.refl rules)
  | call span name given => exact .call span span name (.refl given)
  | «variable» name => exact .variable name
  | metadata key =>
    cases key with
    | none => exact .allMetadata
    | some key => exact .metadata (.refl key)
  | root => exact .root
  | current => exact .current
  | name name => exact .name name
  | signed sign operand => exact .signed sign (.refl operand)
  | binary sign left right => exact .binary sign (.refl left) (.refl right)
  | field target segment => exact .field (.refl target) (.refl segment)
  | method span target name given => exact .method span span name (.refl target) (.refl given)
  | lambda name body => exact .lambda name (.refl body)

/-- An optional term is the same as itself. -/
theorem Term.FilledOption.refl (term : Option Term) :
    Term.FilledOption (fun _ => True) hole term term := by
  cases term with
  | none => exact .none
  | some term => exact .some (.refl term)

/-- Terms are the same as themselves. -/
theorem Term.FilledAll.refl (terms : List Term) :
    Term.FilledAll (fun _ => True) hole terms terms := by
  cases terms with
  | nil => exact .nil
  | cons term rest => exact .cons (.refl term) (.refl rest)

/-- Pairs of terms are the same as themselves. -/
theorem Term.FilledPairs.refl (pairs : List (Term × Term)) :
    Term.FilledPairs (fun _ => True) hole pairs pairs := by
  rcases pairs with _ | ⟨⟨first, second⟩, rest⟩
  · exact .nil
  · exact .cons (.refl first) (.refl second) (.refl rest)

/-- Entries are the same as themselves. -/
theorem Term.FilledEntries.refl (entries : List (Span × Term × Term)) :
    Term.FilledEntries (fun _ => True) hole entries entries := by
  rcases entries with _ | ⟨⟨span, key, value⟩, rest⟩
  · exact .nil
  · exact .cons span span (.refl key) (.refl value) (.refl rest)

/-- Cases are the same as themselves. -/
theorem Term.FilledCases.refl (rules : List (Option Term × Term)) :
    Term.FilledCases (fun _ => True) hole rules rules := by
  rcases rules with _ | ⟨⟨test, body⟩, rest⟩
  · exact .nil
  · exact .cons (.refl test) (.refl body) (.refl rest)

/-- Arguments are the same as themselves. -/
theorem Term.FilledArguments.refl (given : List (Option String × Term)) :
    Term.FilledArguments (fun _ => True) hole given given := by
  rcases given with _ | ⟨⟨name, term⟩, rest⟩
  · exact .nil
  · exact .cons name (.refl term) (.refl rest)

end

end Refl

/-- Two pairs of expressions are related if both expressions of one are to those of the other. -/
def Expr.RelatedPairs (related : Expr → Expr → Prop) (pair pair' : Expr × Expr) : Prop :=
  related pair.1 pair'.1 ∧ related pair.2 pair'.2

/-- Two rules are related if their tests and bodies are. -/
def Expr.RelatedRules (related : Expr → Expr → Prop) (rule rule' : Option Expr × Expr) : Prop :=
  Option.Rel related rule.1 rule'.1 ∧ related rule.2 rule'.2

/-- The rule of a test and a body. -/
def Expr.rule (test : Option Expr) (body : Expr) : Case Expr × Expr :=
  (match test with
    | none => .wildcard
    | some expr => expr.toCase, body)

/-- A relation between expressions, inside lambdas of some names, is preserved by the ways in which
expressions are built in an environment. -/
structure Compile.Respects (environment : Environment) (plain : Value → Prop)
    (related : List String → Expr → Expr → Prop) : Prop where
  atom (value : Value) (atomic : value.isAtom = true) : plain value
  literal (names : List String) {value : Value} (written : plain value) :
    related names (.literal value) (.literal value)
  binding (names : List String) (name : String) :
    related names (.variable name []) (.variable name [])
  metadata (names : List String) (key : Option String) :
    related names (.metadata key) (.metadata key)
  root (names : List String) : related names (.field .root []) (.field .root [])
  current (names : List String) : related names (.field .current []) (.field .current [])
  name (names : List String) (name : String) :
    related names (Expr.ofName names name) (Expr.ofName names name)
  array {names : List String} {items items' : List Expr}
    (same : List.Forall₂ (related names) items items') :
    related names (Expr.ofItems items) (Expr.ofItems items')
  object {names : List String} {entries entries' : List (Expr × Expr)}
    (same : List.Forall₂ (Expr.RelatedPairs (related names)) entries entries') :
    related names (Expr.ofEntries entries) (Expr.ofEntries entries')
  branches {names : List String} {tests tests' : List (Expr × Expr)}
    {otherwise otherwise' : Option Expr}
    (same : List.Forall₂ (Expr.RelatedPairs (related names)) tests tests')
    (last : Option.Rel (related names) otherwise otherwise') :
    related names (.branches tests otherwise) (.branches tests' otherwise')
  cases {names : List String} {subject subject' : Option Expr}
    {rules rules' : List (Option Expr × Expr)}
    (first : Option.Rel (related names) subject subject')
    (same : List.Forall₂ (Expr.RelatedRules (related names)) rules rules') :
    related names (.cases subject (rules.map fun rule => Expr.rule rule.1 rule.2))
      (.cases subject' (rules'.map fun rule => Expr.rule rule.1 rule.2))
  call {names : List String} {given given' : List (Argument Expr)} (name : String)
    (same : List.Forall₂ (Argument.Related (related names)) given given') :
    Compile.Match (related names) (Compile.call environment name given)
      (Compile.call environment name given')
  signed {names : List String} {operand operand' : Expr} (sign : PrefixSign)
    (same : related names operand operand') :
    related names (Expr.signed sign operand) (Expr.signed sign operand')
  joined {names : List String} {left left' right right' : Expr} (sign : Sign)
    (first : related names left left') (second : related names right right') :
    related names (Expr.joined sign left right) (Expr.joined sign left' right')
  child {names : List String} {target target' : Expr} (segment : String)
    (same : related names target target') :
    related names (target.child segment) (target'.child segment)
  method {names : List String} {target target' : Expr} {given given' : List (Argument Expr)}
    (name : String) (first : related names target target')
    (same : List.Forall₂ (Argument.Related (related names)) given given') :
    Compile.Match (related names) (Compile.method environment target name given)
      (Compile.method environment target' name given')
  lambda {names : List String} {name : String} {body body' : Expr}
    (same : related (name :: names) body body') :
    related names (.lambda name body) (.lambda name body')

namespace Term

open Compile (Setting)

section Related

variable {environment : Environment} {plain : Value → Prop}
  {related : List String → Expr → Expr → Prop} {hole : Term → Term → Prop}

/-- What stands in holes has related expressions, at any depth inside lambdas of any names. -/
def RelatesHoles (environment : Environment) (related : List String → Expr → Expr → Prop)
    (hole : Term → Term → Prop) : Prop :=
  ∀ depth names term term', hole term term' →
    Compile.Match (related names) (term.compile ⟨environment, depth, names⟩)
      (term'.compile ⟨environment, depth, names⟩)

mutual

/-- Terms that are the same but for what stands in holes have related expressions. -/
theorem compile_related (respects : Compile.Respects environment plain related)
    (holes : RelatesHoles environment related hole) (depth : Nat) (names : List String)
    {term term' : Term} (same : Term.Filled plain hole term term') :
    Compile.Match (related names) (term.compile ⟨environment, depth, names⟩)
      (term'.compile ⟨environment, depth, names⟩) := by
  -- The relation is preserved at each way to build a term, and what stands in holes has it.
  cases same with
  | hole filled => exact holes depth names _ _ filled
  | nested span span' same =>
    simp only [compile]
    -- Both terms stand at the same depth, so the limit lets both or none of them pass.
    split
    · exact compile_related respects holes (depth + 1) names same
    · exact .failure _ _
  | literal written => exact .pure (respects.literal names written)
  | number span span' text =>
    refine (Compile.number_match span span' text).bind ?_
    rintro value _ ⟨rfl, atomic⟩
    exact .pure (respects.literal names (respects.atom value atomic))
  | quoted span span' text =>
    refine (Compile.unquote_match span span' text).andThen fun inner => ?_
    exact .pure (respects.literal names (respects.atom _ rfl))
  | array same =>
    exact (compileAll_related respects holes depth names same).bind fun items items' same =>
      .pure (respects.array same)
  | object same =>
    exact (compileEntries_related respects holes depth names same).bind
      fun entries entries' same => .pure (respects.object same)
  | branches same last =>
    refine (compilePairs_related respects holes depth names same).bind fun tests tests' same => ?_
    exact (compileOption_related respects holes depth names last).bind
      fun otherwise otherwise' last => .pure (respects.branches same last)
  | cases first same =>
    refine (compileOption_related respects holes depth names first).bind
      fun subject subject' first => ?_
    refine (compileCases_related respects holes depth names same).bind ?_
    rintro _ _ ⟨rules, rules', same, rfl, rfl⟩
    exact .pure (respects.cases first same)
  | call span span' name same =>
    refine (compileArguments_related respects holes depth names same).bind
      fun given given' same => ?_
    exact (respects.call name same).adapt _ _
  | «variable» name => exact .pure (respects.binding names name)
  | allMetadata => exact .pure (respects.metadata names none)
  | metadata same =>
    refine same.compile.andThen fun key => ?_
    exact .pure (respects.metadata names (some key))
  | root => exact .pure (respects.root names)
  | current => exact .pure (respects.current names)
  | name name => exact .pure (respects.name names name)
  | signed sign same =>
    exact (compile_related respects holes depth names same).bind fun operand operand' same =>
      .pure (respects.signed sign same)
  | binary sign first second =>
    -- Both operands are compiled before the failure of one is reported.
    refine (compile_related respects holes depth names first).attempt.bind
      fun left left' first => ?_
    refine (compile_related respects holes depth names second).attempt.bind
      fun right right' second => ?_
    refine (Compile.Match.ofExcept first).bind fun left left' first => ?_
    exact (Compile.Match.ofExcept second).bind fun right right' second =>
      .pure (respects.joined sign first second)
  | field same parts =>
    refine (compile_related respects holes depth names same).bind fun target target' same => ?_
    refine parts.compile.andThen fun segment => ?_
    exact .pure (respects.child segment same)
  | method span span' name first same =>
    refine (compile_related respects holes depth names first).bind fun target target' first => ?_
    refine (compileArguments_related respects holes depth names same).bind
      fun given given' same => ?_
    exact (respects.method name first same).adapt _ _
  | lambda name same =>
    exact (compile_related respects holes depth (name :: names) same).bind
      fun body body' same => .pure (respects.lambda same)

/-- Optional terms that are the same but for what stands in holes have related expressions. -/
theorem compileOption_related (respects : Compile.Respects environment plain related)
    (holes : RelatesHoles environment related hole) (depth : Nat) (names : List String)
    {term term' : Option Term} (same : Term.FilledOption plain hole term term') :
    Compile.Match (Option.Rel (related names)) (compileOption ⟨environment, depth, names⟩ term)
      (compileOption ⟨environment, depth, names⟩ term') := by
  cases same with
  | none => exact .pure .none
  | some same =>
    exact (compile_related respects holes depth names same).bind fun expr expr' same =>
      .pure (.some same)

/-- Terms that are pairwise the same but for what stands in holes have related expressions. -/
theorem compileAll_related (respects : Compile.Respects environment plain related)
    (holes : RelatesHoles environment related hole) (depth : Nat) (names : List String)
    {terms terms' : List Term} (same : Term.FilledAll plain hole terms terms') :
    Compile.Match (List.Forall₂ (related names)) (compileAll ⟨environment, depth, names⟩ terms)
      (compileAll ⟨environment, depth, names⟩ terms') := by
  cases same with
  | nil => exact .pure .nil
  -- The first terms and the rest are compiled in turn, and their relations are put together.
  | cons first later =>
    refine (compile_related respects holes depth names first).bind fun expr expr' first => ?_
    exact (compileAll_related respects holes depth names later).bind fun rest rest' later =>
      .pure (.cons first later)

/-- Pairs of terms that are the same but for what stands in holes have related expressions. -/
theorem compilePairs_related (respects : Compile.Respects environment plain related)
    (holes : RelatesHoles environment related hole) (depth : Nat) (names : List String)
    {pairs pairs' : List (Term × Term)} (same : Term.FilledPairs plain hole pairs pairs') :
    Compile.Match (List.Forall₂ (Expr.RelatedPairs (related names)))
      (compilePairs ⟨environment, depth, names⟩ pairs)
      (compilePairs ⟨environment, depth, names⟩ pairs') := by
  cases same with
  | nil => exact .pure .nil
  | cons first second later =>
    refine (compile_related respects holes depth names first).bind fun left left' first => ?_
    refine (compile_related respects holes depth names second).bind fun right right' second => ?_
    exact (compilePairs_related respects holes depth names later).bind fun rest rest' later =>
      .pure (.cons ⟨first, second⟩ later)

/-- Entries that are the same but for what stands in holes have related expressions. -/
theorem compileEntries_related (respects : Compile.Respects environment plain related)
    (holes : RelatesHoles environment related hole) (depth : Nat) (names : List String)
    {entries entries' : List (Span × Term × Term)}
    (same : Term.FilledEntries plain hole entries entries') :
    Compile.Match (List.Forall₂ (Expr.RelatedPairs (related names)))
      (compileEntries ⟨environment, depth, names⟩ entries)
      (compileEntries ⟨environment, depth, names⟩ entries') := by
  cases same with
  | nil => exact .pure .nil
  | @cons span span' key key' value value' rest rest' first second later =>
    refine (compile_related respects holes depth names first).bind fun key key' first => ?_
    have later : Compile.Match (List.Forall₂ (Expr.RelatedPairs (related names)))
        (do
          let value ← value.compile ⟨environment, depth, names⟩
          return (key, value) :: (← compileEntries ⟨environment, depth, names⟩ rest))
        (do
          let value ← value'.compile ⟨environment, depth, names⟩
          return (key', value) :: (← compileEntries ⟨environment, depth, names⟩ rest')) := by
      refine (compile_related respects holes depth names second).bind
        fun value value' second => ?_
      exact (compileEntries_related respects holes depth names later).bind
        fun rest rest' later => .pure (.cons ⟨first, second⟩ later)
    -- A constant key that is no string ends either compilation.
    split
    · split
      · exact later
      · exact later
      · exact .failure' _ _
    · split
      · exact later
      · exact later
      · exact .failure' _ _
    · exact .failure _ _

/-- Cases that are the same but for what stands in holes are made of related expressions. -/
theorem compileCases_related (respects : Compile.Respects environment plain related)
    (holes : RelatesHoles environment related hole) (depth : Nat) (names : List String)
    {rules rules' : List (Option Term × Term)} (same : Term.FilledCases plain hole rules rules') :
    Compile.Match
      (fun cases cases' => ∃ rules rules',
        List.Forall₂ (Expr.RelatedRules (related names)) rules rules' ∧
          cases = rules.map (fun rule => Expr.rule rule.1 rule.2) ∧
            cases' = rules'.map fun rule => Expr.rule rule.1 rule.2)
      (compileCases ⟨environment, depth, names⟩ rules)
      (compileCases ⟨environment, depth, names⟩ rules') := by
  -- A case is a rule of its test and its body.
  cases same with
  | nil => exact .pure ⟨[], [], .nil, rfl, rfl⟩
  | cons first second later =>
    refine (compileOption_related respects holes depth names first).bind
      fun test test' first => ?_
    refine (compile_related respects holes depth names second).bind fun body body' second => ?_
    refine (compileCases_related respects holes depth names later).bind ?_
    rintro _ _ ⟨rest, rest', later, rfl, rfl⟩
    exact .pure ⟨(test, body) :: rest, (test', body') :: rest', .cons ⟨first, second⟩ later,
      rfl, rfl⟩

/-- Arguments that are the same but for what stands in holes have related expressions. -/
theorem compileArguments_related (respects : Compile.Respects environment plain related)
    (holes : RelatesHoles environment related hole) (depth : Nat) (names : List String)
    {given given' : List (Option String × Term)}
    (same : Term.FilledArguments plain hole given given') :
    Compile.Match (List.Forall₂ (Argument.Related (related names)))
      (compileArguments ⟨environment, depth, names⟩ given)
      (compileArguments ⟨environment, depth, names⟩ given') := by
  cases same with
  | nil => exact .pure .nil
  | cons name first later =>
    refine (compile_related respects holes depth names first).bind fun expr expr' first => ?_
    exact (compileArguments_related respects holes depth names later).bind
      fun rest rest' later => .pure (.cons (.same name first) later)

end

end Related

end Term

end Reshape
