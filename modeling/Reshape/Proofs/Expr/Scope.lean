import Reshape.Proofs.Expr.Filled
import Reshape.Proofs.Expr.Part

/-!
Scopes of names: a compiled expression refers to the names of lambdas only inside these lambdas, and
calls no functions but those of the environment that it was compiled in.
-/

namespace Reshape

/-- The name that a part may refer to and the whole may not. -/
def Manner.names : Manner → List String
  | .here | .narrowed => []
  | .bound name => [name]

/-- An environment offers a function under some name. -/
def Environment.Offers (environment : Environment) (function : Function) : Prop :=
  ∃ name, Compile.Calls name environment.functions function

/-- What an expression refers to by itself is the name of a lambda around it, or a function of the
environment. -/
def Expr.IsScoped (environment : Environment) (names : List String) : Expr → Prop
  | .field (.named name) _ => name ∈ names
  | .call function _ => environment.Offers function
  | _ => True

/-- An expression refers to names of lambdas only that stand around it, the innermost first, and to
functions only that the environment offers. -/
inductive Expr.Scoped (environment : Environment) : List String → Expr → Prop where
  | intro {names : List String} {expr : Expr} (own : expr.IsScoped environment names)
      (parts : ∀ manner part, (manner, part) ∈ expr.parts →
        Scoped environment (manner.names ++ names) part) : Scoped environment names expr

/-- The test of the case that an expression makes is the expression itself. -/
theorem Expr.eq_of_mem_tests {expr test : Expr} (member : test ∈ expr.toCase.tests) :
    test = expr := by
  -- A literal that is no truth value makes a case without a test.
  cases expr with
  | literal value =>
    cases value with
    | bool truth => simpa [toCase, Case.tests] using member
    | _ => cases member
  | _ => simpa [toCase, Case.tests] using member

namespace Expr

/-- A part of pairs is the first or the second expression of one of them. -/
theorem mem_pairParts {pairs : List (Expr × Expr)} {manner : Manner} {part : Expr}
    (member : (manner, part) ∈ pairParts pairs) :
    manner = .here ∧ ∃ pair ∈ pairs, part = pair.1 ∨ part = pair.2 := by
  obtain ⟨pair, inside, either⟩ := List.mem_flatMap.1 member
  rcases List.mem_pair.1 either with ⟨⟨⟩⟩ | ⟨⟨⟩⟩
  · exact ⟨rfl, pair, inside, .inl rfl⟩
  · exact ⟨rfl, pair, inside, .inr rfl⟩

/-- A part of rules is the test that one of them is made of, or its body. -/
theorem mem_ruleParts {rules : List (Option Expr × Expr)} {manner manner' : Manner} {part : Expr}
    (member : (manner', part) ∈ ruleParts manner (rules.map fun rule => Expr.rule rule.1 rule.2)) :
    manner' = manner ∧ ∃ rule ∈ rules, rule.1 = some part ∨ part = rule.2 := by
  -- The part is listed for one rule, as its test or as its body.
  obtain ⟨_, inside, given⟩ := List.mem_flatMap.1 member
  obtain ⟨⟨test, body⟩, rule, rfl⟩ := List.mem_map.1 inside
  obtain ⟨found, either, ⟨⟩⟩ := List.mem_map.1 given
  refine ⟨rfl, (test, body), rule, ?_⟩
  rcases List.mem_append.1 either with tested | same
  · cases test with
    | none => simp [Case.tests] at tested
    | some expr => exact .inl (congrArg some (eq_of_mem_tests tested).symm)
  · exact .inr (by simpa using same)

end Expr

namespace Expr.Scoped

variable {environment : Environment} {names : List String}

/-- The names that an expression refers to stand around it. -/
theorem known {name : String} {path : List String}
    (closed : Expr.Scoped environment names (.field (.named name) path)) : name ∈ names := by
  cases closed with
  | intro own _ => exact own

/-- The parts of an expression refer to names around them. -/
theorem part {expr part : Expr} {manner : Manner} (closed : Expr.Scoped environment names expr)
    (member : (manner, part) ∈ expr.parts) :
    Expr.Scoped environment (manner.names ++ names) part := by
  cases closed with
  | intro _ parts => exact parts manner part member

/-- A literal is scoped. -/
theorem literal (value : Value) : Expr.Scoped environment names (.literal value) :=
  .intro trivial (by simp [parts])

/-- What a name stands for is scoped. -/
theorem ofName (name : String) : Expr.Scoped environment names (Expr.ofName names name) := by
  unfold Expr.ofName
  -- A name that stands around is a reference to it, any other one a path from the current value.
  split
  next inside =>
    have own : name ∈ names := by simpa using inside
    exact .intro own (by simp [parts])
  next => exact .intro trivial (by simp [parts])

/-- A part of a scoped expression is scoped. -/
theorem get {target : Expr} (closed : Expr.Scoped environment names target) (segment : String) :
    Expr.Scoped environment names (.get target segment) := by
  refine .intro trivial fun manner part member => ?_
  obtain ⟨rfl, rfl⟩ : manner = .here ∧ part = target := by simpa [parts] using member
  exact closed

/-- A path grows without new names. -/
theorem child {target : Expr} (closed : Expr.Scoped environment names target) (segment : String) :
    Expr.Scoped environment names (target.child segment) := by
  -- A path from a name keeps the name; anything else gets no new path.
  cases target with
  | field scope path =>
    refine .intro ?_ (by simp [Expr.child, parts])
    cases scope with
    | named name => exact closed.known
    | _ => trivial
  | «variable» name path => exact .intro trivial (by simp [Expr.child, parts])
  | _ => exact closed.get segment

/-- An array of scoped expressions is scoped. -/
theorem array {items : List Expr} (closed : ∀ item ∈ items, Expr.Scoped environment names item) :
    Expr.Scoped environment names (Expr.ofItems items) := by
  unfold ofItems
  -- Constant items make a literal, which refers to nothing.
  split
  · exact .literal _
  · refine .intro trivial fun manner part member => ?_
    obtain ⟨item, inside, ⟨⟩⟩ := List.mem_map.1 member
    exact closed part inside

/-- Pairs of scoped expressions have scoped parts. -/
theorem ofPairs {pairs : List (Expr × Expr)}
    (closed : ∀ pair ∈ pairs, Expr.Scoped environment names pair.1 ∧
      Expr.Scoped environment names pair.2) {manner : Manner} {part : Expr}
    (member : (manner, part) ∈ pairParts pairs) :
    Expr.Scoped environment (manner.names ++ names) part := by
  obtain ⟨rfl, pair, inside, rfl | rfl⟩ := mem_pairParts member
  · exact (closed pair inside).1
  · exact (closed pair inside).2

/-- An object of scoped keys and values is scoped. -/
theorem object {entries : List (Expr × Expr)}
    (closed : ∀ entry ∈ entries, Expr.Scoped environment names entry.1 ∧
      Expr.Scoped environment names entry.2) :
    Expr.Scoped environment names (Expr.ofEntries entries) := by
  unfold ofEntries
  -- Constant entries make a literal, which refers to nothing.
  split
  · exact .literal _
  · exact .intro trivial fun manner part member => ofPairs closed member

/-- Branches of scoped expressions are scoped. -/
theorem branches {tests : List (Expr × Expr)} {otherwise : Option Expr}
    (closed : ∀ test ∈ tests, Expr.Scoped environment names test.1 ∧
      Expr.Scoped environment names test.2)
    (last : ∀ body ∈ otherwise, Expr.Scoped environment names body) :
    Expr.Scoped environment names (.branches tests otherwise) := by
  refine .intro trivial fun manner part member => ?_
  -- A part is a condition or a body, or it stands behind all branches.
  rcases List.mem_append.1 member with inside | inside
  · exact ofPairs closed inside
  · obtain ⟨body, given, ⟨⟩⟩ := List.mem_map.1 inside
    exact last part (by simpa using given)

/-- Rules of scoped tests and bodies have scoped parts. -/
theorem ofRules {rules : List (Option Expr × Expr)} {manner : Manner} (plain : manner.names = [])
    (closed : ∀ rule ∈ rules, (∀ test ∈ rule.1, Expr.Scoped environment names test) ∧
      Expr.Scoped environment names rule.2) {part : Expr} {manner' : Manner}
    (member : (manner', part) ∈ ruleParts manner (rules.map fun rule => Expr.rule rule.1 rule.2)) :
    Expr.Scoped environment (manner'.names ++ names) part := by
  obtain ⟨rfl, rule, inside, test | rfl⟩ := mem_ruleParts member
  · rw [plain]
    exact (closed rule inside).1 part test
  · rw [plain]
    exact (closed rule inside).2

/-- Cases of scoped expressions are scoped. -/
theorem cases {subject : Option Expr} {rules : List (Option Expr × Expr)}
    (first : ∀ expr ∈ subject, Expr.Scoped environment names expr)
    (closed : ∀ rule ∈ rules, (∀ test ∈ rule.1, Expr.Scoped environment names test) ∧
      Expr.Scoped environment names rule.2) :
    Expr.Scoped environment names
      (.cases subject (rules.map fun rule => Expr.rule rule.1 rule.2)) := by
  -- The subject comes before the rules, if there is one.
  refine .intro trivial fun manner part member => ?_
  cases subject with
  | none => exact ofRules rfl closed member
  | some subject =>
    rcases List.mem_cons.1 member with same | later
    · cases same
      exact first part rfl
    · exact ofRules rfl closed later

/-- A sign before a scoped expression makes a scoped one. -/
theorem signed {operand : Expr} (closed : Expr.Scoped environment names operand)
    (sign : PrefixSign) : Expr.Scoped environment names (Expr.signed sign operand) := by
  unfold Expr.signed
  -- A constant with a sign is a literal, which refers to nothing.
  split
  · exact .literal _
  · cases sign <;>
    · refine .intro trivial fun manner part member => ?_
      obtain ⟨rfl, rfl⟩ : manner = .here ∧ part = operand := by simpa [parts] using member
      exact closed

/-- A sign between scoped expressions makes a scoped one. -/
theorem joined {left right : Expr} (first : Expr.Scoped environment names left)
    (second : Expr.Scoped environment names right) (sign : Sign) :
    Expr.Scoped environment names (Expr.joined sign left right) := by
  cases sign <;>
  · refine .intro trivial fun manner part member => ?_
    rcases List.mem_pair.1 member with ⟨⟨⟩⟩ | ⟨⟨⟩⟩
    · exact first
    · exact second

/-- A lambda is scoped if its body is with the name. -/
theorem lambda {name : String} {body : Expr}
    (closed : Expr.Scoped environment (name :: names) body) :
    Expr.Scoped environment names (.lambda name body) := by
  refine .intro trivial fun manner part member => ?_
  obtain ⟨rfl, rfl⟩ : manner = .bound name ∧ part = body := by simpa [parts] using member
  exact closed

end Expr.Scoped

/-- The expression of a slot, if it holds one, is scoped. -/
def Slot.Scoped (environment : Environment) (names : List String) (slot : Slot Expr) : Prop :=
  ∀ isScoped manner part, (manner, part) ∈ slot.parts isScoped →
    Expr.Scoped environment (manner.names ++ names) part

namespace Slot.Scoped

variable {environment : Environment} {names : List String}

/-- A slot of a scoped expression is scoped. -/
theorem query {expr : Expr} (closed : Expr.Scoped environment names expr) :
    Slot.Scoped environment names (.query expr) := by
  rintro (_ | _) manner part member <;>
  · obtain ⟨⟨⟩⟩ := List.mem_singleton.1 member
    exact closed

/-- A slot of a scoped expression is scoped. -/
theorem dynamic {expr : Expr} (closed : Expr.Scoped environment names expr) :
    Slot.Scoped environment names (.dynamic expr) := by
  intro isScoped manner part member
  obtain ⟨⟨⟩⟩ := List.mem_singleton.1 member
  exact closed

/-- A slot without an expression is scoped. -/
theorem ofNoParts {slot : Slot Expr} (none : ∀ isScoped, slot.parts isScoped = []) :
    Slot.Scoped environment names slot := by
  intro isScoped manner part member
  rw [none] at member
  cases member

/-- The slot that a value leaves is scoped. -/
theorem ofValue {parameter : Parameter} {value : Value} {slot : Slot Expr}
    (given : Slot.ofValue parameter value = .ok slot) : Slot.Scoped environment names slot := by
  unfold Slot.ofValue at given
  -- A value leaves a value or nothing, but no expression.
  split at given
  · obtain rfl := Except.ok.inj given
    unfold Slot.ofNull
    split <;> exact .ofNoParts fun _ => rfl
  · split at given
    · obtain rfl := Except.ok.inj given
      exact .ofNoParts fun _ => rfl
    · cases given

/-- A scoped argument that a parameter takes has a scoped slot. -/
theorem bind {parameter : Parameter} {argument : Option Expr}
    (closed : ∀ expr ∈ argument, Expr.Scoped environment names expr) {slot : Slot Expr}
    (given : Slot.bind parameter argument = .ok slot) : Slot.Scoped environment names slot := by
  -- An expression is kept for a query, or for its value at a call; a missing argument leaves a
  -- literal at most.
  cases argument with
  | some expr =>
    simp only [Slot.bind, Slot.ofArgument] at given
    split at given
    · obtain rfl := Except.ok.inj given
      exact .query (closed expr rfl)
    · split at given
      · exact .ofValue given
      · split at given
        · cases given
        · obtain rfl := Except.ok.inj given
          exact .dynamic (closed expr rfl)
  | none =>
    simp only [Slot.bind, Slot.missing?] at given
    split at given
    next found =>
      obtain rfl := Except.ok.inj given
      split at found
      · obtain rfl := Option.some.inj found
        split
        · exact .query (.literal _)
        · exact .ofNoParts fun _ => rfl
      · split at found
        · obtain rfl := Option.some.inj found
          exact .ofNoParts fun _ => rfl
        · cases found
    next => cases given

/-- A scoped argument that is collected has a scoped slot. -/
theorem collected {expr : Expr} (closed : Expr.Scoped environment names expr) :
    Slot.Scoped environment names (Signature.collected expr) := by
  unfold Signature.collected
  -- A literal leaves its value, anything else is kept for its value at a call.
  split
  · exact .ofNoParts fun _ => rfl
  · exact .dynamic closed

end Slot.Scoped

/-- The slots of scoped arguments are scoped. -/
theorem Signature.scoped_of_bindSlots {environment : Environment} {names : List String}
    {signature : Signature} {given : List (Argument Expr)}
    (closed : ∀ argument ∈ given, Expr.Scoped environment names argument.expr)
    {slots : List (Slot Expr)} (bound : signature.bindSlots given = .ok slots) :
    ∀ manner part, (manner, part) ∈ signature.parts slots →
      Expr.Scoped environment (manner.names ++ names) part := by
  -- Binding related arguments is binding these arguments twice.
  have pairs : List.Forall₂
      (Argument.Related fun expr _ => Expr.Scoped environment names expr) given given :=
    List.forall₂_same.2 fun argument member => .same argument.name (closed argument member)
  -- Each argument has a scoped slot, whatever parameter takes it.
  have each (parameter : Parameter) (argument argument' : Option Expr)
      (same : Option.Rel (fun expr _ => Expr.Scoped environment names expr) argument argument') :
      Outcome.Match (fun slot _ => Slot.Scoped environment names slot)
        (Slot.bind parameter argument) (Slot.bind parameter argument') := by
    refine fun slot slot' first _ => Slot.Scoped.bind ?_ first
    rintro expr ⟨⟩
    cases same with
    | some inside => exact inside
  have both : Outcome.Match
      (signature.Related (fun _ slot _ => Slot.Scoped environment names slot) fun slot _ =>
        Slot.Scoped environment names slot)
      (signature.bindSlots given) (signature.bindSlots given) :=
    bindSlots_related each (fun _ _ inside => .collected inside) signature pairs
  have related := both slots slots bound bound
  unfold Signature.Related at related
  unfold Signature.parts
  intro manner part member
  -- A part of the call stands in one of its slots.
  split at related
  next variadic =>
    rw [if_pos variadic] at member
    obtain ⟨slot, inside, member⟩ := List.mem_flatMap.1 member
    exact List.forall₂_same.1 related slot inside _ _ _ member
  next declared =>
    rw [if_neg declared] at member
    obtain ⟨⟨parameter, slot⟩, inside, member⟩ := List.mem_flatMap.1 member
    obtain ⟨_, closed⟩ := related.of_mem_zip inside
    exact closed _ _ _ member

section Same

variable {α : Type} {related : α → α → Prop} {property : α → Prop}

/-- Lists of items that are the same and have a property are the same, with the property. -/
theorem forall₂_of_same (same : ∀ a b, related a b → b = a ∧ property a) {items items' : List α}
    (pairs : List.Forall₂ related items items') :
    items' = items ∧ ∀ item ∈ items, property item := by
  -- Each item is the same and has the property, and so do the later ones.
  induction pairs with
  | nil => simp
  | cons first _ ih =>
    obtain ⟨rfl, holds⟩ := same _ _ first
    obtain ⟨rfl, rest⟩ := ih
    simpa using ⟨holds, rest⟩

/-- Optional items that are the same and have a property are the same, with the property. -/
theorem rel_of_same (same : ∀ a b, related a b → b = a ∧ property a) {item item' : Option α}
    (pair : Option.Rel related item item') : item' = item ∧ ∀ a ∈ item, property a := by
  -- There is an item on both sides or on none.
  cases pair with
  | some first =>
    obtain ⟨rfl, holds⟩ := same _ _ first
    simpa using holds
  | none => simp

end Same

section Parts

variable {property : Expr → Prop}

/-- Pairs of expressions that are the same and have a property are the same pair. -/
theorem pairs_of_same (pair pair' : Expr × Expr)
    (same : Expr.RelatedPairs (fun expr expr' => expr' = expr ∧ property expr) pair pair') :
    pair' = pair ∧ (property pair.1 ∧ property pair.2) := by
  obtain ⟨first, second⟩ := same
  exact ⟨Prod.ext first.1 second.1, first.2, second.2⟩

/-- Rules of expressions that are the same and have a property are the same rule. -/
theorem rules_of_same (rule rule' : Option Expr × Expr)
    (same : Expr.RelatedRules (fun expr expr' => expr' = expr ∧ property expr) rule rule') :
    rule' = rule ∧ ((∀ test ∈ rule.1, property test) ∧ property rule.2) := by
  obtain ⟨first, second⟩ := same
  obtain ⟨tests, holds⟩ := rel_of_same (fun _ _ same => same) first
  exact ⟨Prod.ext tests second.1, holds, second.2⟩

/-- Arguments of expressions that are the same and have a property are the same argument. -/
theorem arguments_of_same (argument argument' : Argument Expr)
    (same : Argument.Related (fun expr expr' => expr' = expr ∧ property expr) argument
      argument') : argument' = argument ∧ property argument.expr := by
  cases same with
  | same name agree =>
    obtain ⟨rfl, holds⟩ := agree
    exact ⟨rfl, holds⟩

end Parts

/-- Scoped expressions are built of scoped ones. -/
theorem Expr.scoped_respects (environment : Environment) :
    Compile.Respects environment (fun _ => True) fun names expr expr' =>
      expr' = expr ∧ Expr.Scoped environment names expr where
  -- Each form is made of parts that are the same and scoped; a lambda adds its name.
  atom _ _ := trivial
  literal names value _ := ⟨rfl, .literal value⟩
  binding names name := ⟨rfl, .intro trivial (by simp [parts])⟩
  metadata names key := ⟨rfl, .intro trivial (by simp [parts])⟩
  root names := ⟨rfl, .intro trivial (by simp [parts])⟩
  current names := ⟨rfl, .intro trivial (by simp [parts])⟩
  name names name := ⟨rfl, .ofName name⟩
  array same := by
    obtain ⟨rfl, closed⟩ := forall₂_of_same (fun _ _ same => same) same
    exact ⟨rfl, .array closed⟩
  object same := by
    obtain ⟨rfl, closed⟩ := forall₂_of_same pairs_of_same same
    exact ⟨rfl, .object closed⟩
  branches same last := by
    obtain ⟨rfl, closed⟩ := forall₂_of_same pairs_of_same same
    obtain ⟨rfl, final⟩ := rel_of_same (fun _ _ same => same) last
    exact ⟨rfl, .branches closed final⟩
  cases first same := by
    obtain ⟨rfl, start⟩ := rel_of_same (fun _ _ same => same) first
    obtain ⟨rfl, closed⟩ := forall₂_of_same rules_of_same same
    exact ⟨rfl, .cases start closed⟩
  signed sign same := by
    obtain ⟨rfl, closed⟩ := same
    exact ⟨rfl, closed.signed sign⟩
  joined sign first second := by
    obtain ⟨rfl, left⟩ := first
    obtain ⟨rfl, right⟩ := second
    exact ⟨rfl, left.joined right sign⟩
  child segment same := by
    obtain ⟨rfl, closed⟩ := same
    exact ⟨rfl, closed.child segment⟩
  lambda same := by
    obtain ⟨rfl, closed⟩ := same
    exact ⟨rfl, closed.lambda⟩
  call name same := by
    obtain ⟨rfl, closed⟩ := forall₂_of_same arguments_of_same same
    refine Compile.call_match environment name fun function offered expr expr' first second => ?_
    refine ⟨Except.ok.inj (second.symm.trans first), ?_⟩
    obtain ⟨slots, bound, given⟩ := Outcome.of_bind_eq_ok first
    rcases Compile.folded_cases given with rfl | ⟨value, _, _, rfl⟩
    · exact .intro ⟨name, offered⟩ (Signature.scoped_of_bindSlots closed bound)
    · exact .literal value
  method name first same := by
    obtain ⟨rfl, start⟩ := first
    obtain ⟨rfl, closed⟩ := forall₂_of_same arguments_of_same same
    refine Compile.method_match environment name fun method expr expr' first second => ?_
    refine ⟨Except.ok.inj (second.symm.trans first), ?_⟩
    obtain ⟨slots, bound, given⟩ := Outcome.of_bind_eq_ok first
    obtain rfl := Compile.checked_eq given
    refine .intro trivial fun manner part member => ?_
    rcases List.mem_cons.1 member with same | later
    · cases same
      exact start
    · exact Signature.scoped_of_bindSlots closed bound _ _ later

end Reshape
