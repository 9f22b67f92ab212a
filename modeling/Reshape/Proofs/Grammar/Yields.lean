import Reshape.Proofs.Grammar.Reads

/-!
What patterns yield: a text is matched or refused by rules, one for each step of the matcher, without
the places, attempts and numbers of steps that it keeps. Each outcome of the matcher is derived by
them, and a text has one outcome only, so that what holds of all derivations holds of the matcher.
-/

namespace Reshape.Grammar

/-- Whether what a rule makes depends on the text that it matched. -/
def Rule.keepsText : Rule → Bool
  | .fieldName | .boolLiteral | .number | .string | .rawInner | .identifier => true
  | _ => false

/-- The text of a rule, if it matters. -/
def Rule.spelling (rule : Rule) (text : String) : String :=
  if rule.keepsText then text else ""

mutual

/-- A tree without the places of its parts, and without texts that do not matter. -/
def Node.bare : Node → Node
  | .node rule text _ _ children =>
    .node rule (rule.spelling text) ⟨0, 0⟩ 0 (Node.bareAll children)

/-- Trees without the places of their parts. -/
def Node.bareAll : List Node → List Node
  | [] => []
  | tree :: rest => Node.bare tree :: Node.bareAll rest

end

/-- Trees one after the other lose their places one after the other. -/
@[simp] theorem Node.bareAll_append (nodes more : List Node) :
    Node.bareAll (nodes ++ more) = Node.bareAll nodes ++ Node.bareAll more := by
  induction nodes with
  | nil => rfl
  | cons tree rest ih => exact congrArg (Node.bare tree :: ·) ih

/-- What a text is asked for. -/
inductive Demand where
  /-- A match of a pattern. -/
  | once (pattern : Pattern)
  /-- Further repetitions of a pattern behind one that matched. -/
  | again (inner : Pattern)

/-- What a match leaves of a text and the trees of the rules inside it, if there is one. -/
abbrev Yield := Option (List Char × List Node)

/-- The trees that a rule makes of those inside it, given the text and what is left of it. -/
def Mode.wrap (mode : Mode) (rule : Rule) (source rest : List Char) (nodes : List Node) :
    List Node :=
  if mode.isLeaf then []
  else
    let text := String.ofList (source.take (source.length - rest.length))
    [.node rule (rule.spelling text) ⟨0, 0⟩ 0 nodes]

/-- What comes of a demand on a text. -/
inductive Yields : Mode → Demand → List Char → Yield → Prop where
  | finish {mode : Mode} : Yields mode (.once .finish) [] (some ([], []))
  | more {mode : Mode} {source : List Char} (filled : source ≠ []) :
    Yields mode (.once .finish) source none
  | char {mode : Mode} {kind : CharClass} {c : Char} {rest : List Char}
    (holds : kind.holds c = true) : Yields mode (.once (.char kind)) (c :: rest) (some (rest, []))
  | noChar {mode : Mode} {kind : CharClass} {source : List Char}
    (other : ∀ c ∈ source.head?, kind.holds c = false) :
    Yields mode (.once (.char kind)) source none
  | text {mode : Mode} {text source rest : List Char} (stands : source = text ++ rest) :
    Yields mode (.once (.text text)) source (some (rest, []))
  | noText {mode : Mode} {text source : List Char} (other : ¬text <+: source) :
    Yields mode (.once (.text text)) source none
  | rule {mode : Mode} {rule : Rule} {source rest : List Char} {nodes : List Node}
    (inside : Yields (mode.inside rule.definition.treatment) (.once rule.definition.pattern) source
      (some (rest, nodes))) :
    Yields mode (.once (.rule rule)) source
      (some (rest, (mode.around rule.definition.treatment).wrap rule source rest nodes))
  | noRule {mode : Mode} {rule : Rule} {source : List Char}
    (inside : Yields (mode.inside rule.definition.treatment) (.once rule.definition.pattern) source
      none) :
    Yields mode (.once (.rule rule)) source none
  | both {mode : Mode} {head tail : Pattern} {source rest last : List Char}
    {nodes more : List Node} (first : Yields mode (.once head) source (some (rest, nodes)))
    (second : Yields mode (.once tail) (mode.clear rest) (some (last, more))) :
    Yields mode (.once (.both head tail)) source (some (last, nodes ++ more))
  | noFirst {mode : Mode} {head tail : Pattern} {source : List Char}
    (first : Yields mode (.once head) source none) :
    Yields mode (.once (.both head tail)) source none
  | noSecond {mode : Mode} {head tail : Pattern} {source rest : List Char} {nodes : List Node}
    (first : Yields mode (.once head) source (some (rest, nodes)))
    (second : Yields mode (.once tail) (mode.clear rest) none) :
    Yields mode (.once (.both head tail)) source none
  | left {mode : Mode} {head tail : Pattern} {source rest : List Char} {nodes : List Node}
    (first : Yields mode (.once head) source (some (rest, nodes))) :
    Yields mode (.once (.either head tail)) source (some (rest, nodes))
  | right {mode : Mode} {head tail : Pattern} {source : List Char} {yield : Yield}
    (first : Yields mode (.once head) source none) (second : Yields mode (.once tail) source yield) :
    Yields mode (.once (.either head tail)) source yield
  | present {mode : Mode} {inner : Pattern} {source rest : List Char} {nodes : List Node}
    (first : Yields mode (.once inner) source (some (rest, nodes))) :
    Yields mode (.once (.optional inner)) source (some (rest, nodes))
  | missing {mode : Mode} {inner : Pattern} {source : List Char}
    (first : Yields mode (.once inner) source none) :
    Yields mode (.once (.optional inner)) source (some (source, []))
  | many {mode : Mode} {inner : Pattern} {source rest last : List Char} {nodes more : List Node}
    (first : Yields mode (.once inner) source (some (rest, nodes)))
    (later : Yields mode (.again inner) rest (some (last, more))) :
    Yields mode (.once (.many inner)) source (some (last, nodes ++ more))
  | noMany {mode : Mode} {inner : Pattern} {source : List Char}
    (first : Yields mode (.once inner) source none) :
    Yields mode (.once (.many inner)) source (some (source, []))
  | absent {mode : Mode} {inner : Pattern} {source : List Char}
    (first : Yields mode (.once inner) source none) :
    Yields mode (.once (.absent inner)) source (some (source, []))
  | notAbsent {mode : Mode} {inner : Pattern} {source rest : List Char} {nodes : List Node}
    (first : Yields mode (.once inner) source (some (rest, nodes))) :
    Yields mode (.once (.absent inner)) source none
  | step {mode : Mode} {inner : Pattern} {source rest last : List Char} {nodes more : List Node}
    (first : Yields mode (.once inner) (mode.clear source) (some (rest, nodes)))
    (later : Yields mode (.again inner) rest (some (last, more))) :
    Yields mode (.again inner) source (some (last, nodes ++ more))
  /-- The blanks before the attempt that failed are given back. -/
  | stop {mode : Mode} {inner : Pattern} {source : List Char}
    (first : Yields mode (.once inner) (mode.clear source) none) :
    Yields mode (.again inner) source (some (source, []))

namespace Yields

variable {mode : Mode} {demand : Demand} {pattern head tail inner : Pattern}
  {source rest : List Char} {nodes : List Node} {yield yield' : Yield}

/-- A text has one outcome. -/
theorem unique (first : Yields mode demand source yield)
    (second : Yields mode demand source yield') : yield = yield' := by
  -- The first derivation fixes the demand, so the second one has one of two forms, and one is
  -- excluded.
  induction first generalizing yield' with
  | finish =>
    cases second with
    | finish => rfl
    | more filled => exact absurd rfl filled
  | more filled =>
    cases second with
    | finish => exact absurd rfl filled
    | more => rfl
  | char holds =>
    cases second with
    | char => rfl
    | noChar other => simp [other _ rfl] at holds
  | noChar other =>
    cases second with
    | char holds => simp [other _ rfl] at holds
    | noChar => rfl
  | text stands =>
    cases second with
    | text stands' => rw [List.append_cancel_left (stands.symm.trans stands')]
    | noText other => exact absurd ⟨_, stands.symm⟩ other
  | noText other =>
    cases second with
    | text stands => exact absurd ⟨_, stands.symm⟩ other
    | noText => rfl
  | rule inside ih =>
    cases second with
    | rule inside' => cases ih inside'; rfl
    | noRule inside' => cases ih inside'
  | noRule inside ih =>
    cases second with
    | rule inside' => cases ih inside'
    | noRule => rfl
  | both first second ih ih' =>
    cases second with
    | both first second => cases ih first; cases ih' second; rfl
    | noFirst first => cases ih first
    | noSecond first second => cases ih first; cases ih' second
  | noFirst first ih =>
    cases second with
    | both first => cases ih first
    | noFirst => rfl
    | noSecond => rfl
  | noSecond first second ih ih' =>
    cases second with
    | both first second => cases ih first; cases ih' second
    | noFirst => rfl
    | noSecond => rfl
  | left first ih =>
    cases second with
    | left first => exact ih first
    | right first => cases ih first
  | right first second ih ih' =>
    cases second with
    | left first => cases ih first
    | right first second => exact ih' second
  | present first ih =>
    cases second with
    | present first => exact ih first
    | missing first => cases ih first
  | missing first ih =>
    cases second with
    | present first => cases ih first
    | missing => rfl
  | many first later ih ih' =>
    cases second with
    | many first later => cases ih first; cases ih' later; rfl
    | noMany first => cases ih first
  | noMany first ih =>
    cases second with
    | many first => cases ih first
    | noMany => rfl
  | absent first ih =>
    cases second with
    | absent => rfl
    | notAbsent first => cases ih first
  | notAbsent first ih =>
    cases second with
    | absent first => cases ih first
    | notAbsent => rfl
  | step first later ih ih' =>
    cases second with
    | step first later => cases ih first; cases ih' later; rfl
    | stop first => cases ih first
  | stop first ih =>
    cases second with
    | step first => cases ih first
    | stop => rfl

end Yields

/-- An outcome of the matcher is derived, with the trees that were found before. -/
def Outcome.Derived (mode : Mode) (demand : Demand) (source : List Char) (found : List Node) :
    Outcome → Prop
  | .matched after nodes _ => ∃ more, Node.bareAll nodes = Node.bareAll found ++ more ∧
      Yields mode demand source (some (after.rest, more))
  | .failed _ => Yields mode demand source none
  | .exhausted => True

/-- With so many steps, whatever the matcher finds for a pattern is derived. -/
def Derives (steps : Nat) (mode : Mode) (pattern : Pattern) : Prop :=
  ∀ isTracked cursor attempts,
    (run steps { mode with isTracked } pattern cursor attempts).Derived mode (.once pattern)
      cursor.rest []

/-- With so many steps, whatever the matcher finds by further repetitions is derived. -/
def DerivesMore (steps : Nat) (mode : Mode) (inner : Pattern) : Prop :=
  ∀ isTracked cursor found attempts,
    (runMore steps { mode with isTracked } inner cursor found attempts).Derived mode (.again inner)
      cursor.rest found.reverse

namespace Derives

variable {steps : Nat} {mode : Mode} {head tail inner : Pattern}

/-- The end of a text. -/
theorem finish : Derives (steps + 1) mode .finish := by
  intro isTracked cursor attempts
  -- Only the rest of the text is looked at.
  rw [run_succ_finish]
  split
  next empty =>
    rw [List.isEmpty_iff] at empty
    exact ⟨[], rfl, by rw [empty]; exact .finish⟩
  next filled => exact .more (by simpa using filled)

/-- A code point of a class. -/
theorem char (kind : CharClass) : Derives (steps + 1) mode (.char kind) := by
  intro isTracked cursor attempts
  -- The rest of the text has a code point of the class at its head, another one, or none.
  rw [run_succ_char]
  split
  next c rest stands =>
    rw [stands]
    split
    next holds => exact ⟨[], rfl, .char holds⟩
    next other => exact .noChar (by simpa using other)
  next stands => exact .noChar (by simp [stands])

/-- A fixed text. -/
theorem text (text : List Char) : Derives (steps + 1) mode (.text text) := by
  intro isTracked cursor attempts
  rw [run_succ_text]
  split
  next after given => exact ⟨[], rfl, .text (Passes.ofText given).rest⟩
  next missing =>
    -- A text that begins with the fixed one would have been passed.
    refine .noText ?_
    rintro ⟨rest, stands⟩
    obtain ⟨after, given, _⟩ := Reads.exists_pastText? text stands.symm
    rw [missing] at given
    cases given

/-- A rule. -/
theorem rule {rule : Rule}
    (inside : Derives steps (mode.inside rule.definition.treatment) rule.definition.pattern) :
    Derives (steps + 1) mode (.rule rule) := by
  intro isTracked cursor attempts
  have ends := run_passes steps { mode.inside rule.definition.treatment with isTracked }
    rule.definition.pattern cursor attempts
  replace inside := inside isTracked cursor attempts
  rw [run_succ_rule]
  rw [Mode.inside_tracked]
  generalize run steps { mode.inside rule.definition.treatment with isTracked }
    rule.definition.pattern cursor attempts = outcome at inside ends ⊢
  cases outcome with
  | matched after nodes attempts =>
    obtain ⟨more, same, inside⟩ := inside
    obtain ⟨text, passed, _⟩ := ends
    obtain rfl : Node.bareAll nodes = more := same
    -- The text is what has been passed, by its number of code points or by what is left.
    have taken : cursor.rest.take (after.index - cursor.index) = text := by
      rw [passed.index, Nat.add_sub_cancel_left, passed.rest, List.take_left]
    have taken' : cursor.rest.take (cursor.rest.length - after.rest.length) = text := by
      simp [passed.rest]
    have whole : Yields mode (.once (.rule rule)) cursor.rest _ := .rule inside
    unfold Outcome.ofRule
    dsimp only
    rw [Mode.around_tracked]
    by_cases leaf : (mode.around rule.definition.treatment).isLeaf = true
    · rw [if_pos leaf]
      rw [Mode.wrap, if_pos leaf] at whole
      exact ⟨[], rfl, whole⟩
    · rw [if_neg leaf, taken]
      rw [Mode.wrap, if_neg leaf, taken'] at whole
      exact ⟨_, rfl, whole⟩
  | failed attempts =>
    unfold Outcome.ofRule
    dsimp only
    split <;> exact .noRule inside
  | exhausted => trivial

/-- One pattern and then another one. -/
theorem both (first : Derives steps mode head) (second : Derives steps mode tail) :
    Derives (steps + 1) mode (.both head tail) := by
  intro isTracked cursor attempts
  replace first := first isTracked cursor attempts
  rw [run_succ_both]
  generalize run steps { mode with isTracked } head cursor attempts = outcome at first ⊢
  cases outcome with
  | matched between nodes attempts =>
    obtain ⟨found, same, first⟩ := first
    -- The second pattern stands behind the blanks, if there may be some.
    replace second := second isTracked (({ mode with isTracked } : Mode).skip between) attempts
    rw [Mode.skip_rest] at second
    dsimp only
    generalize run steps { mode with isTracked } tail
      (({ mode with isTracked } : Mode).skip between) attempts = outcome at second ⊢
    cases outcome with
    | matched after more attempts =>
      obtain ⟨others, same', second⟩ := second
      refine ⟨found ++ others, ?_, .both first second⟩
      rw [Node.bareAll_append, same, same']
      rfl
    | failed attempts => exact .noSecond first second
    | exhausted => trivial
  | failed attempts => exact .noFirst first
  | exhausted => trivial

/-- One pattern, or else another one. -/
theorem either (first : Derives steps mode head) (second : Derives steps mode tail) :
    Derives (steps + 1) mode (.either head tail) := by
  intro isTracked cursor attempts
  replace first := first isTracked cursor attempts
  rw [run_succ_either]
  -- The second pattern is tried where the first one fails, on the same text.
  generalize run steps { mode with isTracked } head cursor attempts = outcome at first ⊢
  cases outcome with
  | matched after nodes attempts =>
    obtain ⟨more, same, first⟩ := first
    exact ⟨more, same, .left first⟩
  | failed attempts =>
    replace second := second isTracked cursor attempts
    dsimp only
    generalize run steps { mode with isTracked } tail cursor attempts = outcome at second ⊢
    cases outcome with
    | matched after nodes attempts =>
      obtain ⟨more, same, second⟩ := second
      exact ⟨more, same, .right first second⟩
    | failed attempts => exact .right first second
    | exhausted => trivial
  | exhausted => trivial

/-- A pattern that may be missing. -/
theorem optional (first : Derives steps mode inner) :
    Derives (steps + 1) mode (.optional inner) := by
  intro isTracked cursor attempts
  replace first := first isTracked cursor attempts
  rw [run_succ_optional]
  -- Where the pattern fails, nothing is passed.
  generalize run steps { mode with isTracked } inner cursor attempts = outcome at first ⊢
  cases outcome with
  | matched after nodes attempts =>
    obtain ⟨more, same, first⟩ := first
    exact ⟨more, same, .present first⟩
  | failed attempts => exact ⟨[], rfl, .missing first⟩
  | exhausted => trivial

/-- A pattern any number of times. -/
theorem many (first : Derives steps mode inner) (later : DerivesMore steps mode inner) :
    Derives (steps + 1) mode (.many inner) := by
  intro isTracked cursor attempts
  replace first := first isTracked cursor attempts
  rw [run_succ_many]
  -- Further matches are collected in reverse, on top of what the first one found.
  generalize run steps { mode with isTracked } inner cursor attempts = outcome at first ⊢
  cases outcome with
  | matched between nodes attempts =>
    obtain ⟨found, same, first⟩ := first
    replace later := later isTracked between nodes.reverse attempts
    dsimp only
    generalize runMore steps { mode with isTracked } inner between nodes.reverse attempts =
      outcome at later ⊢
    cases outcome with
    | matched after more attempts =>
      obtain ⟨others, same', later⟩ := later
      refine ⟨found ++ others, ?_, .many first later⟩
      rw [same', List.reverse_reverse, same]
      rfl
    | failed attempts => cases later
    | exhausted => trivial
  | failed attempts => exact ⟨[], rfl, .noMany first⟩
  | exhausted => trivial

/-- A pattern that must not stand there. -/
theorem absent (first : Derives steps mode inner) : Derives (steps + 1) mode (.absent inner) := by
  intro isTracked cursor attempts
  -- Inside, no attempts are kept.
  replace first := first false cursor attempts
  rw [run_succ_absent]
  generalize run steps { mode with isTracked := false } inner cursor attempts = outcome
    at first ⊢
  cases outcome with
  | matched after nodes attempts =>
    obtain ⟨more, _, first⟩ := first
    exact .notAbsent first
  | failed attempts => exact ⟨[], rfl, .absent first⟩
  | exhausted => trivial

/-- One more repetition of a pattern, and further ones. -/
theorem more (first : Derives steps mode inner) (later : DerivesMore steps mode inner) :
    DerivesMore (steps + 1) mode inner := by
  intro isTracked cursor found attempts
  replace first := first isTracked (({ mode with isTracked } : Mode).skip cursor) attempts
  rw [Mode.skip_rest] at first
  rw [runMore_succ]
  generalize run steps { mode with isTracked } inner
    (({ mode with isTracked } : Mode).skip cursor) attempts = outcome at first ⊢
  cases outcome with
  | matched between nodes attempts =>
    obtain ⟨others, same, first⟩ := first
    -- The trees are kept in reverse, with those found before behind them.
    replace later := later isTracked between (nodes.reverse ++ found) attempts
    dsimp only
    generalize runMore steps { mode with isTracked } inner between (nodes.reverse ++ found)
      attempts = outcome at later ⊢
    cases outcome with
    | matched after more attempts =>
      obtain ⟨last, same', later⟩ := later
      refine ⟨others ++ last, ?_, .step first later⟩
      rw [same', List.reverse_append, List.reverse_reverse, Node.bareAll_append, same]
      simp [Node.bareAll]
    | failed attempts => cases later
    | exhausted => trivial
  | failed attempts => exact ⟨[], by simp, .stop first⟩
  | exhausted => trivial

/-- What the matcher finds is derived, at once and by further repetitions. -/
theorem all (steps : Nat) :
    (∀ mode pattern, Derives steps mode pattern) ∧ ∀ mode inner, DerivesMore steps mode inner := by
  -- Each step of the matcher has one step less for what stands inside.
  induction steps with
  | zero => exact ⟨fun _ _ _ _ _ => trivial, fun _ _ _ _ _ _ => trivial⟩
  | succ steps ih =>
    obtain ⟨once, again⟩ := ih
    constructor
    · intro mode pattern
      cases pattern with
      | finish => exact finish
      | char kind => exact char kind
      | text source => exact text source
      | rule named => exact rule (once _ _)
      | both head tail => exact both (once mode head) (once mode tail)
      | either head tail => exact either (once mode head) (once mode tail)
      | optional inner => exact optional (once mode inner)
      | many inner => exact many (once mode inner) (again mode inner)
      | absent inner => exact absent (once mode inner)
    · intro mode inner
      exact more (once mode inner) (again mode inner)

end Derives

/-- What the matcher finds is derived. -/
theorem run_derived (steps : Nat) (mode : Mode) (isTracked : Bool) (pattern : Pattern)
    (cursor : Cursor) (attempts : Attempts) :
    (run steps { mode with isTracked } pattern cursor attempts).Derived mode (.once pattern)
      cursor.rest [] :=
  (Derives.all steps).1 mode pattern isTracked cursor attempts

section Outcomes

variable {mode : Mode} {pattern : Pattern} {source : List Char}

/-- A steady pattern has an outcome on every text, which is derived. -/
theorem exists_derived (mode : Mode) (steady : pattern.isSteady = true) (source : List Char) :
    ∃ steps, (run steps mode pattern (.start source) ⟨0, []⟩).Derived mode (.once pattern) source
      [] ∧ run steps mode pattern (.start source) ⟨0, []⟩ ≠ .exhausted :=
  ⟨_, run_derived _ mode mode.isTracked pattern (.start source) ⟨0, []⟩,
    run_ne_exhausted _ mode steady _ _ (Nat.le_refl _)⟩

/-- A steady pattern yields something on every text. -/
theorem exists_yields (mode : Mode) (steady : pattern.isSteady = true) (source : List Char) :
    ∃ yield, Yields mode (.once pattern) source yield := by
  -- With steps enough the run ends, and what it ends with is derived.
  obtain ⟨steps, derived, ended⟩ := exists_derived mode steady source
  generalize run steps mode pattern (.start source) ⟨0, []⟩ = outcome at derived ended
  cases outcome with
  | matched after nodes attempts =>
    obtain ⟨more, _, yields⟩ := derived
    exact ⟨_, yields⟩
  | failed attempts => exact ⟨_, derived⟩
  | exhausted => exact absurd rfl ended

/-- A match passes a text, which is not empty unless the pattern can match nothing. -/
theorem Yields.passes {rest : List Char} {nodes : List Node} (steady : pattern.isSteady = true)
    (yields : Yields mode (.once pattern) source (some (rest, nodes))) :
    ∃ text, source = text ++ rest ∧ (text = [] → pattern.isEmptiable = true) := by
  -- The run of the pattern passes a text, and is the one derivation there is.
  obtain ⟨steps, derived, ended⟩ := exists_derived mode steady source
  have passes := run_passes steps mode pattern (.start source) ⟨0, []⟩
  generalize run steps mode pattern (.start source) ⟨0, []⟩ = outcome at derived ended passes
  cases outcome with
  | matched after found attempts =>
    obtain ⟨more, _, derived⟩ := derived
    obtain ⟨text, passed, filled⟩ := passes
    cases yields.unique derived
    exact ⟨text, passed.rest, filled⟩
  | failed attempts => cases yields.unique derived
  | exhausted => exact absurd rfl ended

/-- Nothing is left to match for a pattern that has to match something. -/
theorem yields_nil (mode : Mode) (steady : pattern.isSteady = true)
    (filled : pattern.isEmptiable = false) : Yields mode (.once pattern) [] none := by
  -- What is matched of nothing is nothing, which such a pattern does not match.
  obtain ⟨yield, yields⟩ := exists_yields mode steady []
  cases yield with
  | none => exact yields
  | some found =>
    obtain ⟨text, same, empty⟩ := yields.passes steady
    have nothing : text = [] := (List.append_eq_nil_iff.1 same.symm).1
    rw [empty nothing] at filled
    cases filled

end Outcomes

end Reshape.Grammar
