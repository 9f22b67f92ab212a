import Reshape.Proofs.Grammar.Yields

/-!
Shapes of trees: which rules stand beside one another inside a rule. The grammar tells it along its
patterns, as a walk through two states, and all trees that the matcher finds have the shape that is
told. Words and names have no expressions inside, and inside an expression no operand follows
another one without a sign between them.
-/

namespace Reshape.Grammar

/-- The rule of a tree. -/
def Node.rule : Node → Rule
  | .node rule .. => rule

namespace Rule

/-- Whether a rule can have no expressions inside. -/
def isPlain : Rule → Bool
  | .mapping | .query | .letStatement | .metaStatement | .assignStatement | .expr | .methodCall
  | .paren | .functionCall | .callArguments | .namedArgument | .lambda | .ifExpr | .ifBranch
  | .elseIf | .elseBlock | .matchExpr | .matchCase | .array | .object | .objectEntry => false
  | _ => true

/-- What a rule is in a row of operands. -/
inductive Role where
  /-- A sign between operands. -/
  | between
  /-- A sign before an operand, or what follows one. -/
  | beside
  | operand
  deriving DecidableEq

/-- What a rule is in a row of operands. -/
def role : Rule → Role
  | .orSign | .andSign | .coalesceSign | .equalSign | .unequalSign | .greaterEqualSign
  | .lessEqualSign | .greaterSign | .lessSign | .addSign | .subtractSign | .multiplySign
  | .divideSign | .remainderSign => .between
  | .notSign | .negateSign | .methodCall | .fieldAccess => .beside
  | _ => .operand

/-- Whether a row ends with an operand behind one more rule, if the rule may stand there: an operand
may not where the row ends with one. -/
def fills (isFilled : Bool) (inner : Rule) : Option Bool :=
  match inner.role with
  | .between => some false
  | .beside => some isFilled
  | .operand => if isFilled then none else some true

/-- Whether what stands inside a rule ends with an operand behind one more rule, if that may stand
there: only in an expression it matters what stands before. -/
def admits (around : Rule) (isFilled : Bool) (inner : Rule) : Option Bool :=
  if around = .expr then inner.fills isFilled
  else if around.isPlain && !inner.isPlain then none
  else some isFilled

end Rule

/-- What becomes of a state along what a pattern matches, if each rule in it may stand where it is.
In a leaf there are no rules. -/
def Pattern.walk (step : Bool → Rule → Option Bool) (isLeaf : Bool) : Pattern → Bool → Option Bool
  | .finish, state | .char _, state | .text _, state | .absent _, state => some state
  | .rule named, state => if isLeaf then none else step state named
  | .both head tail, state => (head.walk step isLeaf state).bind (tail.walk step isLeaf)
  | .either head tail, state =>
    if head.walk step isLeaf state = tail.walk step isLeaf state then head.walk step isLeaf state
    else none
  | .optional inner, state | .many inner, state =>
    if inner.walk step isLeaf state = some state then some state else none

/-- What becomes of a state along what comes of a demand. -/
def Demand.walk (step : Bool → Rule → Option Bool) (isLeaf : Bool) : Demand → Bool → Option Bool
  | .once pattern => pattern.walk step isLeaf
  | .again inner => (Pattern.many inner).walk step isLeaf

/-- In the pattern of a rule each rule may stand where it does. -/
theorem Rule.walks (rule : Rule) :
    ∃ last, rule.definition.pattern.walk rule.admits (rule.definition.treatment == .leaf) false =
      some last := by
  rw [← Option.isSome_iff_exists]
  cases rule <;> decide

namespace Yields

variable {mode : Mode} {demand : Demand} {source rest : List Char} {nodes : List Node}
  {yield : Yield} {step : Bool → Rule → Option Bool}

/-- The rules of the trees that a match finds take the states that the pattern tells. -/
theorem walk (yields : Yields mode demand source yield) :
    ∀ rest nodes, yield = some (rest, nodes) → ∀ state next,
      demand.walk step mode.isLeaf state = some next →
        (nodes.map Node.rule).foldlM step state = some next := by
  -- Where a pattern is matched again and again, each match takes the state to itself.
  have still {inner : Pattern} {isLeaf state next : Bool}
      (known : (if inner.walk step isLeaf state = some state then some state else none) =
        some next) : inner.walk step isLeaf state = some state ∧ next = state := by
    split at known
    next same => exact ⟨same, (Option.some.inj known).symm⟩
    next => cases known
  induction yields with
  | finish | char | text =>
    rintro _ _ ⟨⟩ state next known
    exact known
  | absent =>
    rintro _ _ ⟨⟩ state next known
    exact known
  | @rule mode named source rest nodes inside ih =>
    rintro _ _ ⟨⟩ state next known
    simp only [Demand.walk, Pattern.walk] at known
    split at known
    next => cases known
    next tree =>
      -- Outside leaves a rule is one tree, whatever stands inside.
      have around : (mode.around named.definition.treatment).isLeaf = false := by
        rw [Bool.not_eq_true] at tree
        cases named.definition.treatment <;> simp [Mode.around, tree]
      simp [Mode.wrap, around, Node.rule, known]
  | both first second ih ih' =>
    rintro _ _ ⟨⟩ state next known
    obtain ⟨between, begins, ends⟩ := Option.bind_eq_some_iff.1 known
    rw [List.map_append, List.foldlM_append, ih _ _ rfl state between begins]
    exact ih' _ _ rfl between next ends
  | left first ih =>
    intro _ _ same state next known
    simp only [Demand.walk, Pattern.walk] at known
    split at known
    · exact ih _ _ same state next known
    · cases known
  | right first second ih ih' =>
    intro _ _ same state next known
    simp only [Demand.walk, Pattern.walk] at known
    split at known
    next alike => exact ih' _ _ same state next (alike.symm.trans known)
    next => cases known
  | present first ih =>
    intro _ _ same state next known
    obtain ⟨inside, rfl⟩ := still known
    exact ih _ _ same _ _ inside
  | missing first ih | noMany first ih =>
    rintro _ _ ⟨⟩ state next known
    obtain ⟨inside, rfl⟩ := still known
    rfl
  | stop first ih =>
    rintro _ _ ⟨⟩ state next known
    obtain ⟨inside, rfl⟩ := still known
    rfl
  | many first later ih ih' | step first later ih ih' =>
    rintro _ _ ⟨⟩ state next known
    obtain ⟨inside, rfl⟩ := still known
    rw [List.map_append, List.foldlM_append, ih _ _ rfl _ _ inside]
    exact ih' _ _ rfl _ _ known
  | _ => rintro _ _ ⟨⟩

end Yields

mutual

/-- Whether each rule in a tree may stand where it does. -/
def Node.isShaped : Node → Bool
  | .node rule _ _ _ children =>
    ((children.map Node.rule).foldlM rule.admits false).isSome && Node.areShaped children

/-- Whether each rule in trees may stand where it does. -/
def Node.areShaped : List Node → Bool
  | [] => true
  | tree :: rest => Node.isShaped tree && Node.areShaped rest

end

namespace Node

/-- The rules of trees stay without the places of their parts. -/
theorem map_rule_bareAll (nodes : List Node) :
    (bareAll nodes).map Node.rule = nodes.map Node.rule := by
  induction nodes with
  | nil => rfl
  | cons tree rest ih =>
    obtain ⟨rule, text, span, line, children⟩ := tree
    exact congrArg (rule :: ·) ih

mutual

/-- The shape of a tree does not depend on the places of its parts. -/
theorem isShaped_bare (tree : Node) : tree.bare.isShaped = tree.isShaped := by
  match tree with
  | .node rule text span line children =>
    rw [bare, isShaped, isShaped, map_rule_bareAll, areShaped_bareAll children]

/-- The shapes of trees do not depend on the places of their parts. -/
theorem areShaped_bareAll (nodes : List Node) : areShaped (bareAll nodes) = areShaped nodes := by
  match nodes with
  | [] => rfl
  | tree :: rest => rw [bareAll, areShaped, areShaped, isShaped_bare tree, areShaped_bareAll rest]

end

/-- Trees have their shapes one by one. -/
theorem areShaped_append (nodes more : List Node) :
    areShaped (nodes ++ more) = (areShaped nodes && areShaped more) := by
  induction nodes with
  | nil => rfl
  | cons tree rest ih => rw [List.cons_append, areShaped, areShaped, ih, Bool.and_assoc]

end Node

/-- The trees that a match finds have their shapes. -/
theorem Yields.shaped {mode : Mode} {demand : Demand} {source : List Char} {yield : Yield}
    (yields : Yields mode demand source yield) :
    ∀ rest nodes, yield = some (rest, nodes) → Node.areShaped nodes = true := by
  induction yields with
  | finish | char | text =>
    rintro _ _ ⟨⟩
    rfl
  | absent | missing | noMany | stop =>
    rintro _ _ ⟨⟩
    rfl
  | @rule mode named source rest nodes inside ih =>
    rintro _ _ ⟨⟩
    unfold Mode.wrap
    split
    next => rfl
    next tree =>
      -- Inside a rule that is a tree there is a leaf exactly if the rule is treated as one.
      have leaf : (mode.inside named.definition.treatment).isLeaf =
          (named.definition.treatment == .leaf) := by
        rw [Bool.not_eq_true] at tree
        generalize named.definition.treatment = treatment at tree ⊢
        cases treatment with
        | inherited => exact tree
        | loose | tight | leaf => rfl
      obtain ⟨last, walks⟩ := named.walks
      rw [← leaf] at walks
      have row := inside.walk _ _ rfl false last walks
      simp [Node.areShaped, Node.isShaped, row, ih _ _ rfl]
  | both first second ih ih' | many first second ih ih' | step first second ih ih' =>
    rintro _ _ ⟨⟩
    rw [Node.areShaped_append, ih _ _ rfl, ih' _ _ rfl, Bool.and_self]
  | left first ih | present first ih => exact ih
  | right first second ih ih' => exact ih'
  | _ => rintro _ _ ⟨⟩

/-- The trees of a source that is matched have their shapes. -/
theorem shaped_of_matchSource {rule : Rule} {source : List Char} {after : Cursor}
    {nodes : List Node} {attempts : Attempts}
    (matched : matchSource rule source = .matched after nodes attempts) :
    Node.areShaped nodes = true := by
  have derived := run_derived (stepLimit source.length) ⟨true, false, true⟩ true (.rule rule)
    (.start source) ⟨0, []⟩
  replace derived : (matchSource rule source).Derived _ _ _ _ := derived
  rw [matched] at derived
  obtain ⟨more, same, yields⟩ := derived
  -- The matcher finds the trees that are derived, with their places.
  obtain rfl : Node.bareAll nodes = more := same
  rw [← Node.areShaped_bareAll]
  exact yields.shaped _ _ rfl

end Reshape.Grammar
