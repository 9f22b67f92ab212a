import Reshape.Proofs.Grammar.Shape
import Reshape.Proofs.Grammar.Term

/-!
Nesting of expressions: how many of them stand around each other in a source. It is counted in the
tree of the rules that matched, and again in the terms that are made of the tree: no expression is
lost on the way, and none is added.
-/

namespace Reshape

namespace Grammar

/-- The levels of nesting that a rule takes. -/
def Rule.levels : Rule → Nat
  | .expr => 1
  | _ => 0

namespace Node

/-- An expression stands in a tree with so many expressions around it, itself counted. -/
inductive Nests : Node → Nat → Prop where
  -- The expression is the tree itself.
  | own (text : String) (span : Span) (line : Nat) (children : List Node) :
    Nests (.node .expr text span line children) 1
  -- The expression is somewhere inside, and the tree may be one around it.
  | inside {rule : Rule} {text : String} {span : Span} {line : Nat} {children : List Node}
    {child : Node} {depth : Nat} (among : child ∈ children) (nests : Nests child depth) :
    Nests (.node rule text span line children) (depth + rule.levels)

mutual

/-- The greatest number of expressions around each other in a tree. -/
def nesting : Node → Nat
  | .node rule _ _ _ children => nestingAll children + rule.levels

/-- The greatest number of expressions around each other in some trees. -/
def nestingAll : List Node → Nat
  | [] => 0
  | tree :: rest => max (nesting tree) (nestingAll rest)

end

variable {tree : Node} {nodes : List Node} {n depth : Nat}

/-- The nesting of trees is within a bound if that of each is. -/
theorem nestingAll_le_iff : nestingAll nodes ≤ n ↔ ∀ tree ∈ nodes, tree.nesting ≤ n := by
  induction nodes with
  | nil => simp [nestingAll]
  | cons tree rest ih => simp only [nestingAll, Nat.max_le, ih, List.forall_mem_cons]

/-- No expression is nested more deeply than the nesting of the tree. -/
theorem Nests.le_nesting (nests : tree.Nests depth) : depth ≤ tree.nesting := by
  induction nests with
  | own text span line children => simp [nesting, Rule.levels]
  | @inside rule _ _ _ children child depth among _ ih =>
    -- The rule adds its levels to those of its deepest part.
    have inner := nestingAll_le_iff.1 (Nat.le_refl (nestingAll children)) child among
    rw [nesting]
    omega

mutual

/-- Some expression is nested as deeply as the nesting of a tree, unless there is none. -/
theorem nests_nesting (tree : Node) (filled : 0 < tree.nesting) : tree.Nests tree.nesting := by
  match tree with
  | .node rule text span line children =>
    rw [nesting] at filled ⊢
    by_cases inner : 0 < nestingAll children
    · obtain ⟨child, among, nests⟩ := exists_nests children inner
      exact .inside among nests
    · -- Nothing is nested inside, so that the rule itself is an expression.
      have none : nestingAll children = 0 := by omega
      rw [none, Nat.zero_add] at filled ⊢
      cases rule with
      | expr => exact .own text span line children
      | _ => cases filled

/-- In some of the trees an expression is nested as deeply as in any, unless there is none. -/
theorem exists_nests (nodes : List Node) (filled : 0 < nestingAll nodes) :
    ∃ tree ∈ nodes, tree.Nests (nestingAll nodes) := by
  match nodes with
  | [] => cases filled
  | tree :: rest =>
    rw [nestingAll] at filled ⊢
    -- The greatest depth is that of the first tree or that of the others.
    rcases Nat.le_total (nestingAll rest) tree.nesting with first | later
    · rw [Nat.max_eq_left first] at filled ⊢
      exact ⟨tree, .head _, nests_nesting tree filled⟩
    · rw [Nat.max_eq_right later] at filled ⊢
      obtain ⟨found, among, nests⟩ := exists_nests rest filled
      exact ⟨found, .tail _ among, nests⟩

end

/-- The nesting of trees is within a bound if that of each expression in them is. -/
theorem nestingAll_le_iff_nests :
    nestingAll nodes ≤ n ↔ ∀ tree ∈ nodes, ∀ depth, tree.Nests depth → depth ≤ n := by
  constructor
  · intro within tree among depth nests
    exact Nat.le_trans nests.le_nesting (nestingAll_le_iff.1 within tree among)
  -- A tree that is nested as deeply as any decides; without an expression there is nothing to
  -- bound.
  · intro each
    by_cases filled : 0 < nestingAll nodes
    · obtain ⟨tree, among, nests⟩ := exists_nests nodes filled
      exact each tree among _ nests
    · omega

mutual

/-- Rules without expressions inside have none inside. -/
theorem nesting_of_isPlain (tree : Node) (shaped : tree.isShaped = true)
    (plain : tree.rule.isPlain = true) : tree.nesting = 0 := by
  match tree with
  | .node rule text span line children =>
    change rule.isPlain = true at plain
    -- The levels of a rule are those of an expression, so such a rule counts nothing itself.
    have other : rule ≠ .expr := by
      rintro rfl
      cases plain
    rw [isShaped, Bool.and_eq_true, Option.isSome_iff_exists] at shaped
    obtain ⟨⟨last, walks⟩, inside⟩ := shaped
    have levels : rule.levels = 0 := by
      cases rule with
      | expr => exact absurd rfl other
      | _ => rfl
    rw [nesting, levels, nestingAll_of_isPlain plain other children false last walks inside]

/-- Inside a rule without expressions no expression is nested. -/
theorem nestingAll_of_isPlain {around : Rule} (plain : around.isPlain = true)
    (other : around ≠ .expr) (nodes : List Node) (isFilled last : Bool)
    (walks : (nodes.map Node.rule).foldlM around.admits isFilled = some last)
    (shaped : areShaped nodes = true) : nestingAll nodes = 0 := by
  match nodes with
  | [] => rfl
  | tree :: rest =>
    rw [List.map_cons, List.foldlM_cons] at walks
    obtain ⟨between, first, later⟩ := Option.bind_eq_some_iff.1 walks
    rw [areShaped, Bool.and_eq_true] at shaped
    rw [Rule.admits, if_neg other] at first
    -- A rule that may have expressions inside is not admitted.
    have inner : tree.rule.isPlain = true := by
      cases mixed : tree.rule.isPlain with
      | true => rfl
      | false =>
        rw [plain, mixed] at first
        cases first
    rw [nestingAll, nesting_of_isPlain tree shaped.1 inner,
      nestingAll_of_isPlain plain other rest between last later shaped.2]
    rfl

end

end Node

end Grammar

namespace Term

mutual

/-- The greatest number of expressions around each other in a term. -/
def nesting : Term → Nat
  | .nested _ inner => nesting inner + 1
  | .array items => nestingAll items
  | .object entries => nestingEntries entries
  | .branches tests otherwise => max (nestingPairs tests) (nestingOption otherwise)
  | .cases subject rules => max (nestingOption subject) (nestingCases rules)
  | .call _ _ given => nestingArguments given
  | .signed _ operand => nesting operand
  | .binary _ left right => max (nesting left) (nesting right)
  | .field target _ => nesting target
  | .method _ target _ given => max (nesting target) (nestingArguments given)
  | .lambda _ body => nesting body
  | .literal _ | .number .. | .quoted .. | .variable _ | .metadata _ | .root | .current
  | .name _ => 0

/-- The nesting of an optional term. -/
def nestingOption : Option Term → Nat
  | none => 0
  | some term => nesting term

/-- The nesting of terms. -/
def nestingAll : List Term → Nat
  | [] => 0
  | term :: rest => max (nesting term) (nestingAll rest)

/-- The nesting of pairs of terms. -/
def nestingPairs : List (Term × Term) → Nat
  | [] => 0
  | (first, second) :: rest => max (nesting first) (max (nesting second) (nestingPairs rest))

/-- The nesting of the entries of an object. -/
def nestingEntries : List (Span × Term × Term) → Nat
  | [] => 0
  | (_, key, value) :: rest => max (nesting key) (max (nesting value) (nestingEntries rest))

/-- The nesting of cases. -/
def nestingCases : List (Option Term × Term) → Nat
  | [] => 0
  | (test, body) :: rest => max (nestingOption test) (max (nesting body) (nestingCases rest))

/-- The nesting of arguments. -/
def nestingArguments : List (Option String × Term) → Nat
  | [] => 0
  | (_, term) :: rest => max (nesting term) (nestingArguments rest)

end

variable {n : Nat}

/-- The nesting of terms is within a bound if that of each is. -/
theorem nestingAll_le_iff {terms : List Term} :
    nestingAll terms ≤ n ↔ ∀ term ∈ terms, term.nesting ≤ n := by
  induction terms with
  | nil => simp [nestingAll]
  | cons term rest ih => simp only [nestingAll, Nat.max_le, ih, List.forall_mem_cons]

/-- The nesting of entries is within a bound if that of each key and each value is. -/
theorem nestingEntries_le_iff {entries : List (Span × Term × Term)} :
    nestingEntries entries ≤ n ↔
      ∀ entry ∈ entries, entry.2.1.nesting ≤ n ∧ entry.2.2.nesting ≤ n := by
  induction entries with
  | nil => simp [nestingEntries]
  | cons entry rest ih =>
    simp only [nestingEntries, Nat.max_le, ih, List.forall_mem_cons, and_assoc]

/-- The nesting of cases is within a bound if that of each test and each body is. -/
theorem nestingCases_le_iff {rules : List (Option Term × Term)} :
    nestingCases rules ≤ n ↔ ∀ rule ∈ rules, nestingOption rule.1 ≤ n ∧ rule.2.nesting ≤ n := by
  induction rules with
  | nil => simp [nestingCases]
  | cons rule rest ih => simp only [nestingCases, Nat.max_le, ih, List.forall_mem_cons, and_assoc]

/-- The nesting of arguments is within a bound if that of each is. -/
theorem nestingArguments_le_iff {given : List (Option String × Term)} :
    nestingArguments given ≤ n ↔ ∀ argument ∈ given, argument.2.nesting ≤ n := by
  induction given with
  | nil => simp [nestingArguments]
  | cons argument rest ih => simp only [nestingArguments, Nat.max_le, ih, List.forall_mem_cons]

end Term

namespace Grammar.Piece

/-- Something is made of a part of a source, and the expressions in it are nested so deeply at
most. -/
def Within (n : Nat) : Piece → Prop
  | .term found | .named _ found | .otherwise found => found.nesting ≤ n
  | .tail (.method _ _ given) | .arguments given => Term.nestingArguments given ≤ n
  | .branch first second | .entry _ first second => first.nesting ≤ n ∧ second.nesting ≤ n
  | .case test body => Term.nestingOption test ≤ n ∧ body.nesting ≤ n
  | .sentence found => found.term.nesting ≤ n
  | .mapping found => ∀ sentence ∈ found, sentence.term.nesting ≤ n
  -- Expressions may have been lost here.
  | .malformed => False
  -- What is left are names, signs and words, which have no expressions inside.
  | _ => True

variable {n : Nat} {piece : Piece} {pieces : List Piece}

/-- A part that is a term is within a bound if the term is. -/
theorem within_term? {found : Term} (given : piece.term? = some found) :
    piece.Within n ↔ found.nesting ≤ n := by
  -- Only a term and a quoted text, which becomes a literal, are read as terms.
  cases piece with
  | term inner =>
    obtain rfl := Option.some.inj given
    rfl
  | quoted span text =>
    obtain rfl := Option.some.inj given
    simp [Within, Term.nesting]
  | _ => cases given

/-- A part that is a name in a path has no expressions inside. -/
theorem within_segment? {found : Segment} (given : piece.segment? = some found) :
    piece.Within n := by
  cases piece with
  | name | quoted => trivial
  | _ => cases given

/-- A part that is a statement is within a bound if its term is. -/
theorem within_sentence? {found : Sentence} (given : sentence? piece = some found) :
    piece.Within n ↔ found.term.nesting ≤ n := by
  cases piece with
  | sentence inner =>
    obtain rfl := Option.some.inj given
    rfl
  | _ => cases given

/-- A part that is an argument is within a bound if its term is. -/
theorem within_argument? {found : Option String × Term} (given : argument? piece = some found) :
    piece.Within n ↔ found.2.nesting ≤ n := by
  -- An argument is named already, or a term without a name.
  unfold argument? at given
  split at given
  next =>
    obtain rfl := Option.some.inj given
    rfl
  next =>
    obtain ⟨term, known, rfl⟩ := Option.map_eq_some_iff.1 given
    exact within_term? known

/-- A part that is an entry is within a bound if its key and its value are. -/
theorem within_entry? {found : Span × Term × Term} (given : entry? piece = some found) :
    piece.Within n ↔ found.2.1.nesting ≤ n ∧ found.2.2.nesting ≤ n := by
  cases piece with
  | entry span key value =>
    obtain rfl := Option.some.inj given
    rfl
  | _ => cases given

/-- A part that is a case is within a bound if its test and its body are. -/
theorem within_case? {found : Option Term × Term} (given : case? piece = some found) :
    piece.Within n ↔ Term.nestingOption found.1 ≤ n ∧ found.2.nesting ≤ n := by
  cases piece with
  | case test body =>
    obtain rfl := Option.some.inj given
    rfl
  | _ => cases given

/-- Parts that are read one by one are within a bound if what they are read as is. -/
theorem within_mapM {α : Type} {read : Piece → Option α} {property : α → Prop}
    (each : ∀ {piece found}, read piece = some found → (Within n piece ↔ property found))
    {results : List α} (given : pieces.mapM read = some results) :
    (∀ piece ∈ pieces, Within n piece) ↔ ∀ found ∈ results, property found := by
  -- The parts are read in order, each by the same reader.
  induction pieces generalizing results with
  | nil =>
    cases given
    simp
  | cons piece rest ih =>
    rw [List.mapM_cons] at given
    obtain ⟨found, read, given⟩ := Option.bind_eq_some_iff.1 given
    obtain ⟨others, later, given⟩ := Option.bind_eq_some_iff.1 given
    cases given
    rw [List.forall_mem_cons, List.forall_mem_cons, each read, ih later]

/-- Only marks say nothing. -/
theorem eq_mark (silent : piece.speaks = false) : piece = .mark := by
  cases piece with
  | mark => rfl
  | _ => cases silent

/-- A mark is within every bound, so that it does not matter whether it is left out. -/
theorem within_filter : (∀ piece ∈ pieces.filter speaks, Within n piece) ↔
    ∀ piece ∈ pieces, Within n piece := by
  -- A piece that is filtered out is a mark, and marks have nothing inside.
  constructor
  · intro each piece among
    cases speaks : piece.speaks with
    | true => exact each piece (List.mem_filter.2 ⟨among, speaks⟩)
    | false => exact eq_mark speaks ▸ trivial
  · intro each piece among
    exact each piece (List.mem_filter.1 among).1

/-- A further operand behind a term is nested in the term as deeply as by itself. -/
theorem nesting_extend (next : Sign) (operand whole : Term) :
    (extend next operand whole).nesting = max whole.nesting operand.nesting := by
  -- The operand goes as far to the right as the signs before it bind less tightly.
  fun_induction extend next operand whole with
  | case1 before left right _ => rfl
  | case2 before left right _ ih => rw [Term.nesting, ih, Term.nesting, Nat.max_assoc]
  | case3 whole _ => rfl

/-- The expressions in the beginning of an expression are nested so deeply at most. -/
def Chain.Within (n : Nat) (chain : Chain) : Prop :=
  (∀ pair ∈ chain.before, pair.1.nesting ≤ n) ∧ ∀ found ∈ chain.operand, found.nesting ≤ n

namespace Chain

variable {chain longer : Chain}

/-- The term that a beginning makes is nested as deeply as what stands in it. -/
theorem within_term? {found : Term} (given : chain.term? = some found) :
    chain.Within n ↔ found.nesting ≤ n := by
  obtain ⟨operand, known, rfl⟩ := Option.map_eq_some_iff.1 given
  have signed (signs : List PrefixSign) (inner : Term) :
      (signs.foldl (fun inner before => .signed before inner) inner).nesting = inner.nesting := by
    induction signs generalizing inner with
    | nil => rfl
    | cons sign rest ih => exact ih (.signed sign inner)
  unfold Chain.Within
  dsimp only
  -- The last operand stands alone, or behind a sign that has its left operand already.
  split
  next left next before =>
    rw [nesting_extend, signed, Nat.max_le]
    simp [before, known]
  next before => simp [before, known, signed]

/-- An operand or a tail is needed for an operand. -/
theorem operand_of_push (pushed : chain.push piece = some longer)
    (filled : longer.operand.isSome = true) :
    piece.term?.isSome = true ∨ chain.operand.isSome = true := by
  -- A sign between operands leaves none, and a tail changes the one that is there.
  cases piece with
  | term | quoted => exact .inl rfl
  | prefixSign sign =>
    obtain rfl := Option.some.inj pushed
    exact .inr filled
  | sign next =>
    obtain ⟨left, _, rfl⟩ := Option.map_eq_some_iff.1 pushed
    cases filled
  | tail after =>
    obtain ⟨operand, known, _⟩ := Option.map_eq_some_iff.1 pushed
    exact .inr (by simp [known])
  | _ => cases pushed

/-- A beginning with one more part holds what both hold, if no operand is put in the place of
another one. -/
theorem within_push (pushed : chain.push piece = some longer)
    (free : piece.term?.isSome = true → chain.operand = none) :
    longer.Within n ↔ chain.Within n ∧ piece.Within n := by
  have operand {found : Term} (known : piece.term? = some found)
      (pushed : some { chain with operand := some found } = some longer) :
      longer.Within n ↔ chain.Within n ∧ piece.Within n := by
    obtain rfl := Option.some.inj pushed
    -- No operand is lost, since there was none in this place.
    have vacant := free (by simp [known])
    simp [Chain.Within, vacant, Piece.within_term? known]
  cases piece with
  | term found => exact operand rfl pushed
  | quoted span text => exact operand rfl pushed
  | prefixSign sign =>
    obtain rfl := Option.some.inj pushed
    simp [Chain.Within, Piece.Within]
  | sign next =>
    -- What is read so far stands before the sign.
    obtain ⟨left, known, rfl⟩ := Option.map_eq_some_iff.1 pushed
    rw [within_term? known]
    simp [Chain.Within, Piece.Within]
  | tail after =>
    obtain ⟨target, known, rfl⟩ := Option.map_eq_some_iff.1 pushed
    cases after with
    | field segment => simp [Chain.Within, Piece.Within, known, Tail.apply, Term.nesting]
    | method span name given =>
      simp only [Chain.Within, Piece.Within, known, Tail.apply, Term.nesting, Option.mem_some_iff,
        forall_eq', Nat.max_le, and_assoc]
  | _ => cases pushed

end Chain

section Rows

variable {tree : Node} {nodes : List Node}

/-- What a rule makes is no term if the rule makes no operand. -/
theorem Made.term?_eq_none {rule : Rule} {text : String} {span : Span} {line : Nat}
    (made : Made text span line rule pieces piece) (role : rule.role ≠ .operand) :
    piece.term? = none := by
  -- Signs are no terms, and neither is what follows an operand.
  cases made with
  | word word =>
    cases word with
    | rootReference | thisReference | nullLiteral => exact absurd rfl role
    | _ => rfl
  | text written => cases written <;> exact absurd rfl role
  | statement made => cases made <;> exact absurd rfl role
  | operand made =>
    cases made with
    | method | field => rfl
    | _ => exact absurd rfl role
  | choice made => cases made <;> exact absurd rfl role

/-- What is no operand in a row is no term. -/
theorem term?_ofNode (role : tree.rule.role ≠ .operand) : (ofNode tree).term? = none := by
  obtain ⟨rule, text, span, line, children⟩ := tree
  rw [ofNode]
  cases made : ofRule? rule text span line (ofNodes children) with
  | none => rfl
  | some piece => exact (ofRule?_eq_some_iff.1 made).term?_eq_none role

/-- What stands between operands in a row is a sign. -/
theorem exists_sign (role : tree.rule.role = .between) : ∃ sign, ofNode tree = .sign sign := by
  obtain ⟨rule, text, span, line, children⟩ := tree
  rw [ofNode]
  cases rule <;> first | exact ⟨_, rfl⟩ | cases role

variable {chain longer last : Chain} {isFilled between : Bool}

/-- An operand is put only behind a beginning that does not end with one. -/
theorem vacant_of_fills (free : chain.operand.isSome = true → isFilled = true)
    (first : tree.rule.fills isFilled = some between)
    (term : (ofNode tree).term?.isSome = true) : chain.operand = none := by
  -- The role of the tree says what may stand before it in a row.
  cases role : tree.rule.role with
  | between | beside =>
    rw [term?_ofNode (by simp [role])] at term
    cases term
  | operand =>
    simp only [Rule.fills, role] at first
    cases isFilled with
    | true => cases first
    | false => simpa using free

/-- With a tree that says nothing, a beginning ends with an operand only where the row does. -/
theorem filled_of_mark (free : chain.operand.isSome = true → isFilled = true)
    (first : tree.rule.fills isFilled = some between) (mark : ofNode tree = .mark)
    (filled : chain.operand.isSome = true) : between = true := by
  -- A tree between operands makes a sign, and an operand changes what the row ends with.
  cases role : tree.rule.role with
  | between =>
    obtain ⟨sign, same⟩ := exists_sign role
    cases mark.symm.trans same
  | beside =>
    simp only [Rule.fills, role, Option.some.injEq] at first
    rw [← first]
    exact free filled
  | operand => simp_all [Rule.fills]

/-- With one more part, a beginning ends with an operand only where the row does. -/
theorem filled_of_push (free : chain.operand.isSome = true → isFilled = true)
    (first : tree.rule.fills isFilled = some between)
    (pushed : chain.push (ofNode tree) = some longer) (filled : longer.operand.isSome = true) :
    between = true := by
  -- A sign ends the row without an operand; what stands beside leaves the end as it was.
  cases role : tree.rule.role with
  | between =>
    obtain ⟨sign, same⟩ := exists_sign role
    rw [same] at pushed
    obtain ⟨left, _, rfl⟩ := Option.map_eq_some_iff.1 pushed
    cases filled
  | beside =>
    simp only [Rule.fills, role, Option.some.injEq] at first
    rw [← first]
    rcases Chain.operand_of_push pushed filled with term | before
    · rw [term?_ofNode (by simp [role])] at term
      cases term
    · exact free before
  | operand =>
    simp only [Rule.fills, role] at first
    cases isFilled with
    | true => cases first
    | false => exact (Option.some.inj first).symm

/-- A row of operands and signs holds what its parts hold. -/
theorem within_row {isFilled' : Bool} (free : chain.operand.isSome = true → isFilled = true)
    (walks : (nodes.map Node.rule).foldlM Rule.fills isFilled = some isFilled')
    (pushed : ((ofNodes nodes).filter speaks).foldlM Chain.push chain = some last) :
    last.Within n ↔ chain.Within n ∧ ∀ piece ∈ ofNodes nodes, piece.Within n := by
  -- Along the row, the beginning ends with an operand only where the walk says so.
  induction nodes generalizing chain isFilled with
  | nil =>
    obtain rfl := Option.some.inj pushed
    simp [ofNodes]
  | cons tree rest ih =>
    rw [List.map_cons, List.foldlM_cons] at walks
    obtain ⟨between, first, later⟩ := Option.bind_eq_some_iff.1 walks
    rw [ofNodes] at pushed ⊢
    rw [List.forall_mem_cons]
    cases speaks : (ofNode tree).speaks with
    | false =>
      have mark := eq_mark speaks
      rw [List.filter_cons_of_neg (by simp [speaks])] at pushed
      rw [ih (filled_of_mark free first mark) later pushed, mark]
      simp [Within]
    | true =>
      rw [List.filter_cons_of_pos speaks, List.foldlM_cons] at pushed
      obtain ⟨longer, push, pushed⟩ := Option.bind_eq_some_iff.1 pushed
      rw [ih (filled_of_push free first push) later pushed,
        Chain.within_push push (vacant_of_fills free first), and_assoc]

end Rows

section Rules

variable {rule : Rule} {text : String} {span : Span} {line : Nat}

/-- The branches of a condition hold what the parts hold that they are read from. -/
theorem within_branches? {tests : List (Term × Term)} {otherwise : Option Term}
    (given : branches? pieces = some (tests, otherwise)) :
    (∀ piece ∈ pieces, Within n piece) ↔
      Term.nestingPairs tests ≤ n ∧ Term.nestingOption otherwise ≤ n := by
  -- Conditions and bodies are read in pairs, with one body left over for the case that none holds.
  fun_induction branches? pieces generalizing tests otherwise with
  | case1 =>
    obtain ⟨rfl, rfl⟩ := Prod.mk.inj (Option.some.inj given)
    simp [Term.nestingPairs, Term.nestingOption]
  | case2 body =>
    obtain ⟨rfl, rfl⟩ := Prod.mk.inj (Option.some.inj given)
    simp [Within, Term.nestingPairs, Term.nestingOption]
  | case3 condition body rest ih =>
    obtain ⟨⟨others, last⟩, known, same⟩ := Option.map_eq_some_iff.1 given
    obtain ⟨rfl, rfl⟩ := Prod.mk.inj same
    rw [List.forall_mem_cons, ih known, Term.nestingPairs, Nat.max_le, Nat.max_le]
    simp only [Within, and_assoc]
  | case4 => cases given

/-- A statement holds the expressions that the parts hold that it is made of. -/
theorem OfStatement.within (made : OfStatement span line rule pieces piece)
    (mixed : rule.isPlain = false) : piece.Within n ↔ ∀ part ∈ pieces, part.Within n := by
  cases made with
  | mapping read => exact (within_mapM within_sentence? read).symm
  | binding named | metadata named =>
    -- The name or the key has no expressions inside.
    rw [List.forall_mem_cons, List.forall_mem_singleton]
    exact ⟨fun within => ⟨within_segment? named, within⟩, And.right⟩
  | allMetadata | assign => simp [Within]
  | fromRoot | input | path | head => cases mixed

/-- An operand, a call or a literal holds the expressions that the parts hold that it is made of, if
it is no expression itself. -/
theorem OfOperand.within (made : OfOperand span rule pieces piece) (mixed : rule.isPlain = false)
    (other : rule ≠ .expr) : piece.Within n ↔ ∀ part ∈ pieces, part.Within n := by
  -- Arguments, items and entries are lists of parts that are read one by one.
  cases made with
  | expr => exact absurd rfl other
  | query | paren | method | call | named | lambda | entry => simp [Within, Term.nesting]
  | arguments read =>
    rw [within_mapM within_argument? read]
    exact Term.nestingArguments_le_iff
  | array read =>
    rw [within_mapM within_term? read]
    exact Term.nestingAll_le_iff
  | object read =>
    rw [within_mapM within_entry? read]
    exact Term.nestingEntries_le_iff
  | field | reference | allMetadata | metadata | barePath | rawString => cases mixed

/-- A condition or a match holds the expressions that the parts hold that it is made of. -/
theorem OfChoice.within (made : OfChoice rule pieces piece) :
    piece.Within n ↔ ∀ part ∈ pieces, part.Within n := by
  -- The branches are read in pairs, and cases one by one, behind a subject or without one.
  cases made with
  | branches read =>
    rw [within_branches? read]
    simp only [Within, Term.nesting, Nat.max_le]
  | ifBranch | elseIf | elseBlock => simp [Within]
  | cases subject read =>
    rw [List.forall_mem_cons, within_mapM within_case? read]
    simp only [Within, Term.nesting, Term.nestingOption, Nat.max_le, Term.nestingCases_le_iff]
  | casesAlone read =>
    rw [within_mapM within_case? read]
    simp only [Within, Term.nesting, Term.nestingOption, Nat.max_le, Term.nestingCases_le_iff,
      Nat.zero_le, true_and]
  | always | case => simp [Within, Term.nestingOption]

/-- A part that may hold expressions holds what the parts hold that it is made of. -/
theorem Made.within (made : Made text span line rule pieces piece) (mixed : rule.isPlain = false)
    (other : rule ≠ .expr) : piece.Within n ↔ ∀ part ∈ pieces, part.Within n := by
  -- A word and a text have no parts that could be mixed.
  cases made with
  | word word => cases word <;> cases mixed
  | text written => cases written <;> cases mixed
  | statement made => exact made.within mixed
  | operand made => exact made.within mixed other
  | choice made => exact made.within

/-- A word holds no expressions. -/
theorem OfWord.within (word : OfWord rule piece) : piece.Within n := by
  cases word with
  | rootReference | thisReference | nullLiteral => exact Nat.zero_le n
  | _ => trivial

/-- What is made of a text holds no expressions. -/
theorem OfText.within (written : OfText text span rule piece) : piece.Within n := by
  cases written with
  | bool | number => exact Nat.zero_le n
  | _ => trivial

/-- A part that may hold no expressions holds none. -/
theorem Made.within_of_isPlain (made : Made text span line rule pieces piece)
    (plain : rule.isPlain = true) (each : ∀ part ∈ pieces, part ≠ .malformed → part.Within n)
    (kept : piece ≠ .malformed) : piece.Within n := by
  cases made with
  | word word => exact word.within
  | text written => exact written.within
  | statement made =>
    cases made with
    | fromRoot | input | path => trivial
    -- The head of a target is what stands in it.
    | head => exact each piece (List.mem_singleton_self piece) kept
    | _ => cases plain
  | operand made =>
    cases made with
    | field => trivial
    | reference | allMetadata | metadata | barePath | rawString => exact Nat.zero_le n
    | _ => cases plain
  | choice made => cases made <;> cases plain

end Rules

section Trees

variable {nodes : List Node}

/-- Whatever is made of a source is within some bound. -/
theorem exists_within (made : piece ≠ .malformed) : ∃ n, piece.Within n := by
  have both (first second : Nat) : ∃ n, first ≤ n ∧ second ≤ n :=
    ⟨max first second, Nat.le_max_left _ _, Nat.le_max_right _ _⟩
  -- The bound is the greatest nesting among the terms in the part.
  cases piece with
  | malformed => exact absurd rfl made
  | branch | entry | case => exact both _ _
  | tail after =>
    cases after with
    | field => exact ⟨0, trivial⟩
    | method => exact ⟨_, Nat.le_refl _⟩
  | term | named | otherwise | arguments | sentence => exact ⟨_, Nat.le_refl _⟩
  | mapping found =>
    clear made
    induction found with
    | nil => exact ⟨0, by simp [Within]⟩
    | cons sentence rest ih =>
      obtain ⟨n, each⟩ := ih
      obtain ⟨m, first, later⟩ := both sentence.term.nesting n
      refine ⟨m, List.forall_mem_cons.2 ⟨first, fun other among => ?_⟩⟩
      exact Nat.le_trans (each other among) later
  | _ => exact ⟨0, trivial⟩

/-- The parts that trees make are made one by one. -/
theorem ofNodes_eq_map (nodes : List Node) : ofNodes nodes = nodes.map ofNode := by
  induction nodes with
  | nil => rfl
  | cons tree rest ih => rw [ofNodes, ih, List.map_cons]

/-- What is made of an expression holds what its parts hold, and the expression around them. -/
theorem within_expr {text : String} {span : Span} {line : Nat} {isFilled : Bool}
    (walks : (nodes.map Node.rule).foldlM Rule.fills false = some isFilled)
    (given : ofRule? .expr text span line (ofNodes nodes) = some piece) :
    piece.Within n ↔ 0 < n ∧ ∀ part ∈ ofNodes nodes, part.Within (n - 1) := by
  -- The row of its parts makes a term, and the expression is one level around it.
  change (chain? ((ofNodes nodes).filter speaks)).map
    (fun inner => Piece.term (.nested span inner)) = some piece at given
  obtain ⟨found, chained, rfl⟩ := Option.map_eq_some_iff.1 given
  obtain ⟨last, pushed, known⟩ := Option.bind_eq_some_iff.1 chained
  have free : (none : Option Term).isSome = true → false = true := id
  have row := within_row (n := n - 1) free walks pushed
  rw [Chain.within_term? known] at row
  have empty : Chain.Within (n - 1) ⟨none, [], none⟩ := by simp [Chain.Within]
  rw [← (row.trans (and_iff_right empty))]
  simp only [Within, Term.nesting]
  omega

/-- What is made of a tree with the given parts holds its expressions as deeply nested as they are
in the tree, if it is so of the parts. -/
theorem within_node {rule : Rule} {text : String} {span : Span} {line : Nat}
    (shaped : (Node.node rule text span line nodes).isShaped = true)
    (given : ofRule? rule text span line (ofNodes nodes) = some piece) (made : piece ≠ .malformed)
    (each : ∀ tree ∈ nodes, ofNode tree ≠ .malformed →
      ∀ n, (ofNode tree).Within n ↔ tree.nesting ≤ n) (n : Nat) :
    piece.Within n ↔ (Node.node rule text span line nodes).nesting ≤ n := by
  obtain ⟨walks, inside⟩ := (Bool.and_eq_true _ _).mp shaped
  obtain ⟨last, walks⟩ := Option.isSome_iff_exists.1 walks
  cases plain : rule.isPlain with
  | true =>
    -- There is no expression in the tree, and nothing that could hold one is made of it.
    have bare := Node.nesting_of_isPlain (.node rule text span line nodes) shaped plain
    have none : Node.nestingAll nodes = 0 := by
      rw [Node.nesting] at bare
      omega
    rw [bare]
    refine iff_of_true ((ofRule?_eq_some_iff.1 given).within_of_isPlain plain ?_ made)
      (Nat.zero_le n)
    intro part speaking kept
    have inner := (List.mem_filter.1 speaking).1
    rw [ofNodes_eq_map] at inner
    obtain ⟨tree, among, rfl⟩ := List.mem_map.1 inner
    have level := Node.nestingAll_le_iff.1 (Nat.le_of_eq none) tree among
    exact (each tree among kept n).2 (Nat.le_trans level (Nat.zero_le n))
  | false =>
    have parts (n : Nat) : piece.Within n ↔
        rule.levels ≤ n ∧ ∀ part ∈ ofNodes nodes, part.Within (n - rule.levels) := by
      by_cases other : rule = .expr
      · subst other
        exact within_expr walks given
      · have levels : rule.levels = 0 := by
          cases rule with
          | expr => exact absurd rfl other
          | _ => rfl
        rw [levels, and_iff_right (Nat.zero_le n),
          (ofRule?_eq_some_iff.1 given).within plain other, within_filter]
        rfl
    -- Something was made of each part, since it was of them all.
    obtain ⟨bound, within⟩ := exists_within made
    have kept : ∀ tree ∈ nodes, ofNode tree ≠ .malformed := by
      intro tree among same
      have part := ((parts bound).1 within).2 (ofNode tree)
        (ofNodes_eq_map nodes ▸ List.mem_map_of_mem among)
      rwa [same] at part
    have sum : (∀ part ∈ ofNodes nodes, part.Within (n - rule.levels)) ↔
        Node.nestingAll nodes ≤ n - rule.levels := by
      rw [ofNodes_eq_map, List.forall_mem_map, Node.nestingAll_le_iff]
      exact forall₂_congr fun tree among => each tree among (kept tree among) _
    rw [parts, sum, Node.nesting]
    omega

mutual

/-- What is made of a tree holds its expressions as deeply nested as they are in the tree. -/
theorem within_ofNode (tree : Node) (shaped : tree.isShaped = true)
    (made : ofNode tree ≠ .malformed) (n : Nat) :
    (ofNode tree).Within n ↔ tree.nesting ≤ n := by
  match tree with
  | .node rule text span line children =>
    have inside := (Bool.and_eq_true _ _).mp shaped
    -- The children are bounded by recursion, and the rule adds its own level to what they make.
    have each := within_ofNodes children inside.2
    rw [ofNode] at made ⊢
    cases given : ofRule? rule text span line (ofNodes children) with
    | none =>
      rw [given] at made
      exact absurd rfl made
    | some piece =>
      rw [given] at made
      exact within_node shaped given made each n

/-- What is made of trees holds their expressions as deeply nested as they are in the trees. -/
theorem within_ofNodes (nodes : List Node) (shaped : Node.areShaped nodes = true) :
    ∀ tree ∈ nodes, ofNode tree ≠ .malformed → ∀ n, (ofNode tree).Within n ↔ tree.nesting ≤ n := by
  match nodes with
  | [] => exact List.forall_mem_nil _
  | tree :: rest =>
    rw [Node.areShaped, Bool.and_eq_true] at shaped
    exact List.forall_mem_cons.2 ⟨within_ofNode tree shaped.1, within_ofNodes rest shaped.2⟩

end

end Trees

end Grammar.Piece

section Sources

/-- The nesting of the expressions in a source, if it matches a rule. -/
def Grammar.nesting? (rule : Rule) (source : String) : Option Nat :=
  match matchSource rule source.toList with
  | .matched _ nodes _ => some (Node.nestingAll nodes)
  | _ => none

/-- A source with a nesting matches, no expression is nested more deeply, and some expression is
nested so deeply unless there is none. -/
theorem Grammar.exists_of_nesting? {rule : Rule} {source : String} {n : Nat}
    (given : Grammar.nesting? rule source = some n) :
    ∃ after nodes attempts, matchSource rule source.toList = .matched after nodes attempts ∧
      (∀ tree ∈ nodes, ∀ depth, tree.Nests depth → depth ≤ n) ∧
      (0 < n → ∃ tree ∈ nodes, tree.Nests n) := by
  unfold Grammar.nesting? at given
  split at given
  next after nodes attempts matched =>
    obtain rfl := Option.some.inj given
    -- The number is the greatest depth, so that one tree reaches it and none goes beyond.
    refine ⟨after, nodes, attempts, matched, ?_, Node.exists_nests nodes⟩
    exact Node.nestingAll_le_iff_nests.1 (Nat.le_refl _)
  next => cases given

variable {source : String} {after : Grammar.Cursor} {nodes : List Grammar.Node}
  {attempts : Grammar.Attempts}

/-- What a source is read as holds the expressions of the tree that matched, as deeply nested as
they are in the tree. -/
theorem Grammar.within_of_read {rule : Rule} {piece : Piece} {n : Nat}
    (matched : matchSource rule source.toList = .matched after nodes attempts)
    (read : Grammar.read rule source = .ok piece) (made : piece ≠ .malformed) :
    piece.Within n ↔ Node.nestingAll nodes ≤ n := by
  have shaped := shaped_of_matchSource matched
  simp only [Grammar.read, matched] at read
  -- A source is read if it is one tree.
  split at read
  next tree =>
    obtain rfl := Except.ok.inj read
    simp only [Node.areShaped, Bool.and_true] at shaped
    simp [Piece.within_ofNode tree shaped made, Node.nestingAll]
  next => cases read

/-- What is taken from the part that a source is has its expressions nested as deeply as they are in
the tree that matched. -/
theorem Grammar.nesting_of_read {α : Type} {rule : Rule} {piece : Piece}
    {nesting : α → Nat} {found : α}
    (counts : ∀ n, piece.Within n ↔ nesting found ≤ n) (whole : piece ≠ .malformed)
    (matched : matchSource rule source.toList = .matched after nodes attempts)
    (read : Grammar.read rule source = .ok piece) : nesting found = Node.nestingAll nodes := by
  have bound (n : Nat) : nesting found ≤ n ↔ Node.nestingAll nodes ≤ n := by
    rw [← counts, Grammar.within_of_read matched read whole]
  exact Nat.le_antisymm ((bound _).2 (Nat.le_refl _)) ((bound _).1 (Nat.le_refl _))

/-- The statements of a source, as a part. -/
def Grammar.Piece.statements? : Piece → Option (List Sentence)
  | .mapping found => some found
  | _ => none

/-- The expression of a source, as a part. -/
def Grammar.Piece.expression? : Piece → Option Term
  | .term found => some found
  | _ => none

end Sources

end Reshape
