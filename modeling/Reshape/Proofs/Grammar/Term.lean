import Reshape.Proofs.Eval.Ensures
import Reshape.Proofs.Expr.Filled
import Reshape.Proofs.Grammar.Made

/-!
Terms as they are read: a source writes no literals but atoms, so that whatever holds of all atoms
holds of the literals in a term that is read.
-/

namespace Reshape

variable {plain : Value → Prop}

/-- The literals in a term have a property. -/
abbrev Term.Plain (plain : Value → Prop) (term : Term) : Prop :=
  Term.Filled plain (fun _ _ => False) term term

namespace Term

/-- Items whose literals have a property are an array whose literals do. -/
theorem plain_array {items : List Term} (each : ∀ item ∈ items, Term.Plain plain item) :
    Term.Plain plain (.array items) := by
  -- The items are their own filling, since no hole is in them.
  have all : Term.FilledAll plain (fun _ _ => False) items items := by
    induction items with
    | nil => exact .nil
    | cons item rest ih =>
      rw [List.forall_mem_cons] at each
      exact .cons each.1 (ih each.2)
  exact .array all

/-- Entries whose literals have a property are an object whose literals do. -/
theorem plain_object {entries : List (Span × Term × Term)}
    (each : ∀ entry ∈ entries, Term.Plain plain entry.2.1 ∧ Term.Plain plain entry.2.2) :
    Term.Plain plain (.object entries) := by
  -- Keys and values are their own filling, entry by entry.
  have all : Term.FilledEntries plain (fun _ _ => False) entries entries := by
    induction entries with
    | nil => exact .nil
    | cons entry rest ih =>
      rw [List.forall_mem_cons] at each
      exact .cons _ _ each.1.1 each.1.2 (ih each.2)
  exact .object all

/-- An optional term whose literals have a property, if there is one. -/
theorem plain_option {term : Option Term} (each : ∀ found ∈ term, Term.Plain plain found) :
    Term.FilledOption plain (fun _ _ => False) term term := by
  cases term with
  | none => exact .none
  | some found => exact .some (each found rfl)

/-- Tests and bodies whose literals have a property are branches whose literals do. -/
theorem plain_branches {tests : List (Term × Term)} {otherwise : Option Term}
    (each : ∀ test ∈ tests, Term.Plain plain test.1 ∧ Term.Plain plain test.2)
    (last : ∀ body ∈ otherwise, Term.Plain plain body) :
    Term.Plain plain (.branches tests otherwise) := by
  -- Tests and bodies are their own filling, branch by branch.
  have all : Term.FilledPairs plain (fun _ _ => False) tests tests := by
    induction tests with
    | nil => exact .nil
    | cons test rest ih =>
      rw [List.forall_mem_cons] at each
      exact .cons each.1.1 each.1.2 (ih each.2)
  exact .branches all (plain_option last)

/-- Tests and bodies whose literals have a property are cases whose literals do. -/
theorem plain_cases {subject : Option Term} {rules : List (Option Term × Term)}
    (first : ∀ found ∈ subject, Term.Plain plain found)
    (each : ∀ rule ∈ rules, (∀ test ∈ rule.1, Term.Plain plain test) ∧ Term.Plain plain rule.2) :
    Term.Plain plain (.cases subject rules) := by
  -- A test may be missing, and then nothing is asked of it.
  have all : Term.FilledCases plain (fun _ _ => False) rules rules := by
    induction rules with
    | nil => exact .nil
    | cons rule rest ih =>
      rw [List.forall_mem_cons] at each
      exact .cons (plain_option each.1.1) each.1.2 (ih each.2)
  exact .cases (plain_option first) all

/-- Arguments whose literals have a property. -/
theorem plain_arguments {given : List (Option String × Term)}
    (each : ∀ argument ∈ given, Term.Plain plain argument.2) :
    Term.FilledArguments plain (fun _ _ => False) given given := by
  induction given with
  | nil => exact .nil
  | cons argument rest ih =>
    rw [List.forall_mem_cons] at each
    exact .cons _ each.1 (ih each.2)

/-- The operands of a term have literals with the property. -/
theorem plain_of_binary {sign : Sign} {left right : Term}
    (both : Term.Plain plain (.binary sign left right)) :
    Term.Plain plain left ∧ Term.Plain plain right := by
  cases both with
  | hole filled => exact filled.elim
  | binary _ first second => exact ⟨first, second⟩

end Term

namespace Grammar.Piece

/-- The literals in a part of a source have a property. -/
def Plain (plain : Value → Prop) : Piece → Prop
  | .term found | .named _ found | .otherwise found => Term.Plain plain found
  | .tail (.method _ _ given) | .arguments given =>
    ∀ argument ∈ given, Term.Plain plain argument.2
  | .branch first second | .entry _ first second | .case (some first) second =>
    Term.Plain plain first ∧ Term.Plain plain second
  | .case none body => Term.Plain plain body
  | .sentence found => Term.Plain plain found.term
  | .mapping found => ∀ sentence ∈ found, Term.Plain plain sentence.term
  | _ => True

variable {piece : Piece} {pieces : List Piece}

/-- The term that a part is has its literals. -/
theorem Plain.term? (whole : Piece.Plain plain piece) :
    ∀ found ∈ piece.term?, Term.Plain plain found := by
  intro found given
  -- Only a term and a quoted text are read as terms.
  cases piece with
  | term inner =>
    obtain rfl := Option.some.inj given
    exact whole
  | quoted span text =>
    obtain rfl := Option.some.inj given
    exact .quoted span span text
  | _ => cases given

/-- What parts are read as has their literals, one by one. -/
theorem forall_of_mapM {α : Type} {read : Piece → Option α} {property : α → Prop}
    (each : ∀ piece ∈ pieces, ∀ found ∈ read piece, property found) {results : List α}
    (given : pieces.mapM read = some results) : ∀ found ∈ results, property found :=
  forall₂_left (Assertion.option.mapM pieces each results given).flip

/-- An operand after a term adds its literals. -/
theorem plain_extend {next : Sign} {operand whole : Term} (first : Term.Plain plain whole)
    (second : Term.Plain plain operand) : Term.Plain plain (extend next operand whole) := by
  -- The operand goes as far to the right as the signs before it bind less tightly.
  fun_induction extend next operand whole with
  | case1 before left right _ => exact .binary next first second
  | case2 before left right _ ih =>
    obtain ⟨left, right⟩ := Term.plain_of_binary first
    exact .binary before left (ih right)
  | case3 whole _ => exact .binary next first second

/-- The literals in the beginning of an expression have a property. -/
structure Chain.Plain (plain : Value → Prop) (chain : Chain) : Prop where
  before : ∀ pair ∈ chain.before, Term.Plain plain pair.1
  operand : ∀ found ∈ chain.operand, Term.Plain plain found

/-- The term that a beginning makes has its literals. -/
theorem Chain.Plain.term? {chain : Chain} (whole : Chain.Plain plain chain) :
    ∀ found ∈ chain.term?, Term.Plain plain found := by
  intro found given
  -- The signs before the operand are put around it, from the innermost on.
  obtain ⟨operand, known, rfl⟩ := Option.map_eq_some_iff.1 given
  have signed (signs : List PrefixSign) (inner : Term) (first : Term.Plain plain inner) :
      Term.Plain plain (signs.foldl (fun inner before => .signed before inner) inner) := by
    induction signs generalizing inner with
    | nil => exact first
    | cons sign rest ih => exact ih _ (.signed sign first)
  have last := signed chain.signs operand (whole.operand operand known)
  dsimp only
  split
  next left next before => exact plain_extend (whole.before _ before) last
  next => exact last

/-- A beginning with one more part has the literals of both. -/
theorem Chain.Plain.push {chain : Chain} (whole : Chain.Plain plain chain)
    (part : Piece.Plain plain piece) : ∀ longer ∈ chain.push piece, Chain.Plain plain longer := by
  intro longer given
  have other (given : (piece.term?.map fun operand =>
      { chain with operand := some operand }) = some longer) : Chain.Plain plain longer := by
    obtain ⟨operand, known, rfl⟩ := Option.map_eq_some_iff.1 given
    exact ⟨whole.before, fun found same => Option.some.inj same ▸ part.term? operand known⟩
  cases piece with
  | prefixSign sign =>
    obtain rfl := Option.some.inj given
    exact ⟨whole.before, whole.operand⟩
  | sign next =>
    -- What is read so far stands before the sign.
    obtain ⟨left, known, rfl⟩ := Option.map_eq_some_iff.1 given
    refine ⟨fun pair same => ?_, by simp⟩
    exact Option.some.inj same ▸ whole.term? left known
  | tail after =>
    obtain ⟨operand, known, rfl⟩ := Option.map_eq_some_iff.1 given
    refine ⟨whole.before, fun found same => ?_⟩
    obtain rfl := Option.some.inj same
    have target := whole.operand operand known
    cases after with
    | field segment => exact .field target (.refl segment)
    | method span name given => exact .method span span name target (Term.plain_arguments part)
  | _ => exact other given

/-- The term of a row of operands and signs has their literals. -/
theorem plain_chain? (each : ∀ piece ∈ pieces, Piece.Plain plain piece) :
    ∀ found ∈ chain? pieces, Term.Plain plain found := by
  intro found given
  obtain ⟨chain, pushed, made⟩ := Option.bind_eq_some_iff.1 given
  have empty : Chain.Plain plain ⟨none, [], none⟩ := ⟨by simp, by simp⟩
  -- The beginning keeps to it with every part that is pushed, from the empty one on.
  have whole := Assertion.option.foldlM
    (motive := fun rest chain => Chain.Plain plain chain ∧
      ∀ piece ∈ rest, Piece.Plain plain piece) pieces ⟨none, [], none⟩ ⟨empty, each⟩
    fun chain piece rest holds longer same => by
      have both := List.forall_mem_cons.1 holds.2
      exact ⟨holds.1.push both.1 longer same, both.2⟩
  exact (whole chain pushed).1.term? found made

/-- The branches of a condition have the literals of the parts that they are read from. -/
theorem plain_branches? (each : ∀ piece ∈ pieces, Piece.Plain plain piece)
    {tests : List (Term × Term)} {otherwise : Option Term}
    (given : branches? pieces = some (tests, otherwise)) :
    (∀ test ∈ tests, Term.Plain plain test.1 ∧ Term.Plain plain test.2) ∧
      ∀ body ∈ otherwise, Term.Plain plain body := by
  -- The cases are those of the reader: nothing left, a body for all other cases, or a pair.
  fun_induction branches? pieces generalizing tests otherwise with
  | case1 =>
    obtain ⟨rfl, rfl⟩ := Prod.mk.inj (Option.some.inj given)
    simp
  | case2 body =>
    obtain ⟨rfl, rfl⟩ := Prod.mk.inj (Option.some.inj given)
    have last : Term.Plain plain body := each (.otherwise body) (by simp)
    simpa using last
  | case3 condition body rest ih =>
    obtain ⟨⟨others, last⟩, known, same⟩ := Option.map_eq_some_iff.1 given
    obtain ⟨rfl, rfl⟩ := Prod.mk.inj same
    rw [List.forall_mem_cons] at each
    obtain ⟨later, final⟩ := ih each.2 known
    exact ⟨List.forall_mem_cons.2 ⟨each.1, later⟩, final⟩
  | case4 => cases given

/-- What parts are read as one by one is read from parts whose literals have the property. -/
theorem plain_sentence? (whole : Piece.Plain plain piece) :
    ∀ found ∈ sentence? piece, Term.Plain plain found.term := by
  intro found given
  cases piece with
  | sentence inner =>
    obtain rfl := Option.some.inj given
    exact whole
  | _ => cases given

/-- An argument has the literals of the part that it is read from. -/
theorem plain_argument? (whole : Piece.Plain plain piece) :
    ∀ found ∈ argument? piece, Term.Plain plain found.2 := by
  -- An argument with a name is a piece of its own, and any other one is a term.
  intro found given
  unfold argument? at given
  split at given
  · obtain rfl := Option.some.inj given
    exact whole
  · obtain ⟨term, known, rfl⟩ := Option.map_eq_some_iff.1 given
    exact whole.term? term known

/-- An entry has the literals of the part that it is read from. -/
theorem plain_entry? (whole : Piece.Plain plain piece) :
    ∀ found ∈ entry? piece, Term.Plain plain found.2.1 ∧ Term.Plain plain found.2.2 := by
  intro found given
  cases piece with
  | entry span key value =>
    obtain rfl := Option.some.inj given
    exact whole
  | _ => cases given

/-- A case has the literals of the part that it is read from. -/
theorem plain_case? (whole : Piece.Plain plain piece) :
    ∀ found ∈ case? piece, (∀ test ∈ found.1, Term.Plain plain test) ∧
      Term.Plain plain found.2 := by
  intro found given
  -- Only a part that is a case is read as one, and its test may be missing.
  cases piece with
  | case test body =>
    obtain rfl := Option.some.inj given
    cases test with
    | none => exact ⟨by simp, whole⟩
    | some test => exact ⟨fun _ same => Option.some.inj same ▸ whole.1, whole.2⟩
  | _ => cases given

section Rules

variable {rule : Rule} {text : String} {span : Span} {line : Nat}

/-- A statement has the literals of the parts that it is made of. -/
theorem OfStatement.keepsPlain (made : OfStatement span line rule pieces piece)
    (each : ∀ piece ∈ pieces, Piece.Plain plain piece) : Piece.Plain plain piece := by
  -- All literals are in the body; targets have none.
  cases made with
  | mapping read =>
    exact forall_of_mapM (fun piece member => plain_sentence? (each piece member)) read
  | binding _ body => exact each (.term body) (by simp)
  | allMetadata body => exact each (.term body) (by simp)
  | metadata _ body => exact each (.term body) (by simp)
  | assign _ body => exact each (.term body) (by simp)
  | fromRoot | input | path => trivial
  | head => exact each piece (by simp)

/-- An operand has the literals of the parts that it is made of, and atoms. -/
theorem OfOperand.keepsPlain (atoms : ∀ value : Value, value.isAtom = true → plain value)
    (made : OfOperand span rule pieces piece) (each : ∀ piece ∈ pieces, Piece.Plain plain piece) :
    Piece.Plain plain piece := by
  cases made with
  -- Rows of operands and signs.
  | expr read => exact .nested span span (plain_chain? each _ read)
  | query found => exact each (.term found) (by simp)
  | paren found => exact each (.term found) (by simp)
  -- Calls.
  | method name given => exact each (.arguments given) (by simp)
  | call name given =>
    have inside : Piece.Plain plain (.arguments given) := each (.arguments given) (by simp)
    exact .call span span name (Term.plain_arguments inside)
  | arguments read =>
    exact forall_of_mapM (fun piece member => plain_argument? (each piece member)) read
  | named _ body => exact each (.term body) (by simp)
  | lambda name body => exact .lambda name (each (.term body) (by simp))
  -- References have no literals.
  | field => trivial
  | reference name => exact .variable name
  | allMetadata => exact .allMetadata
  | @metadata _ key => exact .metadata (.refl key)
  | barePath name => exact .name name
  -- Literals with parts.
  | rawString => exact .literal (atoms _ rfl)
  | array read =>
    exact Term.plain_array (forall_of_mapM (fun piece member => (each piece member).term?) read)
  | object read =>
    exact Term.plain_object
      (forall_of_mapM (fun piece member => plain_entry? (each piece member)) read)
  | entry key value => exact ⟨each (.term key) (by simp), each (.term value) (by simp)⟩

/-- A condition or match has the literals of the parts that it is made of. -/
theorem OfChoice.keepsPlain (made : OfChoice rule pieces piece)
    (each : ∀ piece ∈ pieces, Piece.Plain plain piece) : Piece.Plain plain piece := by
  -- Each form keeps the terms of its parts, which are read in pairs or one by one.
  cases made with
  | branches read =>
    obtain ⟨tests, last⟩ := plain_branches? each read
    exact Term.plain_branches tests last
  | ifBranch condition body | elseIf condition body =>
    exact ⟨each (.term condition) (by simp), each (.term body) (by simp)⟩
  | elseBlock body => exact each (.term body) (by simp)
  | cases subject read =>
    rw [List.forall_mem_cons] at each
    have first : Term.Plain plain subject := each.1
    refine Term.plain_cases (by simpa using first) ?_
    exact forall_of_mapM (fun piece member => plain_case? (each.2 piece member)) read
  | casesAlone read =>
    refine Term.plain_cases (by simp) ?_
    exact forall_of_mapM (fun piece member => plain_case? (each piece member)) read
  | always body => exact each (.term body) (by simp)
  | case test body => exact ⟨each (.term test) (by simp), each (.term body) (by simp)⟩

/-- A part has the literals of the parts that it is made of, and atoms. -/
theorem Made.keepsPlain (atoms : ∀ value : Value, value.isAtom = true → plain value)
    (made : Made text span line rule pieces piece)
    (each : ∀ piece ∈ pieces, Piece.Plain plain piece) : Piece.Plain plain piece := by
  -- Words and texts make atoms, and what is made of parts has the literals of these.
  cases made with
  | word word =>
    cases word with
    | rootReference => exact .root
    | thisReference => exact .current
    | nullLiteral => exact .literal (atoms _ rfl)
    | _ => trivial
  | text written =>
    cases written with
    | bool => exact .literal (atoms _ rfl)
    | number => exact .number span span text
    | _ => trivial
  | statement made => exact made.keepsPlain each
  | operand made => exact made.keepsPlain atoms each
  | choice made => exact made.keepsPlain each

end Rules

mutual

/-- The part that a tree of rules makes has no literals but atoms. -/
theorem plain_ofNode (atoms : ∀ value : Value, value.isAtom = true → plain value) (node : Node) :
    Piece.Plain plain (ofNode node) := by
  match node with
  | .node rule text span line children =>
    unfold ofNode
    cases made : ofRule? rule text span line (ofNodes children) with
    | none => exact trivial
    | some piece =>
      -- The parts that say something are among those that the children make.
      refine (made_of_ofRule? made).keepsPlain atoms fun part member => ?_
      exact plain_ofNodes atoms children part (List.mem_filter.1 member).1

/-- The parts that trees of rules make have no literals but atoms. -/
theorem plain_ofNodes (atoms : ∀ value : Value, value.isAtom = true → plain value)
    (nodes : List Node) : ∀ piece ∈ ofNodes nodes, Piece.Plain plain piece := by
  match nodes with
  | [] => simp [ofNodes]
  | node :: rest =>
    exact List.forall_mem_cons.2 ⟨plain_ofNode atoms node, plain_ofNodes atoms rest⟩

end

end Grammar.Piece

/-- The statements of a source have no literals but atoms. -/
theorem Sentence.plain_of_read (atoms : ∀ value : Value, value.isAtom = true → plain value)
    {source : String} {sentences : List Sentence} (given : Sentence.read source = .ok sentences) :
    ∀ sentence ∈ sentences, Term.Plain plain sentence.term := by
  obtain ⟨piece, read, given⟩ := Outcome.of_bind_eq_ok given
  split at given
  next found =>
    obtain rfl := Except.ok.inj given
    unfold Grammar.read at read
    dsimp only at read
    -- A source that is read is a single tree.
    split at read
    · split at read
      next node _ =>
        have whole := Grammar.Piece.plain_ofNode atoms node
        rw [Except.ok.inj read] at whole
        exact whole
      next => cases read
    · cases read
    · cases read
  next => cases given

end Reshape
