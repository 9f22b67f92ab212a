import Reshape.Mapping
import Reshape.Proofs.Grammar.Same
import Reshape.Proofs.Grammar.Sequence

/-!
Mappings one after the other. Statements delimit themselves: of two sources with a line break between
them the statements of both are read, if the first one leaves no string open. A first source that
does so ends its strings otherwise when more quotes follow.
-/

namespace Reshape

/-- A source leaves no string open: whoever goes through it code point by code point finds the end
of each string that it begins, three quotes being the beginning of a raw string wherever they can
be. -/
def Grammar.Closed (source : String) : Prop :=
  (Zone.awaits? (.code .sated) source.toList).isSome = true

instance (source : String) : Decidable (Grammar.Closed source) :=
  inferInstanceAs (Decidable (_ = true))

/-- The same statement in a later line. -/
def Statement.below (lines : Nat) (statement : Statement) : Statement :=
  { statement with line := statement.line + lines }

/-- A statement stands no line below itself. -/
theorem Statement.below_zero : Statement.below 0 = id := rfl

/-- A statement is the same as itself. -/
theorem Sentence.Same.refl (sentence : Sentence) : Sentence.Same sentence sentence where
  term := .refl sentence.term
  -- A place is made of names, each of which is the same as itself.
  place := by
    cases sentence.place with
    | «variable» name => exact .variable (.refl name)
    | metadata key =>
      cases key with
      | none => exact .allMetadata
      | some key => exact .metadata (.refl key)
    | root path => exact .root (List.forall₂_same.2 fun segment _ => .refl segment)
    | input span => exact .input span span

/-- The same statement stands so many lines below. -/
structure Sentence.Moved (lines : Nat) (sentence sentence' : Sentence) : Prop where
  same : Sentence.Same sentence sentence'
  line : sentence'.line = sentence.line + lines

namespace Grammar

/-- The tree of the same statement begins so many lines below. -/
structure Node.Moved (lines : Nat) (node node' : Node) : Prop where
  bare : node.bare = node'.bare
  statement : node.IsStatement
  statement' : node'.IsStatement
  line : node'.line = node.line + lines

variable {lines : Nat} {node node' : Node} {nodes nodes' : List Node}

/-- What a rule for statements makes is a statement in the line of the rule. -/
theorem Piece.Made.sentence {rule : Rule} {text : String} {span : Span} {line : Nat}
    {parts : List Piece} {piece : Piece} (made : Piece.Made text span line rule parts piece)
    (listed : rule ∈ [.letStatement, .metaStatement, .assignStatement]) :
    ∃ found, piece = .sentence found ∧ found.line = line := by
  -- Only ways to make a statement have such a rule.
  cases made with
  | word word => cases word <;> exact absurd listed (by decide)
  | text written => cases written <;> exact absurd listed (by decide)
  | statement made =>
    cases made with
    | binding | allMetadata | metadata | assign => exact ⟨_, rfl, rfl⟩
    | _ => exact absurd listed (by decide)
  | operand made => cases made <;> exact absurd listed (by decide)
  | choice made => cases made <;> exact absurd listed (by decide)

/-- What the rule for a whole source makes of its parts. -/
theorem Piece.ofRule?_mapping (text : String) (span : Span) (line : Nat) (inside : List Piece) :
    ofRule? .mapping text span line inside =
      ((inside.filter Piece.speaks).mapM sentence?).map .mapping := rfl

/-- A tree of a statement makes a part that says something: a statement in the line where the tree
begins, if it is well-formed. -/
theorem Node.IsStatement.piece (statement : node.IsStatement) :
    (Piece.ofNode node).speaks = true ∧
      ∀ found, Piece.sentence? (Piece.ofNode node) = some found → found.line = node.line := by
  -- A tree that makes no part is malformed, which still says something, but gives no statement.
  obtain ⟨named, text, span, line, children⟩ := node
  rw [Piece.ofNode]
  cases given : Piece.ofRule? named text span line (Piece.ofNodes children) with
  | none =>
    refine ⟨rfl, fun found same => ?_⟩
    cases same
  | some piece =>
    obtain ⟨sentence, rfl, same⟩ := (Piece.ofRule?_eq_some_iff.1 given).sentence statement
    refine ⟨rfl, fun found given => ?_⟩
    cases given
    exact same

/-- Statements whose trees are the same so many lines below are read as the same statements. -/
theorem sentences_moved
    (each : List.Forall₂ (Node.Moved lines) nodes nodes') {found : List Sentence}
    (given : (Piece.ofNodes nodes).mapM Piece.sentence? = some found) :
    ∃ found', (Piece.ofNodes nodes').mapM Piece.sentence? = some found' ∧
      List.Forall₂ (Sentence.Moved lines) found found' := by
  -- The trees correspond one by one, and so do the statements that they are read as.
  induction each generalizing found with
  | nil =>
    cases given
    exact ⟨[], rfl, .nil⟩
  | @cons node node' _ _ first _ ih =>
    obtain ⟨bare, statement, statement', line⟩ := first
    rw [Piece.ofNodes, List.mapM_cons] at given
    obtain ⟨sentence, read, given⟩ := Option.bind_eq_some_iff.1 given
    obtain ⟨others, later, given⟩ := Option.bind_eq_some_iff.1 given
    cases given
    obtain ⟨sentence', read', same⟩ :=
      (Piece.ofNode_same node node' bare).sentence? sentence read
    obtain ⟨others', later', rest⟩ := ih later
    have moved : sentence.Moved lines sentence' :=
      ⟨same, by rw [statement'.piece.2 _ read', line, statement.piece.2 _ read]⟩
    exact ⟨sentence' :: others', by rw [Piece.ofNodes, List.mapM_cons, read', later']; rfl,
      .cons moved rest⟩

/-- The statements of a source are those of its sequence. -/
theorem exists_nodes {source : String} {parts : List (List Char × Node)}
    (sequence : Sequence source.toList parts) :
    ∃ nodes, List.Forall₂ (Stands (1 + source.toList.count '\n')) nodes parts ∧
      ∀ sentences, Sentence.read source = .ok sentences ↔
        (Piece.ofNodes nodes).mapM Piece.sentence? = some sentences := by
  -- The source matches as a mapping, and has one sequence of statements only.
  obtain ⟨after, found, attempts, matched⟩ := sequence.exists_matched
  obtain ⟨text, span, line, nodes, text', span', line', parts', rfl, each, sequence'⟩ :=
    matchSource_mapping matched
  obtain rfl := sequence.unique sequence'
  refine ⟨nodes, each, fun sentences => ?_⟩
  -- Every statement speaks, and the end of the source behind them does not.
  have speak : (Piece.ofNodes nodes).filter Piece.speaks = Piece.ofNodes nodes := by
    clear matched sequence sequence'
    induction each with
    | nil => rfl
    | cons first _ ih => rw [Piece.ofNodes, List.filter_cons_of_pos first.2.1.piece.1, ih]
  have inside : (Piece.ofNodes (nodes ++ [.node .endOfInput text' span' line' []])).filter
      Piece.speaks = Piece.ofNodes nodes := by
    rw [Piece.ofNodes_append, List.filter_append, speak]
    exact List.append_nil _
  have whole : Piece.ofNode (.node .mapping text span line
      (nodes ++ [.node .endOfInput text' span' line' []])) =
        (((Piece.ofNodes nodes).mapM Piece.sentence?).map .mapping).getD .malformed := by
    rw [Piece.ofNode, Piece.ofRule?_mapping, inside]
  unfold Sentence.read read
  rw [matched]
  dsimp only
  rw [whole]
  cases (Piece.ofNodes nodes).mapM Piece.sentence? with
  | none =>
    constructor
    · rintro ⟨⟩
    · rintro ⟨⟩
  | some found =>
    constructor
    · rintro ⟨⟩
      rfl
    · rintro ⟨⟩
      rfl

/-- A source whose statements can be read has a sequence of them. -/
theorem exists_sequence {source : String} {sentences : List Sentence}
    (given : Sentence.read source = .ok sentences) : ∃ parts, Sequence source.toList parts := by
  -- Only a source that matches is read, and what matches is a sequence of statements.
  unfold Sentence.read read at given
  cases matched : matchSource .mapping source.toList with
  | matched after found attempts =>
    obtain ⟨_, _, _, _, _, _, _, parts, _, _, sequence⟩ := matchSource_mapping matched
    exact ⟨parts, sequence⟩
  | failed attempts =>
    rw [matched] at given
    cases given
  | exhausted =>
    rw [matched] at given
    cases given

/-- Trees that stand for the same statements are the same, so many lines below. -/
theorem moved_of_stands {last last' : Nat} {parts : List (List Char × Node)}
    (change : List Char × Node → List Char × Node)
    (changes : ∀ part, (change part).2 = part.2 ∧
      last + (change part).1.count '\n' + lines = last' + part.1.count '\n')
    (each : List.Forall₂ (Stands last) nodes parts)
    (each' : List.Forall₂ (Stands last') nodes' (parts.map change)) :
    List.Forall₂ (Node.Moved lines) nodes nodes' := by
  -- Trees and parts are walked together; each tree begins so many lines below as its part says.
  induction each generalizing nodes' with
  | nil =>
    cases each'
    exact .nil
  | @cons node part _ _ first _ ih =>
    rw [List.map_cons] at each'
    rcases each' with _ | ⟨first', later'⟩
    obtain ⟨bare, statement, line⟩ := first
    obtain ⟨bare', statement', line'⟩ := first'
    obtain ⟨same, count⟩ := changes part
    refine .cons ⟨by rw [bare, bare', same], statement, statement', ?_⟩ (ih later')
    omega

/-- Two sources with a line break between them are read as the statements of both, those of the
second source below all lines of the first one. -/
theorem read_lines {first second : String} {sentences sentences' : List Sentence}
    (closed : Closed first) (given : Sentence.read first = .ok sentences)
    (given' : Sentence.read second = .ok sentences') :
    ∃ found found', Sentence.read (first ++ "\n" ++ second) = .ok (found ++ found') ∧
      List.Forall₂ (Sentence.Moved 0) sentences found ∧
        List.Forall₂ (Sentence.Moved (first.toList.count '\n' + 1)) sentences' found' := by
  obtain ⟨parts, sequence⟩ := exists_sequence given
  obtain ⟨parts', sequence'⟩ := exists_sequence given'
  obtain ⟨nodes, each, reads⟩ := exists_nodes sequence
  obtain ⟨nodes', each', reads'⟩ := exists_nodes sequence'
  have text : (first ++ "\n" ++ second).toList = first.toList ++ '\n' :: second.toList := by simp
  have whole := sequence.append sequence' closed (.line first.toList)
  rw [← text] at whole
  obtain ⟨all, stand, readAll⟩ := exists_nodes whole
  -- The trees of the whole source are those of the first one and those of the second one.
  let size := (parts.map fun part => (part.1 ++ '\n' :: second.toList, part.2)).length
  have stand₁ := List.forall₂_take_append all _ _ stand
  have stand₂ := List.forall₂_drop_append all _ _ stand
  rw [← List.map_id parts'] at stand₂
  have moved₁ : List.Forall₂ (Node.Moved 0) nodes (all.take size) := by
    refine moved_of_stands (fun part => (part.1 ++ '\n' :: second.toList, part.2))
      (fun part => ⟨rfl, ?_⟩) each stand₁
    rw [text, List.count_append, List.count_append]
    omega
  have moved₂ : List.Forall₂ (Node.Moved (first.toList.count '\n' + 1)) nodes'
      (all.drop size) := by
    refine moved_of_stands id (fun part => ⟨rfl, ?_⟩) each' stand₂
    rw [text, List.count_append, List.count_cons_self, id]
    omega
  obtain ⟨found, read₁, same₁⟩ := sentences_moved moved₁ ((reads sentences).1 given)
  obtain ⟨found', read₂, same₂⟩ := sentences_moved moved₂ ((reads' sentences').1 given')
  refine ⟨found, found', (readAll _).2 ?_, same₁, same₂⟩
  rw [← List.take_append_drop size all, Piece.ofNodes_append, List.mapM_append, read₁, read₂]
  rfl

end Grammar

namespace Mapping

open Compile (Transfers)

/-- What a statement assigns to is the same wherever it stands. -/
theorem target_transfers {place place' : Place} (same : Place.Same place place') :
    Transfers (target place) (target place') := by
  -- A path is computed segment by segment.
  have all {path path' : List Segment} (same : List.Forall₂ Segment.Same path path') :
      Transfers (path.mapM Compile.segment) (path'.mapM Compile.segment) := by
    induction same with
    | nil => exact .pure []
    | cons first _ ih =>
      rw [List.mapM_cons, List.mapM_cons]
      exact first.transfers.bind fun _ => ih.map _
  -- The place decides which names have to be read; an input is refused wherever it stands.
  cases same with
  | «variable» same => exact same.transfers.map _
  | allMetadata => exact .pure _
  | metadata same => exact same.transfers.map _
  | root same => exact (all same).map _
  | input span span' => exact .ofFails (Compile.fails_throw _)

/-- A statement is compiled to the same in a later line. -/
theorem statement_transfers (environment : Environment) {lines : Nat}
    {sentence sentence' : Sentence} (moved : sentence.Moved lines sentence') :
    Transfers (do return (← statement environment sentence).below lines)
      (statement environment sentence') := by
  unfold statement
  rw [moved.line]
  simp only [bind_assoc, pure_bind]
  exact (target_transfers moved.same.place).bind fun _ =>
    (Term.compile_same _ moved.same.term).map _

/-- Statements are compiled to the same in later lines. -/
theorem statements_transfer (environment : Environment) {lines : Nat}
    {sentences sentences' : List Sentence}
    (moved : List.Forall₂ (Sentence.Moved lines) sentences sentences') :
    Transfers (do return (← sentences.mapM (statement environment)).map (Statement.below lines))
      (sentences'.mapM (statement environment)) := by
  have each := moved.imp fun _ _ first => statement_transfers environment first
  have all := Transfers.mapM (Statement.below lines) id (by simpa only [id, bind_pure] using each)
  simpa only [List.map_id, bind_pure] using all

/-- A mapping is compiled from the statements that are read. -/
theorem compile_of_read {environment : Environment} {source : String} {sentences : List Sentence}
    (read : Sentence.read source = .ok sentences) :
    compile environment source = do return ⟨← sentences.mapM (statement environment)⟩ := by
  unfold compile
  rw [read]

/-- The statements of a source that compiles are read and compiled, in any later lines and after any
warnings. -/
theorem exists_read {environment : Environment} {source : String} {warnings after : List String}
    {mapping : Mapping}
    (compiled : (compile environment source).run.run warnings = (.ok mapping, after)) :
    ∃ sentences added, Sentence.read source = .ok sentences ∧ after = warnings ++ added ∧
      ∀ lines sentences', List.Forall₂ (Sentence.Moved lines) sentences sentences' →
        ∀ before, (sentences'.mapM (statement environment)).run.run before =
          (.ok (mapping.statements.map (Statement.below lines)), before ++ added) := by
  cases read : Sentence.read source with
  | error diagnostic =>
    unfold compile at compiled
    rw [read] at compiled
    cases compiled
  | ok sentences =>
    rw [compile_of_read read] at compiled
    obtain ⟨statements, _, gives, made⟩ := Compile.exists_of_run_bind compiled
    cases made
    -- Statements in the same lines are a case of statements in later lines.
    have still : List.Forall₂ (Sentence.Moved 0) sentences sentences := by
      refine List.forall₂_same.2 fun sentence _ => ⟨?_, rfl⟩
      exact .refl sentence
    obtain ⟨added, rfl, _⟩ := statements_transfer environment still _ _ _
      ((Compile.run_bind_of_ok gives _).trans rfl)
    refine ⟨sentences, added, rfl, rfl, fun lines sentences' moved before => ?_⟩
    obtain ⟨added', same, gives'⟩ := statements_transfer environment moved _ _ _
      ((Compile.run_bind_of_ok gives _).trans rfl)
    rw [List.append_cancel_left same]
    exact gives' before

/-- Two sources that compile do so with a line break between them, if the first one leaves no string
open: the mapping has the statements of the first source, and then those of the second one below all
lines of the first one, and the warnings are those of both. -/
theorem compile_lines {environment : Environment} {first second : String}
    {mapping mapping' : Mapping} {warnings warnings' after after' : List String}
    (closed : Grammar.Closed first)
    (compiled : (compile environment first).run.run warnings = (.ok mapping, after))
    (compiled' : (compile environment second).run.run warnings' = (.ok mapping', after')) :
    ∃ added added', after = warnings ++ added ∧ after' = warnings' ++ added' ∧
      ∀ before, (compile environment (first ++ "\n" ++ second)).run.run before =
        (.ok ⟨mapping.statements ++
          mapping'.statements.map (Statement.below (first.toList.count '\n' + 1))⟩,
          before ++ (added ++ added')) := by
  -- Both sources are read to statements, and the joined source to those of both.
  obtain ⟨sentences, added, read, rfl, gives⟩ := exists_read compiled
  obtain ⟨sentences', added', read', rfl, gives'⟩ := exists_read compiled'
  obtain ⟨found, found', whole, same, same'⟩ := Grammar.read_lines closed read read'
  refine ⟨added, added', rfl, rfl, fun before => ?_⟩
  rw [compile_of_read whole, List.mapM_append]
  simp only [bind_assoc, pure_bind]
  rw [Compile.run_bind_of_ok (gives _ _ same before),
    Compile.run_bind_of_ok (gives' _ _ same' (before ++ added)), List.append_assoc,
    Statement.below_zero, List.map_id]
  rfl

/-- A mapping with strings and a line break in them. -/
theorem compile_lines_ledger :
    ∃ mapping mapping' after after',
      Grammar.Closed "root.title = \"\"\"two\nlines\"\"\"" ∧
      (compile .standard "root.title = \"\"\"two\nlines\"\"\"").run.run [] = (.ok mapping, after) ∧
      (compile .standard "root.size = this.length()").run.run [] = (.ok mapping', after') ∧
      (compile .standard ("root.title = \"\"\"two\nlines\"\"\"" ++ "\n" ++
        "root.size = this.length()")).run.run [] =
          (.ok ⟨mapping.statements ++ mapping'.statements.map (Statement.below 2)⟩,
            after ++ after') := by
  -- The sources are compiled by evaluation, and what the joined one gives by the theorem.
  have closed : Grammar.Closed "root.title = \"\"\"two\nlines\"\"\"" := by decide +kernel
  have first : (compile .standard "root.title = \"\"\"two\nlines\"\"\"").succeeds = true := by
    decide +kernel
  have second : (compile .standard "root.size = this.length()").succeeds = true := by decide +kernel
  obtain ⟨mapping, after, gives⟩ := Compile.exists_of_succeeds first
  obtain ⟨mapping', after', gives'⟩ := Compile.exists_of_succeeds second
  obtain ⟨_, _, rfl, rfl, whole⟩ := compile_lines closed gives gives'
  exact ⟨mapping, mapping', _, _, closed, gives, gives', whole []⟩

/-- An empty string with the name of the next target directly behind it opens a raw string where
further quotes follow. -/
theorem not_compile_lines :
    ¬∀ (environment : Environment) (first second : String) (mapping mapping' : Mapping)
      (after after' : List String),
      (compile environment first).run.run [] = (.ok mapping, after) →
      (compile environment second).run.run [] = (.ok mapping', after') →
        ∃ last, (compile environment (first ++ "\n" ++ second)).run.run [] =
          (.ok ⟨mapping.statements ++
            mapping'.statements.map (Statement.below (first.toList.count '\n' + 1))⟩, last) := by
  -- Both sources compile alone, but the joined one is a syntax error.
  intro claim
  have first : (compile .standard "root = \"\"\"a\" = 1").succeeds = true := by decide +kernel
  have second : (compile .standard "root.b = \"\"\"x\"\"\"").succeeds = true := by decide +kernel
  have both : (compile .standard ("root = \"\"\"a\" = 1" ++ "\n" ++
      "root.b = \"\"\"x\"\"\"")).succeeds = false := by decide +kernel
  obtain ⟨mapping, after, gives⟩ := Compile.exists_of_succeeds first
  obtain ⟨mapping', after', gives'⟩ := Compile.exists_of_succeeds second
  obtain ⟨last, whole⟩ := claim .standard _ _ mapping mapping' after after' gives gives'
  rw [Compile.succeeds, whole] at both
  cases both

end Mapping

end Reshape
