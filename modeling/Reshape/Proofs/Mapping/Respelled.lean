import Reshape.Proofs.Grammar.Respelled
import Reshape.Proofs.Mapping.Sequence

/-!
Separators of mappings. Spaces, tabs and both parts of line ends are interchangeable in a source
without comments and double quotes: it compiles exactly as before, to statements that do the same in
the same order, in other lines perhaps.
-/

namespace Reshape

namespace Grammar

/-- Trees that stand for statements are those of the statements. -/
theorem bareAll_of_stands {last : Nat} {nodes : List Node} {parts : List (List Char × Node)}
    (each : List.Forall₂ (Stands last) nodes parts) :
    Node.bareAll nodes = parts.map Prod.snd := by
  induction each with
  | nil => rfl
  | cons first _ ih => rw [Node.bareAll, List.map_cons, first.1, ih]

/-- The statements of a respelled source are the same but for places. -/
theorem read_respelled {source source' : String} {sentences : List Sentence}
    (respelled : Respelled source.toList source'.toList)
    (given : Sentence.read source = .ok sentences) :
    ∃ sentences', Sentence.read source' = .ok sentences' ∧
      List.Forall₂ Sentence.Same sentences sentences' := by
  -- Both sources are sequences with the same trees, and these are read alike.
  obtain ⟨parts, sequence⟩ := exists_sequence given
  obtain ⟨parts', sequence', trees⟩ := sequence.respelled respelled
  obtain ⟨nodes, each, reads⟩ := exists_nodes sequence
  obtain ⟨nodes', each', reads'⟩ := exists_nodes sequence'
  have same : Node.bareAll nodes = Node.bareAll nodes' := by
    rw [bareAll_of_stands each, bareAll_of_stands each', trees]
  obtain ⟨sentences', found, pairs⟩ := Piece.Same.mapM Piece.Same.sentence?
    (Piece.ofNodes_same nodes nodes' same) ((reads sentences).1 given)
  exact ⟨sentences', (reads' sentences').2 found, pairs⟩

end Grammar

/-- What a statement does, whatever line it stands in. -/
def Statement.content (statement : Statement) : Target × Expr := (statement.target, statement.expr)

/-- What the statements of a mapping do, in order. -/
def Mapping.contents (mapping : Mapping) : List (Target × Expr) :=
  mapping.statements.map Statement.content

namespace Mapping

open Compile (Transfers)

/-- Statements that are the same but for places do the same. -/
theorem content_transfers (environment : Environment) {sentence sentence' : Sentence}
    (same : Sentence.Same sentence sentence') :
    Transfers (do return (← statement environment sentence).content)
      (do return (← statement environment sentence').content) := by
  unfold statement
  simp only [bind_assoc, pure_bind]
  exact (target_transfers same.place).bind fun _ => (Term.compile_same _ same.term).map _

/-- A respelled source compiles to statements that do the same. -/
theorem contents_transfer (environment : Environment) {source source' : String}
    (respelled : Grammar.Respelled source.toList source'.toList) :
    Transfers (do return (← compile environment source).contents)
      (do return (← compile environment source').contents) := by
  cases read : Sentence.read source with
  | error diagnostic =>
    refine .ofFails ?_
    unfold compile
    rw [read]
    exact Compile.fails_throw _
  -- A source that can be read is respelled as the same statements.
  | ok sentences =>
    obtain ⟨sentences', read', same⟩ := Grammar.read_respelled respelled read
    rw [compile_of_read read, compile_of_read read']
    simp only [bind_assoc, pure_bind, contents]
    exact .mapM _ _ (same.imp fun _ _ => content_transfers environment)

/-- A respelled source compiles if the source does, with the same warnings, to statements that do
the same. -/
theorem exists_compiled {environment : Environment} {source source' : String}
    {warnings after : List String} {mapping : Mapping}
    (respelled : Grammar.Respelled source.toList source'.toList)
    (compiled : (compile environment source).run.run warnings = (.ok mapping, after)) :
    ∃ mapping', (compile environment source').run.run warnings = (.ok mapping', after) ∧
      mapping'.contents = mapping.contents := by
  have gives : (do return (← compile environment source).contents : Compile _).run.run warnings =
      -- Compiling and then taking the contents is what goes over to the other source.
      (.ok mapping.contents, after) := Compile.run_bind_of_ok compiled _
  obtain ⟨added, rfl, gives'⟩ := contents_transfer environment respelled _ _ _ gives
  obtain ⟨mapping', between, compiled', same⟩ := Compile.exists_of_run_bind (gives' warnings)
  obtain ⟨made, rfl⟩ := Prod.mk.inj same
  exact ⟨mapping', compiled', Except.ok.inj made⟩

/-- Spaces, tabs, carriage returns and line feeds are interchangeable in a source without comments
and double quotes: with any of them in the places of others it compiles exactly if it did, with the
same warnings, to the same targets and expressions in the same order. -/
theorem compile_separators {environment : Environment} {source source' : String}
    (plain : ∀ c ∈ source.toList, c ≠ '#' ∧ c ≠ '"')
    (swapped : List.Forall₂ (fun c c' => c = c' ∨
      c ∈ [' ', '\t', '\r', '\n'] ∧ c' ∈ [' ', '\t', '\r', '\n']) source.toList source'.toList)
    (warnings : List String) :
    (∀ mapping after, (compile environment source).run.run warnings = (.ok mapping, after) →
      ∃ mapping', (compile environment source').run.run warnings = (.ok mapping', after) ∧
        mapping'.contents = mapping.contents) ∧
    (∀ mapping' after, (compile environment source').run.run warnings = (.ok mapping', after) →
      ∃ mapping, (compile environment source).run.run warnings = (.ok mapping, after) ∧
        mapping.contents = mapping'.contents) := by
  have separates : ∀ c ∈ [' ', '\t', '\r', '\n'], Grammar.isSeparator c = true := by decide
  have respelled : Grammar.Respelled source.toList source'.toList := by
    -- A character that is the same is neither a quote nor the start of a comment.
    refine ((List.forall₂_and_left _ _).2 ⟨plain, swapped⟩).imp ?_
    rintro c c' ⟨⟨comment, quote⟩, rfl | ⟨blank, blank'⟩⟩
    · exact .inl ⟨rfl, quote, comment⟩
    · exact .inr ⟨separates c blank, separates c' blank'⟩
  exact ⟨fun _ _ => exists_compiled respelled, fun _ _ => exists_compiled respelled.symm⟩

/-- A mapping in two lines, and the same one with other separators in three. -/
theorem compile_separators_moved :
    ∃ mapping mapping' after,
      (compile .standard "let x = this.a\nroot.b = $x + 1").run.run [] = (.ok mapping, after) ∧
      (compile .standard "let\tx =\nthis.a root.b =\r$x\n+ 1").run.run [] = (.ok mapping', after) ∧
      mapping'.contents = mapping.contents := by
  have first : (compile .standard "let x = this.a\nroot.b = $x + 1").succeeds = true := by
    decide +kernel
  obtain ⟨mapping, after, gives⟩ := Compile.exists_of_succeeds first
  -- That the first source compiles is evaluated, and that the second one does is the theorem.
  obtain ⟨mapping', gives', same⟩ :=
    (@compile_separators .standard _ "let\tx =\nthis.a root.b =\r$x\n+ 1" (by decide) (by decide)
      []).1 mapping after gives
  exact ⟨mapping, mapping', after, gives, gives', same⟩

end Mapping

end Reshape
