import Mathlib.Data.List.Forall2
import Reshape.Proofs.Grammar.Statement

/-!
Sequences of statements. Two sources with a line break between them hold the statements of both, in
order, if the first one leaves no string open: those of the first source in the same lines, and those
of the second one behind them.
-/

namespace Reshape.Grammar

open Zone

/-- How a whole source is matched. -/
def Mode.whole : Mode := ⟨true, false, true⟩

/-- Statements follow each other up to the end of a source, each with the text that it begins. -/
inductive Sequence : List Char → List (List Char × Node) → Prop where
  | stop {source : List Char} (ends : dropBlanks false source = []) : Sequence source []
  | step {source rest : List Char} {tree : Node} {found : List (List Char × Node)}
    (first : Yields .whole (.once Pattern.statement) (dropBlanks false source)
      (some (rest, [tree]))) (later : Sequence rest found) :
    Sequence source ((dropBlanks false source, tree) :: found)

namespace Sequence

variable {source source' more : List Char} {found found' : List (List Char × Node)}

/-- A statement does not begin at the end of a source. -/
theorem filled {rest : List Char} {nodes : List Node}
    (first : Yields .whole (.once Pattern.statement) source (some (rest, nodes))) : source ≠ [] := by
  rintro rfl
  cases first.unique (yields_nil .whole (by decide) (by decide))

/-- A source has one sequence of statements. -/
theorem unique (first : Sequence source found) (second : Sequence source found') :
    found = found' := by
  -- A statement is matched only where the source has not ended, so both sequences stop together.
  induction first generalizing found' with
  | stop ends =>
    cases second with
    | stop => rfl
    | step first => exact absurd ends (filled first)
  | step first later ih =>
    cases second with
    | stop ends => exact absurd ends (filled first)
    | step first' later =>
      cases first.unique first'
      rw [ih later]

/-- Blanks before the first statement do not matter. -/
theorem congr (same : dropBlanks false source = dropBlanks false source')
    (sequence : Sequence source found) : Sequence source' found := by
  cases sequence with
  | stop ends => exact .stop (same ▸ ends)
  | step first later =>
    rw [same] at first ⊢
    exact .step first later

/-- A sequence of statements is empty, or begins with the head of one. -/
theorem opens (sequence : Sequence source found) : Opens source := by
  cases sequence with
  | stop ends => exact .inl ends
  | step first later =>
    obtain ⟨text, _, head, fresh, _⟩ := statement_cases rfl first
    exact .inr ⟨fresh, text, head⟩

/-- Behind a statement, and the blanks before it, code asks for nothing as before. -/
theorem awaits?_step {rest : List Char} {nodes : List Node}
    (first : Yields .whole (.once Pattern.statement) (dropBlanks false source)
      (some (rest, nodes))) (closed : (awaits? (.code .sated) source).isSome = true) :
    awaits? (.code .sated) source = awaits? (.code .sated) rest := by
  have behind : awaits? (.code .sated) source = awaits? (.code .sated) (dropBlanks false source) :=
    awaits?_dropBlanks (by simp) false source
  rw [behind] at closed ⊢
  exact awaits?_statement rfl first closed

/-- A sequence of statements awaits nothing at its end. -/
theorem awaits (sequence : Sequence source found)
    (closed : (awaits? (.code .sated) source).isSome = true) :
    awaits? (.code .sated) source = some false := by
  -- Each statement is passed with the same awaited, down to the blanks at the end.
  induction sequence with
  | @stop source ends =>
    have behind : awaits? (.code .sated) source = awaits? (.code .sated) (dropBlanks false source) :=
      awaits?_dropBlanks (by simp) false source
    rw [behind, ends]
    rfl
  | step first later ih =>
    have same := awaits?_step first closed
    rw [same] at closed ⊢
    exact ih closed

/-- Further statements in the next line follow those of a source. -/
theorem append (first : Sequence source found) (second : Sequence more found')
    (closed : (awaits? (.code .sated) source).isSome = true)
    (resumes : Resumes more false source source') :
    Sequence source' (found.map (fun part => (part.1 ++ '\n' :: more, part.2)) ++ found') := by
  -- The place from which the source is read on is generalised, as each statement moves it.
  induction first generalizing source' with
  | stop ends =>
    obtain ⟨_, same⟩ := resumes.drop.resolve_left fun both => both.1 ends
    exact second.congr same.symm
  | @step source rest tree found matched later ih =>
    obtain ⟨_, begins⟩ := resumes.drop.resolve_right fun both => filled matched both.1
    obtain ⟨text, _, head, _, _⟩ := statement_cases rfl matched
    have awaited : awaits? (.code .awaiting) text = some false := by
      have behind : awaits? (.code .sated) source =
          awaits? (.code .sated) (dropBlanks false source) := awaits?_dropBlanks (by simp) false source
      rw [← head.awaits .sated, ← behind]
      exact (Sequence.step matched later).awaits closed
    -- The first statement is matched as before, and leaves the same rest with more behind it.
    obtain ⟨_, matched', extended⟩ := Pattern.Carried.statement second.opens rfl text _ _ head
      (dropBlanks_dropBlanks false source) awaited matched
    cases extended with | some resumes =>
    rw [awaits?_step matched closed] at closed
    have later' := ih closed resumes
    rw [← begins] at matched'
    have whole := Sequence.step matched' later'
    rwa [begins] at whole

end Sequence

/-- The line where a tree begins. -/
def Node.line : Node → Nat
  | .node _ _ _ line _ => line

/-- Whether a tree is a statement. -/
def Node.IsStatement : Node → Prop
  | .node named _ _ _ _ => named ∈ [.letStatement, .metaStatement, .assignStatement]

section Runs

variable {steps : Nat} {mode : Mode} {cursor after : Cursor} {attempts attempts' : Attempts}
  {nodes : List Node} {named : Rule} {head tail : Pattern}

/-- A rule that matched is a tree that begins in the line of its place. -/
theorem run_rule (tree : (mode.around named.definition.treatment).isLeaf = false)
    (given : run steps mode (.rule named) cursor attempts = .matched after nodes attempts') :
    ∃ steps' text span inside, nodes = [.node named text span cursor.line inside] ∧
      run steps' (mode.inside named.definition.treatment) named.definition.pattern cursor attempts =
        .matched after inside attempts' := by
  cases steps with
  | zero => cases given
  | succ steps =>
    -- A rule runs its pattern, and wraps what that makes if it is one that makes trees.
    rw [run_succ_rule] at given
    cases outcome : run steps (mode.inside named.definition.treatment) named.definition.pattern
      cursor attempts with
    | matched between inside attempts =>
      rw [outcome, Outcome.ofRule] at given
      simp only [tree] at given
      cases given
      exact ⟨steps, _, _, inside, rfl, outcome⟩
    | failed attempts =>
      rw [outcome, Outcome.ofRule] at given
      split at given <;> cases given
    | exhausted =>
      rw [outcome] at given
      cases given

/-- Two patterns that matched, one behind the other, matched each. -/
theorem run_both
    (given : run steps mode (.both head tail) cursor attempts = .matched after nodes attempts') :
    ∃ steps' between found found' known,
      run steps' mode head cursor attempts = .matched between found known ∧
        run steps' mode tail (mode.skip between) known = .matched after found' attempts' ∧
          nodes = found ++ found' := by
  cases steps with
  | zero => cases given
  | succ steps =>
    -- The second pattern runs where the first one ended, behind what is skipped there.
    rw [run_succ_both] at given
    split at given
    next between found known first =>
      split at given
      next later found' failures second =>
        cases given
        exact ⟨steps, between, found, found', known, first, second, rfl⟩
      next missing => exact absurd given (missing _ _ _)
    next missing => exact absurd given (missing _ _ _)

/-- The empty text is matched where it stands. -/
theorem run_nothing
    (given : run steps mode (.text []) cursor attempts = .matched after nodes attempts') :
    after = cursor ∧ nodes = [] := by
  cases steps with
  | zero => cases given
  | succ steps =>
    cases given
    exact ⟨rfl, rfl⟩

/-- Nothing follows the end. -/
theorem run_finish
    (given : run steps mode .finish cursor attempts = .matched after nodes attempts') :
    cursor.rest = [] ∧ nodes = [] := by
  cases steps with
  | zero => cases given
  | succ steps =>
    -- The pattern matches only at the end of the text, and makes no trees.
    rw [run_succ_finish] at given
    split at given
    next empty =>
      cases given
      exact ⟨List.isEmpty_iff.1 empty, rfl⟩
    next => cases given

/-- A choice that matched matched one of its patterns. -/
theorem run_either
    (given : run steps mode (.either head tail) cursor attempts = .matched after nodes attempts') :
    ∃ steps' known, run steps' mode head cursor known = .matched after nodes attempts' ∨
      run steps' mode tail cursor known = .matched after nodes attempts' := by
  cases steps with
  | zero => cases given
  | succ steps =>
    -- The first choice matched, or it failed and the second one matched.
    rw [run_succ_either] at given
    split at given
    next known _ => exact ⟨steps, known, .inr given⟩
    next => exact ⟨steps, attempts, .inl given⟩

/-- A statement that matched is one tree. -/
theorem run_statement (given : run steps .whole Pattern.statement cursor attempts =
      .matched after nodes attempts') :
    ∃ node, nodes = [node] ∧ node.IsStatement ∧ node.line = cursor.line := by
  have ofRule {named : Rule} {steps : Nat} {attempts : Attempts}
      (inherits : named.definition.treatment = .inherited)
      (listed : named ∈ [.letStatement, .metaStatement, .assignStatement])
      (given : run steps .whole (.rule named) cursor attempts = .matched after nodes attempts') :
      ∃ node, nodes = [node] ∧ node.IsStatement ∧ node.line = cursor.line := by
    obtain ⟨_, text, span, inside, rfl, _⟩ := run_rule (by rw [inherits]; rfl) given
    exact ⟨_, rfl, listed, rfl⟩
  -- A statement is one of three rules, and each of these makes one tree.
  obtain ⟨_, _, first | others⟩ := run_either given
  · exact ofRule rfl (by simp) first
  · obtain ⟨_, _, second | third⟩ := run_either others
    · exact ofRule rfl (by simp) second
    · exact ofRule rfl (by simp) third

end Runs

/-- A tree stands for a statement of a sequence: it is the same but for places, and begins in the
line of the statement; `lines` is the number of the last line. -/
def Stands (lines : Nat) (node : Node) (part : List Char × Node) : Prop :=
  node.bare = part.2 ∧ node.IsStatement ∧ node.line + part.1.count '\n' = lines

/-- Behind a text the same line is the last one. -/
theorem Passes.lastLine {text : List Char} {cursor after : Cursor}
    (passed : Passes text cursor after) :
    after.line + after.rest.count '\n' = cursor.line + cursor.rest.count '\n' := by
  rw [passed.line, passed.rest, List.count_append, Nat.add_assoc]

/-- A statement that is matched behind blanks is the first one of the source. -/
theorem stands_of_run {steps : Nat} {start cursor after : Cursor} {nodes : List Node}
    {attempts attempts' : Attempts} (skipped : cursor.rest = dropBlanks false start.rest)
    (lines : cursor.line + cursor.rest.count '\n' = start.line + start.rest.count '\n')
    (given : run steps .whole Pattern.statement cursor attempts =
      .matched after nodes attempts') :
    ∃ node tree, nodes = [node] ∧
      Stands (start.line + start.rest.count '\n') node (dropBlanks false start.rest, tree) ∧
        Yields .whole (.once Pattern.statement) (dropBlanks false start.rest)
          (some (after.rest, [tree])) ∧
          after.line + after.rest.count '\n' = start.line + start.rest.count '\n' := by
  -- The run is read as a derivation, and what it passes tells the line in which it ends.
  obtain ⟨node, rfl, isStatement, line⟩ := run_statement given
  have derived := run_derived steps .whole true Pattern.statement cursor attempts
  have passes := run_passes steps .whole Pattern.statement cursor attempts
  replace given : run steps { Mode.whole with isTracked := true } Pattern.statement cursor attempts =
    .matched after [node] attempts' := given
  rw [given] at derived
  replace passes : (run steps { Mode.whole with isTracked := true } Pattern.statement cursor
    attempts).EndsAt _ := passes
  rw [given] at passes
  obtain ⟨more, same, yields⟩ := derived
  obtain ⟨text, passed, _⟩ := passes
  obtain rfl : [node.bare] = more := same
  rw [skipped] at yields lines
  refine ⟨node, node.bare, rfl, ⟨rfl, isStatement, ?_⟩, yields, ?_⟩
  · rw [line, lines]
  · rw [passed.lastLine, skipped, lines]

/-- The statements that are matched again and again follow each other. -/
theorem runMore_sequence (steps : Nat) {cursor after : Cursor} {found nodes : List Node}
    {attempts attempts' : Attempts}
    (given : runMore steps .whole Pattern.statement cursor found attempts =
      .matched after nodes attempts') :
    ∃ later parts, nodes = found.reverse ++ later ∧
      List.Forall₂ (Stands (cursor.line + cursor.rest.count '\n')) later parts ∧
        ∀ others, Sequence after.rest others → Sequence cursor.rest (parts ++ others) := by
  -- Each round skips blanks and matches one statement, until one is refused.
  induction steps generalizing cursor found attempts with
  | zero => cases given
  | succ steps ih =>
    rw [runMore_succ] at given
    split at given
    next between found' known first =>
      obtain ⟨blanks, skipped⟩ := Passes.skip .whole cursor
      obtain ⟨node, tree, rfl, stands, yields, lines⟩ :=
        stands_of_run (Mode.skip_rest .whole cursor) skipped.lastLine first
      obtain ⟨later, parts, rfl, each, follow⟩ := ih given
      rw [lines] at each
      refine ⟨node :: later, _ :: parts, by simp, .cons stands each, fun others sequence => ?_⟩
      exact .step yields (follow others sequence)
    next known first =>
      cases given
      exact ⟨[], [], by simp, .nil, fun others => id⟩
    next => cases given

/-- The statements that are matched as often as possible follow each other. -/
theorem runMany_sequence {steps : Nat} {start cursor after : Cursor} {nodes : List Node}
    {attempts attempts' : Attempts} (skipped : cursor.rest = dropBlanks false start.rest)
    (lines : cursor.line + cursor.rest.count '\n' = start.line + start.rest.count '\n')
    (given : run steps .whole (.many Pattern.statement) cursor attempts =
      .matched after nodes attempts') :
    ∃ parts, List.Forall₂ (Stands (start.line + start.rest.count '\n')) nodes parts ∧
      ∀ others, Sequence after.rest others → Sequence start.rest (parts ++ others) := by
  cases steps with
  | zero => cases given
  | succ steps =>
    -- The first statement is matched where the run starts, and the others by the lemma above.
    rw [run_succ_many] at given
    split at given
    next between found known first =>
      obtain ⟨node, tree, rfl, stands, yields, lines⟩ := stands_of_run skipped lines first
      obtain ⟨later, parts, rfl, each, follow⟩ := runMore_sequence steps given
      rw [lines] at each
      exact ⟨_ :: parts, .cons stands each, fun others sequence =>
        .step yields (follow others sequence)⟩
    next known first =>
      cases given
      refine ⟨[], .nil, fun others sequence => ?_⟩
      exact sequence.congr (by rw [skipped, dropBlanks_dropBlanks])
    next => cases given

/-- What is matched as a mapping are the statements of the source, and its end. -/
theorem matchSource_mapping {source : List Char} {after : Cursor} {nodes : List Node}
    {attempts : Attempts} (given : matchSource .mapping source = .matched after nodes attempts) :
    ∃ text span line statements text' span' line' parts, nodes =
        [.node .mapping text span line (statements ++ [.node .endOfInput text' span' line' []])] ∧
      List.Forall₂ (Stands (1 + source.count '\n')) statements parts ∧ Sequence source parts := by
  replace given : run _ .whole (.rule .mapping) (.start source) ⟨0, []⟩ = _ := given
  obtain ⟨_, text, span, inside, rfl, whole⟩ := run_rule rfl given
  obtain ⟨_, between, _, finish, _, first, last, rfl⟩ := run_both whole
  obtain ⟨steps, begin, empty, statements, _, start, many, rfl⟩ := run_both first
  -- Nothing is matched before the first statement but blanks.
  obtain ⟨rfl, rfl⟩ := run_nothing start
  obtain ⟨blanks, skipped⟩ := Passes.skip .whole (.start source)
  obtain ⟨parts, each, follow⟩ :=
    runMany_sequence (Mode.skip_rest .whole (.start source)) skipped.lastLine many
  obtain ⟨_, text', span', inside', rfl, finish⟩ := run_rule rfl last
  obtain ⟨empty, rfl⟩ := run_finish finish
  have clear := Mode.skip_rest .whole between
  have sequence := follow [] (.stop (clear.symm.trans empty))
  rw [List.append_nil] at sequence
  exact ⟨_, _, _, statements, text', span', _, parts, rfl, each, sequence⟩

namespace Sequence

variable {source : List Char} {found : List (List Char × Node)}

/-- Further statements are matched up to the end of the source. -/
theorem again (sequence : Sequence source found) :
    ∃ rest nodes, dropBlanks false rest = [] ∧
      Yields .whole (.again Pattern.statement) source (some (rest, nodes)) := by
  -- Behind the last statement another one is tried on what the blanks leave, which is nothing.
  induction sequence with
  | stop ends =>
    have refused : Yields .whole (.once Pattern.statement) [] none :=
      yields_nil .whole (by decide) (by decide)
    exact ⟨_, [], ends, .stop (show Yields _ _ (dropBlanks false _) _ from ends ▸ refused)⟩
  | step first later ih =>
    obtain ⟨rest, nodes, ends, again⟩ := ih
    exact ⟨rest, _, ends, .step first again⟩

/-- The statements are matched behind the blanks at the beginning of the source. -/
theorem many (sequence : Sequence source found) :
    ∃ rest nodes, dropBlanks false rest = [] ∧
      Yields .whole (.once (.many Pattern.statement)) (dropBlanks false source)
        (some (rest, nodes)) := by
  -- The blanks behind the last statement are left, and nothing else.
  cases sequence with
  | stop ends =>
    rw [ends]
    exact ⟨[], [], rfl, .noMany (yields_nil .whole (by decide) (by decide))⟩
  | step first later =>
    obtain ⟨rest, nodes, ends, again⟩ := later.again
    exact ⟨rest, _, ends, .many first again⟩

/-- A source with a sequence of statements is matched as a mapping. -/
theorem exists_matched (sequence : Sequence source found) :
    ∃ after nodes attempts, matchSource .mapping source = .matched after nodes attempts := by
  obtain ⟨rest, nodes, ends, many⟩ := sequence.many
  have finish : ∃ yield, Yields .whole (.once (.rule .endOfInput)) (dropBlanks false rest)
      (some yield) := by
    rw [ends]
    exact ⟨_, .rule .finish⟩
  obtain ⟨_, finish⟩ := finish
  have whole : Yields .whole (.once (.rule .mapping)) source _ :=
    .rule (.both (.both (.text (List.nil_append source).symm) many) finish)
  -- The steps are enough, and a failure would be another outcome.
  have derived := run_derived (stepLimit source.length) .whole true (.rule .mapping)
    (.start source) ⟨0, []⟩
  have ended := matchSource_ne_exhausted .mapping source
  replace derived : (matchSource .mapping source).Derived .whole (.once (.rule .mapping)) source [] :=
    derived
  generalize matchSource .mapping source = outcome at derived ended
  cases outcome with
  | matched after nodes attempts => exact ⟨after, nodes, attempts, rfl⟩
  | failed attempts => cases whole.unique derived
  | exhausted => exact absurd rfl ended

end Sequence

end Reshape.Grammar
