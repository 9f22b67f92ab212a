import Reshape.Grammar.Term
import Reshape.Proofs.Grammar.Progress

/-!
What patterns read: the texts that a pattern matches, with what is left of the source and the parts
that are made of it, and the texts that it refuses. There is one law for each way to build a
pattern; what comes of a match that runs out of steps is left open.
-/

namespace Reshape.Grammar

/-- What is left of a text after the separators and comments at its start. -/
def dropBlanks (inComment : Bool) : List Char → List Char
  | [] => []
  | c :: rest =>
    if inComment then dropBlanks (c != '\n') rest
    else if isSeparator c then dropBlanks false rest
    else if c = '#' then dropBlanks true rest
    else c :: rest

/-- Skipping blanks drops them. -/
theorem skipBlanks_rest (inComment : Bool) (cursor : Cursor) :
    (skipBlanks inComment cursor cursor.rest).rest = dropBlanks inComment cursor.rest := by
  -- The rest of the cursor is passed letter by letter, in a comment or not.
  generalize stands : cursor.rest = source
  induction source generalizing inComment cursor with
  | nil => exact stands
  | cons c rest ih =>
    unfold skipBlanks dropBlanks
    split
    · exact ih _ _ rfl
    · split
      · exact ih _ _ rfl
      · split
        · exact ih _ _ rfl
        · exact stands

/-- What is left without blanks is not longer. -/
theorem length_dropBlanks_le (inComment : Bool) (source : List Char) :
    (dropBlanks inComment source).length ≤ source.length := by
  -- In each of the cases one letter is dropped, or nothing is.
  induction source generalizing inComment with
  | nil => exact Nat.le_refl _
  | cons c rest ih =>
    unfold dropBlanks
    split
    · exact Nat.le_succ_of_le (ih _)
    · split
      · exact Nat.le_succ_of_le (ih _)
      · split
        · exact Nat.le_succ_of_le (ih _)
        · exact Nat.le_refl _

/-- Where there are no blanks none are skipped. -/
theorem skipBlanks_of_clear {cursor : Cursor}
    (clear : dropBlanks false cursor.rest = cursor.rest) :
    skipBlanks false cursor cursor.rest = cursor := by
  cases stands : cursor.rest with
  | nil => rfl
  | cons c rest =>
    rw [stands] at clear
    -- What is skipped is gone from the source, so from one that stays the same nothing is.
    have shorter (inComment : Bool) : dropBlanks inComment rest ≠ c :: rest := by
      intro same
      have length := length_dropBlanks_le inComment rest
      rw [same, List.length_cons] at length
      omega
    unfold dropBlanks at clear
    unfold skipBlanks
    split
    next inComment => cases inComment
    next =>
      rw [if_neg (by simp)] at clear
      split
      next blank =>
        rw [if_pos blank] at clear
        exact absurd clear (shorter false)
      next blank =>
        rw [if_neg blank] at clear
        split
        next comment =>
          rw [if_pos comment] at clear
          exact absurd clear (shorter true)
        next => rfl

namespace Mode

/-- How rules with free blanks are matched. -/
abbrev loose : Mode := ⟨true, false, true⟩

/-- How leaves are matched. -/
abbrev leaf : Mode := ⟨false, true, true⟩

/-- What is left of a source after the blanks that are free here. -/
def clear (mode : Mode) (source : List Char) : List Char :=
  if mode.isLoose then dropBlanks false source else source

/-- The place after the free blanks has the source that is left then. -/
theorem skip_rest (mode : Mode) (cursor : Cursor) :
    (mode.skip cursor).rest = mode.clear cursor.rest := by
  unfold skip clear
  split
  · exact skipBlanks_rest false cursor
  · rfl

/-- The place stays where there are no free blanks. -/
theorem skip_of_clear {mode : Mode} {cursor : Cursor}
    (same : mode.clear cursor.rest = cursor.rest) : mode.skip cursor = cursor := by
  unfold skip
  unfold clear at same
  -- Only a loose mode skips anything, and there is nothing to skip.
  split
  next loose =>
    rw [if_pos loose] at same
    exact skipBlanks_of_clear same
  next => rfl

end Mode

namespace Outcome

/-- A match leaves a source and makes parts with a property, unless the steps run out. -/
def Gives (post : List Char → List Piece → Prop) : Outcome → Prop
  | .matched after nodes _ => post after.rest (Piece.ofNodes nodes)
  | .failed _ => False
  | .exhausted => True

/-- There is no match. -/
def IsRefusal : Outcome → Prop
  | .matched .. => False
  | .failed _ | .exhausted => True

end Outcome

/-- On a source a pattern matches, and what it leaves of it and the parts that are made of what it
matched have a property. -/
def Reads (mode : Mode) (pattern : Pattern) (source : List Char)
    (post : List Char → List Piece → Prop) : Prop :=
  ∀ steps isTracked (cursor : Cursor) attempts, cursor.rest = source →
    (run steps { mode with isTracked } pattern cursor attempts).Gives post

/-- A pattern does not match on a source. -/
def Refuses (mode : Mode) (pattern : Pattern) (source : List Char) : Prop :=
  ∀ steps isTracked (cursor : Cursor) attempts, cursor.rest = source →
    (run steps { mode with isTracked } pattern cursor attempts).IsRefusal

/-- On a source the further repetitions of a pattern leave a source and make parts with a
property. -/
def Repeats (mode : Mode) (inner : Pattern) (source : List Char)
    (post : List Char → List Piece → Prop) : Prop :=
  ∀ steps isTracked (cursor : Cursor) found attempts, cursor.rest = source →
    (runMore steps { mode with isTracked } inner cursor found attempts).Gives fun rest pieces =>
      ∃ more, pieces = Piece.ofNodes found.reverse ++ more ∧ post rest more

/-- The parts of trees one after the other. -/
theorem Piece.ofNodes_append (nodes more : List Node) :
    Piece.ofNodes (nodes ++ more) = Piece.ofNodes nodes ++ Piece.ofNodes more := by
  induction nodes with
  | nil => rfl
  | cons node rest ih => exact congrArg (Piece.ofNode node :: ·) ih

/-- The first of some patterns that matches. -/
def Pattern.choice : List Pattern → Pattern
  | [] => .absent (.text [])
  | [only] => only
  | first :: rest => .either first (choice rest)

section Laws

variable {mode : Mode} {head tail inner : Pattern} {source rest : List Char}
  {post post' : List Char → List Piece → Prop} {outcome : Outcome}

namespace Outcome

/-- Of what gives something, only matches and running out of steps are to be looked at. -/
@[elab_as_elim]
theorem Gives.elim {motive : Outcome → Prop} (given : outcome.Gives post)
    (matched : ∀ after nodes attempts, post after.rest (Piece.ofNodes nodes) →
      motive (.matched after nodes attempts))
    (exhausted : motive .exhausted) : motive outcome := by
  cases outcome with
  | matched after nodes attempts => exact matched after nodes attempts given
  | failed attempts => exact False.elim given
  | exhausted => exact exhausted

/-- Of what is a refusal, only failures and running out of steps are to be looked at. -/
@[elab_as_elim]
theorem IsRefusal.elim {motive : Outcome → Prop} (given : outcome.IsRefusal)
    (failed : ∀ attempts, motive (.failed attempts)) (exhausted : motive .exhausted) :
    motive outcome := by
  cases outcome with
  | matched after nodes attempts => exact False.elim given
  | failed attempts => exact failed attempts
  | exhausted => exact exhausted

/-- A match with a property has any weaker one. -/
theorem Gives.imp (given : outcome.Gives post)
    (weaker : ∀ rest pieces, post rest pieces → post' rest pieces) : outcome.Gives post' :=
  given.elim (fun _ _ _ holds => weaker _ _ holds) trivial

end Outcome

/-- The mode inside a rule does not depend on whether failures count, except for that itself. -/
theorem Mode.inside_tracked (mode : Mode) (isTracked : Bool) (treatment : Treatment) :
    ({ mode with isTracked } : Mode).inside treatment =
      { mode.inside treatment with isTracked } := by
  cases treatment <;> rfl

/-- Whether a rule is a leaf does not depend on whether failures count. -/
theorem Mode.around_tracked (mode : Mode) (isTracked : Bool) (treatment : Treatment) :
    (({ mode with isTracked } : Mode).around treatment).isLeaf =
      (mode.around treatment).isLeaf := by
  cases treatment <;> rfl

namespace Reads

/-- It is enough to look at matches for which there is a step. -/
theorem ofStep {pattern : Pattern} (reads : ∀ steps isTracked (cursor : Cursor) attempts,
      cursor.rest = source →
        (run (steps + 1) { mode with isTracked } pattern cursor attempts).Gives post) :
    Reads mode pattern source post := by
  intro steps isTracked cursor attempts stands
  cases steps with
  | zero => trivial
  | succ steps => exact reads steps isTracked cursor attempts stands

/-- What is read with a property is read with any weaker one. -/
theorem imp (reads : Reads mode inner source post)
    (weaker : ∀ rest pieces, post rest pieces → post' rest pieces) :
    Reads mode inner source post' :=
  fun steps isTracked cursor attempts stands =>
    (reads steps isTracked cursor attempts stands).imp weaker

/-- A match of nothing makes nothing. -/
theorem gives_empty {cursor : Cursor} {attempts : Attempts} (stands : cursor.rest = source)
    (ends : post source []) : (Outcome.matched cursor [] attempts).Gives post := by
  subst stands
  exact ends

/-- The end of a source. -/
theorem finish (ends : post [] []) : Reads mode .finish [] post := by
  refine ofStep fun steps isTracked cursor attempts stands => ?_
  rw [run_succ_finish]
  simpa [Outcome.Gives, Piece.ofNodes, stands] using ends

/-- A code point of a class. -/
theorem char {kind : CharClass} {c : Char} (holds : kind.holds c = true) (ends : post rest []) :
    Reads mode (.char kind) (c :: rest) post := by
  refine ofStep fun steps isTracked cursor attempts stands => ?_
  rw [run_succ_char]
  simpa [Outcome.Gives, Piece.ofNodes, stands, holds, Cursor.past] using ends

/-- The place after a text is found where the text stands. -/
theorem exists_pastText? (text : List Char) {cursor : Cursor}
    (stands : cursor.rest = text ++ rest) :
    ∃ after, cursor.pastText? text = some after ∧ after.rest = rest := by
  -- The place moves by one letter at a time.
  induction text generalizing cursor with
  | nil => exact ⟨cursor, rfl, stands⟩
  | cons c text ih =>
    obtain ⟨after, given, left⟩ := @ih (cursor.past c (text ++ rest)) rfl
    refine ⟨after, ?_, left⟩
    unfold Cursor.pastText?
    rw [stands]
    simpa using given

/-- A text as it stands. -/
theorem text (text : List Char) (ends : post rest []) :
    Reads mode (.text text) (text ++ rest) post := by
  refine ofStep fun steps isTracked cursor attempts stands => ?_
  obtain ⟨after, given, left⟩ := exists_pastText? text stands
  rw [run_succ_text]
  simpa [Outcome.Gives, Piece.ofNodes, given, left] using ends

/-- A code point as it stands. -/
theorem symbol (c : Char) (ends : post rest []) : Reads mode (.text [c]) (c :: rest) post :=
  .text [c] ends

/-- A rule that is no leaf, with the part that is made of the text that it matched. -/
theorem rule (named : Rule) (tree : (mode.around named.definition.treatment).isLeaf = false)
    (reads : Reads (mode.inside named.definition.treatment) named.definition.pattern source
      fun rest pieces => ∀ text span line, source = text ++ rest →
        post rest [(Piece.ofRule? named (String.ofList text) span line pieces).getD .malformed]) :
    Reads mode (.rule named) source post := by
  refine ofStep fun steps isTracked cursor attempts stands => ?_
  -- The parts inside tell what is made, and the place that is reached tells of which text.
  have given := reads steps isTracked cursor attempts stands
  have ends := run_passes steps { mode.inside named.definition.treatment with isTracked }
    named.definition.pattern cursor attempts
  rw [run_succ_rule]
  rw [Mode.inside_tracked]
  generalize run steps { mode.inside named.definition.treatment with isTracked }
    named.definition.pattern cursor attempts = outcome at given ends ⊢
  cases outcome with
  | matched after nodes attempts =>
    obtain ⟨text, passed, _⟩ := ends
    -- The text of the rule is what has been passed.
    have taken : cursor.rest.take (after.index - cursor.index) = text := by
      rw [passed.index, Nat.add_sub_cancel_left, passed.rest, List.take_left]
    have whole := given text ⟨cursor.offset, after.offset⟩ cursor.line (stands ▸ passed.rest)
    simpa [Outcome.ofRule, Mode.around_tracked, tree, Outcome.Gives, Piece.ofNodes, Piece.ofNode,
      taken] using whole
  | failed attempts => exact False.elim given
  | exhausted => trivial

/-- One pattern after the other. -/
theorem both (reads : Reads mode head source fun rest pieces =>
      Reads mode tail (mode.clear rest) fun last more => post last (pieces ++ more)) :
    Reads mode (.both head tail) source post := by
  refine ofStep fun steps isTracked cursor attempts stands => ?_
  rw [run_succ_both]
  -- The second pattern starts where the first one ends, after the blanks that are free there.
  refine (reads steps isTracked cursor attempts stands).elim
    (fun between nodes attempts given => ?_) trivial
  dsimp only
  refine (given steps isTracked _ attempts (Mode.skip_rest _ _)).elim
    (fun after more attempts ends => ?_) trivial
  simpa only [Outcome.Gives, Piece.ofNodes_append] using ends

/-- The first of two patterns. -/
theorem left (reads : Reads mode head source post) :
    Reads mode (.either head tail) source post := by
  refine ofStep fun steps isTracked cursor attempts stands => ?_
  rw [run_succ_either]
  exact (reads steps isTracked cursor attempts stands).elim (fun _ _ _ ends => ends) trivial

/-- The second of two patterns, where the first one is refused. -/
theorem right (refuses : Refuses mode head source) (reads : Reads mode tail source post) :
    Reads mode (.either head tail) source post := by
  refine ofStep fun steps isTracked cursor attempts stands => ?_
  rw [run_succ_either]
  exact (refuses steps isTracked cursor attempts stands).elim
    (fun attempts => reads steps isTracked cursor attempts stands) trivial

/-- An optional pattern that is there. -/
theorem present (reads : Reads mode inner source post) :
    Reads mode (.optional inner) source post := by
  refine ofStep fun steps isTracked cursor attempts stands => ?_
  rw [run_succ_optional]
  exact (reads steps isTracked cursor attempts stands).elim (fun _ _ _ ends => ends) trivial

/-- An optional pattern that is not there. -/
theorem missing (refuses : Refuses mode inner source) (ends : post source []) :
    Reads mode (.optional inner) source post := by
  refine ofStep fun steps isTracked cursor attempts stands => ?_
  rw [run_succ_optional]
  refine (refuses steps isTracked cursor attempts stands).elim (fun _ => ?_) trivial
  exact gives_empty stands ends

/-- No repetition. -/
theorem none (refuses : Refuses mode inner source) (ends : post source []) :
    Reads mode (.many inner) source post := by
  refine ofStep fun steps isTracked cursor attempts stands => ?_
  rw [run_succ_many]
  refine (refuses steps isTracked cursor attempts stands).elim (fun _ => ?_) trivial
  exact gives_empty stands ends

/-- The first repetition and those after it. -/
theorem many (reads : Reads mode inner source fun rest pieces =>
      Repeats mode inner rest fun last more => post last (pieces ++ more)) :
    Reads mode (.many inner) source post := by
  refine ofStep fun steps isTracked cursor attempts stands => ?_
  rw [run_succ_many]
  refine (reads steps isTracked cursor attempts stands).elim
    (fun between nodes attempts given => ?_) trivial
  -- What has been found is kept in reverse up to the last repetition.
  refine (given steps isTracked between nodes.reverse attempts rfl).imp ?_
  rintro last pieces ⟨more, rfl, ends⟩
  rwa [List.reverse_reverse]

/-- Repetitions from the first one on, where there are no blanks before it. -/
theorem ofRepeats (clear : mode.clear source = source) (repeats : Repeats mode inner source post) :
    Reads mode (.many inner) source post := by
  refine ofStep fun steps isTracked cursor attempts stands => ?_
  have given := repeats (steps + 1) isTracked cursor [] attempts stands
  -- Blanks are skipped before each repetition but the first.
  have same : ({ mode with isTracked } : Mode).skip cursor = cursor :=
    Mode.skip_of_clear (stands ▸ clear)
  rw [runMore_succ] at given
  rw [same] at given
  rw [run_succ_many]
  generalize run steps { mode with isTracked } inner cursor attempts = outcome at given ⊢
  cases outcome with
  | matched between nodes attempts =>
    dsimp only at given
    rw [List.append_nil] at given
    refine given.imp ?_
    rintro last pieces ⟨more, rfl, ends⟩
    exact ends
  | failed attempts =>
    obtain ⟨more, empty, ends⟩ := given
    obtain rfl : [] = more := empty
    exact ends
  | exhausted => trivial

/-- What must not stand here does not. -/
theorem absent (refuses : Refuses mode inner source) (ends : post source []) :
    Reads mode (.absent inner) source post := by
  refine ofStep fun steps isTracked cursor attempts stands => ?_
  rw [run_succ_absent]
  -- Failures do not count inside a check, but a refusal does not depend on that.
  refine (refuses steps false cursor attempts stands).elim (fun _ => ?_) trivial
  exact gives_empty stands ends

end Reads

namespace Repeats

/-- No further repetition; the blanks before it are not taken. -/
theorem stop (refuses : Refuses mode inner (mode.clear source)) (ends : post source []) :
    Repeats mode inner source post := by
  -- The attempt is made behind blanks and refused, so the place before them is kept.
  intro steps isTracked cursor found attempts stands
  cases steps with
  | zero => trivial
  | succ steps =>
    rw [runMore_succ]
    refine (refuses steps isTracked _ attempts (stands ▸ Mode.skip_rest _ _)).elim
      (fun attempts => ?_) trivial
    exact ⟨[], (List.append_nil _).symm, stands ▸ ends⟩

/-- A further repetition and those after it. -/
theorem step (reads : Reads mode inner (mode.clear source) fun rest pieces =>
      Repeats mode inner rest fun last more => post last (pieces ++ more)) :
    Repeats mode inner source post := by
  -- The attempt is made behind blanks, and what it finds stands before what is found later.
  intro steps isTracked cursor found attempts stands
  cases steps with
  | zero => trivial
  | succ steps =>
    rw [runMore_succ]
    refine (reads steps isTracked _ attempts (stands ▸ Mode.skip_rest _ _)).elim
      (fun between nodes attempts given => ?_) trivial
    refine (given steps isTracked between (nodes.reverse ++ found) attempts rfl).imp ?_
    rintro last pieces ⟨more, rfl, ends⟩
    exact ⟨Piece.ofNodes nodes ++ more, by simp [Piece.ofNodes_append], ends⟩

end Repeats

namespace Refuses

/-- It is enough to look at attempts for which there is a step. -/
theorem ofStep {pattern : Pattern} (refuses : ∀ steps isTracked (cursor : Cursor) attempts,
      cursor.rest = source →
        (run (steps + 1) { mode with isTracked } pattern cursor attempts).IsRefusal) :
    Refuses mode pattern source := by
  intro steps isTracked cursor attempts stands
  cases steps with
  | zero => trivial
  | succ steps => exact refuses steps isTracked cursor attempts stands

/-- More of a source. -/
theorem finish (filled : source ≠ []) : Refuses mode .finish source := by
  refine ofStep fun steps isTracked cursor attempts stands => ?_
  rw [run_succ_finish]
  simp [stands, filled, Outcome.IsRefusal]

/-- Another code point, or none. -/
theorem char {kind : CharClass} (other : ∀ c ∈ source.head?, kind.holds c = false) :
    Refuses mode (.char kind) source := by
  refine ofStep fun steps isTracked cursor attempts stands => ?_
  rw [run_succ_char]
  cases source with
  | nil => simp [stands, Outcome.IsRefusal]
  | cons c rest => simp [stands, other c rfl, Outcome.IsRefusal]

/-- A text that does not stand at a place has no place after it there. -/
theorem pastText?_eq_none {text : List Char} {cursor : Cursor} (other : ¬text <+: cursor.rest) :
    cursor.pastText? text = none := by
  cases given : cursor.pastText? text with
  | none => rfl
  | some after => exact absurd ⟨after.rest, (Passes.ofText given).rest.symm⟩ other

/-- Another text. -/
theorem text {text : List Char} (other : ¬text <+: source) : Refuses mode (.text text) source := by
  refine ofStep fun steps isTracked cursor attempts stands => ?_
  rw [run_succ_text]
  simp [pastText?_eq_none (stands ▸ other), Outcome.IsRefusal]

/-- A rule whose pattern is refused. -/
theorem rule (named : Rule) (refuses : Refuses (mode.inside named.definition.treatment)
      named.definition.pattern source) : Refuses mode (.rule named) source := by
  refine ofStep fun steps isTracked cursor attempts stands => ?_
  rw [run_succ_rule]
  rw [Mode.inside_tracked]
  refine (refuses steps isTracked cursor attempts stands).elim (fun attempts => ?_) trivial
  -- The rule fails with its pattern, whether that is recorded or not.
  unfold Outcome.ofRule
  dsimp only
  split <;> trivial

/-- The first of two patterns is refused. -/
theorem before (refuses : Refuses mode head source) : Refuses mode (.both head tail) source := by
  refine ofStep fun steps isTracked cursor attempts stands => ?_
  rw [run_succ_both]
  exact (refuses steps isTracked cursor attempts stands).elim (fun _ => trivial) trivial

/-- The second of two patterns is refused after the first one. -/
theorem after (reads : Reads mode head source fun rest _ => Refuses mode tail (mode.clear rest)) :
    Refuses mode (.both head tail) source := by
  refine ofStep fun steps isTracked cursor attempts stands => ?_
  rw [run_succ_both]
  -- The head is run, and the tail is refused where it ends.
  refine (reads steps isTracked cursor attempts stands).elim
    (fun between nodes attempts given => ?_) trivial
  dsimp only
  exact (given steps isTracked _ attempts (Mode.skip_rest _ _)).elim (fun _ => trivial) trivial

/-- Both of two patterns are refused. -/
theorem either (refuses : Refuses mode head source) (refuses' : Refuses mode tail source) :
    Refuses mode (.either head tail) source := by
  refine ofStep fun steps isTracked cursor attempts stands => ?_
  rw [run_succ_either]
  exact (refuses steps isTracked cursor attempts stands).elim
    (fun attempts => refuses' steps isTracked cursor attempts stands) trivial

/-- What must not stand here does. -/
theorem absent (reads : Reads mode inner source fun _ _ => True) :
    Refuses mode (.absent inner) source := by
  refine ofStep fun steps isTracked cursor attempts stands => ?_
  rw [run_succ_absent]
  exact (reads steps false cursor attempts stands).elim (fun _ _ _ _ => trivial) trivial

/-- All of some patterns are refused. -/
theorem choice {patterns : List Pattern}
    (refuses : ∀ pattern ∈ patterns, Refuses mode pattern source) :
    Refuses mode (Pattern.choice patterns) source := by
  induction patterns with
  | nil =>
    -- The empty text stands everywhere, so that a choice of nothing never matches.
    have empty : Reads mode (.text []) ([] ++ source) fun _ _ => True := .text [] trivial
    exact .absent empty
  | cons first rest ih =>
    rw [List.forall_mem_cons] at refuses
    cases rest with
    | nil => exact refuses.1
    | cons other rest => exact .either refuses.1 (ih refuses.2)

end Refuses

/-- A pattern among some, those before it being refused. -/
theorem Reads.choice {before after : List Pattern} {found : Pattern}
    (refuses : ∀ pattern ∈ before, Refuses mode pattern source)
    (reads : Reads mode found source post) :
    Reads mode (Pattern.choice (before ++ found :: after)) source post := by
  -- The patterns before it are refused one by one, each in favour of those behind it.
  induction before with
  | nil =>
    cases after with
    | nil => exact reads
    | cons other after => exact .left reads
  | cons first before ih =>
    rw [List.forall_mem_cons] at refuses
    have later := ih refuses.2
    cases before with
    | nil => exact .right refuses.1 later
    | cons other before => exact .right refuses.1 later

end Laws

/-- A source that a rule reads as one part is read as that part. -/
theorem exists_read {rule : Rule} {source : String} {post : Piece → Prop}
    (reads : Reads .loose (.rule rule) source.toList fun _ pieces =>
      ∃ piece, pieces = [piece] ∧ post piece) :
    ∃ piece, read rule source = .ok piece ∧ post piece := by
  have given := reads (stepLimit source.toList.length) true (.start source.toList) ⟨0, []⟩ rfl
  -- The steps do not run out, so that only the match is left.
  have ended := matchSource_ne_exhausted rule source.toList
  unfold read
  unfold matchSource at ended ⊢
  dsimp only
  generalize run (stepLimit source.toList.length) ⟨true, false, true⟩ (.rule rule)
    (.start source.toList) ⟨0, []⟩ = outcome at given ended ⊢
  cases outcome with
  | matched after nodes attempts =>
    obtain ⟨piece, made, holds⟩ := given
    match nodes, made with
    | [node], made => exact ⟨_, rfl, (List.singleton_inj.1 made) ▸ holds⟩
  | failed attempts => exact False.elim given
  | exhausted => exact absurd rfl ended

end Reshape.Grammar
