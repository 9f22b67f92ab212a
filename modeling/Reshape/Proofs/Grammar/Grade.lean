import Reshape.Proofs.Grammar.Head

/-!
Grades of patterns: how much of what they yield on a text stays the same with further statements in
the next line. Where a pattern reaches the end of the text, it has to refuse the head of the next
statement; the grammar tells for each pattern whether it does, given for each rule what it comes to,
and this is checked rule by rule.
-/

namespace Reshape.Grammar

open Zone

/-- A text holds blanks only, or begins behind them with the head of a statement. -/
def Opens (more : List Char) : Prop :=
  dropBlanks false more = [] ∨
    Fresh (dropBlanks false more) ∧ ∃ tail, Head tail (dropBlanks false more)

/-- What is left with further text in the next line: the same with that text behind it. What is not
exact may drop the blanks at the end of the text, and then drops them up to the first statement of
the further text. -/
inductive Resumes (more : List Char) (isExact : Bool) : List Char → List Char → Prop where
  | line (rest : List Char) : Resumes more isExact rest (rest ++ '\n' :: more)
  | ended (blunt : isExact = false) : Resumes more isExact [] (dropBlanks false more)

/-- The same is yielded with further text in the next line. -/
inductive Extends (more : List Char) (isExact : Bool) : Yield → Yield → Prop where
  | none : Extends more isExact none none
  | some {rest rest' : List Char} (resumes : Resumes more isExact rest rest') (nodes : List Node) :
    Extends more isExact (some (rest, nodes)) (some (rest', nodes))

/-- At the end of the text the one is refused or leaves nothing, and the other one is refused too or
runs into the head of a statement. -/
def Drifts (yield yield' : Yield) : Prop :=
  (∀ rest nodes, yield = some (rest, nodes) → rest = []) ∧
    ∀ rest nodes, yield' = some (rest, nodes) → ∃ tail, Head tail rest

/-- How much of what a pattern yields stays the same with further statements in the next line. -/
inductive Grade where
  | kept
  /-- At the end of the text the pattern may run into the head of the next statement. -/
  | adrift
  | unknown
  deriving DecidableEq, Repr

/-- What a grade says of what is yielded without and with further statements. -/
def Grade.Holds (more : List Char) (isExact : Bool) (yield yield' : Yield) : Grade → Prop
  | .kept => Extends more isExact yield yield'
  | .adrift => Extends more false yield yield' ∨ Drifts yield yield'
  | .unknown => True

/-- Whether a rule ends where its last code point is matched, without blanks behind. -/
def Rule.isExact : Rule → Bool
  | .assignTarget | .targetHead | .methodCall | .fieldAccess | .functionCall | .callArguments
  | .wildcard | .variable | .metadata | .fieldName | .nullLiteral | .boolLiteral | .number
  | .string | .stringInner | .rawString | .rawInner | .identifier | .letWord | .metaWord
  | .rootWord | .thisWord | .ifWord | .elseWord | .matchWord => true
  | _ => false

/-- Whether a rule is matched only where blanks are free. -/
def Rule.isWide : Rule → Bool
  | .expr | .paren | .namedArgument | .lambda | .ifExpr | .ifBranch | .elseIf | .elseBlock
  | .matchExpr | .matchCase | .array | .object | .objectEntry => true
  | _ => false

namespace Pattern

/-- Whether a pattern ends where its last code point is matched, without blanks behind. -/
def isExact (isLoose : Bool) : Pattern → Bool
  | .finish | .char _ | .text _ | .absent _ => true
  | .rule named => named.isExact
  | .both _ tail => tail.isExact isLoose && !(isLoose && tail.isEmptiable)
  | .either head tail => head.isExact isLoose && tail.isExact isLoose
  | .optional inner | .many inner => inner.isExact isLoose

/-- Whether nothing else is asked for behind further matches of a pattern, and free blanks may stand
before them. -/
def repeats (isLoose : Bool) (ends : List Mood) (inner : Pattern) : Bool :=
  !(isLoose && ends.contains .bound) &&
    (spread (inner.moods isLoose false) ends).any fun further => further.all ends.contains

/-- Whether a pattern comes to the same at the end of a text as at the head of a statement: it is
refused, or need not be there. -/
def isSettled : Pattern → Bool
  | .optional inner | .many inner => inner.bars true && !inner.isEmptiable
  | pattern => pattern.bars true && !pattern.isEmptiable

end Pattern

/-- The grade of a pattern that has another one behind it, where blanks are free; `isHungry` says
that an operand has to follow between them. -/
def Grade.before (tail : Pattern) (isHungry : Bool) : Grade → Grade
  -- Behind the end of the text the other one is not tried, or comes to the same.
  | .kept =>
    if isHungry || tail.isSettled then .kept else if tail.keeps then .adrift else .unknown
  | .adrift =>
    if tail.bars false && !tail.isEmptiable then .kept
    else if tail.keeps then .adrift
    else .unknown
  | .unknown => .unknown

/-- How much of what a pattern yields stays the same with further statements in the next line. -/
def Pattern.grade (isLoose plain : Bool) (mood : Mood) : Pattern → Grade
  | .finish | .char .any => .unknown
  | .char _ => .kept
  | .text word => if word.contains '\n' then .unknown else .kept
  | .rule named =>
    if (named.moods plain mood).isSome && (isLoose || !named.isWide) then .kept else .unknown
  | .both head tail =>
    match head.moods isLoose plain mood with
    | none => .unknown
    | some between =>
      if isLoose then
        if between.contains .bound || tail.grade true false .awaiting != .kept then .unknown
        else (head.grade true plain mood).before tail (between.all (· == .awaiting))
      else if head.grade false plain mood == .kept && head.isExact false &&
          between.all fun next => tail.grade false false next == .kept then .kept
      else .unknown
  | .either head tail =>
    if head.grade isLoose plain mood == .kept && tail.grade isLoose
        (plain || head == .rule .rawString && mood != .bound) mood == .kept then .kept
    else .unknown
  | .optional inner | .absent inner =>
    if inner.grade isLoose plain mood == .kept then .kept else .unknown
  | .many inner =>
    match inner.moods isLoose plain mood with
    | none => .unknown
    | some ends =>
      if inner.grade isLoose plain mood == .kept && inner.repeats isLoose ends &&
        if isLoose then inner.bars true && inner.grade true false .awaiting == .kept
        else inner.isExact false && ends.all fun next => inner.grade false false next == .kept
      then .kept
      else .unknown

/-- Whether further matches of a pattern stay the same with further statements in the next line. -/
def Pattern.staysKept (isLoose : Bool) (ends : List Mood) (inner : Pattern) : Bool :=
  if isLoose then inner.bars true && inner.grade true false .awaiting == .kept
  else inner.isExact false && ends.all fun next => inner.grade false false next == .kept

/-- What is told of a rule is true of its pattern. -/
def Rule.isGraded (isLoose plain : Bool) (mood : Mood) (rule : Rule) : Bool :=
  (rule.moods plain mood).isNone || !isLoose && rule.isWide ||
    rule.definition.pattern.grade (rule.definition.treatment.frees isLoose) plain mood == .kept

/-- The grades of rules are those of their patterns, as can be read off all rules. -/
theorem Rule.graded (rule : Rule) (isLoose plain : Bool) (mood : Mood)
    (tree : rule ≠ .string ∧ rule ≠ .rawString) (fits : isLoose = true → mood = .awaiting) :
    rule.isGraded isLoose plain mood = true := by
  cases rule <;> first
    | exact absurd rfl tree.1
    | exact absurd rfl tree.2
    | (clear tree; revert isLoose plain; cases mood <;> decide)

/-- Which rules are exact can be read off their patterns: those are whose text matters, and blanks
are set free only by the arguments of a call. -/
theorem Rule.exact (rule : Rule) (isLoose : Bool) :
    (rule.isExact = true →
      rule.definition.pattern.isExact (rule.definition.treatment.frees isLoose) = true) ∧
      (rule.keepsText = true → rule.isExact = true) ∧
      (rule ≠ .callArguments → rule.definition.treatment ≠ .loose) := by
  revert isLoose
  cases rule <;> decide

/-- A pattern with another one behind it is graded by what is asked for between them. -/
theorem Pattern.grade_both {head tail : Pattern} {isLoose plain : Bool} {mood : Mood}
    (known : (Pattern.both head tail).grade isLoose plain mood ≠ .unknown) :
    ∃ between, head.moods isLoose plain mood = some between ∧
      (isLoose = true ∧ .bound ∉ between ∧ tail.grade true false .awaiting = .kept ∧
          (Pattern.both head tail).grade isLoose plain mood =
            (head.grade true plain mood).before tail (between.all (· == .awaiting)) ∨
        isLoose = false ∧ head.grade false plain mood = .kept ∧ head.isExact false = true ∧
          ∀ next ∈ between, tail.grade false false next = .kept) := by
  -- Nothing is known of the pair without knowing what the first pattern leads to.
  cases told : head.moods isLoose plain mood with
  | none => simp [Pattern.grade, told] at known
  | some between =>
    refine ⟨between, rfl, ?_⟩
    simp only [Pattern.grade, told] at known ⊢
    -- Where blanks are free the second pattern begins afresh; elsewhere it begins where the first
    -- ended.
    cases isLoose with
    | true =>
      rw [if_pos rfl] at known ⊢
      split at known
      next => exact absurd rfl known
      next free =>
        rw [if_neg free]
        simp only [Bool.or_eq_true, not_or, List.contains_iff_mem, bne_iff_ne, not_not] at free
        exact .inl ⟨rfl, free.1, free.2, rfl⟩
    | false =>
      rw [if_neg (by simp)] at known
      split at known
      next kept =>
        simp only [Bool.and_eq_true, beq_iff_eq, List.all_eq_true] at kept
        exact .inr ⟨rfl, kept.1.1, kept.1.2, kept.2⟩
      next => exact absurd rfl known

namespace Grade

variable {tail : Pattern} {isHungry : Bool}

/-- What is graded by a condition is kept. -/
theorem of_known {kept : Bool} (known : (if kept then Grade.kept else .unknown) ≠ .unknown) :
    kept = true := by
  by_contra lost
  exact known (if_neg lost)

/-- What is kept stays so where an operand has to follow, and before a pattern that is settled;
otherwise it is adrift, if the pattern keeps it so. -/
theorem before_kept (known : Grade.kept.before tail isHungry ≠ .unknown) :
    (isHungry = true ∨ tail.isSettled = true) ∧ Grade.kept.before tail isHungry = .kept ∨
      tail.keeps = true ∧ Grade.kept.before tail isHungry = .adrift := by
  -- The grade is read off the two conditions, in the order in which they are asked.
  unfold before at known ⊢
  dsimp only at known ⊢
  split
  next settled => exact .inl ⟨by simpa using settled, rfl⟩
  next loose =>
    rw [if_neg loose] at known
    by_cases keeps : tail.keeps = true
    · exact .inr ⟨keeps, if_pos keeps⟩
    · exact absurd (if_neg keeps) known

/-- What is adrift is kept again before a pattern that has to match and cannot begin a statement,
and otherwise stays adrift, if the pattern keeps it so. -/
theorem before_adrift (known : Grade.adrift.before tail isHungry ≠ .unknown) :
    (tail.bars false = true ∧ tail.isEmptiable = false) ∧
        Grade.adrift.before tail isHungry = .kept ∨
      tail.keeps = true ∧ Grade.adrift.before tail isHungry = .adrift := by
  -- The grade is read off the two conditions, in the order in which they are asked.
  unfold before at known ⊢
  dsimp only at known ⊢
  split
  next bars => exact .inl ⟨by simpa using bars, rfl⟩
  next loose =>
    rw [if_neg loose] at known
    by_cases keeps : tail.keeps = true
    · exact .inr ⟨keeps, if_pos keeps⟩
    · exact absurd (if_neg keeps) known

end Grade

/-- A pattern that is matched again and again is graded by what is asked for behind its matches. -/
theorem Pattern.grade_many {inner : Pattern} {isLoose plain : Bool} {mood : Mood}
    (known : (Pattern.many inner).grade isLoose plain mood ≠ .unknown) :
    ∃ ends, inner.moods isLoose plain mood = some ends ∧ inner.grade isLoose plain mood = .kept ∧
      inner.repeats isLoose ends = true ∧ inner.staysKept isLoose ends = true := by
  -- The grade of a repetition is that of its inside, if this can begin anew at each of its ends.
  cases told : inner.moods isLoose plain mood with
  | none => simp [Pattern.grade, told] at known
  | some ends =>
    simp only [Pattern.grade, told] at known
    have kept := Grade.of_known known
    rw [Bool.and_eq_true, Bool.and_eq_true, beq_iff_eq] at kept
    exact ⟨ends, rfl, kept.1.1, kept.1.2, kept.2⟩

section Ends

variable {more source rest rest' : List Char} {mode : Mode} {pattern tail : Pattern}
  {isExact isExact' : Bool} {yield yield' : Yield}

/-- Where blanks are free they are dropped. -/
theorem Mode.clear_of_loose (loose : mode.isLoose = true) (source : List Char) :
    mode.clear source = dropBlanks false source :=
  if_pos loose

namespace Resumes

/-- What is exact stays so if less is asked for. -/
theorem mono (resumes : Resumes more isExact rest rest')
    (blunt : isExact = false → isExact' = false) : Resumes more isExact' rest rest' := by
  cases resumes with
  | line rest => exact .line rest
  | ended given => exact .ended (blunt given)

/-- What is exact has the further text behind it. -/
theorem eq (resumes : Resumes more true rest rest') : rest' = rest ++ '\n' :: more := by
  cases resumes with
  | line rest => rfl
  | ended blunt => cases blunt

/-- Behind the blanks there is the same, or the further statements begin. -/
theorem drop (resumes : Resumes more isExact rest rest') :
    dropBlanks false rest ≠ [] ∧ dropBlanks false rest' = dropBlanks false rest ++ '\n' :: more ∨
      dropBlanks false rest = [] ∧ dropBlanks false rest' = dropBlanks false more := by
  cases resumes with
  | line rest =>
    -- Either there is something behind the blanks, or the line break is one of them.
    by_cases empty : dropBlanks false rest = []
    · exact .inr ⟨empty, dropBlanks_line empty⟩
    · exact .inl ⟨empty, dropBlanks_append empty⟩
  | ended blunt => exact .inr ⟨rfl, dropBlanks_dropBlanks false more⟩

end Resumes

/-- What is exact stays so if less is asked for. -/
theorem Extends.mono (extended : Extends more isExact yield yield')
    (blunt : isExact = false → isExact' = false) : Extends more isExact' yield yield' := by
  cases extended with
  | none => exact .none
  | some resumes nodes => exact .some (resumes.mono blunt) nodes

/-- What is refused at the heads of statements is refused at each of them, after the blanks. -/
theorem Head.refuses {text : List Char} (head : Head rest text) (steady : pattern.isSteady = true)
    (bars : pattern.bars false = true) : Yields mode (.once pattern) (mode.clear text) none := by
  obtain ⟨yield, yields⟩ := exists_yields mode steady (mode.clear text)
  cases (yields.stays rest (head.clear mode)).2 false bars (by simp)
  exact yields

/-- A pattern that leaves the heads of statements leaves each of them, after the blanks. -/
theorem Head.exists_yields {text : List Char} (mode : Mode) (head : Head rest text)
    (steady : pattern.isSteady = true) (keeps : pattern.keeps = true) :
    ∃ yield, Yields mode (.once pattern) (mode.clear text) yield ∧
      ∀ rest nodes, yield = some (rest, nodes) → ∃ tail, Head tail rest := by
  obtain ⟨yield, yields⟩ := Grammar.exists_yields mode steady (mode.clear text)
  exact ⟨yield, yields, fun last nodes given =>
    ⟨rest, (yields.stays rest (head.clear mode)).1 keeps last nodes given⟩⟩

/-- What is refused at the heads of statements is refused before further statements. -/
theorem Opens.refuses {isFresh : Bool} (opens : Opens more) (steady : pattern.isSteady = true)
    (bars : pattern.bars isFresh = true) (filled : pattern.isEmptiable = false) :
    Yields mode (.once pattern) (dropBlanks false more) none := by
  -- Nothing is left to begin with, or the first character is one that the pattern bars.
  rcases opens with empty | ⟨fresh, tail, head⟩
  · rw [empty]
    exact yields_nil mode steady filled
  · obtain ⟨yield, yields⟩ := exists_yields mode steady (dropBlanks false more)
    cases (yields.stays tail head).2 isFresh bars fun _ => fresh
    exact yields

/-- A settled pattern yields the same at the end of a text as before further statements. -/
theorem Opens.settled (opens : Opens more) (steady : tail.isSteady = true)
    (settled : tail.isSettled = true) (yields : Yields mode (.once tail) [] yield) :
    ∃ yield', Yields mode (.once tail) (dropBlanks false more) yield' ∧
      Extends more (!tail.isEmptiable) yield yield' := by
  -- A pattern that has to match and cannot begin a statement is refused at both places.
  have missing {inner : Pattern} (steady : inner.isSteady = true)
      (known : (inner.bars true && !inner.isEmptiable) = true) :
      Yields mode (.once inner) [] none ∧
        Yields mode (.once inner) (dropBlanks false more) none := by
    rw [Bool.and_eq_true, Bool.not_eq_true'] at known
    exact ⟨yields_nil mode steady known.2, opens.refuses steady known.1 known.2⟩
  cases tail with
  | optional inner =>
    obtain ⟨ends, begins⟩ := missing (show inner.isSteady = true from steady) settled
    cases yields.unique (.missing ends)
    exact ⟨_, .missing begins, .some (.ended rfl) _⟩
  | many inner =>
    obtain ⟨ends, begins⟩ := missing (Bool.and_eq_true_iff.1 steady).1 settled
    cases yields.unique (.noMany ends)
    exact ⟨_, .noMany begins, .some (.ended rfl) _⟩
  | _ =>
    obtain ⟨ends, begins⟩ := missing steady settled
    cases yields.unique ends
    exact ⟨_, begins, .none⟩

/-- What is left at the end of a text is nothing. -/
theorem Yields.nothing {nodes : List Node} (steady : pattern.isSteady = true)
    (yields : Yields mode (.once pattern) [] (some (rest, nodes))) : rest = [] := by
  obtain ⟨text, same, _⟩ := yields.passes steady
  exact (List.append_eq_nil_iff.1 same.symm).2

/-- A pattern that leaves the heads of statements yields the same at the end of a text as before
further statements, or runs into the first of them. -/
theorem Opens.drifts (opens : Opens more) (steady : tail.isSteady = true)
    (keeps : tail.keeps = true) (yields : Yields mode (.once tail) [] yield) :
    ∃ yield', Yields mode (.once tail) (dropBlanks false more) yield' ∧
      (Extends more false yield yield' ∨ Drifts yield yield') := by
  -- With no further statement both texts end; with one, its head is where the match runs into.
  rcases id opens with empty | ⟨fresh, last, head⟩
  · refine ⟨yield, empty ▸ yields, .inl ?_⟩
    cases yield with
    | none => exact .none
    | some found =>
      obtain ⟨rest, nodes⟩ := found
      obtain rfl := yields.nothing steady
      have resumes : Resumes more false [] (dropBlanks false more) := .ended rfl
      rw [empty] at resumes
      exact .some resumes nodes
  · obtain ⟨yield', yields'⟩ := exists_yields mode steady (dropBlanks false more)
    refine ⟨yield', yields', .inr ⟨?_, fun rest nodes given => ⟨last, ?_⟩⟩⟩
    · rintro rest nodes rfl
      exact yields.nothing steady
    · exact (yields'.stays last head).1 keeps rest nodes given

/-- The trees of a rule stay the same with further text, if what it leaves is exact where its text
matters. -/
theorem Mode.wrap_resumes {nodes : List Node} {rule : Rule}
    (yields : Yields mode (.once (.rule rule)) source (some (rest, nodes)))
    (resumes : Resumes more isExact rest rest') (exact : rule.keepsText = true → isExact = true)
    (around : Mode) (nodes' : List Node) :
    around.wrap rule (source ++ '\n' :: more) rest' nodes' =
      around.wrap rule source rest nodes' := by
  by_cases keeps : rule.keepsText = true
  · rw [exact keeps] at resumes
    obtain ⟨text, rfl, _⟩ := yields.passes rfl
    rw [resumes.eq, List.append_assoc, Mode.wrap_append, Mode.wrap_append]
  · simp [wrap, Rule.spelling, keeps]

end Ends

end Reshape.Grammar
