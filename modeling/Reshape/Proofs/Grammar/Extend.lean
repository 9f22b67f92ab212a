import Reshape.Proofs.Grammar.Grade

/-!
Sources with further statements behind them. What the rules for expressions come to on a text that
leaves no string open and awaits no operand is what they come to on the text with a line break and
further statements behind it: where a pattern reaches the end of the text, what it would go on with
is refused at the head of the next statement.
-/

namespace Reshape.Grammar

open Zone

section Extension

variable {more source rest : List Char} {mode : Mode} {demand : Demand} {mood : Mood}
  {head tail inner : Pattern} {named : Rule} {yield : Yield} {nodes : List Node}

/-- How a demand on a text that awaits no operand is met with further statements in the next line;
`plain` says that no three quotes stand before the match. -/
def Carries (more : List Char) (mode : Mode) : Demand → List Char → Yield → Prop
  | .once pattern, source, yield => ∀ plain mood,
    (plain = true → ¬['"', '"', '"'] <+: source) → awaits? (.code mood) source = some false →
      (mode.isLoose = true → mood = .awaiting ∧ dropBlanks false source = source) →
        pattern.isSteady = true → pattern.grade mode.isLoose plain mood ≠ .unknown →
          ∃ yield', Yields mode (.once pattern) (source ++ '\n' :: more) yield' ∧
            (pattern.grade mode.isLoose plain mood).Holds more (pattern.isExact mode.isLoose) yield
              yield'
  | .again inner, source, yield => ∀ mood ends source', mood ∈ ends →
    inner.repeats mode.isLoose ends = true → inner.staysKept mode.isLoose ends = true →
      awaits? (.code mood) source = some false → (Pattern.many inner).isSteady = true →
        Resumes more (inner.isExact mode.isLoose) source source' →
          ∃ yield', Yields mode (.again inner) source' yield' ∧
            Extends more (inner.isExact mode.isLoose) yield yield'

/-- A text that is no word does not become one with further text. -/
theorem not_word_append {word : List Char} (single : word.contains '\n' = false)
    (other : ¬word <+: source) : ¬word <+: source ++ '\n' :: more := by
  rintro ⟨rest, same⟩
  -- A word that ends behind the text would have the line break in it, as it does not end before.
  rcases List.append_eq_append_iff.1 same with ⟨later, inside, _⟩ | ⟨later, behind, begins⟩
  · exact other ⟨later, inside.symm⟩
  · cases later with
    | nil => exact other ⟨[], by simpa using behind⟩
    | cons c later =>
      obtain ⟨rfl, _⟩ := List.cons.inj begins
      simp [behind] at single

/-- A string is matched the same with further text. -/
theorem carries_string (yields : Yields mode (.once (.rule .string)) source yield)
    (closed : (awaits? (.code mood) source).isSome = true) :
    ∃ yield', Yields mode (.once (.rule .string)) (source ++ '\n' :: more) yield' ∧
      Extends more true yield yield' := by
  -- A text without a quote is refused by its first letter, and a string ends at its own quote.
  rcases string_cases closed with noQuote | ⟨inner, rest, quotable, rfl, _⟩
  · cases yields.unique (noString mode noQuote)
    refine ⟨none, noString mode ?_, .none⟩
    cases source with
    | nil => simp
    | cons c source => exact noQuote
  · obtain ⟨nodes, string⟩ := yields_string mode quotable
    cases yields.unique (string rest)
    refine ⟨_, ?_, .some (.line rest) nodes⟩
    simpa using string (rest ++ '\n' :: more)

/-- A raw string is matched the same with further text. -/
theorem carries_rawString (yields : Yields mode (.once (.rule .rawString)) source yield)
    (free : mood ≠ .bound) (closed : (awaits? (.code mood) source).isSome = true) :
    ∃ yield', Yields mode (.once (.rule .rawString)) (source ++ '\n' :: more) yield' ∧
      Extends more true yield yield' := by
  -- A raw string that is closed before the end is closed at the same place in the longer text.
  rcases rawString_cases free closed with noMarks | ⟨inner, rest, raw, rfl, _⟩
  · cases yields.unique (noRawString mode noMarks)
    exact ⟨none, noRawString mode (not_word_append (by decide) noMarks), .none⟩
  · obtain ⟨nodes, string⟩ := yields_rawString mode raw
    cases yields.unique (string rest)
    refine ⟨_, ?_, .some (.line rest) nodes⟩
    simpa using string (rest ++ '\n' :: more)

/-- Arguments of a call begin with a parenthesis, so that blanks before them make no difference. -/
theorem carries_callArguments {inside : Mode}
    (yields : Yields inside (.once Rule.callArguments.definition.pattern) source yield)
    (ih : Carries more inside (.once Rule.callArguments.definition.pattern) source yield)
    (loose : inside.isLoose = true) (awaits : awaits? (.code mood) source = some false) :
    ∃ yield', Yields inside (.once Rule.callArguments.definition.pattern) (source ++ '\n' :: more)
      yield' ∧ Extends more true yield yield' := by
  -- A parenthesis stands before any blanks; without one the line break makes none.
  by_cases begins : ['('] <+: source
  · obtain ⟨rest, rfl⟩ := begins
    have clear : dropBlanks false ('(' :: rest) = '(' :: rest := dropBlanks_of_solid rfl (by simp) _
    have same : awaits? (.code mood) ('(' :: rest) = awaits? (.code .awaiting) ('(' :: rest) :=
      awaits?_congr (.inl (by simp)) clear
    have grade : Rule.callArguments.definition.pattern.grade true false .awaiting = .kept := by
      decide
    have exact : Rule.callArguments.definition.pattern.isExact true = true := by decide
    have given := ih false .awaiting (by simp) (same ▸ awaits) (fun _ => ⟨rfl, clear⟩)
      Rule.callArguments.steady.1
    rw [loose, grade, exact] at given
    exact given (by simp)
  · have refused {text : List Char} (other : ¬['('] <+: text) :
        Yields inside (.once Rule.callArguments.definition.pattern) text none :=
      .noFirst (.noFirst (.noText other))
    cases yields.unique (refused begins)
    exact ⟨none, refused (not_word_append (by decide) begins), .none⟩

/-- What is kept is the same with further statements. -/
theorem Carries.kept {pattern : Pattern} (carries : Carries more mode (.once pattern) source yield)
    (plain : Bool) (guard : plain = true → ¬['"', '"', '"'] <+: source)
    (awaits : awaits? (.code mood) source = some false)
    (fits : mode.isLoose = true → mood = .awaiting ∧ dropBlanks false source = source)
    (steady : pattern.isSteady = true) (kept : pattern.grade mode.isLoose plain mood = .kept) :
    ∃ yield', Yields mode (.once pattern) (source ++ '\n' :: more) yield' ∧
      Extends more (pattern.isExact mode.isLoose) yield yield' := by
  have given := carries plain mood guard awaits fits steady
  rw [kept] at given
  exact given (by simp)

/-- What is the same holds for each grade. -/
theorem Extends.holds {isExact : Bool} {yield' : Yield}
    (extended : Extends more isExact yield yield') (grade : Grade) :
    grade.Holds more isExact yield yield' := by
  cases grade with
  | kept => exact extended
  | adrift => exact .inl (extended.mono fun _ => rfl)
  | unknown => trivial

/-- The trees found before stay the same. -/
theorem Extends.append {isExact : Bool} {yield' : Yield}
    (extended : Extends more isExact yield yield') (nodes : List Node) :
    Extends more isExact (yield.map fun found => (found.1, nodes ++ found.2))
      (yield'.map fun found => (found.1, nodes ++ found.2)) := by
  cases extended with
  | none => exact .none
  | some resumes more => exact .some resumes (nodes ++ more)

/-- What drifts does so with any trees found before. -/
theorem Drifts.append {yield' : Yield} (drifts : Drifts yield yield') (nodes nodes' : List Node) :
    Drifts (yield.map fun found => (found.1, nodes ++ found.2))
      (yield'.map fun found => (found.1, nodes' ++ found.2)) := by
  constructor
  -- Both halves ask for the rest alone, which the nodes do not touch.
  all_goals
    intro rest more given
    obtain ⟨found, rfl, same⟩ := Option.map_eq_some_iff.1 given
    cases same
  · exact drifts.1 _ _ rfl
  · exact drifts.2 _ _ rfl

/-- What comes of a pattern behind another one comes of both. -/
theorem Yields.ofBoth (first : Yields mode (.once head) source (some (rest, nodes)))
    (second : Yields mode (.once tail) (mode.clear rest) yield) :
    Yields mode (.once (.both head tail)) source
      (yield.map fun found => (found.1, nodes ++ found.2)) := by
  cases yield with
  | none => exact .noSecond first second
  | some found => exact .both first second

/-- What comes of the pattern of a rule comes of the rule. -/
theorem Yields.ofInside
    (inside : Yields (mode.inside named.definition.treatment) (.once named.definition.pattern)
      source yield) :
    Yields mode (.once (.rule named)) source (yield.map fun found =>
      (found.1, (mode.around named.definition.treatment).wrap named source found.1 found.2)) := by
  cases yield with
  | none => exact .noRule inside
  | some found => exact .rule inside

/-- The pattern of a rule that is no string is matched the same with further statements. -/
theorem carries_inside {plain : Bool}
    (yields : Yields (mode.inside named.definition.treatment) (.once named.definition.pattern)
      source yield)
    (ih : Carries more (mode.inside named.definition.treatment) (.once named.definition.pattern)
      source yield)
    (tree : named ≠ .string ∧ named ≠ .rawString)
    (guard : plain = true → ¬['"', '"', '"'] <+: source)
    (awaits : awaits? (.code mood) source = some false)
    (fits : mode.isLoose = true → mood = .awaiting ∧ dropBlanks false source = source)
    (told : (named.moods plain mood).isSome = true)
    (wide : (mode.isLoose || !named.isWide) = true) :
    ∃ yield', Yields (mode.inside named.definition.treatment) (.once named.definition.pattern)
      (source ++ '\n' :: more) yield' ∧ Extends more named.isExact yield yield' := by
  by_cases call : named = .callArguments
  · subst call
    exact carries_callArguments yields ih rfl awaits
  obtain ⟨exact, _, apart⟩ := named.exact mode.isLoose
  -- The rule is graded as its pattern is, which is kept.
  have graded := named.graded mode.isLoose plain mood tree fun loose => (fits loose).1
  simp only [Rule.isGraded, Bool.or_eq_true, beq_iff_eq, ← Mode.inside_isLoose] at graded
  have kept := graded.resolve_left fun other => by
    rcases other with none | narrow
    · rw [Option.isNone_iff_eq_none] at none
      rw [none] at told
      cases told
    · revert wide narrow
      cases mode.isLoose <;> cases named.isWide <;> simp
  -- Blanks are free inside only where they are free around the rule.
  have inherited : (mode.inside named.definition.treatment).isLoose = true →
      mode.isLoose = true := by
    have free := apart call
    rw [Mode.inside_isLoose]
    cases same : named.definition.treatment with
    | loose => exact absurd same free
    | _ => simp [Treatment.frees]
  obtain ⟨yield', yields', extended⟩ := ih.kept plain guard awaits
    (fun loose => fits (inherited loose)) named.steady.1 kept
  refine ⟨yield', yields', extended.mono fun blunt => ?_⟩
  by_contra sharp
  rw [Mode.inside_isLoose, exact (by simpa using sharp)] at blunt
  cases blunt

/-- A rule is matched the same with further statements if its pattern is. -/
theorem carries_rule
    (yields : Yields (mode.inside named.definition.treatment) (.once named.definition.pattern)
      source yield)
    (ih : Carries more (mode.inside named.definition.treatment) (.once named.definition.pattern)
      source yield) :
    Carries more mode (.once (.rule named)) source (yield.map fun found =>
      (found.1, (mode.around named.definition.treatment).wrap named source found.1 found.2)) := by
  intro plain mood guard awaits fits _ known
  have closed : (awaits? (.code mood) source).isSome = true := by rw [awaits]; rfl
  have whole := Yields.ofInside yields
  have told := Grade.of_known known
  rw [Bool.and_eq_true] at told
  obtain ⟨told, wide⟩ := told
  -- Strings are gone through as they are, all other rules along their patterns.
  by_cases string : named = .string
  · subst string
    obtain ⟨yield', yields', extended⟩ := carries_string whole closed
    exact ⟨yield', yields', extended.holds _⟩
  by_cases rawString : named = .rawString
  · subst rawString
    obtain ⟨ends, told⟩ := Option.isSome_iff_exists.1 told
    have free : mood ≠ .bound := by simpa using (Option.ite_none_left_eq_some.1 told).1
    obtain ⟨yield', yields', extended⟩ := carries_rawString whole free closed
    exact ⟨yield', yields', extended.holds _⟩
  obtain ⟨yield', yields', extended⟩ :=
    carries_inside yields ih ⟨string, rawString⟩ guard awaits fits told wide
  refine ⟨_, .ofInside yields', Extends.holds ?_ _⟩
  cases extended with
  | none => exact .none
  | @some rest rest' resumes nodes =>
    have same := Mode.wrap_resumes whole resumes (named.exact mode.isLoose).2.1
      (mode.around named.definition.treatment) nodes
    simp only [Option.map_some, same]
    exact .some resumes _

/-- Where blanks are free, what follows them makes no difference to what is asked for. -/
theorem awaits?_restart (free : mood ≠ .bound) (filled : dropBlanks false source ≠ []) :
    awaits? (.code mood) source = awaits? (.code .awaiting) (dropBlanks false source) := by
  -- The blanks are dropped first, and what is left does not begin with one.
  have same : awaits? (.code mood) source = awaits? (.code mood) (dropBlanks false source) :=
    awaits?_dropBlanks free false source
  rw [same]
  have clear := dropBlanks_dropBlanks false source
  generalize dropBlanks false source = text at filled clear ⊢
  cases text with
  | nil => exact absurd rfl filled
  | cons c rest => exact awaits?_congr (.inr ⟨free, by simp⟩) clear

/-- Behind a pattern that is refused nothing is matched, with further statements too. -/
theorem carries_noFirst (ih : Carries more mode (.once head) source none) :
    Carries more mode (.once (.both head tail)) source none := by
  intro plain mood guard awaits fits steady known
  simp only [Pattern.isSteady, Bool.and_eq_true] at steady
  obtain ⟨⟨steady, steady'⟩, _⟩ := steady
  obtain ⟨between, told, ⟨loose, _, _, graded⟩ | ⟨tight, kept, _⟩⟩ := Pattern.grade_both known
  · rw [graded] at known ⊢
    have headKnown : head.grade true plain mood ≠ .unknown := by
      intro lost
      rw [lost] at known
      exact known rfl
    obtain ⟨yield', first', held⟩ := ih plain mood guard awaits fits steady (loose ▸ headKnown)
    rw [loose] at held
    cases yield' with
    | none => exact ⟨none, .noFirst first', Extends.none.holds _⟩
    | some found =>
      obtain ⟨rest, nodes⟩ := found
      -- Only what drifts is matched in the further text; what follows is refused there, or stays.
      cases grade : head.grade true plain mood with
      | kept =>
        rw [grade] at held
        cases held
      | adrift =>
        rw [grade] at held known
        obtain ⟨last, head'⟩ := (held.resolve_left (by rintro ⟨⟩)).2 rest nodes rfl
        rcases Grade.before_adrift known with ⟨⟨bars, _⟩, graded⟩ | ⟨keeps, graded⟩
        · exact ⟨none, .noSecond first' (head'.refuses steady' bars), Extends.none.holds _⟩
        · obtain ⟨yield', second, stays⟩ := head'.exists_yields mode steady' keeps
          refine ⟨_, .ofBoth first' second, ?_⟩
          rw [graded]
          have drifts : Drifts none yield' := ⟨by simp, stays⟩
          exact .inr (drifts.append [] nodes)
      | unknown => exact absurd grade headKnown
  · obtain ⟨_, first', extended⟩ := ih.kept plain guard awaits fits steady (tight ▸ kept)
    cases extended
    exact ⟨none, .noFirst first', Extends.none.holds _⟩

/-- Two patterns, one behind the other, are matched the same where blanks are not free. -/
theorem carries_bothTight (tight : mode.isLoose = false)
    (first : Yields mode (.once head) source (some (rest, nodes)))
    (ih : Carries more mode (.once head) source (some (rest, nodes)))
    (ih' : Carries more mode (.once tail) (mode.clear rest) yield) :
    Carries more mode (.once (.both head tail)) source
      (yield.map fun found => (found.1, nodes ++ found.2)) := by
  intro plain mood guard awaits fits steady known
  simp only [Pattern.isSteady, Bool.and_eq_true] at steady
  -- The first match ends exactly where it did, as nothing is skipped between the two.
  obtain ⟨between, told, ⟨loose, _⟩ | ⟨_, kept, exact, kept'⟩⟩ := Pattern.grade_both known
  · rw [tight] at loose
    cases loose
  obtain ⟨_, first', extended⟩ := ih.kept plain guard awaits fits steady.1.1 (tight ▸ kept)
  rw [tight, exact] at extended
  cases extended with | @some _ rest' resumes =>
  obtain rfl := resumes.eq
  have closed : (awaits? (.code mood) source).isSome = true := by rw [awaits]; rfl
  -- The second pattern begins in a mood that the grammar told for the end of the first.
  obtain ⟨next, among, same⟩ := first.predicts plain mood between guard told closed
  rw [mode.clear_of_tight tight] at ih'
  obtain ⟨yield', second, extended⟩ := ih'.kept false (by simp) (same ▸ awaits) (by simp [tight])
    steady.1.2 (tight ▸ kept' next among)
  refine ⟨_, .ofBoth first' (by rwa [mode.clear_of_tight tight]), Extends.holds ?_ _⟩
  refine (extended.append nodes).mono fun blunt => ?_
  rw [Pattern.isExact, blunt, Bool.false_and]

/-- Where a text ends behind the first of two patterns, the second one is tried at the head of the
first further statement. -/
theorem carries_ending (opens : Opens more) (loose : mode.isLoose = true)
    {grade : Grade} {yield yield' : Yield} {isExact : Bool} {source' : List Char}
    (empty : dropBlanks false rest = [])
    (first' : Yields mode (.once head) source' yield')
    (held : grade.Holds more isExact (some (rest, nodes)) yield')
    (second : Yields mode (.once tail) [] yield) (steady : tail.isSteady = true)
    (known : grade.before tail false ≠ .unknown) :
    ∃ yield', Yields mode (.once (.both head tail)) source' yield' ∧
      (grade.before tail false).Holds more ((Pattern.both head tail).isExact true)
        (yield.map fun found => (found.1, nodes ++ found.2)) yield' := by
  have nothing (last : List Char) (more : List Node) (given : yield = some (last, more)) :
      last = [] := by
    subst given
    exact second.nothing steady
  -- What is the same without further text has the further statements behind it.
  have begins {rest' : List Char} {isExact : Bool} (resumes : Resumes more isExact rest rest') :
      mode.clear rest' = dropBlanks false more := by
    rw [mode.clear_of_loose loose]
    exact (resumes.drop.resolve_left fun both => both.1 empty).2
  cases grade with
  | kept =>
    cases held with | some resumes =>
    rcases Grade.before_kept known with ⟨settled, graded⟩ | ⟨keeps, graded⟩
    · obtain ⟨yield', second', extended⟩ := opens.settled steady (settled.resolve_left (by simp))
        second
      refine ⟨_, .ofBoth first' (begins resumes ▸ second'), ?_⟩
      rw [graded]
      refine (extended.append nodes).mono fun emptiable => ?_
      simp only [Bool.not_eq_false'] at emptiable
      simp [Pattern.isExact, emptiable]
    · obtain ⟨yield', second', held⟩ := opens.drifts steady keeps second
      refine ⟨_, .ofBoth first' (begins resumes ▸ second'), ?_⟩
      rw [graded]
      exact held.imp (·.append nodes) (·.append nodes nodes)
  | adrift =>
    rcases Grade.before_adrift known with ⟨⟨bars, filled⟩, graded⟩ | ⟨keeps, graded⟩
    · cases second.unique (yields_nil mode steady filled)
      refine ⟨none, ?_, Extends.none.holds _⟩
      rcases held with extended | drifts
      · cases extended with | some resumes =>
        exact .noSecond first' (begins resumes ▸ opens.refuses steady bars filled)
      · cases yield' with
        | none => exact .noFirst first'
        | some found =>
          obtain ⟨last, head'⟩ := drifts.2 _ _ rfl
          exact .noSecond first' (head'.refuses steady bars)
    · rw [graded]
      rcases held with extended | drifts
      · cases extended with | some resumes =>
        obtain ⟨yield', second', held⟩ := opens.drifts steady keeps second
        exact ⟨_, .ofBoth first' (begins resumes ▸ second'),
          held.imp (·.append nodes) (·.append nodes nodes)⟩
      · cases yield' with
        | none =>
          have drifts' : Drifts yield none := ⟨nothing, by simp⟩
          exact ⟨none, .noFirst first', .inr (drifts'.append nodes nodes)⟩
        | some found =>
          obtain ⟨last, head'⟩ := drifts.2 _ _ rfl
          obtain ⟨yield', second', stays⟩ := head'.exists_yields mode steady keeps
          have drifts' : Drifts yield yield' := ⟨nothing, stays⟩
          exact ⟨_, .ofBoth first' second', .inr (drifts'.append nodes found.2)⟩
  | unknown => exact absurd rfl known

/-- Two patterns, one behind the other, are matched the same where blanks are free, if they do not
end between the two, and drift if they do. -/
theorem carries_bothLoose (opens : Opens more) (loose : mode.isLoose = true)
    (first : Yields mode (.once head) source (some (rest, nodes)))
    (second : Yields mode (.once tail) (mode.clear rest) yield)
    (ih : Carries more mode (.once head) source (some (rest, nodes)))
    (ih' : Carries more mode (.once tail) (mode.clear rest) yield) :
    Carries more mode (.once (.both head tail)) source
      (yield.map fun found => (found.1, nodes ++ found.2)) := by
  intro plain mood guard awaits fits steady known
  obtain ⟨rfl, clear⟩ := fits loose
  simp only [Pattern.isSteady, Bool.and_eq_true] at steady
  obtain ⟨⟨steady, steady'⟩, _⟩ := steady
  obtain ⟨between, told, ⟨_, free, kept, graded⟩ | ⟨tight, _⟩⟩ := Pattern.grade_both known
  case inr =>
    rw [loose] at tight
    cases tight
  rw [graded] at known ⊢
  have headKnown : head.grade true plain .awaiting ≠ .unknown := by
    intro lost
    rw [lost] at known
    exact known rfl
  obtain ⟨yield', first', held⟩ := ih plain .awaiting guard awaits fits steady (loose ▸ headKnown)
  have closed : (awaits? (.code .awaiting) source).isSome = true := by rw [awaits]; rfl
  obtain ⟨next, among, same⟩ := first.predicts plain .awaiting between guard told closed
  have unbound : next ≠ .bound := fun bound => free (bound ▸ among)
  rw [same] at awaits
  rw [loose] at held
  rw [mode.clear_of_loose loose] at second ih'
  by_cases empty : dropBlanks false rest = []
  · have hungry : (between.all (· == .awaiting)) = false := by
      rw [Bool.eq_false_iff]
      intro all
      have last : awaits? (.code next) rest = awaits? (.code next) (dropBlanks false rest) :=
        awaits?_dropBlanks unbound false rest
      obtain rfl : next = .awaiting := by simpa using List.all_eq_true.1 all next among
      rw [last, empty] at awaits
      cases awaits
    rw [hungry] at known ⊢
    rw [empty] at second
    rw [loose]
    exact carries_ending opens loose empty first' held second steady' known
  · -- What is left is not nothing, so that the first pattern does not drift.
    have extended : Extends more false (some (rest, nodes)) yield' := by
      cases grade : head.grade true plain .awaiting with
      | kept =>
        rw [grade] at held
        exact held.mono fun _ => rfl
      | adrift =>
        rw [grade] at held
        refine held.resolve_right fun drifts => empty ?_
        rw [drifts.1 rest nodes rfl]
        rfl
      | unknown => exact absurd grade headKnown
    cases extended with | @some _ rest' resumes =>
    obtain ⟨_, begins⟩ := resumes.drop.resolve_right fun both => empty both.1
    obtain ⟨yield', second', extended⟩ := ih'.kept false (by simp)
      (awaits?_restart unbound empty ▸ awaits) (fun _ => ⟨rfl, dropBlanks_dropBlanks false rest⟩)
      steady' (loose ▸ kept)
    refine ⟨_, .ofBoth first' (by rwa [mode.clear_of_loose loose, begins]), Extends.holds ?_ _⟩
    refine (extended.append nodes).mono fun blunt => ?_
    rw [Pattern.isExact, blunt, Bool.false_and]

/-- Two patterns, one behind the other, are matched the same with further statements. -/
theorem carries_both (opens : Opens more)
    (first : Yields mode (.once head) source (some (rest, nodes)))
    (second : Yields mode (.once tail) (mode.clear rest) yield)
    (ih : Carries more mode (.once head) source (some (rest, nodes)))
    (ih' : Carries more mode (.once tail) (mode.clear rest) yield) :
    Carries more mode (.once (.both head tail)) source
      (yield.map fun found => (found.1, nodes ++ found.2)) := by
  cases loose : mode.isLoose with
  | true => exact carries_bothLoose opens loose first second ih ih'
  | false => exact carries_bothTight loose first ih ih'

section Attempts

variable {source' : List Char} {ends : List Mood}

/-- Behind a further match nothing else is asked for than behind the others. -/
theorem Yields.predicts_attempt
    (first : Yields mode (.once inner) (mode.clear source) (some (rest, nodes)))
    (among : mood ∈ ends) (repeated : inner.repeats mode.isLoose ends = true)
    (closed : (awaits? (.code mood) source).isSome = true) :
    ∃ next ∈ ends, awaits? (.code mood) source = awaits? (.code next) rest := by
  -- What is repeated tells its moods again, which are among those told for the end.
  simp only [Pattern.repeats, Bool.and_eq_true, Bool.not_eq_true', Option.any_eq_true,
    List.all_eq_true, List.contains_iff_mem] at repeated
  obtain ⟨free, further, told, kept⟩ := repeated
  obtain ⟨part, given, inside⟩ := spread_mem told among
  have loose : mode.isLoose = true → mood ≠ .bound := by
    rintro loose rfl
    simp [loose, among] at free
  rw [awaits?_clear loose] at closed ⊢
  obtain ⟨next, among', same⟩ := first.predicts false mood part (by simp) given closed
  exact ⟨next, kept next (inside among'), same⟩

/-- A further match is attempted with the same outcome: where the text ends, the attempt is made at
the head of the first further statement. -/
theorem carries_attempt (opens : Opens more)
    (first : Yields mode (.once inner) (mode.clear source) yield)
    (ih : Carries more mode (.once inner) (mode.clear source) yield) (among : mood ∈ ends)
    (repeated : inner.repeats mode.isLoose ends = true)
    (stays : inner.staysKept mode.isLoose ends = true)
    (awaits : awaits? (.code mood) source = some false)
    (steady : (Pattern.many inner).isSteady = true)
    (resumes : Resumes more (inner.isExact mode.isLoose) source source') :
    ∃ yield', Yields mode (.once inner) (mode.clear source') yield' ∧
      Extends more (inner.isExact mode.isLoose) yield yield' := by
  simp only [Pattern.isSteady, Bool.and_eq_true, Bool.not_eq_true'] at steady
  unfold Pattern.staysKept at stays
  -- Where blanks are free the text may end here, and then the attempt is made on what was added.
  cases loose : mode.isLoose with
  | true =>
    rw [loose, if_pos rfl, Bool.and_eq_true, beq_iff_eq] at stays
    simp only [Pattern.repeats, loose, Bool.true_and, Bool.and_eq_true,
      Bool.not_eq_true'] at repeated
    have free : mood ≠ .bound := by
      rintro rfl
      simp [among] at repeated
    rw [mode.clear_of_loose loose] at first ih ⊢
    rcases resumes.drop with ⟨filled, begins⟩ | ⟨empty, begins⟩
    · rw [begins]
      have given := ih.kept false (by simp) (awaits?_restart free filled ▸ awaits)
        (fun _ => ⟨rfl, dropBlanks_dropBlanks false source⟩) steady.1 (loose ▸ stays.2)
      rwa [loose] at given
    · rw [empty] at first
      cases first.unique (yields_nil mode steady.1 steady.2)
      exact ⟨none, begins ▸ opens.refuses steady.1 stays.1 steady.2, .none⟩
  -- Elsewhere the attempt is made at the same place, with the mood kept.
  | false =>
    rw [loose, if_neg (by simp), Bool.and_eq_true, List.all_eq_true] at stays
    rw [loose, stays.1] at resumes
    rw [mode.clear_of_tight loose] at ih ⊢
    rw [resumes.eq]
    have kept : inner.grade mode.isLoose false mood = .kept := by
      rw [loose]
      simpa using stays.2 mood among
    have given := ih.kept false (by simp) awaits (by simp [loose]) steady.1 kept
    rwa [loose] at given

end Attempts

namespace Carries

variable {last : List Char} {others : List Node}

/-- A code point of a class is matched the same with further text. -/
theorem char {kind : CharClass} {c : Char} (holds : kind.holds c = true) :
    Carries more mode (.once (.char kind)) (c :: rest) (some (rest, [])) := by
  intro plain mood _ _ _ _ known
  refine ⟨some (rest ++ '\n' :: more, []), .char holds, ?_⟩
  cases kind with
  | any => exact absurd rfl known
  | _ => exact .some (.line rest) []

/-- Where a code point of a class is refused, it is refused with further text: a line break is in
none of the classes. -/
theorem noChar {kind : CharClass} (other : ∀ c ∈ source.head?, kind.holds c = false) :
    Carries more mode (.once (.char kind)) source none := by
  intro plain mood _ _ _ _ known
  -- At the end of the text the next code point is the line break.
  have other' (line : kind.holds '\n' = false) :
      ∀ c ∈ (source ++ '\n' :: more).head?, kind.holds c = false := by
    cases source with
    | nil => simpa using line
    | cons c source => exact other
  cases kind with
  | any => exact absurd rfl known
  | _ => exact ⟨none, .noChar (other' (by decide)), .none⟩

/-- A fixed text is matched the same with further text. -/
theorem text {word : List Char} (stands : source = word ++ rest) :
    Carries more mode (.once (.text word)) source (some (rest, [])) := by
  intro plain mood _ _ _ _ known
  refine ⟨some (rest ++ '\n' :: more, []), .text ?_, Extends.holds (.some (.line rest) []) _⟩
  rw [stands, List.append_assoc]

/-- Where a fixed text is refused, it is refused with further text. -/
theorem noText {word : List Char} (other : ¬word <+: source) :
    Carries more mode (.once (.text word)) source none := by
  intro plain mood _ _ _ _ known
  have single : word.contains '\n' = false := by
    by_contra double
    exact known (if_pos (by simpa using double))
  exact ⟨none, .noText (not_word_append single other), Extends.none.holds _⟩

/-- The first of two patterns to choose from is matched the same with further statements. -/
theorem left (ih : Carries more mode (.once head) source (some (rest, nodes))) :
    Carries more mode (.once (.either head tail)) source (some (rest, nodes)) := by
  intro plain mood guard awaits fits steady known
  -- The grade is known for both choices, and the first one is taken again.
  have told := Grade.of_known known
  simp only [Bool.and_eq_true, beq_iff_eq] at told
  obtain ⟨yield', first, extended⟩ :=
    ih.kept plain guard awaits fits (Bool.and_eq_true_iff.1 steady).1 told.1
  have blunt : head.isExact mode.isLoose = false →
      (Pattern.either head tail).isExact mode.isLoose = false := by
    intro blunt
    rw [Pattern.isExact, blunt, Bool.false_and]
  cases extended with
  | @some _ rest' resumes =>
    exact ⟨_, .left first, Extends.holds (.some (resumes.mono blunt) nodes) _⟩

/-- The second of two patterns to choose from is matched the same with further statements, as the
first one is refused with them too. -/
theorem right (refused : Yields mode (.once head) source none)
    (ih : Carries more mode (.once head) source none)
    (ih' : Carries more mode (.once tail) source yield) :
    Carries more mode (.once (.either head tail)) source yield := by
  intro plain mood guard awaits fits steady known
  -- The first choice is refused again, so that the second one is tried at the same place.
  have told := Grade.of_known known
  simp only [Bool.and_eq_true, beq_iff_eq] at told
  obtain ⟨steady, steady'⟩ := Bool.and_eq_true_iff.1 steady
  obtain ⟨_, first, extended⟩ := ih.kept plain guard awaits fits steady told.1
  cases extended
  have closed : (awaits? (.code mood) source).isSome = true := by rw [awaits]; rfl
  obtain ⟨yield', second, extended⟩ := ih'.kept _ (not_marks_of_refused refused guard closed)
    awaits fits steady' told.2
  refine ⟨yield', .right first second, Extends.holds (extended.mono fun blunt => ?_) _⟩
  rw [Pattern.isExact, blunt, Bool.and_false]

/-- A pattern that is present, though it may be missing, is matched the same. -/
theorem present (ih : Carries more mode (.once inner) source (some (rest, nodes))) :
    Carries more mode (.once (.optional inner)) source (some (rest, nodes)) := by
  intro plain mood guard awaits fits steady known
  have kept : inner.grade mode.isLoose plain mood = .kept := by simpa using Grade.of_known known
  obtain ⟨_, first, extended⟩ := ih.kept plain guard awaits fits steady kept
  cases extended with
  | some resumes nodes => exact ⟨_, .present first, Extends.holds (.some resumes _) _⟩

/-- A pattern that is missing is missing with further statements too. -/
theorem missing (ih : Carries more mode (.once inner) source none) :
    Carries more mode (.once (.optional inner)) source (some (source, [])) := by
  intro plain mood guard awaits fits steady known
  have kept : inner.grade mode.isLoose plain mood = .kept := by simpa using Grade.of_known known
  obtain ⟨_, first, extended⟩ := ih.kept plain guard awaits fits steady kept
  cases extended
  exact ⟨_, .missing first, Extends.holds (.some (.line _) []) _⟩

/-- Repetitions are matched the same with further statements. -/
theorem many (first : Yields mode (.once inner) source (some (rest, nodes)))
    (ih : Carries more mode (.once inner) source (some (rest, nodes)))
    (ih' : Carries more mode (.again inner) rest (some (last, others))) :
    Carries more mode (.once (.many inner)) source (some (last, nodes ++ others)) := by
  intro plain mood guard awaits fits steady known
  -- The first match is told by the grade, and the rest in one of the moods told for its end.
  obtain ⟨ends, told, kept, repeated, stays⟩ := Pattern.grade_many known
  have closed : (awaits? (.code mood) source).isSome = true := by rw [awaits]; rfl
  obtain ⟨_, first', extended⟩ :=
    ih.kept plain guard awaits fits (Bool.and_eq_true_iff.1 steady).1 kept
  cases extended with | @some _ rest' resumes =>
  obtain ⟨next, among, same⟩ := first.predicts plain mood ends guard told closed
  obtain ⟨_, later, extended⟩ :=
    ih' next ends rest' among repeated stays (same ▸ awaits) steady resumes
  cases extended with
  | some resumes => exact ⟨_, .many first' later, Extends.holds (.some resumes _) _⟩

/-- Where nothing is repeated, nothing is with further statements. -/
theorem noMany (ih : Carries more mode (.once inner) source none) :
    Carries more mode (.once (.many inner)) source (some (source, [])) := by
  intro plain mood guard awaits fits steady known
  obtain ⟨ends, _, kept, _⟩ := Pattern.grade_many known
  -- What fails at once fails on the longer text too, and the repetition ends there.
  obtain ⟨_, first, extended⟩ :=
    ih.kept plain guard awaits fits (Bool.and_eq_true_iff.1 steady).1 kept
  cases extended
  exact ⟨_, .noMany first, Extends.holds (.some (.line _) []) _⟩

/-- A pattern that must not stand there does not with further statements. -/
theorem absent (ih : Carries more mode (.once inner) source none) :
    Carries more mode (.once (.absent inner)) source (some (source, [])) := by
  intro plain mood guard awaits fits steady known
  have kept : inner.grade mode.isLoose plain mood = .kept := by simpa using Grade.of_known known
  obtain ⟨_, first, extended⟩ := ih.kept plain guard awaits fits steady kept
  cases extended
  exact ⟨_, .absent first, Extends.holds (.some (.line _) []) _⟩

/-- A pattern that must not stand there but does is refused with further statements too. -/
theorem notAbsent (ih : Carries more mode (.once inner) source (some (rest, nodes))) :
    Carries more mode (.once (.absent inner)) source none := by
  intro plain mood guard awaits fits steady known
  have kept : inner.grade mode.isLoose plain mood = .kept := by simpa using Grade.of_known known
  obtain ⟨_, first, extended⟩ := ih.kept plain guard awaits fits steady kept
  cases extended with
  | some resumes nodes => exact ⟨_, .notAbsent first, Extends.none.holds _⟩

/-- A further repetition and more of them are matched the same with further statements. -/
theorem step (opens : Opens more)
    (first : Yields mode (.once inner) (mode.clear source) (some (rest, nodes)))
    (ih : Carries more mode (.once inner) (mode.clear source) (some (rest, nodes)))
    (ih' : Carries more mode (.again inner) rest (some (last, others))) :
    Carries more mode (.again inner) source (some (last, nodes ++ others)) := by
  intro mood ends source' among repeated stays awaits steady resumes
  -- The attempt succeeds as before, and the later ones begin where it ends now.
  obtain ⟨_, first', extended⟩ :=
    carries_attempt opens first ih among repeated stays awaits steady resumes
  cases extended with | @some _ rest' resumes =>
  obtain ⟨next, among', same⟩ := first.predicts_attempt among repeated (by rw [awaits]; rfl)
  obtain ⟨_, later, extended⟩ :=
    ih' next ends rest' among' repeated stays (same ▸ awaits) steady resumes
  cases extended with
  | some resumes => exact ⟨_, .step first' later, .some resumes _⟩

/-- Where repetitions stop, they stop with further statements. -/
theorem stop (opens : Opens more) (first : Yields mode (.once inner) (mode.clear source) none)
    (ih : Carries more mode (.once inner) (mode.clear source) none) :
    Carries more mode (.again inner) source (some (source, [])) := by
  intro mood ends source' among repeated stays awaits steady resumes
  obtain ⟨_, first', extended⟩ :=
    carries_attempt opens first ih among repeated stays awaits steady resumes
  cases extended
  exact ⟨_, .stop first', .some resumes []⟩

end Carries

/-- What a text yields stays the same with further statements if the grammar tells that it does. -/
theorem Yields.carries (opens : Opens more) (yields : Yields mode demand source yield) :
    Carries more mode demand source yield := by
  -- The cases are those of the derivation, with one lemma for each.
  induction yields with
  | finish | more => exact fun plain mood _ _ _ _ known => absurd rfl known
  | char holds => exact .char holds
  | noChar other => exact .noChar other
  | text stands => exact .text stands
  | noText other => exact .noText other
  | rule inside ih => exact carries_rule inside ih
  | noRule inside ih => exact carries_rule inside ih
  | both first second ih ih' => exact carries_both opens first second ih ih'
  | noFirst _ ih => exact carries_noFirst ih
  | noSecond first second ih ih' => exact carries_both opens first second ih ih'
  | left _ ih => exact .left ih
  | right refused _ ih ih' => exact .right refused ih ih'
  | present _ ih => exact .present ih
  | missing _ ih => exact .missing ih
  | many first _ ih ih' => exact .many first ih ih'
  | noMany _ ih => exact .noMany ih
  | absent _ ih => exact .absent ih
  | notAbsent _ ih => exact .notAbsent ih
  | step first _ ih ih' => exact .step opens first ih ih'
  | stop first ih => exact .stop opens first ih

end Extension

end Reshape.Grammar
