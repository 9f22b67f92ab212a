import Reshape.Grammar.Match

/-!
Progress of a match: what it leaves of a source, and that the steps which a source is given are
enough. A pattern that is tried again without anything between has to have passed something, so the
number of nested steps is bounded by the height of the pattern and the length of the source.
-/

namespace Reshape.Grammar

/-- A text stands between two places. -/
structure Passes (text : List Char) (cursor after : Cursor) : Prop where
  rest : cursor.rest = text ++ after.rest
  index : after.index = cursor.index + text.length
  line : after.line = cursor.line + text.count '\n'

namespace Passes

variable {text more : List Char} {cursor after last : Cursor}

/-- Nothing stands between a place and itself. -/
theorem refl (cursor : Cursor) : Passes [] cursor cursor := ⟨rfl, rfl, rfl⟩

/-- Texts between places stand one after the other. -/
theorem trans (first : Passes text cursor after) (second : Passes more after last) :
    Passes (text ++ more) cursor last where
  rest := by rw [first.rest, second.rest, List.append_assoc]
  index := by rw [second.index, first.index, List.length_append, Nat.add_assoc]
  line := by rw [second.line, first.line, List.count_append, Nat.add_assoc]

/-- A code point stands between a place and the place after it. -/
theorem past {c : Char} {rest : List Char} (stands : cursor.rest = c :: rest) :
    Passes [c] cursor (cursor.past c rest) := by
  refine ⟨stands, rfl, ?_⟩
  by_cases ends : c = '\n' <;> simp [Cursor.past, ends]

/-- A text that stands at a place stands before the place after it. -/
theorem ofText (given : cursor.pastText? text = some after) : Passes text cursor after := by
  -- The place moves on past each code point, so it stays quantified over.
  induction text generalizing cursor with
  | nil =>
    obtain rfl := Option.some.inj given
    exact refl cursor
  | cons expected text ih =>
    unfold Cursor.pastText? at given
    split at given
    next c rest stands =>
      split at given
      next same => exact same ▸ (past stands).trans (ih given)
      next => cases given
    next => cases given

/-- Only blanks are skipped. -/
theorem skipBlanks (inComment : Bool) (cursor : Cursor) :
    ∃ text, Passes text cursor (skipBlanks inComment cursor cursor.rest) := by
  generalize stands : cursor.rest = rest
  induction rest generalizing inComment cursor with
  | nil => exact ⟨[], refl cursor⟩
  | cons c rest ih =>
    have further (inside : Bool) :
        ∃ text, Passes text cursor (Grammar.skipBlanks inside (cursor.past c rest) rest) := by
      obtain ⟨text, passed⟩ := ih inside (cursor.past c rest) rfl
      exact ⟨_, (past stands).trans passed⟩
    -- A comment ends with its line; anything that is no blank ends the skipping.
    unfold Grammar.skipBlanks
    split
    · exact further _
    · split
      · exact further false
      · split
        · exact further true
        · exact ⟨[], refl cursor⟩

/-- Only blanks are skipped in any mode. -/
theorem skip (mode : Mode) (cursor : Cursor) : ∃ text, Passes text cursor (mode.skip cursor) := by
  unfold Mode.skip
  split
  · exact skipBlanks false cursor
  · exact ⟨[], refl cursor⟩

/-- What is left is not longer than what was there. -/
theorem length_le (passed : Passes text cursor after) : after.rest.length ≤ cursor.rest.length := by
  rw [passed.rest, List.length_append]
  omega

end Passes

/-- Whether a rule can match nothing. -/
def Rule.isEmptiable : Rule → Bool
  | .endOfInput | .mapping | .stringInner | .rawInner => true
  | _ => false

/-- A bound for the nested steps that a rule takes before anything is passed. -/
def Rule.height : Rule → Nat
  -- A rule stands above all those that it can begin with.
  | .mapping | .query => 168
  | .letStatement | .metaStatement | .assignStatement | .objectEntry | .matchCase => 144
  | .expr | .assignTarget => 120
  | .ifExpr | .targetHead => 72
  | .ifBranch | .elseIf | .elseBlock | .matchExpr | .functionCall | .namedArgument | .lambda
  | .rootReference | .thisReference | .barePath => 48
  | _ => 24

namespace Pattern

/-- Whether a pattern can match nothing. -/
def isEmptiable : Pattern → Bool
  | .finish => true
  | .char _ => false
  | .text word => word.isEmpty
  | .rule named => named.isEmptiable
  | .both first second => first.isEmptiable && second.isEmptiable
  | .either first second => first.isEmptiable || second.isEmptiable
  | .optional _ | .many _ | .absent _ => true

/-- A bound for the nested steps that a pattern takes before anything is passed. -/
def height : Pattern → Nat
  | .finish | .char _ | .text _ => 1
  | .rule named => named.height + 1
  | .both first second => max first.height (if first.isEmptiable then second.height else 0) + 1
  | .either first second => max first.height second.height + 1
  | .optional inner | .absent inner => inner.height + 1
  | .many inner => inner.height + 2

/-- Whether each repetition in a pattern passes something, and all that comes after something is
lower than the steps that one code point allows. -/
def isSteady : Pattern → Bool
  | .finish | .char _ | .text _ | .rule _ => true
  | .both first second => first.isSteady && second.isSteady && decide (second.height ≤ 256)
  | .either first second => first.isSteady && second.isSteady
  | .optional inner | .absent inner => inner.isSteady
  | .many inner => inner.isSteady && !inner.isEmptiable

end Pattern

/-- What is told of a rule is true of its pattern. -/
theorem Rule.steady (rule : Rule) :
    rule.definition.pattern.isSteady = true ∧
      (rule.definition.pattern.isEmptiable = true → rule.isEmptiable = true) ∧
      rule.definition.pattern.height ≤ rule.height := by
  cases rule <;> decide

namespace Outcome

variable {property property' : Cursor → Prop} {outcome : Outcome}

/-- A match, if there is one, ends at a place with a property. -/
def EndsAt (property : Cursor → Prop) : Outcome → Prop
  | .matched after _ _ => property after
  | .failed _ | .exhausted => True

/-- Matches end at places with a weaker property as well. -/
theorem EndsAt.imp (ends : outcome.EndsAt property)
    (weaker : ∀ after, property after → property' after) : outcome.EndsAt property' := by
  cases outcome with
  | matched after nodes attempts => exact weaker after ends
  | failed attempts => trivial
  | exhausted => trivial

/-- A rule ends where its pattern does. -/
theorem EndsAt.ofRule (ends : outcome.EndsAt property) (rule : Rule) (mode : Mode) (start : Cursor)
    (before : Nat) : (outcome.ofRule rule mode start before).EndsAt property := by
  -- Taking the nodes together as one of the rule does not move the end.
  cases outcome with
  | matched after nodes attempts =>
    by_cases leaf : mode.isLeaf = true <;> simpa [Outcome.ofRule, leaf, EndsAt] using ends
  | failed attempts =>
    by_cases counts : (mode.isTracked && !mode.isLeaf) = true <;>
      simp [Outcome.ofRule, counts, EndsAt]
  | exhausted => trivial

/-- A rule has an outcome if its pattern has one. -/
theorem ofRule_ne_exhausted (given : outcome ≠ .exhausted) (rule : Rule) (mode : Mode)
    (start : Cursor) (before : Nat) : outcome.ofRule rule mode start before ≠ .exhausted := by
  -- Counting attempts and taking nodes together does not exhaust the steps.
  cases outcome with
  | matched after nodes attempts =>
    by_cases leaf : mode.isLeaf = true <;> simp [Outcome.ofRule, leaf]
  | failed attempts =>
    by_cases counts : (mode.isTracked && !mode.isLeaf) = true <;> simp [Outcome.ofRule, counts]
  | exhausted => exact absurd rfl given

end Outcome

/-- With so many steps, each match of a pattern passes a text, which is not empty unless the pattern
can match nothing. -/
def Advances (steps : Nat) (pattern : Pattern) : Prop :=
  ∀ mode cursor attempts, (run steps mode pattern cursor attempts).EndsAt fun after =>
    ∃ text, Passes text cursor after ∧ (text = [] → pattern.isEmptiable = true)

/-- With so many steps, further repetitions of a pattern pass a text. -/
def AdvancesMore (steps : Nat) (inner : Pattern) : Prop :=
  ∀ mode cursor found attempts, (runMore steps mode inner cursor found attempts).EndsAt fun after =>
    ∃ text, Passes text cursor after

namespace Advances

variable {steps : Nat} {head tail inner : Pattern}

/-- The end of a text. -/
theorem finish : Advances (steps + 1) .finish := by
  intro mode cursor attempts
  rw [run_succ_finish]
  split
  next => exact ⟨[], .refl cursor, fun _ => rfl⟩
  next => trivial

/-- A code point of a class. -/
theorem char (kind : CharClass) : Advances (steps + 1) (.char kind) := by
  intro mode cursor attempts
  rw [run_succ_char]
  split
  next c rest stands =>
    split
    next => exact ⟨[c], .past stands, fun empty => by cases empty⟩
    next => trivial
  next => trivial

/-- A fixed text. -/
theorem text (word : List Char) : Advances (steps + 1) (.text word) := by
  intro mode cursor attempts
  rw [run_succ_text]
  split
  next after given => exact ⟨word, .ofText given, List.isEmpty_iff.2⟩
  next => trivial

/-- A rule. -/
theorem rule {named : Rule} (inside : Advances steps named.definition.pattern) :
    Advances (steps + 1) (.rule named) := by
  intro mode cursor attempts
  rw [run_succ_rule]
  refine Outcome.EndsAt.ofRule ?_ _ _ _ _
  -- The rule ends where its pattern does, and matches nothing only if that can.
  refine (inside _ cursor attempts).imp ?_
  rintro after ⟨text, passed, filled⟩
  exact ⟨text, passed, fun empty => named.steady.2.1 (filled empty)⟩

/-- One pattern and then another one. -/
theorem both (first : Advances steps head) (second : Advances steps tail) :
    Advances (steps + 1) (.both head tail) := by
  intro mode cursor attempts
  replace first := first mode cursor attempts
  rw [run_succ_both]
  generalize run steps mode head cursor attempts = outcome at first ⊢
  cases outcome with
  | matched between nodes attempts =>
    obtain ⟨text, passed, filled⟩ := first
    -- What the second pattern passes comes behind the blanks that are skipped after the first.
    obtain ⟨blanks, skipped⟩ := Passes.skip mode between
    replace second := second mode (mode.skip between) attempts
    dsimp only
    generalize run steps mode tail (mode.skip between) attempts = outcome at second ⊢
    cases outcome with
    | matched after more attempts =>
      obtain ⟨text', passed', filled'⟩ := second
      refine ⟨_, (passed.trans skipped).trans passed', fun empty => ?_⟩
      obtain ⟨empty, empty'⟩ := List.append_eq_nil_iff.1 empty
      have empty := (List.append_eq_nil_iff.1 empty).1
      exact Bool.and_eq_true_iff.2 ⟨filled empty, filled' empty'⟩
    | failed attempts => trivial
    | exhausted => trivial
  | failed attempts => trivial
  | exhausted => trivial

/-- One pattern, or else another one. -/
theorem either (first : Advances steps head) (second : Advances steps tail) :
    Advances (steps + 1) (.either head tail) := by
  intro mode cursor attempts
  replace first := first mode cursor attempts
  rw [run_succ_either]
  generalize run steps mode head cursor attempts = outcome at first ⊢
  cases outcome with
  | matched after nodes attempts =>
    obtain ⟨text, passed, filled⟩ := first
    exact ⟨text, passed, fun empty => Bool.or_eq_true_iff.2 (.inl (filled empty))⟩
  | failed attempts =>
    -- The second pattern is tried at the same place.
    refine (second mode cursor attempts).imp ?_
    rintro after ⟨text, passed, filled⟩
    exact ⟨text, passed, fun empty => Bool.or_eq_true_iff.2 (.inr (filled empty))⟩
  | exhausted => trivial

/-- A pattern that may be missing. -/
theorem optional (first : Advances steps inner) : Advances (steps + 1) (.optional inner) := by
  intro mode cursor attempts
  replace first := first mode cursor attempts
  rw [run_succ_optional]
  generalize run steps mode inner cursor attempts = outcome at first ⊢
  cases outcome with
  | matched after nodes attempts =>
    obtain ⟨text, passed, _⟩ := first
    exact ⟨text, passed, fun _ => rfl⟩
  | failed attempts => exact ⟨[], .refl cursor, fun _ => rfl⟩
  | exhausted => trivial

/-- A pattern any number of times. -/
theorem many (first : Advances steps inner) (later : AdvancesMore steps inner) :
    Advances (steps + 1) (.many inner) := by
  intro mode cursor attempts
  replace first := first mode cursor attempts
  rw [run_succ_many]
  generalize run steps mode inner cursor attempts = outcome at first ⊢
  cases outcome with
  | matched between nodes attempts =>
    obtain ⟨text, passed, _⟩ := first
    refine (later mode between nodes.reverse attempts).imp ?_
    rintro after ⟨text', passed'⟩
    exact ⟨_, passed.trans passed', fun _ => rfl⟩
  | failed attempts => exact ⟨[], .refl cursor, fun _ => rfl⟩
  | exhausted => trivial

/-- A pattern that must not stand there passes nothing. -/
theorem absent : Advances (steps + 1) (.absent inner) := by
  intro mode cursor attempts
  rw [run_succ_absent]
  split
  next => trivial
  next => exact ⟨[], .refl cursor, fun _ => rfl⟩
  next => trivial

/-- One more repetition of a pattern, and further ones. -/
theorem more (first : Advances steps inner) (later : AdvancesMore steps inner) :
    AdvancesMore (steps + 1) inner := by
  intro mode cursor found attempts
  obtain ⟨blanks, skipped⟩ := Passes.skip mode cursor
  replace first := first mode (mode.skip cursor) attempts
  rw [runMore_succ]
  -- A round that matches hands the repetition on from where it ends; one that fails ends it.
  generalize run steps mode inner (mode.skip cursor) attempts = outcome at first ⊢
  cases outcome with
  | matched between nodes attempts =>
    obtain ⟨text, passed, _⟩ := first
    refine (later mode between (nodes.reverse ++ found) attempts).imp ?_
    rintro after ⟨text', passed'⟩
    exact ⟨_, (skipped.trans passed).trans passed'⟩
  | failed attempts => exact ⟨[], .refl cursor⟩
  | exhausted => trivial

/-- Matches pass texts, at once and by further repetitions. -/
theorem all (steps : Nat) :
    (∀ pattern, Advances steps pattern) ∧ ∀ inner, AdvancesMore steps inner := by
  -- Each step of the matcher has one step less for what stands inside.
  induction steps with
  | zero => exact ⟨fun _ _ _ _ => trivial, fun _ _ _ _ _ => trivial⟩
  | succ steps ih =>
    obtain ⟨once, again⟩ := ih
    refine ⟨fun pattern => ?_, fun inner => more (once inner) (again inner)⟩
    cases pattern with
    | finish => exact finish
    | char kind => exact char kind
    | text word => exact text word
    | rule named => exact rule (once _)
    | both head tail => exact both (once head) (once tail)
    | either head tail => exact either (once head) (once tail)
    | optional inner => exact optional (once inner)
    | many inner => exact many (once inner) (again inner)
    | absent inner => exact absent

end Advances

/-- A match passes a text, which is not empty unless the pattern can match nothing. -/
theorem run_passes (steps : Nat) (mode : Mode) (pattern : Pattern) (cursor : Cursor)
    (attempts : Attempts) :
    (run steps mode pattern cursor attempts).EndsAt fun after =>
      ∃ text, Passes text cursor after ∧ (text = [] → pattern.isEmptiable = true) :=
  (Advances.all steps).1 pattern mode cursor attempts

/-- A pattern has an outcome if it is given the steps of its height, and 256 for each code point
that is left. -/
def Concludes (steps : Nat) (pattern : Pattern) : Prop :=
  ∀ mode cursor attempts, pattern.height + 256 * cursor.rest.length ≤ steps →
    run steps mode pattern cursor attempts ≠ .exhausted

/-- Further repetitions of a pattern have an outcome with one step more. -/
def ConcludesMore (steps : Nat) (inner : Pattern) : Prop :=
  ∀ mode cursor found attempts, inner.height + 1 + 256 * cursor.rest.length ≤ steps →
    runMore steps mode inner cursor found attempts ≠ .exhausted

namespace Concludes

variable {steps : Nat} {head tail inner : Pattern}

/-- The end of a text. -/
theorem finish : Concludes (steps + 1) .finish := by
  intro mode cursor attempts _
  rw [run_succ_finish]
  split <;> simp

/-- A code point of a class. -/
theorem char (kind : CharClass) : Concludes (steps + 1) (.char kind) := by
  intro mode cursor attempts _
  rw [run_succ_char]
  split
  next => split <;> simp
  next => simp

/-- A fixed text. -/
theorem text (word : List Char) : Concludes (steps + 1) (.text word) := by
  intro mode cursor attempts _
  rw [run_succ_text]
  split <;> simp

/-- A rule, which is no lower than its pattern. -/
theorem rule {named : Rule} (inside : Concludes steps named.definition.pattern) :
    Concludes (steps + 1) (.rule named) := by
  intro mode cursor attempts enough
  have height : named.definition.pattern.height ≤ named.height := named.steady.2.2
  change named.height + 1 + 256 * cursor.rest.length ≤ steps + 1 at enough
  rw [run_succ_rule]
  refine Outcome.ofRule_ne_exhausted ?_ _ _ _ _
  exact inside _ cursor attempts (by omega)

/-- One pattern and then another one, which is lower than the steps that one code point allows. -/
theorem both (first : Concludes steps head) (second : Concludes steps tail)
    (low : tail.height ≤ 256) : Concludes (steps + 1) (.both head tail) := by
  intro mode cursor attempts enough
  change max head.height (if head.isEmptiable then tail.height else 0) + 1 +
    256 * cursor.rest.length ≤ steps + 1 at enough
  have ended := first mode cursor attempts (by omega)
  have passes := run_passes steps mode head cursor attempts
  rw [run_succ_both]
  generalize run steps mode head cursor attempts = outcome at passes ended ⊢
  cases outcome with
  | matched between nodes attempts =>
    obtain ⟨text, passed, filled⟩ := passes
    obtain ⟨blanks, skipped⟩ := Passes.skip mode between
    have length : cursor.rest.length = text.length + between.rest.length := by simp [passed.rest]
    have left := skipped.length_le
    -- Either something has been passed, or the height of the second pattern counts.
    have enough : tail.height + 256 * (mode.skip between).rest.length ≤ steps := by
      cases text with
      | nil =>
        simp only [filled rfl, if_true, List.length_nil] at enough length
        omega
      | cons c text =>
        simp only [List.length_cons] at length
        omega
    have ended' := second mode (mode.skip between) attempts enough
    dsimp only
    generalize run steps mode tail (mode.skip between) attempts = outcome at ended' ⊢
    cases outcome with
    | matched _ _ _ => simp
    | failed _ => simp
    | exhausted => exact absurd rfl ended'
  | failed _ => simp
  | exhausted => exact absurd rfl ended

/-- One pattern, or else another one. -/
theorem either (first : Concludes steps head) (second : Concludes steps tail) :
    Concludes (steps + 1) (.either head tail) := by
  intro mode cursor attempts enough
  change max head.height tail.height + 1 + 256 * cursor.rest.length ≤ steps + 1 at enough
  have ended := first mode cursor attempts (by omega)
  rw [run_succ_either]
  generalize run steps mode head cursor attempts = outcome at ended ⊢
  cases outcome with
  | matched _ _ _ => simp
  | failed attempts => exact second mode cursor attempts (by omega)
  | exhausted => exact absurd rfl ended

/-- A pattern that may be missing. -/
theorem optional (first : Concludes steps inner) : Concludes (steps + 1) (.optional inner) := by
  intro mode cursor attempts enough
  change inner.height + 1 + 256 * cursor.rest.length ≤ steps + 1 at enough
  have ended := first mode cursor attempts (by omega)
  rw [run_succ_optional]
  generalize run steps mode inner cursor attempts = outcome at ended ⊢
  cases outcome with
  | matched _ _ _ => simp
  | failed _ => simp
  | exhausted => exact absurd rfl ended

/-- A pattern any number of times. -/
theorem many (first : Concludes steps inner) (later : ConcludesMore steps inner) :
    Concludes (steps + 1) (.many inner) := by
  intro mode cursor attempts enough
  change inner.height + 2 + 256 * cursor.rest.length ≤ steps + 1 at enough
  have ended := first mode cursor attempts (by omega)
  have passes := run_passes steps mode inner cursor attempts
  rw [run_succ_many]
  generalize run steps mode inner cursor attempts = outcome at passes ended ⊢
  cases outcome with
  | matched between nodes attempts =>
    obtain ⟨text, passed, _⟩ := passes
    -- The place has not moved back, so that the steps for the rest are still enough.
    have left := passed.length_le
    exact later mode between nodes.reverse attempts (by omega)
  | failed _ => simp
  | exhausted => exact absurd rfl ended

/-- A pattern that must not stand there, which is tried in another mode. -/
theorem absent (first : Concludes steps inner) : Concludes (steps + 1) (.absent inner) := by
  intro mode cursor attempts enough
  change inner.height + 1 + 256 * cursor.rest.length ≤ steps + 1 at enough
  have ended := first { mode with isTracked := false } cursor attempts (by omega)
  rw [run_succ_absent]
  generalize run steps { mode with isTracked := false } inner cursor attempts = outcome at ended ⊢
  cases outcome with
  | matched _ _ _ => simp
  | failed _ => simp
  | exhausted => exact absurd rfl ended

/-- One more repetition of a pattern that cannot match nothing, and further ones. -/
theorem more (filled : inner.isEmptiable = false) (first : Concludes steps inner)
    (later : ConcludesMore steps inner) : ConcludesMore (steps + 1) inner := by
  intro mode cursor found attempts enough
  obtain ⟨blanks, skipped⟩ := Passes.skip mode cursor
  have left := skipped.length_le
  have ended := first mode (mode.skip cursor) attempts (by omega)
  have passes := run_passes steps mode inner (mode.skip cursor) attempts
  rw [runMore_succ]
  generalize run steps mode inner (mode.skip cursor) attempts = outcome at passes ended ⊢
  cases outcome with
  | matched between nodes attempts =>
    obtain ⟨text, passed, empty⟩ := passes
    -- The steps for what has been passed pay for the next repetition.
    have shorter : between.rest.length < cursor.rest.length := by
      cases text with
      | nil => simp [empty rfl] at filled
      | cons c text =>
        have length := congrArg List.length passed.rest
        simp only [List.length_append, List.length_cons] at length
        omega
    exact later mode between _ attempts (by omega)
  | failed _ => simp
  | exhausted => exact absurd rfl ended

/-- Steady patterns have an outcome, at once and by further repetitions. -/
theorem all (steps : Nat) :
    (∀ {pattern : Pattern}, pattern.isSteady = true → Concludes steps pattern) ∧
      ∀ {inner : Pattern}, inner.isSteady = true → inner.isEmptiable = false →
        ConcludesMore steps inner := by
  -- A pattern inside another one is lower, which pays for the step that it takes.
  induction steps with
  | zero =>
    refine ⟨fun {pattern} _ _ _ _ enough => ?_, fun _ _ _ _ _ _ enough => by omega⟩
    cases pattern <;> simp [Pattern.height] at enough
  | succ steps ih =>
    obtain ⟨once, again⟩ := ih
    refine ⟨fun {pattern} steady => ?_,
      fun steady filled => more filled (once steady) (again steady filled)⟩
    cases pattern with
    | finish => exact finish
    | char kind => exact char kind
    | text word => exact text word
    | rule named => exact rule (once named.steady.1)
    | both head tail =>
      obtain ⟨parts, low⟩ := Bool.and_eq_true_iff.1 steady
      obtain ⟨first, second⟩ := Bool.and_eq_true_iff.1 parts
      exact both (once first) (once second) (of_decide_eq_true low)
    | either head tail =>
      obtain ⟨first, second⟩ := Bool.and_eq_true_iff.1 steady
      exact either (once first) (once second)
    | optional inner => exact optional (once steady)
    | many inner =>
      obtain ⟨first, filled⟩ := Bool.and_eq_true_iff.1 steady
      exact many (once first) (again first (Bool.not_eq_true' _ ▸ filled))
    | absent inner => exact absent (once steady)

end Concludes

/-- A steady pattern has an outcome if it is given the steps of its height, and 256 for each code
point that is left. -/
theorem run_ne_exhausted (steps : Nat) (mode : Mode) {pattern : Pattern}
    (steady : pattern.isSteady = true) (cursor : Cursor) (attempts : Attempts)
    (enough : pattern.height + 256 * cursor.rest.length ≤ steps) :
    run steps mode pattern cursor attempts ≠ .exhausted :=
  (Concludes.all steps).1 steady mode cursor attempts enough

/-- The steps that a source is given are enough to match it against any rule. -/
theorem matchSource_ne_exhausted (rule : Rule) (source : List Char) :
    matchSource rule source ≠ .exhausted := by
  have low : rule.height ≤ 168 := by cases rule <;> decide
  -- The steps for two more code points are enough for the highest rule.
  refine run_ne_exhausted _ _ rfl _ _ ?_
  simp only [Pattern.height, Cursor.start, stepLimit]
  omega

end Reshape.Grammar
