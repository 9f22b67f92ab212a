import Reshape.Proofs.Grammar.Reads

/-!
What the first code points of a source tell: patterns that they rule out, and patterns that can
match nothing but the empty text before them.
-/

namespace Reshape.Grammar

/-- What the beginning of a source tells of a pattern. -/
inductive Verdict where
  | refused
  /-- The pattern matches the empty text, or does not match. -/
  | idle
  | unknown
  deriving DecidableEq, Repr

namespace Verdict

/-- The verdict on two patterns of which the second is tried where the first does not match. -/
def either : Verdict → Verdict → Verdict
  | .refused, second => second
  | .idle, .refused | .idle, .idle => .idle
  | _, _ => .unknown

/-- The verdict on one pattern after the other. -/
def both : Verdict → Verdict → Verdict
  | .refused, _ => .refused
  | .idle, second => second
  | .unknown, _ => .unknown

/-- The verdict on a pattern that may be missing. -/
def optional : Verdict → Verdict
  | .refused => .idle
  | _ => .unknown

end Verdict

/-- The verdict on a pattern if a source begins with known code points, by a number of nested
steps. -/
def Pattern.verdict : Nat → List Char → Pattern → Verdict
  | 0, _, _ => .unknown
  | steps + 1, known, pattern =>
    match pattern with
    | .finish => if known.isEmpty then .unknown else .refused
    | .char kind =>
      match known with
      | [] => .unknown
      | c :: _ => if kind.holds c then .unknown else .refused
    | .text word =>
      -- A word that goes on behind the known beginning may stand there or not.
      if word.isEmpty then .idle
      else if word.isPrefixOf known || known.isPrefixOf word then .unknown else .refused
    | .rule named => verdict steps known named.definition.pattern
    | .both head tail => (verdict steps known head).both (verdict steps known tail)
    | .either head tail => (verdict steps known head).either (verdict steps known tail)
    | .optional inner | .many inner => (verdict steps known inner).optional
    -- A check passes nothing, so that it does not matter what it looks for.
    | .absent _ => .idle

/-- A match of a pattern on a source, if there is one, leaves the source as it is. -/
def Idles (mode : Mode) (pattern : Pattern) (source : List Char) : Prop :=
  ∀ steps isTracked (cursor : Cursor) attempts, cursor.rest = source →
    (run steps { mode with isTracked } pattern cursor attempts).EndsAt fun after =>
      after.rest = source

section Laws

variable {mode : Mode} {head tail inner : Pattern} {source : List Char}

namespace Idles

/-- It is enough to look at attempts for which there is a step. -/
theorem ofStep {pattern : Pattern} (idles : ∀ steps isTracked (cursor : Cursor) attempts,
      cursor.rest = source →
        (run (steps + 1) { mode with isTracked } pattern cursor attempts).EndsAt fun after =>
          after.rest = source) :
    Idles mode pattern source := by
  intro steps isTracked cursor attempts stands
  cases steps with
  | zero => trivial
  | succ steps => exact idles steps isTracked cursor attempts stands

/-- What is refused has no match. -/
theorem ofRefuses (refuses : Refuses mode inner source) : Idles mode inner source :=
  fun steps isTracked cursor attempts stands =>
    (refuses steps isTracked cursor attempts stands).elim (fun _ => trivial) trivial

/-- The empty text. -/
theorem empty : Idles mode (.text []) source :=
  ofStep fun _ _ _ _ stands => stands

/-- A rule whose pattern idles. -/
theorem rule (named : Rule) (idles : Idles (mode.inside named.definition.treatment)
      named.definition.pattern source) : Idles mode (.rule named) source := by
  refine ofStep fun steps isTracked cursor attempts stands => ?_
  rw [run_succ_rule]
  rw [Mode.inside_tracked]
  exact (idles steps isTracked cursor attempts stands).ofRule _ _ _ _

/-- Of two patterns that idle, the one that is tried does. -/
theorem either (idles : Idles mode head source) (idles' : Idles mode tail source) :
    Idles mode (.either head tail) source := by
  -- The first one ends where it started or fails, and then the second one is tried there.
  refine ofStep fun steps isTracked cursor attempts stands => ?_
  have first := idles steps isTracked cursor attempts stands
  rw [run_succ_either]
  generalize run steps { mode with isTracked } head cursor attempts = outcome at first ⊢
  cases outcome with
  | matched after nodes attempts => exact first
  | failed attempts => exact idles' steps isTracked cursor attempts stands
  | exhausted => trivial

/-- What is refused may be missing. -/
theorem optional (refuses : Refuses mode inner source) :
    Idles mode (.optional inner) source := by
  refine ofStep fun steps isTracked cursor attempts stands => ?_
  rw [run_succ_optional]
  exact (refuses steps isTracked cursor attempts stands).elim (fun _ => stands) trivial

/-- What is refused is not repeated. -/
theorem many (refuses : Refuses mode inner source) : Idles mode (.many inner) source := by
  refine ofStep fun steps isTracked cursor attempts stands => ?_
  rw [run_succ_many]
  exact (refuses steps isTracked cursor attempts stands).elim (fun _ => stands) trivial

/-- Nothing is passed by what must not stand somewhere. -/
theorem absent : Idles mode (.absent inner) source := by
  refine ofStep fun steps isTracked cursor attempts stands => ?_
  rw [run_succ_absent]
  -- Whatever the check finds, the cursor stays where it is.
  split
  · trivial
  · exact stands
  · trivial

/-- After a pattern that idles, one that does so too. -/
theorem both (clear : mode.clear source = source) (idles : Idles mode head source)
    (idles' : Idles mode tail source) : Idles mode (.both head tail) source := by
  refine ofStep fun steps isTracked cursor attempts stands => ?_
  have first := idles steps isTracked cursor attempts stands
  rw [run_succ_both]
  generalize run steps { mode with isTracked } head cursor attempts = outcome at first ⊢
  cases outcome with
  | matched between nodes attempts =>
    -- The first pattern leaves the source as it is, and there are no blanks to skip in it.
    have left : (({ mode with isTracked } : Mode).skip between).rest = source := by
      rw [Mode.skip_rest]
      exact (congrArg mode.clear first).trans clear
    have second := idles' steps isTracked _ attempts left
    dsimp only
    generalize run steps { mode with isTracked } tail
      (({ mode with isTracked } : Mode).skip between) attempts = outcome at second ⊢
    cases outcome <;> exact second
  | failed attempts => trivial
  | exhausted => trivial

end Idles

/-- After a pattern that idles, one that is refused. -/
theorem Refuses.afterIdle (clear : mode.clear source = source) (idles : Idles mode head source)
    (refuses : Refuses mode tail source) : Refuses mode (.both head tail) source := by
  -- The second one is tried at the same place, as the first one passes nothing and no blanks stand
  -- there.
  refine ofStep fun steps isTracked cursor attempts stands => ?_
  have first := idles steps isTracked cursor attempts stands
  rw [run_succ_both]
  generalize run steps { mode with isTracked } head cursor attempts = outcome at first ⊢
  cases outcome with
  | matched between nodes attempts =>
    have left : (({ mode with isTracked } : Mode).skip between).rest = source := by
      rw [Mode.skip_rest]
      exact (congrArg mode.clear first).trans clear
    dsimp only
    exact (refuses steps isTracked _ attempts left).elim (fun _ => trivial) trivial
  | failed attempts => trivial
  | exhausted => trivial

/-- A pattern that cannot match nothing is refused at the end of a source. -/
theorem Refuses.atEnd (filled : inner.isEmptiable = false) : Refuses mode inner [] := by
  intro steps isTracked cursor attempts stands
  have passes := run_passes steps { mode with isTracked } inner cursor attempts
  generalize run steps { mode with isTracked } inner cursor attempts = outcome at passes ⊢
  cases outcome with
  | matched after nodes attempts =>
    obtain ⟨text, passed, empty⟩ := passes
    -- A match at the end would be one of the empty text.
    have nothing : text = [] := (List.append_eq_nil_iff.1 (passed.rest.symm.trans stands)).1
    simp [empty nothing] at filled
  | failed attempts => trivial
  | exhausted => trivial

/-- A text that is there and one that is known to be there begin alike. -/
theorem refuses_text_of_known {word known rest : List Char}
    (apart : (word.isPrefixOf known || known.isPrefixOf word) = false) :
    Refuses mode (.text word) (known ++ rest) := by
  -- If the word did stand there, it and the known beginning would be prefixes of each other.
  refine .text fun stands => ?_
  rw [Bool.or_eq_false_iff] at apart
  rcases List.prefix_or_prefix_of_prefix stands (List.prefix_append known rest) with inside | inside
  · rw [← List.isPrefixOf_iff_prefix, apart.1] at inside
    cases inside
  · rw [← List.isPrefixOf_iff_prefix, apart.2] at inside
    cases inside

/-- What a verdict says of a pattern on a source. -/
def Verdict.Holds (mode : Mode) (pattern : Pattern) (source : List Char) : Verdict → Prop
  | .refused => Refuses mode pattern source
  | .idle => Idles mode pattern source
  | .unknown => True

namespace Verdict.Holds

variable {verdict verdict' : Verdict}

/-- The verdict on a rule is that on its pattern. -/
theorem rule (named : Rule) (holds : verdict.Holds (mode.inside named.definition.treatment)
      named.definition.pattern source) : verdict.Holds mode (.rule named) source := by
  cases verdict with
  | refused => exact .rule named holds
  | idle => exact .rule named holds
  | unknown => trivial

/-- The verdict on one pattern after the other. -/
theorem both (clear : mode.clear source = source) (holds : verdict.Holds mode head source)
    (holds' : verdict'.Holds mode tail source) :
    (verdict.both verdict').Holds mode (.both head tail) source := by
  -- A refusal of either part refuses the whole, and to idle both have to.
  cases verdict with
  | refused => exact Refuses.before holds
  | idle =>
    cases verdict' with
    | refused => exact Refuses.afterIdle clear holds holds'
    | idle => exact Idles.both clear holds holds'
    | unknown => trivial
  | unknown => trivial

/-- The verdict on two patterns of which the second is tried where the first does not match. -/
theorem either (holds : verdict.Holds mode head source) (holds' : verdict'.Holds mode tail source) :
    (verdict.either verdict').Holds mode (.either head tail) source := by
  cases verdict with
  | refused =>
    cases verdict' with
    | refused => exact Refuses.either holds holds'
    -- A pattern that is refused can be taken for one that idles.
    | idle => exact Idles.either (.ofRefuses holds) holds'
    | unknown => trivial
  | idle =>
    cases verdict' with
    | refused => exact Idles.either holds (.ofRefuses holds')
    | idle => exact Idles.either holds holds'
    | unknown => trivial
  | unknown => trivial

/-- The verdict on a pattern that may be missing. -/
theorem optional (holds : verdict.Holds mode inner source) :
    verdict.optional.Holds mode (.optional inner) source := by
  cases verdict with
  | refused => exact Idles.optional holds
  | idle => trivial
  | unknown => trivial

/-- The verdict on a pattern that is repeated. -/
theorem many (holds : verdict.Holds mode inner source) :
    verdict.optional.Holds mode (.many inner) source := by
  cases verdict with
  | refused => exact Idles.many holds
  | idle => trivial
  | unknown => trivial

end Verdict.Holds

end Laws

/-- Verdicts hold of all sources with the known beginning that do not begin with a blank. -/
theorem verdict_holds (steps : Nat) {known rest : List Char}
    (clear : dropBlanks false (known ++ rest) = known ++ rest) (mode : Mode) (pattern : Pattern) :
    (pattern.verdict steps known).Holds mode pattern (known ++ rest) := by
  -- Rules may change the mode, but there are no blanks to skip in any of them.
  have same (mode : Mode) : mode.clear (known ++ rest) = known ++ rest := by
    unfold Mode.clear
    split
    · exact clear
    · rfl
  induction steps generalizing mode pattern with
  | zero => trivial
  | succ steps ih =>
    cases pattern with
    | finish =>
      cases known with
      | nil => trivial
      | cons c known => exact Refuses.finish (by simp)
    | char kind =>
      cases known with
      | nil => trivial
      | cons c known =>
        by_cases holds : kind.holds c = true
        · simp [Pattern.verdict, holds, Verdict.Holds]
        · have refuses : Refuses mode (.char kind) (c :: known ++ rest) :=
            .char (by simpa using holds)
          simpa [Pattern.verdict, holds, Verdict.Holds] using refuses
    | text word =>
      unfold Pattern.verdict
      dsimp only
      split
      next empty =>
        rw [List.isEmpty_iff.1 empty]
        exact Idles.empty
      next =>
        split
        · trivial
        next apart => exact refuses_text_of_known (Bool.eq_false_iff.2 apart)
    | rule named => exact .rule named (ih _ _)
    | both head tail => exact .both (same mode) (ih mode head) (ih mode tail)
    | either head tail => exact .either (ih mode head) (ih mode tail)
    | optional inner => exact .optional (ih mode inner)
    | many inner => exact .many (ih mode inner)
    | absent inner => exact Idles.absent

/-- What the beginning of a source rules out is refused. -/
theorem Refuses.ofKnown (known : List Char) {rest : List Char} {mode : Mode} {pattern : Pattern}
    (clear : dropBlanks false (known ++ rest) = known ++ rest)
    (refused : pattern.verdict 40 known = .refused) : Refuses mode pattern (known ++ rest) := by
  have holds := verdict_holds 40 clear mode pattern
  rwa [refused] at holds

end Reshape.Grammar
