import Reshape.Proofs.Grammar.Extend

/-!
Statements. What stands before the sign of an assignment is the head of a statement, and what stands
behind it is an expression, so that a statement is matched the same with further statements in the
next line.
-/

namespace Reshape.Grammar

open Zone

variable {mode : Mode} {head tail : Pattern} {source rest last more : List Char}
  {nodes : List Node} {yield : Yield} {named : Rule}

namespace Yields

/-- What comes of two patterns, one behind the other, comes of each. -/
theorem split (yields : Yields mode (.once (.both head tail)) source yield) :
    Yields mode (.once head) source none ∧ yield = none ∨
      ∃ rest nodes found, Yields mode (.once head) source (some (rest, nodes)) ∧
        Yields mode (.once tail) (mode.clear rest) found ∧
          yield = found.map fun found => (found.1, nodes ++ found.2) := by
  cases yields with
  | both first second => exact .inr ⟨_, _, _, first, second, rfl⟩
  | noFirst first => exact .inl ⟨first, rfl⟩
  | noSecond first second => exact .inr ⟨_, _, _, first, second, rfl⟩

/-- What comes of a rule comes of its pattern. -/
theorem inside (yields : Yields mode (.once (.rule named)) source yield) :
    ∃ found, Yields (mode.inside named.definition.treatment) (.once named.definition.pattern) source
        found ∧
      yield = found.map fun found =>
        (found.1, (mode.around named.definition.treatment).wrap named source found.1 found.2) := by
  cases yields with
  | rule inside => exact ⟨_, inside, rfl⟩
  | noRule inside => exact ⟨_, inside, rfl⟩

/-- Two patterns that match, one behind the other, match each. -/
theorem splitSome (yields : Yields mode (.once (.both head tail)) source (some (last, nodes))) :
    ∃ rest found found', Yields mode (.once head) source (some (rest, found)) ∧
      Yields mode (.once tail) (mode.clear rest) (some (last, found')) ∧
        nodes = found ++ found' := by
  cases yields with
  | both first second => exact ⟨_, _, _, first, second, rfl⟩

/-- Where no blanks are free the first repetition is like the others. -/
theorem toAgain (tight : mode.isLoose = false)
    (yields : Yields mode (.once (.many head)) source yield) :
    Yields mode (.again head) source yield := by
  cases yields with
  | many first later => exact .stepTight tight first later
  | noMany first => exact .stopTight tight first

end Yields

section Words

variable {inner : List Char}

/-- A word that ends where a name would go on stands at the beginning. -/
theorem keyword_eq {word : String} (tight : mode.isLoose = false)
    (yields : Yields mode (.once (Pattern.keyword word)) source (some (rest, nodes))) :
    source = word.toList ++ rest := by
  obtain ⟨between, _, _, first, second, _⟩ := yields.splitSome
  rw [mode.clear_of_tight tight] at second
  cases first with | text stands =>
  cases second with | absent =>
  exact stands

/-- An identifier takes code points of names. -/
theorem identifier_cases
    (yields : Yields mode (.once (.rule .identifier)) source (some (rest, nodes))) :
    ∃ name, source = name ++ rest ∧ ∀ c ∈ name, CharClass.nameChar.holds c = true := by
  cases yields with | rule inside =>
  obtain ⟨after, _, _, first, later, _⟩ := inside.splitSome
  obtain ⟨begin, _, _, noWord, letter, _⟩ := first.splitSome
  rw [Mode.clear_of_tight rfl] at later letter
  cases noWord with | absent =>
  cases later.unique (.ofAgain rfl (yields_all rfl .nameChar after))
  have all : ∀ c ∈ after.takeWhile CharClass.nameChar.holds, CharClass.nameChar.holds c = true :=
    fun c among => List.all_eq_true.1 List.all_takeWhile c among
  -- The first code point is a letter or an underscore.
  obtain ⟨c, plain, rfl⟩ : ∃ c, CharClass.nameChar.holds c = true ∧ source = c :: after := by
    cases letter with
    | left letter =>
      cases letter with | char holds => exact ⟨_, nameChar_of_holds _ (by simp) holds, rfl⟩
    | right _ underscore =>
      cases underscore with | text stands => exact ⟨'_', by decide, stands⟩
  refine ⟨c :: after.takeWhile CharClass.nameChar.holds, by simp, ?_⟩
  rw [List.forall_mem_cons]
  exact ⟨plain, all⟩

/-- What is taken between quotes can stand there. -/
theorem quotable_cases (tight : mode.isLoose = false)
    (yields : Yields mode (.once Rule.stringInner.definition.pattern) source
      (some (rest, nodes))) :
    ∃ inner, IsQuotable inner ∧ source = inner ++ rest := by
  have again := yields.toAgain tight
  generalize asked : Demand.again _ = demand at again
  generalize given : some (rest, nodes) = yield at again
  clear yields
  -- Each repetition takes one code point, or a backslash with the one behind it.
  induction again generalizing rest nodes with
  | @step mode _ source between last found later first _ _ ih =>
    cases asked
    cases given
    rw [mode.clear_of_tight tight] at first
    obtain ⟨inner, quotable, rfl⟩ := ih tight rfl rfl
    cases first with
    | left plain =>
      obtain ⟨_, _, _, other, any, _⟩ := plain.splitSome
      rw [mode.clear_of_tight tight] at any
      cases other with | absent other =>
      cases other with | right quote backslash =>
      cases any with | @char _ _ c _ _ =>
      cases quote with | noText quote =>
      cases backslash with | noText backslash =>
      refine ⟨c :: inner, quotable.plain ?_ ?_, rfl⟩
      · rintro rfl
        exact quote ⟨_, rfl⟩
      · rintro rfl
        exact backslash ⟨_, rfl⟩
    | right _ escaped =>
      obtain ⟨_, _, _, backslash, any, _⟩ := escaped.splitSome
      rw [mode.clear_of_tight tight] at any
      cases backslash with | text stands =>
      cases any with | @char _ _ c _ _ =>
      exact ⟨'\\' :: c :: inner, quotable.escaped c, stands⟩
  | stop first =>
    cases given
    exact ⟨[], .nil, rfl⟩
  | _ => cases asked

/-- A string begins with a quote and goes up to the closing one. -/
theorem string_eq (yields : Yields mode (.once (.rule .string)) source (some (rest, nodes))) :
    ∃ inner, IsQuotable inner ∧ source = '"' :: (inner ++ '"' :: rest) := by
  -- The rule is taken apart into the opening quote, what is inside and the closing quote.
  cases yields with | rule inside =>
  obtain ⟨closing, _, _, first, quote', _⟩ := inside.splitSome
  obtain ⟨opening, _, _, quote, body, _⟩ := first.splitSome
  rw [Mode.clear_of_tight rfl] at body quote'
  cases quote with | text stands =>
  cases quote' with | text stands' =>
  cases body with | rule body =>
  obtain ⟨inner, quotable, rfl⟩ := quotable_cases rfl body
  exact ⟨inner, quotable, by rw [stands, stands']; rfl⟩

end Words

section Heads

variable {text : List Char}

/-- What stands before names is no quote that closes the empty string. -/
def Apart (source : List Char) : Prop :=
  ∀ c ∈ source.head?, c ≠ '"'

/-- Names and points may stand before the head of a statement. -/
theorem Head.prepend {word : List Char} (head : Head text rest)
    (plain : ∀ c ∈ word, CharClass.nameChar.holds c = true ∨ c = '.') :
    Head text (word ++ rest) := by
  induction word with
  | nil => exact head
  | cons c word ih =>
    rw [List.forall_mem_cons] at plain
    exact .letter plain.1 (ih plain.2)

/-- A segment of a path may stand before the head of a statement. -/
theorem Head.ofSegment (head : Head text rest) (apart : Apart rest)
    (yields : Yields mode (.once Pattern.pathSegment) source (some (rest, nodes))) :
    Head text source ∧ Fresh source := by
  -- A segment is a name, of letters only, or a quoted one.
  cases yields with
  | left name =>
    rcases fieldName_cases mode source with
      ⟨_, refused⟩ | ⟨word, _, _, filled, letters, _, rfl, known⟩
    · cases name.unique refused
    cases name.unique known
    refine ⟨head.prepend fun c among => .inl (letters c among), ?_⟩
    intro c first
    rw [List.head?_append_of_ne_nil word filled] at first
    exact .inl (letters c (List.mem_of_mem_head? first))
  | right _ string =>
    obtain ⟨inner, quotable, rfl⟩ := string_eq string
    exact ⟨.quoted quotable apart head, by simp [Fresh]⟩

/-- The further segments of a path, each with a point before it, may stand before the head of a
statement. -/
theorem Head.ofSegments (head : Head text rest) (apart : Apart rest) (tight : mode.isLoose = false)
    (yields : Yields mode (.again (Pattern.word "." ++ Pattern.pathSegment)) source
      (some (rest, nodes))) :
    Head text source ∧ Apart source := by
  -- The segments are derived one after the other, so the head is carried back over each of them.
  generalize asked : Demand.again _ = demand at yields
  generalize given : some (rest, nodes) = yield at yields
  induction yields generalizing nodes with
  | @step mode _ source between last found later first _ _ ih =>
    cases asked
    cases given
    rw [mode.clear_of_tight tight] at first
    obtain ⟨head, apart⟩ := ih tight rfl rfl
    obtain ⟨after, _, _, point, segment, _⟩ := Yields.splitSome first
    rw [mode.clear_of_tight tight] at segment
    cases point with | text stands =>
    obtain rfl : source = '.' :: after := stands
    exact ⟨.letter (.inr rfl) (head.ofSegment apart segment).1, by simp [Apart]⟩
  | stop first =>
    cases given
    exact ⟨head, apart⟩
  | _ => cases asked

/-- What is assigned to may stand before the head of a statement. -/
theorem Head.ofTarget (head : Head text rest) (apart : Apart rest)
    (yields : Yields mode (.once (.rule .assignTarget)) source (some (rest, nodes))) :
    Head text source ∧ Fresh source := by
  cases yields with | rule inside =>
  obtain ⟨between, _, _, first, later, _⟩ := inside.splitSome
  rw [Mode.clear_of_tight rfl] at later
  obtain ⟨head, apart⟩ := head.ofSegments apart rfl (later.toAgain rfl)
  cases first with | rule first =>
  -- The first segment may be the word for the document or the input.
  have word {word : String} {found : List Node} (filled : word.toList ≠ [])
      (letters : ∀ c ∈ word.toList, CharClass.nameChar.holds c = true)
      (yields : Yields ((mode.inside .tight).inside .leaf) (.once (Pattern.keyword word)) source
        (some (between, found))) : Head text source ∧ Fresh source := by
    rw [keyword_eq rfl yields]
    refine ⟨head.prepend fun c among => .inl (letters c among), fun c first => ?_⟩
    rw [List.head?_append_of_ne_nil _ filled] at first
    exact .inl (letters c (List.mem_of_mem_head? first))
  cases first with
  | left root =>
    cases root with | rule root =>
    exact word (by decide) (by decide) root
  | right _ others =>
    cases others with
    | left this =>
      cases this with | rule this =>
      exact word (by decide) (by decide) this
    | right _ segment => exact head.ofSegment apart segment

/-- The sign of an assignment is a single one, and the blanks behind it are dropped. -/
theorem assign_cases (loose : mode.isLoose = true)
    (yields : Yields mode (.once Pattern.assign) source (some (rest, nodes))) :
    ∃ text, source = '=' :: text ∧ rest = dropBlanks false text ∧
      ∀ c ∈ text.head?, c ≠ '=' ∧ c ≠ '>' := by
  obtain ⟨text, _, _, sign, single, _⟩ := yields.splitSome
  rw [mode.clear_of_loose loose] at single
  cases sign with | text stands =>
  refine ⟨text, stands, ?_, fun c first => ?_⟩
  · cases single with | absent => rfl
  · -- A further sign is no blank, so that it would stand behind the blanks as well.
    cases single with | absent other =>
    cases other with | right equal greater =>
    cases equal with | noText equal =>
    cases greater with | noText greater =>
    obtain ⟨later, rfl⟩ : ∃ later, text = c :: later := by
      cases text with
      | nil => cases first
      | cons d later => exact ⟨later, by rw [Option.some.inj first]⟩
    constructor
    · rintro rfl
      exact equal ⟨later, rfl⟩
    · rintro rfl
      exact greater ⟨later, rfl⟩

/-- An assignment is what is assigned to, the head of a statement, and an expression. -/
theorem assignment_cases (loose : mode.isLoose = true)
    (yields : Yields mode (.once (head ++ Pattern.assign ++ .rule .expr)) source
      (some (last, nodes))) :
    ∃ rest found text body, Yields mode (.once head) source (some (rest, found)) ∧
      Head text rest ∧ Apart rest ∧
        Yields mode (.once (.rule .expr)) (dropBlanks false text) (some (last, body)) := by
  -- The sign of the assignment stands before the expression, and blanks around it change nothing.
  obtain ⟨between, _, body, first, expr, _⟩ := yields.splitSome
  obtain ⟨rest, found, _, target, sign, _⟩ := Yields.splitSome first
  rw [mode.clear_of_loose loose] at sign expr
  obtain ⟨text, begins, rfl, single⟩ := assign_cases loose sign
  rw [dropBlanks_dropBlanks] at expr
  refine ⟨rest, found, text, body, target, .blanks (begins ▸ .sign single), ?_, expr⟩
  intro c first quote
  obtain ⟨later, rfl⟩ : ∃ later, rest = c :: later := by
    cases rest with
    | nil => cases first
    | cons d later => exact ⟨later, by rw [Option.some.inj first]⟩
  subst quote
  cases begins

/-- A word may stand before the head of a statement, with blanks behind it. -/
theorem Head.ofWordRule {word : String} (leaf : named.definition = ⟨.leaf, Pattern.keyword word⟩)
    (letters : ∀ c ∈ word.toList, CharClass.nameChar.holds c = true) (filled : word.toList ≠ [])
    (yields : Yields mode (.once (.rule named)) source (some (rest, nodes)))
    (head : Head text rest) : Head text source ∧ Fresh source := by
  -- The rule matches just its word, which consists of letters of names.
  obtain ⟨found, inside, same⟩ := yields.inside
  rw [leaf] at inside
  obtain ⟨found, rfl, same⟩ := Option.map_eq_some_iff.1 same.symm
  cases same
  rw [keyword_eq rfl inside]
  refine ⟨head.prepend fun c among => .inl (letters c among), fun c first => ?_⟩
  rw [List.head?_append_of_ne_nil _ filled] at first
  exact .inl (letters c (List.mem_of_mem_head? first))

/-- A statement is a head, which begins with a name or a string, and an expression. -/
theorem statement_cases (loose : mode.isLoose = true)
    (yields : Yields mode (.once Pattern.statement) source (some (last, nodes))) :
    ∃ text body, Head text source ∧ Fresh source ∧
      Yields mode (.once (.rule .expr)) (dropBlanks false text) (some (last, body)) := by
  -- The three rules of statements are told apart, each with its own head before the sign.
  cases yields with
  | left first =>
    cases first with | rule inside =>
    replace inside : Yields mode (.once Rule.letStatement.definition.pattern) source _ := inside
    obtain ⟨rest, _, text, body, target, head, apart, expr⟩ := assignment_cases loose inside
    obtain ⟨between, _, _, word, name, _⟩ := Yields.splitSome target
    replace head : Head text (mode.clear between) := by
      cases name with
      | left name =>
        obtain ⟨word, same, letters⟩ := identifier_cases name
        rw [same]
        exact head.prepend fun c among => .inl (letters c among)
      | right _ string =>
        obtain ⟨inner, quotable, same⟩ := string_eq string
        rw [same]
        exact .quoted quotable apart head
    rw [mode.clear_of_loose loose] at head
    obtain ⟨head, fresh⟩ := Head.ofWordRule rfl (by decide) (by decide) word (.blanks head)
    exact ⟨text, body, head, fresh, expr⟩
  | right _ others =>
    cases others with
    | left first =>
      cases first with | rule inside =>
      replace inside : Yields mode (.once Rule.metaStatement.definition.pattern) source _ := inside
      obtain ⟨rest, _, text, body, target, head, apart, expr⟩ := assignment_cases loose inside
      obtain ⟨between, _, _, word, key, _⟩ := Yields.splitSome target
      replace head : Head text (mode.clear between) := by
        cases key with
        | present segment => exact (head.ofSegment apart segment).1
        | missing => exact head
      rw [mode.clear_of_loose loose] at head
      obtain ⟨head, fresh⟩ := Head.ofWordRule rfl (by decide) (by decide) word (.blanks head)
      exact ⟨text, body, head, fresh, expr⟩
    | right _ first =>
      cases first with | rule inside =>
      replace inside : Yields mode (.once Rule.assignStatement.definition.pattern) source _ := inside
      obtain ⟨rest, _, text, body, target, head, apart, expr⟩ := assignment_cases loose inside
      obtain ⟨head, fresh⟩ := head.ofTarget apart target
      exact ⟨text, body, head, fresh, expr⟩

end Heads

/-- A statement leaves code that asks for nothing, if it leaves no string open. -/
theorem awaits?_statement {mood : Mood} (loose : mode.isLoose = true)
    (yields : Yields mode (.once Pattern.statement) source (some (rest, nodes)))
    (closed : (awaits? (.code mood) source).isSome = true) :
    awaits? (.code mood) source = awaits? (.code .sated) rest := by
  obtain ⟨text, body, head, _, expr⟩ := statement_cases loose yields
  -- What stands behind the head is awaited in the same way with the blanks and without them.
  have behind : awaits? (.code .awaiting) text = awaits? (.code .awaiting) (dropBlanks false text) :=
    awaits?_dropBlanks (by simp) false text
  rw [head.awaits mood, behind] at closed ⊢
  obtain ⟨next, among, same⟩ := expr.predicts false .awaiting [.sated] (by simp) rfl closed
  rw [same, List.mem_singleton.1 among]

/-- A pattern comes to the same at the heads of statements with further statements in the next line,
if no string is left open and no operand is awaited behind the sign of the assignment. -/
def Pattern.Carried (more : List Char) (mode : Mode) (pattern : Pattern) : Prop :=
  ∀ text source yield, Head text source → dropBlanks false source = source →
    awaits? (.code .awaiting) text = some false → Yields mode (.once pattern) source yield →
      ∃ yield', Yields mode (.once pattern) (source ++ '\n' :: more) yield' ∧
        Extends more false yield yield'

namespace Pattern.Carried

variable {pattern : Pattern}

/-- What is graded as kept comes to the same: no raw string begins at the head of a statement. -/
theorem ofGrade (opens : Opens more) (loose : mode.isLoose = true)
    (steady : pattern.isSteady = true) (kept : pattern.grade true true .awaiting = .kept) :
    pattern.Carried more mode := by
  intro text source yield head clear awaits yields
  obtain ⟨yield', yields', extended⟩ := (yields.carries opens).kept true (fun _ => head.not_marks)
    (head.awaits .awaiting ▸ awaits) (fun _ => ⟨rfl, clear⟩) steady (loose ▸ kept)
  exact ⟨yield', yields', extended.mono fun _ => rfl⟩

/-- Two patterns come to the same if the first one leaves a head. -/
theorem both (loose : mode.isLoose = true) (first : head.Carried more mode)
    (keeps : head.keeps = true) (second : tail.Carried more mode) :
    (Pattern.both head tail).Carried more mode := by
  -- If the first pattern is refused both are; if not, the second one begins where it ends.
  intro text source yield begins clear awaits yields
  rcases yields.split with ⟨refused, rfl⟩ | ⟨rest, nodes, found, matched, later, rfl⟩
  · obtain ⟨_, refused', extended⟩ := first text source _ begins clear awaits refused
    cases extended
    exact ⟨none, .noFirst refused', .none⟩
  · obtain ⟨_, matched', extended⟩ := first text source _ begins clear awaits matched
    cases extended with | @some _ rest' resumes =>
    have further := ((matched.stays text begins).1 keeps rest nodes rfl).drop
    obtain ⟨_, next⟩ := resumes.drop.resolve_right fun both => further.ne_nil both.1
    rw [mode.clear_of_loose loose] at later
    obtain ⟨yield', later', extended⟩ :=
      second text _ _ further (dropBlanks_dropBlanks false rest) awaits later
    exact ⟨_, .ofBoth matched' (by rwa [mode.clear_of_loose loose, next]), extended.append nodes⟩

/-- The first pattern that matches comes to the same. -/
theorem either (first : head.Carried more mode) (second : tail.Carried more mode) :
    (Pattern.either head tail).Carried more mode := by
  -- The second choice counts only where the first one is refused, with further statements too.
  intro text source yield begins clear awaits yields
  cases yields with
  | left matched =>
    obtain ⟨_, matched', extended⟩ := first text source _ begins clear awaits matched
    cases extended with
    | some resumes => exact ⟨_, .left matched', .some resumes _⟩
  | right refused later =>
    obtain ⟨_, refused', extended⟩ := first text source _ begins clear awaits refused
    cases extended
    obtain ⟨yield', later', extended⟩ := second text source _ begins clear awaits later
    exact ⟨yield', .right refused' later', extended⟩

/-- A rule in which blanks are treated as around it comes to the same. -/
theorem ofRule (inherits : named.definition.treatment = .inherited)
    (spells : named.keepsText = false) (carried : named.definition.pattern.Carried more mode) :
    (Pattern.rule named).Carried more mode := by
  -- The pattern matches as before, and the tree keeps no text that could differ.
  intro text source yield begins clear awaits yields
  obtain ⟨found, inside, rfl⟩ := id yields.inside
  have same : mode.inside named.definition.treatment = mode := by rw [inherits]; rfl
  rw [same] at inside
  obtain ⟨found', inside', extended⟩ := carried text source _ begins clear awaits inside
  refine ⟨_, .ofInside (by rwa [same]), ?_⟩
  cases extended with
  | none => exact .none
  | @some rest rest' resumes nodes =>
    have wrapped := Mode.wrap_resumes yields resumes (by simp [spells])
      (mode.around named.definition.treatment) nodes
    simp only [Option.map_some, wrapped]
    exact .some resumes _

/-- An assignment comes to the same if what is assigned to does and leaves a head. -/
theorem assignment (opens : Opens more) (loose : mode.isLoose = true)
    (carried : head.Carried more mode) (keeps : head.keeps = true) :
    (head ++ Pattern.assign ++ .rule .expr).Carried more mode := by
  have begin : (Pattern.both head Pattern.assign).Carried more mode :=
    carried.both loose keeps (ofGrade opens loose (by decide) (by decide))
  intro text source yield begins clear awaits yields
  rcases Yields.split yields with ⟨refused, rfl⟩ | ⟨rest, nodes, found, matched, expr, rfl⟩
  · obtain ⟨_, refused', extended⟩ := begin text source _ begins clear awaits refused
    cases extended
    exact ⟨none, .noFirst refused', .none⟩
  · obtain ⟨_, matched', extended⟩ := begin text source _ begins clear awaits matched
    cases extended with | @some _ rest' resumes =>
    -- Behind the sign an operand is awaited, so that the text does not end there.
    obtain ⟨between, _, _, target, sign, _⟩ := Yields.splitSome matched
    rw [mode.clear_of_loose loose] at sign
    obtain ⟨text', same, rfl, _⟩ := assign_cases loose sign
    have further := ((target.stays text begins).1 keeps between _ rfl).drop
    rw [same] at further
    obtain ⟨rfl, _⟩ := further.ofSign
    have free : Mood.awaiting ≠ .bound := by simp
    have filled : dropBlanks false text' ≠ [] := by
      intro empty
      have ends : awaits? (.code .awaiting) text' =
          awaits? (.code .awaiting) (dropBlanks false text') :=
        awaits?_dropBlanks free false text'
      rw [ends, empty] at awaits
      cases awaits
    rw [mode.clear_of_loose loose, dropBlanks_dropBlanks] at expr
    obtain ⟨_, next⟩ := resumes.drop.resolve_right fun both => by
      rw [dropBlanks_dropBlanks] at both
      exact filled both.1
    rw [dropBlanks_dropBlanks] at next
    obtain ⟨yield', expr', extended⟩ := (expr.carries opens).kept false (by simp)
      (awaits?_restart free filled ▸ awaits)
      (fun _ => ⟨rfl, dropBlanks_dropBlanks false text'⟩) rfl (by rw [loose]; decide)
    exact ⟨_, .ofBoth matched' (by rwa [mode.clear_of_loose loose, next]),
      (extended.mono fun _ => rfl).append nodes⟩

/-- A statement comes to the same with further statements in the next line. -/
theorem statement (opens : Opens more) (loose : mode.isLoose = true) :
    Pattern.statement.Carried more mode := by
  -- Each of the three rules is an assignment with another head, and heads are decided by the
  -- grades.
  have ofGrade {pattern : Pattern} (steady : pattern.isSteady = true)
      (kept : pattern.grade true true .awaiting = .kept) : pattern.Carried more mode :=
    ofGrade opens loose steady kept
  refine either (ofRule rfl rfl ?_) (either (ofRule rfl rfl ?_) (ofRule rfl rfl ?_))
  · exact assignment opens loose
      (both loose (ofGrade rfl (by decide)) rfl (ofGrade rfl (by decide))) (by decide)
  · exact assignment opens loose
      (both loose (ofGrade rfl (by decide)) rfl (ofGrade rfl (by decide))) (by decide)
  · exact assignment opens loose (ofGrade rfl (by decide)) (by decide)

end Pattern.Carried

end Reshape.Grammar
