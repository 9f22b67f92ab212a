import Reshape.Proofs.Grammar.Mood

/-!
Heads of statements: what stands before the sign of an assignment. A pattern of expressions that is
tried on the head of a statement stays inside the head, and many patterns are refused there, so that
no expression goes over into the statement behind it.
-/

namespace Reshape.Grammar

open Zone

/-- A text goes on with names, points, strings and blanks up to the sign of an assignment. -/
inductive Head (tail : List Char) : List Char → Prop where
  | sign (single : ∀ c ∈ tail.head?, c ≠ '=' ∧ c ≠ '>') : Head tail ('=' :: tail)
  | letter {c : Char} {rest : List Char} (plain : CharClass.nameChar.holds c = true ∨ c = '.')
    (later : Head tail rest) : Head tail (c :: rest)
  | blanks {source : List Char} (later : Head tail (dropBlanks false source)) : Head tail source
  /-- No third quote stands behind the empty string. -/
  | quoted {inner rest : List Char} (quotable : IsQuotable inner)
    (apart : ∀ c ∈ rest.head?, c ≠ '"') (later : Head tail rest) :
    Head tail ('"' :: (inner ++ '"' :: rest))

/-- A text begins with a name or a string. -/
def Fresh (source : List Char) : Prop :=
  ∀ c ∈ source.head?, CharClass.nameChar.holds c = true ∨ c = '"'

section Quotes

variable {inner rest : List Char}

/-- No three quotes begin at a string, unless it is empty and a third quote follows. -/
theorem not_marks_of_quotable (quotable : IsQuotable inner) (apart : ∀ c ∈ rest.head?, c ≠ '"') :
    ¬['"', '"', '"'] <+: '"' :: (inner ++ '"' :: rest) := by
  simp only [List.cons_prefix_cons, true_and]
  -- Two quotes at the start mean an empty string, and then the third letter stands behind it.
  cases quotable with
  | nil =>
    simp only [List.nil_append, List.cons_prefix_cons, true_and]
    rintro ⟨more, rfl⟩
    exact apart '"' rfl rfl
  | plain quote backslash later =>
    rw [List.cons_append, List.cons_prefix_cons]
    exact fun both => quote both.1.symm
  | escaped c later =>
    rw [List.cons_append, List.cons_prefix_cons]
    exact fun both => by simp at both

end Quotes

/-- Letters and points are solid. -/
theorem isSolid_of_plain {c : Char} (plain : CharClass.nameChar.holds c = true ∨ c = '.') :
    isSolid c = true := by
  rcases plain with letter | rfl
  · exact (solid_of_nameChar letter).1
  · rfl

/-- Letters and points are no blanks. -/
theorem dropBlanks_of_plain {c : Char} (plain : CharClass.nameChar.holds c = true ∨ c = '.')
    (rest : List Char) : dropBlanks false (c :: rest) = c :: rest := by
  have solid := isSolid_of_plain plain
  simp only [isSolid, Bool.and_eq_true, bne_iff_ne, Bool.not_eq_true'] at solid
  exact dropBlanks_of_solid solid.2 solid.1.2 rest

namespace Head

variable {tail source rest more : List Char} {mood : Mood} {c : Char}

/-- The head of a statement is not empty. -/
theorem ne_nil (head : Head tail source) : source ≠ [] := by
  induction head with
  | blanks later ih =>
    rintro rfl
    exact ih rfl
  | _ => exact List.cons_ne_nil _ _

/-- What the head of a statement begins with, where no blanks are to be dropped. -/
inductive Begins (tail : List Char) : List Char → Prop where
  | sign (single : ∀ c ∈ tail.head?, c ≠ '=' ∧ c ≠ '>') : Begins tail ('=' :: tail)
  | letter {c : Char} {rest : List Char} (plain : CharClass.nameChar.holds c = true ∨ c = '.')
    (later : Head tail rest) : Begins tail (c :: rest)
  | quoted {inner rest : List Char} (quotable : IsQuotable inner)
    (apart : ∀ c ∈ rest.head?, c ≠ '"') (later : Head tail rest) :
    Begins tail ('"' :: (inner ++ '"' :: rest))

/-- Where no blanks are to be dropped, the head of a statement begins with something else. -/
theorem begins (head : Head tail source) (clear : dropBlanks false source = source) :
    Begins tail source := by
  induction head with
  | sign single => exact .sign single
  | letter plain later => exact .letter plain later
  | blanks later ih => exact clear ▸ ih (dropBlanks_dropBlanks false _)
  | quoted quotable apart later => exact .quoted quotable apart later

/-- Without its blanks the head of a statement still is one. -/
theorem drop (head : Head tail source) : Head tail (dropBlanks false source) := by
  -- Blanks behind a head are skipped, and its character is none of them.
  cases head with
  | sign single => exact .sign single
  | @letter c rest plain later =>
    rw [dropBlanks_of_plain plain]
    exact .letter plain later
  | blanks later => exact later
  | quoted quotable apart later => exact .quoted quotable apart later

/-- The head of a statement after the blanks that are free. -/
theorem clear (head : Head tail source) (mode : Mode) : Head tail (mode.clear source) := by
  unfold Mode.clear
  split
  · exact head.drop
  · exact head

/-- A letter or a point is passed. -/
theorem ofLetter (head : Head tail (c :: rest))
    (plain : CharClass.nameChar.holds c = true ∨ c = '.') : Head tail rest := by
  -- A character of names is neither the sign nor a quote.
  have other : c ≠ '=' ∧ c ≠ '"' := by
    constructor <;> (rintro rfl; revert plain; decide)
  cases head.begins (dropBlanks_of_plain plain rest) with
  | sign single => exact absurd rfl other.1
  | letter plain later => exact later
  | quoted quotable apart later => exact absurd rfl other.2

/-- A quote begins a string, which is passed. -/
theorem ofQuote (head : Head tail ('"' :: rest)) :
    ∃ inner last, IsQuotable inner ∧ (∀ c ∈ last.head?, c ≠ '"') ∧ rest = inner ++ '"' :: last ∧
      Head tail last := by
  cases head.begins rfl with
  | letter plain later => exact absurd plain (by decide)
  | quoted quotable apart later => exact ⟨_, _, quotable, apart, rfl, later⟩

/-- The sign of the assignment ends the head of a statement. -/
theorem ofSign (head : Head tail ('=' :: rest)) :
    rest = tail ∧ ∀ c ∈ rest.head?, c ≠ '=' ∧ c ≠ '>' := by
  cases head.begins rfl with
  | sign single => exact ⟨rfl, single⟩
  | letter plain later => exact absurd plain (by decide)

/-- No three quotes begin the head of a statement. -/
theorem not_marks (head : Head tail source) : ¬['"', '"', '"'] <+: source := by
  -- A head begins with a sign, a letter of names or a string of its own.
  intro marks
  obtain ⟨more, same⟩ := id marks
  cases head.begins (same ▸ rfl) with
  | sign single => simp at same
  | letter plain later =>
    obtain ⟨rfl, _⟩ := List.cons.inj same
    exact absurd plain (by decide)
  | quoted quotable apart later => exact not_marks_of_quotable quotable apart marks

/-- What stands before the sign of an assignment leaves no string open, and the sign awaits an
operand. -/
theorem awaits (head : Head tail source) (mood : Mood) :
    awaits? (.code mood) source = awaits? (.code .awaiting) tail := by
  -- Each part of the head is passed in turn, up to the sign itself.
  induction head generalizing mood with
  | sign single => exact awaits?_solid rfl
  | letter plain later ih => rw [awaits?_solid (isSolid_of_plain plain), ih]
  | @blanks source later ih =>
    obtain ⟨mood', same⟩ := exists_awaits?_dropBlanks mood source
    rw [same, ih]
  | quoted quotable apart later ih =>
    rw [awaits?_quote (.inr (not_marks_of_quotable quotable apart)), awaits?_quoted quotable, ih]

end Head

/-- Whether no head of a statement begins with a word: none at all, or none that is fresh. -/
def barsWord (isFresh : Bool) : List Char → Bool
  | [] => false
  | c :: word =>
    if c = '=' then isFresh || word.head?.any fun d => d == '=' || d == '>'
    else if c = '.' then isFresh
    else c != '"' && c != '#' && !isSeparator c && !CharClass.nameChar.holds c

/-- Whether a rule is refused at the heads of statements, or at fresh ones. -/
def Rule.bars (isFresh : Bool) : Rule → Bool
  | .methodCall | .fieldAccess => isFresh
  | .orSign | .andSign | .coalesceSign | .equalSign | .unequalSign | .greaterEqualSign
  | .lessEqualSign | .greaterSign | .lessSign | .addSign | .subtractSign | .multiplySign
  | .divideSign | .remainderSign | .notSign | .negateSign | .paren | .functionCall
  | .callArguments | .namedArgument | .lambda | .ifExpr | .ifBranch | .elseIf | .elseBlock
  | .matchExpr | .matchCase | .variable | .metadata | .rawString | .array | .object
  | .objectEntry => true
  | _ => false

/-- Whether a rule that matches at the head of a statement leaves one. -/
def Rule.keeps : Rule → Bool
  | .mapping | .query | .letStatement | .metaStatement | .assignStatement | .stringInner
  | .rawInner => false
  | _ => true

mutual

/-- Whether a pattern is refused at the heads of statements, or at fresh ones. -/
def Pattern.bars (isFresh : Bool) : Pattern → Bool
  | .finish => true
  | .text word => barsWord isFresh word
  | .rule named => named.bars isFresh
  | .both head tail => head.bars isFresh || head.keeps && tail.bars false
  | .either head tail => head.bars isFresh && tail.bars isFresh
  | .char _ | .optional _ | .many _ | .absent _ => false

/-- Whether a pattern that matches at the head of a statement leaves one. -/
def Pattern.keeps : Pattern → Bool
  | .char kind => kind != .any
  | .text word =>
    word.all (fun c => CharClass.nameChar.holds c || c == '.') || barsWord false word
  | .rule named => named.keeps
  | .both head tail => head.bars false || head.keeps && tail.keeps
  | .either head tail => head.keeps && tail.keeps
  | .optional inner | .many inner => inner.keeps
  | .finish | .absent _ => true

end

/-- What is told of a rule is true of its pattern. -/
theorem Rule.stands (rule : Rule) (tree : rule ≠ .string ∧ rule ≠ .rawString) :
    (rule.keeps = true → rule.definition.pattern.keeps = true) ∧
      ∀ isFresh, rule.bars isFresh = true → rule.definition.pattern.bars isFresh = true := by
  cases rule <;> first
    | exact absurd rfl tree.1
    | exact absurd rfl tree.2
    | decide

section Standing

variable {mode : Mode} {demand : Demand} {tail source rest word : List Char} {isFresh : Bool}
  {nodes : List Node} {yield : Yield}

/-- A word that is barred does not begin the head of a statement. -/
theorem Head.not_word (head : Head tail source) (bars : barsWord isFresh word = true)
    (fresh : isFresh = true → Fresh source) : ¬word <+: source := by
  rintro ⟨more, rfl⟩
  cases word with
  | nil => cases bars
  | cons c word =>
    simp only [barsWord] at bars
    split at bars
    next sign =>
      subst sign
      obtain ⟨_, single⟩ := head.ofSign
      rcases Bool.or_eq_true_iff.1 bars with isFresh | double
      · exact absurd (fresh isFresh '=' rfl) (by decide)
      · cases word with
        | nil => cases double
        | cons d word =>
          have apart := single d rfl
          simp [apart] at double
    next sign =>
      split at bars
      next point =>
        subst point
        exact absurd (fresh bars '.' rfl) (by decide)
      next point =>
        simp only [Bool.and_eq_true, bne_iff_ne, Bool.not_eq_true'] at bars
        obtain ⟨⟨⟨quote, comment⟩, blank⟩, letter⟩ := bars
        -- What is neither blank, point nor sign begins no head but by a letter or a quote.
        have clear : dropBlanks false (c :: word ++ more) = c :: word ++ more :=
          dropBlanks_of_solid blank comment _
        generalize same : c :: word ++ more = source at head clear
        cases head.begins (same ▸ clear) with
        | sign single => exact absurd (List.cons.inj same).1 sign
        | letter plain later =>
          obtain rfl := (List.cons.inj same).1
          simp [letter, point] at plain
        | quoted quotable apart later => exact absurd (List.cons.inj same).1 quote

/-- Letters and points are passed one by one. -/
theorem Head.ofWord (head : Head tail (word ++ rest))
    (plain : ∀ c ∈ word, CharClass.nameChar.holds c = true ∨ c = '.') : Head tail rest := by
  induction word with
  | nil => exact head
  | cons c word ih =>
    rw [List.forall_mem_cons] at plain
    exact ih (head.ofLetter plain.1) plain.2

/-- A string at the head of a statement is passed. -/
theorem Head.ofString (head : Head tail source)
    (yields : Yields mode (.once (.rule .string)) source (some (rest, nodes))) :
    Head tail rest := by
  -- A string matches only at a quote, and there it is the one with which the head begins.
  cases source with
  | nil => exact absurd rfl head.ne_nil
  | cons c text =>
    by_cases quote : c = '"'
    · subst quote
      obtain ⟨inner, last, quotable, _, rfl, later⟩ := head.ofQuote
      obtain ⟨found, string⟩ := yields_string mode quotable
      cases yields.unique (string last)
      exact later
    · cases yields.unique (noString mode (by simpa using quote))

/-- A pattern that is tried at the head of a statement stays there, or is refused. -/
def Stays : Demand → List Char → Yield → Prop
  | .once pattern, source, yield => ∀ tail, Head tail source →
    (pattern.keeps = true → ∀ rest nodes, yield = some (rest, nodes) → Head tail rest) ∧
      ∀ isFresh, pattern.bars isFresh = true → (isFresh = true → Fresh source) → yield = none
  | .again inner, source, yield => ∀ tail, Head tail source → inner.keeps = true →
    ∀ rest nodes, yield = some (rest, nodes) → Head tail rest

/-- What is refused stays anywhere. -/
theorem stays_none (pattern : Pattern) (source : List Char) :
    Stays (.once pattern) source none :=
  fun _ _ => ⟨fun _ _ _ same => (nomatch same), fun _ _ _ => rfl⟩

/-- What no head bars stays if it leaves a head. -/
theorem stays_some {pattern : Pattern} (free : ∀ isFresh, pattern.bars isFresh = false)
    (leaves : pattern.keeps = true → ∀ tail, Head tail source → Head tail rest) :
    Stays (.once pattern) source (some (rest, nodes)) := by
  refine fun tail head => ⟨fun keeps _ _ same => ?_, fun isFresh bars => ?_⟩
  · cases same
    exact leaves keeps tail head
  · rw [free] at bars
    cases bars

/-- Patterns stay at the heads of statements if the grammar tells that they do. -/
theorem Yields.stays (yields : Yields mode demand source yield) : Stays demand source yield := by
  -- The cases are those of the derivation: what matched leaves a head, and what is barred is
  -- refused.
  induction yields with
  | more | noChar | noText | noRule | noFirst | noSecond | notAbsent => exact stays_none _ _
  | finish => exact fun tail head => absurd rfl head.ne_nil
  | @char mode kind c rest holds =>
    refine stays_some (fun _ => rfl) fun keeps tail head => ?_
    exact head.ofLetter (.inl (nameChar_of_holds kind (by simpa [Pattern.keeps] using keeps) holds))
  | @text mode word source rest stands =>
    subst stands
    refine fun tail head => ⟨fun keeps _ _ same => ?_, fun isFresh bars fresh => ?_⟩
    · cases same
      rcases Bool.or_eq_true_iff.1 keeps with plain | bars
      · exact head.ofWord (by simpa using plain)
      · exact absurd (List.prefix_append _ _) (head.not_word bars (by simp))
    · exact absurd (List.prefix_append _ _) (head.not_word bars fresh)
  | @rule mode named source rest nodes inside ih =>
    have whole : Yields mode (.once (.rule named)) source _ := .rule inside
    by_cases string : named = .string
    · subst string
      exact stays_some (fun _ => rfl) fun _ tail head => head.ofString whole
    by_cases rawString : named = .rawString
    · subst rawString
      intro tail head
      cases whole.unique (noRawString mode head.not_marks)
    obtain ⟨keeps, bars⟩ := named.stands ⟨string, rawString⟩
    refine fun tail head => ⟨fun kept _ _ same => ?_, fun isFresh barred fresh => ?_⟩
    · cases same
      exact (ih tail head).1 (keeps kept) _ _ rfl
    · cases (ih tail head).2 isFresh (bars isFresh barred) fresh
  | @both mode first second source rest last nodes more yields later ih ih' =>
    intro tail head
    obtain ⟨keeps, bars⟩ := ih tail head
    have next (kept : first.keeps = true) := ih' tail ((keeps kept rest nodes rfl).clear mode)
    refine ⟨fun kept _ _ same => ?_, fun isFresh barred fresh => ?_⟩
    · cases same
      simp only [Pattern.keeps, Bool.or_eq_true, Bool.and_eq_true] at kept
      rcases kept with barred | ⟨kept, kept'⟩
      · cases bars false barred (by simp)
      · exact (next kept).1 kept' _ _ rfl
    · simp only [Pattern.bars, Bool.or_eq_true, Bool.and_eq_true] at barred
      rcases barred with barred | ⟨kept, barred⟩
      · cases bars isFresh barred fresh
      · cases (next kept).2 false barred (by simp)
  | left first ih =>
    intro tail head
    obtain ⟨keeps, bars⟩ := ih tail head
    refine ⟨fun kept => keeps (Bool.and_eq_true_iff.1 kept).1, fun isFresh barred => ?_⟩
    exact bars isFresh (Bool.and_eq_true_iff.1 barred).1
  | right first second ih ih' =>
    intro tail head
    obtain ⟨keeps, bars⟩ := ih' tail head
    refine ⟨fun kept => keeps (Bool.and_eq_true_iff.1 kept).2, fun isFresh barred => ?_⟩
    exact bars isFresh (Bool.and_eq_true_iff.1 barred).2
  | present first ih =>
    exact stays_some (fun _ => rfl) fun kept tail head => (ih tail head).1 kept _ _ rfl
  | missing first => exact stays_some (fun _ => rfl) fun _ tail head => head
  | many first later ih ih' =>
    refine stays_some (fun _ => rfl) fun kept tail head => ?_
    exact ih' tail ((ih tail head).1 kept _ _ rfl) kept _ _ rfl
  | noMany first => exact stays_some (fun _ => rfl) fun _ tail head => head
  | absent first => exact stays_some (fun _ => rfl) fun _ tail head => head
  | step first later ih ih' =>
    intro tail head kept _ _ same
    cases same
    exact ih' tail ((ih tail (head.clear _)).1 kept _ _ rfl) kept _ _ rfl
  | stop first =>
    intro tail head kept _ _ same
    cases same
    exact head

end Standing

end Reshape.Grammar
