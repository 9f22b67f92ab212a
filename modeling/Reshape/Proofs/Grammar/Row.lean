import Mathlib.Data.List.Forall2
import Reshape.Proofs.Grammar.Sign

/-!
Rows of operands with signs between them, as expressions are written: how a row is read, and the
term that is put together from its operands.
-/

namespace Reshape

namespace Grammar

/-- A term is no operator with two operands. -/
def IsWhole (term : Term) : Prop :=
  ∀ sign left right, term ≠ .binary sign left right

/-- A match leaves a source and makes one part: a term that is no operator with two operands and has
a property. -/
def IsBase (rest : List Char) (Is : Term → Prop) (left : List Char) (pieces : List Piece) : Prop :=
  left = rest ∧ ∃ piece term, pieces = [piece] ∧ piece.term? = some term ∧ IsWhole term ∧ Is term

/-- The part of a term that is no operator with two operands. -/
theorem IsBase.ofPiece {rest : List Char} {Is : Term → Prop} {piece : Piece} {term : Term}
    (known : piece.term? = some term) (whole : IsWhole term) (is : Is term) :
    IsBase rest Is rest [piece] :=
  ⟨rfl, piece, term, rfl, known, whole, is⟩

/-- Parts that follow an operand in a source, and what is said of what they are read as. -/
structure Suffix where
  text : List Char
  Is : Tail → Prop

/-- A suffix is read wherever an operand can go on after it. -/
structure Suffix.Good (suffix : Suffix) : Prop where
  point : ∃ more, suffix.text = '.' :: more
  reads {rest : List Char} (follows : Follows rest) :
    Reads .loose Pattern.postfixTail (suffix.text ++ rest) fun left pieces =>
      left = rest ∧ ∃ tail, pieces = [.tail tail] ∧ suffix.Is tail

/-- An operand in a source: signs, what they stand before and what follows that, and what is said of
the terms that these are read as. -/
structure Operand where
  signs : List PrefixSign
  base : List Char
  suffixes : List Suffix
  BaseIs : Term → Prop

namespace Operand

variable {operand : Operand}

/-- The text of what follows the base of an operand. -/
def after (operand : Operand) : List Char :=
  operand.suffixes.flatMap (·.text)

/-- The text of an operand. -/
def text (operand : Operand) : List Char :=
  operand.signs.flatMap (·.symbol.toList) ++ (operand.base ++ operand.after)

/-- What is said of the term that an operand is read as. -/
def Is (operand : Operand) (term : Term) : Prop :=
  ∃ base tails, operand.BaseIs base ∧ IsWhole base ∧
    List.Forall₂ (fun suffix tail => suffix.Is tail) operand.suffixes tails ∧
      term = operand.signs.foldr .signed (tails.foldl Tail.apply base)

/-- An operand is read wherever an expression can go on or end after it. -/
structure Good (operand : Operand) : Prop where
  begins : Begins operand.base
  base {rest : List Char} (stops : Stops rest) :
    Reads .loose Pattern.primary (operand.base ++ (operand.after ++ rest))
      (IsBase (operand.after ++ rest) operand.BaseIs)
  suffixes (suffix : Suffix) (member : suffix ∈ operand.suffixes) : suffix.Good

/-- The term of an operand is no operator with two operands. -/
theorem Is.whole {term : Term} (is : operand.Is term) : IsWhole term := by
  obtain ⟨base, tails, -, whole, -, rfl⟩ := is
  -- A field or a call around a term is no operator with two operands, and a sign before it is none.
  have tailed : IsWhole (tails.foldl Tail.apply base) := by
    induction tails generalizing base with
    | nil => exact whole
    | cons tail tails ih => exact ih _ (by cases tail <;> simp [IsWhole, Tail.apply])
  cases operand.signs with
  | nil => exact tailed
  | cons sign signs => simp [IsWhole]

end Operand

/-- Parts that are pushed onto a chain between signs as an operand with a term. -/
def Pushes (pieces : List Piece) (term : Term) : Prop :=
  ∀ before, ∃ chain, pieces.foldlM Piece.Chain.push ⟨before, [], none⟩ = some chain ∧
    chain.term? = some (match before with
      | some (left, next) => Piece.extend next term left
      | none => term)

/-- Signs, a part that is a term and tails are pushed as one operand. -/
theorem pushes_operand (signs : List PrefixSign) {piece : Piece} {base : Term}
    (known : piece.term? = some base) (tails : List Tail) :
    Pushes (signs.map .prefixSign ++ (piece :: tails.map .tail))
      (signs.foldr .signed (tails.foldl Tail.apply base)) := by
  -- Signs are gathered up to the operand, the last one first.
  have pushed_signs (signs before : List PrefixSign) (left : Option (Term × Sign)) :
      (signs.map Piece.prefixSign).foldlM Piece.Chain.push ⟨left, before, none⟩ =
        some ⟨left, signs.reverse ++ before, none⟩ := by
    induction signs generalizing before with
    | nil => rfl
    | cons sign signs ih =>
      rw [List.map_cons, List.foldlM_cons, List.reverse_cons, List.append_assoc]
      exact ih (sign :: before)
  -- Tails are applied to the operand as they come.
  have pushed_tails (tails : List Tail) (operand : Term) (left : Option (Term × Sign))
      (signs : List PrefixSign) :
      (tails.map Piece.tail).foldlM Piece.Chain.push ⟨left, signs, some operand⟩ =
        some ⟨left, signs, some (tails.foldl Tail.apply operand)⟩ := by
    induction tails generalizing operand with
    | nil => rfl
    | cons tail tails ih =>
      rw [List.map_cons, List.foldlM_cons]
      exact ih _
  have pushed_base (chain : Piece.Chain) :
      chain.push piece = some { chain with operand := some base } := by
    cases piece with
    | term found => rw [← Option.some.inj known]; rfl
    | quoted span text => rw [← Option.some.inj known]; rfl
    | _ => cases known
  intro before
  refine ⟨⟨before, signs.reverse, some (tails.foldl Tail.apply base)⟩, ?_, ?_⟩
  · simp only [List.foldlM_append, List.foldlM_cons, pushed_signs, pushed_base, pushed_tails,
      Option.bind_eq_bind, Option.bind_some, List.append_nil]
  · cases before <;> simp [Piece.Chain.term?]

/-- All parts that make a term speak. -/
theorem filter_speaks_of_chain? {pieces : List Piece} {term : Term}
    (made : Piece.chain? pieces = some term) : pieces.filter Piece.speaks = pieces := by
  have each (pieces : List Piece) (chain whole : Piece.Chain)
      (pushed : pieces.foldlM Piece.Chain.push chain = some whole) :
      pieces.filter Piece.speaks = pieces := by
    induction pieces generalizing chain with
    | nil => rfl
    | cons piece pieces ih =>
      obtain ⟨next, first, later⟩ := Option.bind_eq_some_iff.1 pushed
      -- A mark cannot be pushed, so that there is none.
      have speaks : piece.speaks = true := by
        cases piece with
        | mark => cases first
        | _ => rfl
      rw [List.filter_cons_of_pos speaks, ih next later]
  obtain ⟨chain, pushed, -⟩ := Option.bind_eq_some_iff.1 made
  exact each pieces _ chain pushed

/-- The term of a first operand and further ones behind signs. -/
def rowTerm (first : Term) (more : List (Sign × Term)) : Term :=
  more.foldl (fun left pair => Piece.extend pair.1 pair.2 left) first

section Binding

variable {level : Nat} {term first : Term} {more : List (Sign × Term)}

/-- If a term is an operator with two operands, the operator binds at least so tightly. -/
def Binds (level : Nat) (term : Term) : Prop :=
  ∀ sign left right, term = .binary sign left right → level ≤ sign.precedence

/-- What is no operator binds as tightly as one likes. -/
theorem IsWhole.binds (whole : IsWhole term) (level : Nat) : Binds level term :=
  fun sign left right same => absurd same (whole sign left right)

/-- An operand behind a sign that binds no more tightly than what is before it. -/
theorem Binds.extend_eq {next : Sign} (binds : Binds next.precedence term) (operand : Term) :
    Piece.extend next operand term = .binary next term operand := by
  cases term with
  | binary before left right => rw [Piece.extend, if_pos (binds before left right rfl)]
  | _ => rfl

/-- A term binds as tightly as before with an operand behind it, if the sign between them does. -/
theorem Binds.extend (binds : Binds level term) {next : Sign} (above : level ≤ next.precedence)
    (operand : Term) : Binds level (Piece.extend next operand term) := by
  cases term with
  | binary before left right =>
    rw [Piece.extend]
    -- Either the whole term is put before the sign, or only its right operand.
    split
    · rintro _ _ _ ⟨⟩
      exact above
    · rintro _ _ _ ⟨⟩
      exact binds before left right rfl
  | _ =>
    rintro _ _ _ ⟨⟩
    exact above

/-- The term of a row binds as tightly as all signs in it. -/
theorem Binds.rowTerm (binds : Binds level first)
    (above : ∀ pair ∈ more, level ≤ pair.1.precedence) : Binds level (rowTerm first more) := by
  induction more generalizing first with
  | nil => exact binds
  | cons pair more ih =>
    rw [List.forall_mem_cons] at above
    exact ih (binds.extend above.1 pair.2) above.2

/-- Signs that bind more tightly than the one before them take its right operand. -/
theorem rowTerm_binary {sign : Sign} (left first : Term)
    (above : ∀ pair ∈ more, sign.precedence < pair.1.precedence) :
    rowTerm (.binary sign left first) more = .binary sign left (rowTerm first more) := by
  induction more generalizing first with
  | nil => rfl
  | cons pair more ih =>
    rw [List.forall_mem_cons] at above
    -- The next sign binds more tightly, so that it takes the right operand away.
    have taken : Piece.extend pair.1 pair.2 (.binary sign left first) =
        .binary sign left (Piece.extend pair.1 pair.2 first) := by
      rw [Piece.extend, if_neg (Nat.not_le.2 above.1)]
    change rowTerm (Piece.extend pair.1 pair.2 (.binary sign left first)) more = _
    rw [taken, ih _ above.2]
    rfl

/-- The term of two rows with a sign between them, which binds no more tightly than the signs before
it and less tightly than those behind it. -/
theorem rowTerm_append {sign : Sign} {operand : Term} {more' : List (Sign × Term)}
    (binds : Binds sign.precedence first)
    (before : ∀ pair ∈ more, sign.precedence ≤ pair.1.precedence)
    (behind : ∀ pair ∈ more', sign.precedence < pair.1.precedence) :
    rowTerm first (more ++ (sign, operand) :: more') =
      .binary sign (rowTerm first more) (rowTerm operand more') := by
  -- What is before the sign becomes its left operand, and what is behind it stays in its right one.
  have left : Binds sign.precedence (rowTerm first more) := binds.rowTerm before
  have split : rowTerm first (more ++ (sign, operand) :: more') =
      rowTerm (Piece.extend sign operand (rowTerm first more)) more' := by
    simp [rowTerm]
  rw [split, left.extend_eq, rowTerm_binary _ _ behind]

/-- Signs between operands are on the first six levels. -/
theorem precedence_le (sign : Sign) : sign.precedence ≤ 6 := by
  cases sign with
  | coalesce => decide
  | operator inner => cases inner <;> decide

end Binding

/-- A row of operands with signs between them. -/
structure Row where
  first : Operand
  more : List (Sign × Operand)

namespace Row

/-- The text of further operands behind signs, with blanks around each sign. -/
def moreText (more : List (Sign × Operand)) : List Char :=
  more.flatMap fun pair => ' ' :: pair.1.symbol.toList ++ ' ' :: pair.2.text

/-- The text of the first of further operands and of those after it. -/
theorem moreText_cons (sign : Sign) (operand : Operand) (more : List (Sign × Operand))
    (rest : List Char) :
    moreText ((sign, operand) :: more) ++ rest =
      ' ' :: (sign.symbol.toList ++ ' ' :: (operand.signs.flatMap (·.symbol.toList) ++
        (operand.base ++ (operand.after ++ (moreText more ++ rest))))) := by
  simp [moreText, Operand.text]

/-- The text of a row. -/
def text (row : Row) : List Char :=
  row.first.text ++ moreText row.more

/-- What is said of the terms that further operands are read as. -/
def MoreAre (more : List (Sign × Operand)) (terms : List (Sign × Term)) : Prop :=
  List.Forall₂ (fun pair pair' => pair.1 = pair'.1 ∧ pair.2.Is pair'.2) more terms

/-- All operands of a row are read wherever an expression can go on or end after them. -/
structure Good (row : Row) : Prop where
  first : row.first.Good
  more (pair : Sign × Operand) (member : pair ∈ row.more) : pair.2.Good

end Row

section Reading

variable {rest : List Char} {post : List Char → List Piece → Prop}

/-- Suffixes begin with points, so what follows them is what follows the first one. -/
theorem suffixes_follow {suffixes : List Suffix} (good : ∀ suffix ∈ suffixes, suffix.Good)
    (follows : Follows rest) : Follows (suffixes.flatMap (·.text) ++ rest) := by
  -- A suffix begins with a point, which may follow.
  cases suffixes with
  | nil => exact follows
  | cons suffix suffixes =>
    obtain ⟨more, text⟩ := (good suffix (.head _)).point
    rw [List.flatMap_cons, text]
    exact holds_of_head (.head _)

/-- What follows the base of an operand, of which a part has been read. -/
theorem repeats_suffixes {suffixes : List Suffix} (good : ∀ suffix ∈ suffixes, suffix.Good)
    (stops : Stops rest) (refuses : Refuses .loose Pattern.postfixTail (dropBlanks false rest))
    (ends : ∀ tails, List.Forall₂ (fun suffix tail => suffix.Is tail) suffixes tails →
      post rest (tails.map .tail)) :
    Repeats .loose Pattern.postfixTail (suffixes.flatMap (·.text) ++ rest) post := by
  induction suffixes generalizing post with
  | nil => exact .stop refuses (ends [] .nil)
  | cons suffix suffixes ih =>
    rw [List.forall_mem_cons] at good
    obtain ⟨more, text⟩ := good.1.point
    refine .step ?_
    -- A suffix begins with a point, so that no blanks come before it.
    have same : Mode.loose.clear ((suffix :: suffixes).flatMap (·.text) ++ rest) =
        suffix.text ++ (suffixes.flatMap (·.text) ++ rest) := by
      rw [List.flatMap_cons, List.append_assoc, text]
      exact dropBlanks_of_solid (c := '.') rfl (by decide) _
    rw [same]
    refine (good.1.reads (suffixes_follow good.2 stops.follows)).imp ?_
    rintro _ _ ⟨rfl, tail, rfl, is⟩
    exact ih good.2 fun tails are => ends (tail :: tails) (.cons is are)

/-- What follows the base of an operand. -/
theorem reads_suffixes {suffixes : List Suffix} (good : ∀ suffix ∈ suffixes, suffix.Good)
    (stops : Stops rest) (refuses : Refuses .loose Pattern.postfixTail (dropBlanks false rest))
    (ends : ∀ left tails, left = rest ∨ left = dropBlanks false rest →
      List.Forall₂ (fun suffix tail => suffix.Is tail) suffixes tails →
        post left (tails.map .tail)) :
    Reads .loose (.many Pattern.postfixTail)
      (dropBlanks false (suffixes.flatMap (·.text) ++ rest)) post := by
  cases suffixes with
  -- The blanks before the suffix that is looked for first stay skipped, although there is none.
  | nil => exact .none refuses (ends _ [] (.inr rfl) .nil)
  | cons suffix suffixes =>
    rw [List.forall_mem_cons] at good
    obtain ⟨more, text⟩ := good.1.point
    have same : dropBlanks false ((suffix :: suffixes).flatMap (·.text) ++ rest) =
        suffix.text ++ (suffixes.flatMap (·.text) ++ rest) := by
      rw [List.flatMap_cons, List.append_assoc, text]
      exact dropBlanks_of_solid (c := '.') rfl (by decide) _
    rw [same]
    refine .many ((good.1.reads (suffixes_follow good.2 stops.follows)).imp ?_)
    rintro _ _ ⟨rfl, tail, rfl, is⟩
    exact repeats_suffixes good.2 stops refuses fun tails are =>
      ends rest (tail :: tails) (.inl rfl) (.cons is are)

/-- An operand whose signs are read by a pattern, perhaps with something before them. -/
theorem reads_operand {operand : Operand} (good : operand.Good) (before : List Piece)
    {head : Pattern} {source : List Char} (stops : Stops rest)
    (refuses : Refuses .loose Pattern.postfixTail (dropBlanks false rest))
    (reads : ∀ {post : List Char → List Piece → Prop},
      post (operand.base ++ (operand.after ++ rest)) (before ++ operand.signs.map .prefixSign) →
        Reads .loose head source post)
    (ends : ∀ left pieces term, left = rest ∨ left = dropBlanks false rest → operand.Is term →
      Pushes pieces term → post left (before ++ pieces)) :
    Reads .loose (head ++ Pattern.primary ++ .many Pattern.postfixTail) source post := by
  refine .both (.both (reads ?_))
  have begins : dropBlanks false (operand.base ++ (operand.after ++ rest)) =
      operand.base ++ (operand.after ++ rest) := (good.begins.append _).clear
  refine .clear begins ((good.base stops).imp ?_)
  rintro _ _ ⟨rfl, piece, base, rfl, known, whole, is⟩
  refine reads_suffixes good.suffixes stops refuses fun left tails place are => ?_
  -- The chain puts signs, base and tails together as the term of the operand has them.
  have pushes := pushes_operand operand.signs known tails
  have term : operand.Is (operand.signs.foldr .signed (tails.foldl Tail.apply base)) :=
    ⟨base, tails, is, whole, are, rfl⟩
  have whole := ends left _ _ place term pushes
  simpa only [List.append_assoc, List.singleton_append] using whole

/-- After an operand comes the end of an expression or a blank and a sign with the next operand. -/
theorem stops_moreText (more : List (Sign × Operand)) (closes : Closes rest) :
    Stops (Row.moreText more ++ rest) ∧
      Refuses .loose Pattern.postfixTail (dropBlanks false (Row.moreText more ++ rest)) := by
  cases more with
  | nil =>
    refine ⟨closes.stops, ?_⟩
    rw [Row.moreText, List.flatMap_nil, List.nil_append, closes.clear]
    exact closes.refuses (by decide) (by decide)
  | cons pair more =>
    refine ⟨holds_of_head (.head _), ?_⟩
    -- No sign between operands begins as a suffix does.
    have each : ∀ sign : Sign, ∃ c symbol, sign.symbol.toList = c :: symbol ∧
        isSeparator c = false ∧ c ≠ '#' ∧ Pattern.postfixTail.verdict 40 [c] = .refused := by
      intro sign
      cases sign with
      | coalesce => exact ⟨'|', _, rfl, by decide⟩
      | operator inner => cases inner <;> exact ⟨_, _, rfl, by decide⟩
    obtain ⟨c, symbol, text, blank, comment, refused⟩ := each pair.1
    have same (rest : List Char) : dropBlanks false (' ' :: c :: rest) = c :: rest :=
      dropBlanks_of_solid blank comment rest
    simp only [Row.moreText, List.flatMap_cons, text, List.cons_append, List.append_assoc, same]
    exact .ofHead _ ⟨blank, comment, refused⟩

/-- A row begins with no blank. -/
theorem Row.Good.clear {row : Row} (good : row.Good) (rest : List Char) :
    dropBlanks false (row.text ++ rest) = row.text ++ rest := by
  have begins := good.first.begins.append (row.first.after ++ (Row.moreText row.more ++ rest))
  have clear := (prefix_begins row.first.signs begins).1
  simpa only [Row.text, Operand.text, List.append_assoc] using clear

/-- Further operands behind signs, up to what closes the expression. -/
theorem repeats_more {more : List (Sign × Operand)} (good : ∀ pair ∈ more, pair.2.Good)
    (closes : Closes rest) {source : List Char}
    (stands : dropBlanks false source = dropBlanks false (Row.moreText more ++ rest))
    (last : more = [] → source = rest)
    (ends : ∀ pieces terms, Row.MoreAre more terms →
      (∀ chain left, Piece.Chain.term? chain = some left → ∃ chain',
        pieces.foldlM Piece.Chain.push chain = some chain' ∧
          chain'.term? = some (rowTerm left terms)) → post rest pieces) :
    Repeats .loose (Pattern.infixSign ++ .many Pattern.prefixSign ++ Pattern.primary ++
      .many Pattern.postfixTail) source post := by
  -- The blank before the next sign may be gone from the source, so this stays quantified over.
  induction more generalizing post source with
  | nil =>
    obtain rfl := last rfl
    refine .stop ?_ (ends [] [] .nil fun chain left given => ⟨chain, rfl, given⟩)
    change Refuses _ _ (dropBlanks false source)
    rw [closes.clear]
    exact .before (.before (.before (closes.refuses (by decide) (by decide))))
  | cons pair more ih =>
    rw [List.forall_mem_cons] at good
    obtain ⟨sign, operand⟩ := pair
    obtain ⟨stops, refuses⟩ := stops_moreText more closes
    have begins : Begins (operand.base ++ (operand.after ++ (Row.moreText more ++ rest))) :=
      good.1.begins.append _
    obtain ⟨clear, other⟩ := prefix_begins operand.signs begins
    have clear_sign (next : List Char) : dropBlanks false (' ' :: (sign.symbol.toList ++ next)) =
        sign.symbol.toList ++ next := by
      cases sign with
      | coalesce => rfl
      | operator inner => cases inner <;> rfl
    refine .step ?_
    change Reads _ _ (dropBlanks false source) _
    rw [stands, Row.moreText_cons, clear_sign]
    have good_first : operand.Good := good.1
    -- A repetition is a sign with the operand behind it.
    refine reads_operand good_first [.sign sign] stops refuses (fun {post} given => ?_)
      fun left pieces term place is pushes => ?_
    · refine .both (.infixSign sign clear (fun c first => (other c first).2) fun left skipped => ?_)
      rw [skipped]
      exact .prefixSigns operand.signs begins given
    · refine ih good.2 ?_ ?_ ?_
      · rcases place with rfl | rfl
        · rfl
        · exact dropBlanks_dropBlanks false _
      · rintro rfl
        rcases place with rfl | rfl
        · rfl
        · exact closes.clear
      · intro pieces' terms are made
        rw [List.append_assoc]
        refine ends _ ((sign, term) :: terms) (.cons ⟨rfl, is⟩ are) fun chain found known => ?_
        -- The sign puts what is made so far before it, and the operand is pushed behind it.
        obtain ⟨next, pushed, known'⟩ := pushes (some (found, sign))
        obtain ⟨whole, pushed', known''⟩ := made next _ known'
        refine ⟨whole, ?_, known''⟩
        simp only [List.singleton_append, List.foldlM_cons, List.foldlM_append, Piece.Chain.push,
          known, Option.map_some, Option.bind_eq_bind, Option.bind_some, pushed, pushed']

/-- A row of operands is read as an expression, with a term that is made of theirs. -/
theorem Reads.expr {row : Row} (good : row.Good) (closes : Closes rest)
    (ends : ∀ span first more, row.first.Is first → Row.MoreAre row.more more →
      post rest [.term (.nested span (rowTerm first more))]) :
    Reads .loose (.rule .expr) (row.text ++ rest) post := by
  obtain ⟨stops, refuses⟩ := stops_moreText row.more closes
  have begins : Begins (row.first.base ++ (row.first.after ++ (Row.moreText row.more ++ rest))) :=
    good.first.begins.append _
  refine .rule .expr rfl (.both (reads_operand good.first [] stops refuses
    (fun {post} given => ?_) fun left pieces term place is pushes => ?_))
  · simp only [Row.text, Operand.text, List.append_assoc]
    exact .prefixSigns row.first.signs begins given
  · have same : dropBlanks false left = dropBlanks false (Row.moreText row.more ++ rest) := by
      rcases place with rfl | rfl
      · rfl
      · exact dropBlanks_dropBlanks false _
    have clear : dropBlanks false (dropBlanks false left) = dropBlanks false left :=
      dropBlanks_dropBlanks false left
    refine .ofRepeats clear (repeats_more good.more closes (clear.trans same) ?_ ?_)
    · intro empty
      refine Eq.trans ?_ closes.clear
      have text : Row.moreText row.more ++ rest = rest := by rw [empty]; rfl
      rwa [text] at same
    · intro pieces' terms are made text span line _
      -- The first operand is pushed onto the empty chain, and the others onto what that makes.
      obtain ⟨chain, pushed, known⟩ := pushes Option.none
      obtain ⟨whole, pushed', known'⟩ := made chain term known
      have chained : Piece.chain? (pieces ++ pieces') = some (rowTerm term terms) := by
        simp only [Piece.chain?, List.foldlM_append, Option.bind_eq_bind, pushed, Option.bind_some,
          pushed', known']
      have part : Piece.ofRule? .expr (String.ofList text) span line (pieces ++ pieces') =
          some (.term (.nested span (rowTerm term terms))) := by
        change (Piece.chain? ((pieces ++ pieces').filter Piece.speaks)).map _ = _
        rw [filter_speaks_of_chain? chained, chained]
        rfl
      rw [List.nil_append, part]
      exact ends span term terms is are

end Reading

end Grammar

/-- A source that is a row of operands is read as a term that is made of theirs. -/
theorem Term.exists_read {row : Grammar.Row} (good : row.Good) {source : String}
    (text : source.toList = row.text) :
    ∃ span first more, Term.read source = .ok (.nested span (Grammar.rowTerm first more)) ∧
      row.first.Is first ∧ Grammar.Row.MoreAre row.more more := by
  have reads : Grammar.Reads .loose (.rule .query) source.toList fun _ pieces =>
      ∃ piece, pieces = [piece] ∧ ∃ span first more,
        piece = .term (.nested span (Grammar.rowTerm first more)) ∧ row.first.Is first ∧
          Grammar.Row.MoreAre row.more more := by
    rw [text, ← List.append_nil row.text]
    refine .rule .query rfl (.both (.both (.text [] ?_)))
    change Grammar.Reads _ _ (Grammar.dropBlanks false (row.text ++ [])) _
    rw [good.clear]
    -- Nothing comes behind the row, which closes it.
    refine .expr good (by simp [Grammar.Closes]) fun span first more is are => ?_
    refine .rule .endOfInput rfl (.finish fun _ _ _ _ _ _ _ _ => ?_)
    exact ⟨_, rfl, span, first, more, rfl, is, are⟩
  obtain ⟨piece, read, span, first, more, rfl, is, are⟩ := Grammar.exists_read reads
  refine ⟨span, first, more, ?_, is, are⟩
  rw [Term.read, read]
  rfl

end Reshape
