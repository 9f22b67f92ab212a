import Reshape.Proofs.Grammar.Primary
import Reshape.Proofs.Json.Writer

/-!
Lists between an opening and a closing sign: arrays, objects and calls, each with the text that is
read as it, and the fields and methods that stand behind operands. Arguments of calls are
expressions, lambdas, and either of them under a name; an expression is told from the others by what
follows the name that it may begin with.
-/

namespace Reshape.Grammar

variable {rest : List Char} {post : List Char → List Piece → Prop}

/-- A passage of a source, and what is said of what it is read as. -/
structure Passage (α : Type) where
  text : List Char
  Is : α → Prop

/-- What may come after an item of a list. -/
def Separates (rest : List Char) : Prop :=
  ∀ c ∈ rest.head?, c ∈ [')', ',', ']', '\x7d']

/-- What separates an item closes it. -/
theorem Separates.closes (separates : Separates rest) : Closes rest :=
  holds_of_heads separates (by decide)

namespace Passage

variable {α : Type}

/-- A passage is read as one part by a pattern, wherever a list can go on or end after it. -/
structure Good (inner : Pattern) (read : Piece → Option α) (passage : Passage α) : Prop where
  solid (rest : List Char) : dropBlanks false (passage.text ++ rest) = passage.text ++ rest
  reads {rest : List Char} (separates : Separates rest) :
    Reads .loose inner (passage.text ++ rest) fun left pieces =>
      left = rest ∧ ∃ piece found, pieces = [piece] ∧ read piece = some found ∧ passage.Is found

/-- The text of further items, each behind a comma and a gap. -/
def laterText (gap : List Char) (items : List (Passage α)) : List Char :=
  items.flatMap fun item => ',' :: (gap ++ item.text)

/-- The text of items with commas and gaps between them. -/
def listText (gap : List Char) : List (Passage α) → List Char
  | [] => []
  | item :: rest => item.text ++ laterText gap rest

/-- Items with commas between them are their texts with commas between them. -/
theorem listText_eq (gap : List Char) (items : List (Passage α)) :
    listText gap items = Json.separated gap (items.map (·.text)) := by
  cases items with
  | nil => rfl
  | cons item items => simp [listText, laterText, Json.separated, List.flatMap_map]

/-- What is said of what items are read as. -/
def Are (items : List (Passage α)) (found : List α) : Prop :=
  List.Forall₂ (fun item found => item.Is found) items found

/-- What is said of the parts that items are read as. -/
def AreRead (read : Piece → Option α) (items : List (Passage α)) (pieces : List Piece) : Prop :=
  List.Forall₂ (fun item piece => ∃ found, read piece = some found ∧ item.Is found) items pieces

/-- What parts are read as, of which all say something. -/
theorem AreRead.exists_mapM {read : Piece → Option α} {items : List (Passage α)}
    {pieces : List Piece} (are : AreRead read items pieces) (mark : read .mark = none) :
    ∃ found, (pieces.filter Piece.speaks).mapM read = some found ∧ Are items found := by
  induction are with
  | nil => exact ⟨[], rfl, .nil⟩
  | @cons item piece items pieces known later ih =>
    obtain ⟨first, known, is⟩ := known
    obtain ⟨found, read_later, are⟩ := ih
    -- A mark is read as nothing.
    have speaks : piece.speaks = true := by
      cases piece with
      | mark => simp [mark] at known
      | _ => rfl
    refine ⟨first :: found, ?_, .cons is are⟩
    rw [List.filter_cons_of_pos speaks, List.mapM_cons, known, read_later]
    rfl

end Passage

section Lists

variable {α : Type} {inner : Pattern} {read : Piece → Option α} {gap : List Char}
  {items : List (Passage α)}

/-- After an item comes the next one or what comes after the list. -/
theorem separates_laterText (gap : List Char) (items : List (Passage α))
    (separates : Separates rest) : Separates (Passage.laterText gap items ++ rest) := by
  cases items with
  | nil => exact separates
  | cons item items => exact holds_of_head (by decide)

/-- Further items, each behind a comma. -/
theorem repeats_items (blank : gap = [] ∨ gap = [' '])
    (good : ∀ item ∈ items, item.Good inner read) (separates : Separates rest)
    (last : ∀ c ∈ rest.head?, c ≠ ',')
    (ends : ∀ pieces, Passage.AreRead read items pieces → post rest pieces) :
    Repeats .loose (Pattern.word "," ++ inner) (Passage.laterText gap items ++ rest) post := by
  induction items generalizing post with
  | nil =>
    refine .stop (.before ?_) (ends [] .nil)
    change Refuses _ _ (dropBlanks false rest)
    rw [separates.closes.clear]
    exact .head last
  | cons item items ih =>
    rw [List.forall_mem_cons] at good
    have text : Passage.laterText gap (item :: items) ++ rest =
        ',' :: (gap ++ (item.text ++ (Passage.laterText gap items ++ rest))) := by
      simp [Passage.laterText]
    rw [text]
    refine .step (.clear (dropBlanks_of_solid rfl (by decide) _) (.both (.symbol ',' ?_)))
    -- The gap behind the comma is skipped, and nothing of the item itself.
    have skipped : Mode.loose.clear (gap ++ (item.text ++ (Passage.laterText gap items ++ rest))) =
        item.text ++ (Passage.laterText gap items ++ rest) := by
      rcases blank with rfl | rfl
      · exact good.1.solid _
      · exact good.1.solid _
    rw [skipped]
    refine (good.1.reads (separates_laterText gap items separates)).imp ?_
    rintro _ _ ⟨rfl, piece, found, rfl, known, is⟩
    exact ih good.2 fun pieces are => ends (piece :: pieces) (.cons ⟨found, known, is⟩ are)

/-- Items with commas between them. -/
theorem Reads.listed (blank : gap = [] ∨ gap = [' '])
    (good : ∀ item ∈ items, item.Good inner read) (separates : Separates rest)
    (last : ∀ c ∈ rest.head?, c ≠ ',') (refuses : Refuses .loose inner rest)
    (ends : ∀ pieces, Passage.AreRead read items pieces → post rest pieces) :
    Reads .loose (Pattern.listed inner) (Passage.listText gap items ++ rest) post := by
  cases items with
  | nil => exact .missing (.before (.before refuses)) (ends [] .nil)
  | cons item items =>
    rw [List.forall_mem_cons] at good
    rw [Passage.listText, List.append_assoc]
    have clear := (separates_laterText gap items separates).closes.clear
    refine .present (.both (.both
      ((good.1.reads (separates_laterText gap items separates)).imp ?_)))
    rintro _ _ ⟨rfl, piece, found, rfl, known, is⟩
    refine .clear clear (.ofRepeats clear ?_)
    refine repeats_items blank good.2 separates last fun pieces are => ?_
    -- No comma comes before the end of the list.
    refine .clear separates.closes.clear (.missing (.head last) ?_)
    rw [List.append_nil]
    exact ends (piece :: pieces) (.cons ⟨found, known, is⟩ are)

/-- Items between an opening and a closing sign. -/
theorem reads_enclosed {opening closing : Char} (blank : gap = [] ∨ gap = [' '])
    (good : ∀ item ∈ items, item.Good inner read) (closes : closing ∈ [')', ']', '\x7d'])
    (refuses : Refuses .loose inner (closing :: rest))
    (ends : ∀ pieces, Passage.AreRead read items pieces → post rest pieces) :
    Reads .loose (.text [opening] ++ Pattern.listed inner ++ .text [closing])
      (opening :: (Passage.listText gap items ++ closing :: rest)) post := by
  have known : ∀ c ∈ [')', ']', '\x7d'], c ∈ [')', ',', ']', '\x7d'] ∧ c ≠ ',' := by decide
  obtain ⟨separator, last⟩ := known closing closes
  have separates : Separates (closing :: rest) := holds_of_head separator
  -- Nothing is skipped behind the opening sign, whether there are items or not.
  have clear : dropBlanks false (Passage.listText gap items ++ closing :: rest) =
      Passage.listText gap items ++ closing :: rest := by
    cases items with
    | nil => exact separates.closes.clear
    | cons item items =>
      rw [List.forall_mem_cons] at good
      rw [Passage.listText, List.append_assoc]
      exact good.1.solid _
  refine .both (.both (.symbol opening (.clear clear ?_)))
  refine .listed blank good separates (holds_of_head last) refuses fun pieces are => ?_
  refine .clear separates.closes.clear (.symbol closing ?_)
  rw [List.nil_append, List.append_nil]
  exact ends pieces are

end Lists

section Enclosed

variable {gap : List Char}

/-- An array. -/
theorem Reads.array {items : List (Passage Term)} (blank : gap = [] ∨ gap = [' '])
    (good : ∀ item ∈ items, item.Good (.rule .expr) Piece.term?)
    (ends : ∀ terms, Passage.Are items terms → post rest [.term (.array terms)]) :
    Reads .loose Pattern.primary ('[' :: (Passage.listText gap items ++ ']' :: rest)) post := by
  refine .primaryKnown ['['] (primaryRules.take 5) _ rfl (dropBlanks_of_solid rfl (by decide) _)
    (by decide) (.rule .array rfl (reads_enclosed blank good (by decide) ?_ fun pieces are => ?_))
  · exact .ofHead _ (by decide)
  · intro text span line _
    -- All parts inside are terms, and the array is made of them.
    obtain ⟨terms, made, is⟩ := are.exists_mapM rfl
    have part : Piece.ofRule? .array (String.ofList text) span line pieces =
        some (.term (.array terms)) := by
      change ((pieces.filter Piece.speaks).mapM Piece.term?).map _ = _
      rw [made]
      rfl
    rw [part]
    exact ends terms is

/-- An object. -/
theorem Reads.object {items : List (Passage (Span × Term × Term))}
    (blank : gap = [] ∨ gap = [' '])
    (good : ∀ item ∈ items, item.Good (.rule .objectEntry) Piece.entry?)
    (ends : ∀ entries, Passage.Are items entries → post rest [.term (.object entries)]) :
    Reads .loose Pattern.primary ('\x7b' :: (Passage.listText gap items ++ '\x7d' :: rest))
      post := by
  -- Of the rules of operands those before the object are refused by the brace.
  refine .primaryKnown ['\x7b'] (primaryRules.take 6) _ rfl
    (dropBlanks_of_solid rfl (by decide) _) (by decide)
    (.rule .object rfl (reads_enclosed blank good (by decide) ?_ fun pieces are => ?_))
  · exact .ofHead _ (by decide)
  · intro text span line _
    obtain ⟨entries, made, is⟩ := are.exists_mapM rfl
    have part : Piece.ofRule? .object (String.ofList text) span line pieces =
        some (.term (.object entries)) := by
      change ((pieces.filter Piece.speaks).mapM Piece.entry?).map _ = _
      rw [made]
      rfl
    rw [part]
    exact ends entries is

end Enclosed

section Calls

variable {gap : List Char} {items : List (Passage (Option String × Term))}

/-- What closes a call is no argument. -/
theorem refuses_argument : Refuses .loose Pattern.argument (')' :: rest) :=
  .ofHead _ (by decide)

/-- The arguments of a call. -/
theorem Reads.callArguments {mode : Mode} (blank : gap = [] ∨ gap = [' '])
    (good : ∀ item ∈ items, item.Good Pattern.argument Piece.argument?)
    (tracked : mode.isTracked = true)
    (ends : ∀ given, Passage.Are items given → post rest [.arguments given]) :
    Reads mode (.rule .callArguments) ('(' :: (Passage.listText gap items ++ ')' :: rest))
      post := by
  -- Blanks are free between arguments, even where they are not around the call.
  have inside : mode.inside .loose = .loose := by simp [Mode.inside, tracked]
  have tree : (mode.around .loose).isLeaf = false := rfl
  refine .rule .callArguments tree ?_
  change Reads (mode.inside .loose) _ _ _
  rw [inside]
  refine reads_enclosed blank good (by decide) refuses_argument
    fun pieces are text span line _ => ?_
  obtain ⟨given, made, is⟩ := are.exists_mapM rfl
  have part : Piece.ofRule? .callArguments (String.ofList text) span line pieces =
      some (.arguments given) := by
    change ((pieces.filter Piece.speaks).mapM Piece.argument?).map _ = _
    rw [made]
    rfl
  rw [part]
  exact ends given is

/-- A call of a function. -/
theorem Reads.functionCall {name : String} (valid : isIdentifier name = true)
    (blank : gap = [] ∨ gap = [' '])
    (good : ∀ item ∈ items, item.Good Pattern.argument Piece.argument?)
    (ends : ∀ span given, Passage.Are items given → post rest [.term (.call span name given)]) :
    Reads .loose Pattern.primary
      (name.toList ++ '(' :: (Passage.listText gap items ++ ')' :: rest)) post := by
  have cuts : Cuts ('(' :: (Passage.listText gap items ++ ')' :: rest)) :=
    holds_of_head (by decide)
  -- The nine rules before it refuse a name, and the brackets behind make it a call.
  refine .primary (primaryRules.take 9) _ rfl (refuses_before_name valid cuts)
    (.rule .functionCall rfl (.both (.identifier rfl valid cuts ?_)))
  refine .callArguments blank good rfl fun given are text span line _ => ?_
  exact ends span given are

/-- A call of a method behind an operand. -/
theorem Reads.methodCall {name : String} (valid : isFieldName name = true)
    (blank : gap = [] ∨ gap = [' '])
    (good : ∀ item ∈ items, item.Good Pattern.argument Piece.argument?)
    (ends : ∀ span given, Passage.Are items given → post rest [.tail (.method span name given)]) :
    Reads .loose Pattern.postfixTail
      ('.' :: (name.toList ++ '(' :: (Passage.listText gap items ++ ')' :: rest))) post := by
  have cuts : Cuts ('(' :: (Passage.listText gap items ++ ')' :: rest)) :=
    holds_of_head (by decide)
  -- A call is tried before the plain field, and the brackets behind the name make it one.
  refine .left (.rule .methodCall rfl (.both (.both (.symbol '.' ?_))))
  refine .fieldName rfl valid cuts ?_
  refine .callArguments blank good rfl fun given are text span line _ => ?_
  exact ends span given are

/-- A field behind an operand. -/
theorem Reads.plainField {name : String} (valid : isFieldName name = true) (follows : Follows rest)
    (ends : post rest [.tail (.field (.plain name))]) :
    Reads .loose Pattern.postfixTail ('.' :: (name.toList ++ rest)) post := by
  have bare : ∀ c ∈ rest.head?, c ≠ '(' := holds_of_heads follows (by decide)
  -- A call is tried first, which needs a parenthesis behind the name.
  have call : Refuses .loose (.rule .methodCall) ('.' :: (name.toList ++ rest)) := by
    refine .rule _ (.after (.both (.symbol '.' ?_)))
    exact .fieldName rfl valid follows.cuts (.rule _ (.before (.before (.head bare))))
  refine .right call (.rule .fieldAccess rfl (.both (.symbol '.' (.left ?_))))
  exact .fieldName rfl valid follows.cuts fun _ _ _ _ => ends

/-- A field in quotes behind an operand. -/
theorem Reads.quotedField {inner : List Char} (quotable : IsQuotable inner)
    (ends : ∀ span, post rest
      [.tail (.field (.quoted span (String.ofList ('"' :: inner ++ ['"']))))]) :
    Reads .loose Pattern.postfixTail ('.' :: '"' :: inner ++ '"' :: rest) post := by
  -- No name begins with a quote, so that this is neither a call nor a field without quotes.
  have name {mode : Mode} : Refuses mode (.rule .fieldName) ('"' :: inner ++ '"' :: rest) :=
    .ofHead _ (by decide)
  have call : Refuses .loose (.rule .methodCall) ('.' :: '"' :: inner ++ '"' :: rest) :=
    .rule _ (.before (.after (.symbol '.' name)))
  refine .right call (.rule .fieldAccess rfl (.both (.symbol '.' (.right name ?_))))
  exact .string quotable fun span _ _ _ _ => ends span

end Calls

/-- A source begins neither with the name of an argument nor with a lambda. -/
structure Nameless (source : List Char) : Prop where
  named : Refuses .loose (.rule .namedArgument) source
  lambda : Refuses .loose (.rule .lambda) source

/-- What follows a name makes it neither the name of an argument nor the beginning of a lambda. -/
structure Unnamed (rest : List Char) : Prop where
  colon : ∀ c ∈ (dropBlanks false rest).head?, c ≠ ':'
  arrow : ¬['-', '>'] <+: dropBlanks false rest

/-- What begins with another sign does not make a name that of an argument or of a lambda. -/
theorem Unnamed.ofHead {c : Char} (source : List Char)
    (known : isSeparator c = false ∧ c ≠ '#' ∧ c ≠ ':' ∧ c ≠ '-') : Unnamed (c :: source) := by
  -- The first character stands as it is, and it is no part of a name with a colon or an arrow.
  have clear := dropBlanks_of_solid known.1 known.2.1 source
  refine ⟨?_, ?_⟩
  · rw [clear]
    exact holds_of_head known.2.2.1
  · rw [clear]
    rintro ⟨_, ⟨⟩⟩
    exact known.2.2.2 rfl

/-- What begins with no name is nameless. -/
theorem Nameless.ofRefuses {source : List Char}
    (refuses : Refuses .loose (.rule .identifier) source) : Nameless source :=
  ⟨.rule _ (.before (.before refuses)), .rule _ (.before (.before refuses))⟩

/-- What begins with a sign that begins no name is nameless. -/
theorem Nameless.ofHead {c : Char} (source : List Char)
    (known : isSeparator c = false ∧ c ≠ '#' ∧
      (Pattern.rule .identifier).verdict 40 [c] = .refused) : Nameless (c :: source) :=
  .ofRefuses (.ofHead source known)

/-- A name with something else behind it is nameless. -/
theorem Nameless.ofName {name : String} (valid : isIdentifier name = true) (cuts : Cuts rest)
    (unnamed : Unnamed rest) : Nameless (name.toList ++ rest) where
  named := .rule _ (.before (.after (.identifier rfl valid cuts (.head unnamed.colon))))
  lambda := .rule _ (.before (.after (.identifier rfl valid cuts (.text unnamed.arrow))))

/-- Digits are nameless. -/
theorem Nameless.ofDigits {digits : List Char} (filled : digits ≠ [])
    (holds : ∀ c ∈ digits, c.isDigit = true) (cuts : Cuts rest) : Nameless (digits ++ rest) := by
  obtain ⟨c, more, rfl⟩ := List.exists_cons_of_ne_nil filled
  have digit : c.isDigit = true := holds c (.head _)
  -- Names can go on with digits, but neither they nor the words that are no names begin with one.
  have letters : ∀ d ∈ c :: more, CharClass.nameChar.holds d = true := by
    intro d member
    simp [CharClass.holds, Char.isAlphanum, holds d member]
  have starts : ∀ word ∈ reservedWords, ∀ d ∈ word.toList, d.isDigit = false := by decide
  have free : String.ofList (c :: more) ∉ reservedWords := by
    intro member
    have other := starts _ member c (by simp)
    rw [digit] at other
    cases other
  have word : Refuses .leaf Pattern.reserved (c :: more ++ rest) := by
    have refuses : Refuses .leaf Pattern.reserved ((String.ofList (c :: more)).toList ++ rest) :=
      refuses_reserved rfl (by simpa using letters) cuts free
    rwa [String.toList_ofList] at refuses
  refine .ofRefuses (.rule .identifier (.before (.after (.absent word (.either ?_ ?_)))))
  · refine .char fun d first => ?_
    cases first
    exact isAlpha_of_isDigit digit
  · refine .head fun d first => ?_
    cases first
    rintro rfl
    cases digit

/-- A lambda. -/
theorem Reads.lambda {name : String} (valid : isIdentifier name = true) {row : Row}
    (good : row.Good) (closes : Closes rest)
    (ends : ∀ span first more, row.first.Is first → Row.MoreAre row.more more →
      post rest [.term (.lambda name (.nested span (rowTerm first more)))]) :
    Reads .loose (.rule .lambda) (name.toList ++ (" -> ".toList ++ (row.text ++ rest))) post := by
  have cuts : Cuts (" -> ".toList ++ (row.text ++ rest)) := holds_of_head (by decide)
  refine .rule .lambda rfl (.both (.both (.identifier rfl valid cuts ?_)))
  refine .text ['-', '>'] ?_
  change Reads _ _ (dropBlanks false (row.text ++ rest)) _
  -- No blank begins the row, so that skipping blanks leaves it as it is.
  rw [good.clear]
  exact .expr good closes fun span first more is are _ _ _ _ => ends span first more is are

/-- A lambda is no named argument. -/
theorem refuses_named_of_lambda {name : String} (valid : isIdentifier name = true)
    (source : List Char) :
    Refuses .loose (.rule .namedArgument) (name.toList ++ (" -> ".toList ++ source)) := by
  have cuts : Cuts (" -> ".toList ++ source) := holds_of_head (by decide)
  -- An arrow stands where the colon would.
  exact .rule _ (.before (.after (.identifier rfl valid cuts (.head (holds_of_head (by decide))))))

/-- An argument under a name. -/
theorem Reads.namedArgument {name : String} (valid : isIdentifier name = true)
    {source : List Char} (clear : dropBlanks false source = source)
    (reads : Reads .loose (.either (.rule .lambda) (.rule .expr)) source fun left pieces =>
      ∃ term, pieces = [.term term] ∧ post left [.named name term]) :
    Reads .loose (.rule .namedArgument) (name.toList ++ (": ".toList ++ source)) post := by
  -- Behind the name and its colon, blanks may stand before what is named.
  have cuts : Cuts (": ".toList ++ source) := holds_of_head (by decide)
  refine .rule .namedArgument rfl (.both (.both (.identifier rfl valid cuts ?_)))
  refine .symbol ':' ?_
  change Reads _ _ (dropBlanks false source) _
  rw [clear]
  refine reads.imp ?_
  rintro left _ ⟨term, rfl, ends⟩ _ _ _ _
  exact ends

end Reshape.Grammar
