import Reshape.Proofs.Grammar.Start
import Reshape.Proofs.Json.Number

/-!
Tokens: the names, words, numerals and strings of the language, each with the rule that reads it
where it stands and the rules that refuse it.
-/

namespace Reshape.Grammar

/-- A property of all code points in a list is decided by going through the list, although there are
finitely many code points. -/
instance (priority := 2000) decidableForallChar (P : Char → Prop) [DecidablePred P]
    (list : List Char) : Decidable (∀ c ∈ list, P c) :=
  List.decidableBAll P list

/-- A digit is no letter. -/
theorem isAlpha_of_isDigit {c : Char} (digit : c.isDigit = true) : c.isAlpha = false := by
  -- Digits come before all letters.
  have range : (decide (48 ≤ c.val) && decide (c.val ≤ 57)) = true := digit
  have upper : c.isUpper = decide (65 ≤ c.val ∧ c.val ≤ 90) := rfl
  have lower : c.isLower = (decide (97 ≤ c.val) && decide (c.val ≤ 122)) := rfl
  have alpha : c.isAlpha = (c.isUpper || c.isLower) := rfl
  simp only [Bool.and_eq_true, decide_eq_true_eq] at range
  have below : ¬65 ≤ c.val ∧ ¬97 ≤ c.val := by
    simp only [UInt32.le_iff_toNat_le] at range ⊢
    simp at range ⊢
    omega
  rw [alpha, upper, lower]
  simp [below]

/-- A name would not go on with a text. -/
def Cuts (rest : List Char) : Prop :=
  ∀ c ∈ rest.head?, CharClass.nameChar.holds c = false

/-- The words that are no names. -/
def reservedWords : List String :=
  ["let", "root", "this", "if", "else", "match", "null", "true", "false"]

/-- Whether a text is a name that can stand alone. -/
def isIdentifier (name : String) : Bool :=
  match name.toList with
  | [] => false
  | c :: rest =>
    (CharClass.letter.holds c || c == '_') && rest.all CharClass.nameChar.holds &&
      !reservedWords.contains name

/-- Whether a text is a name that can stand in a path without quotes. -/
def isFieldName (name : String) : Bool :=
  !name.toList.isEmpty && name.toList.all CharClass.nameChar.holds

/-- What can stand between the quotes of a string: any code points but quotes, with a backslash
before each quote and each backslash. -/
inductive IsQuotable : List Char → Prop where
  | nil : IsQuotable []
  | plain {c : Char} {rest : List Char} (quote : c ≠ '"') (backslash : c ≠ '\\')
      (later : IsQuotable rest) : IsQuotable (c :: rest)
  | escaped (c : Char) {rest : List Char} (later : IsQuotable rest) :
      IsQuotable ('\\' :: c :: rest)

/-- What can stand between three quotes on either side: any code points, as long as the three
quotes behind are the first ones. -/
def IsRaw (inner : List Char) : Prop :=
  ∀ before after, inner = before ++ after → after ≠ [] →
    ¬['"', '"', '"'] <+: after ++ ['"', '"', '"']

section Tokens

variable {mode : Mode} {rest name : List Char} {post : List Char → List Piece → Prop}

/-- Without free blanks nothing is skipped. -/
theorem Mode.clear_of_tight (tight : mode.isLoose = false) (source : List Char) :
    mode.clear source = source := by
  simp [Mode.clear, tight]

/-- A code point that begins neither a blank nor a comment is not skipped. -/
theorem dropBlanks_of_solid {c : Char} (blank : isSeparator c = false) (comment : c ≠ '#')
    (rest : List Char) : dropBlanks false (c :: rest) = c :: rest := by
  simp [dropBlanks, blank, comment]

/-- Blanks are dropped at once. -/
theorem dropBlanks_dropBlanks (inComment : Bool) (source : List Char) :
    dropBlanks false (dropBlanks inComment source) = dropBlanks inComment source := by
  -- What is left begins with a letter that is kept, also when it is looked at again.
  induction source generalizing inComment with
  | nil => rfl
  | cons c rest ih =>
    rw [dropBlanks]
    split
    · exact ih _
    · split
      next => exact ih false
      next blank =>
        split
        next => exact ih true
        next comment => exact dropBlanks_of_solid (Bool.eq_false_iff.2 blank) comment rest

/-- Where there are no blanks none are skipped before a pattern. -/
theorem Reads.clear {pattern : Pattern} {source : List Char}
    (clear : dropBlanks false source = source) (reads : Reads mode pattern source post) :
    Reads mode pattern (Mode.loose.clear source) post := by
  rw [Mode.clear, if_pos rfl, clear]
  exact reads

/-- What the first code point of a source rules out is refused. -/
theorem Refuses.ofHead {c : Char} {pattern : Pattern} (source : List Char)
    (known : isSeparator c = false ∧ c ≠ '#' ∧ pattern.verdict 40 [c] = .refused) :
    Refuses mode pattern (c :: source) :=
  .ofKnown [c] (dropBlanks_of_solid known.1 known.2.1 source) known.2.2

/-- All code points of a class are taken. -/
theorem Repeats.all {kind : CharClass} (tight : mode.isLoose = false) {text : List Char}
    (holds : ∀ c ∈ text, kind.holds c = true) (stops : ∀ c ∈ rest.head?, kind.holds c = false)
    (ends : post rest []) : Repeats mode (.char kind) (text ++ rest) post := by
  -- The letters are taken one by one, with no blanks skipped in between.
  induction text generalizing post with
  | nil =>
    refine .stop ?_ ends
    rw [mode.clear_of_tight tight]
    exact .char stops
  | cons c text ih =>
    rw [List.forall_mem_cons] at holds
    refine .step ?_
    rw [mode.clear_of_tight tight]
    exact .char holds.1 (ih holds.2 ends)

/-- All code points of a class are taken, if there are any. -/
theorem Reads.all {kind : CharClass} (tight : mode.isLoose = false) {text : List Char}
    (holds : ∀ c ∈ text, kind.holds c = true) (stops : ∀ c ∈ rest.head?, kind.holds c = false)
    (ends : post rest []) : Reads mode (.many (.char kind)) (text ++ rest) post :=
  .ofRepeats (mode.clear_of_tight tight _) (Repeats.all tight holds stops ends)

/-- One or more code points of a class. -/
theorem Reads.oneOrMore {kind : CharClass} (tight : mode.isLoose = false) {text : List Char}
    (filled : text ≠ []) (holds : ∀ c ∈ text, kind.holds c = true)
    (stops : ∀ c ∈ rest.head?, kind.holds c = false) (ends : post rest []) :
    Reads mode (Pattern.oneOrMore (.char kind)) (text ++ rest) post := by
  cases text with
  | nil => exact absurd rfl filled
  | cons c text =>
    rw [List.forall_mem_cons] at holds
    -- The first character is asked for, and all the others are taken as far as they go.
    refine .both (.char holds.1 ?_)
    rw [mode.clear_of_tight tight]
    exact .all tight holds.2 stops ends

/-- A word that stands before a name and what cuts it stands in the name. -/
theorem prefix_name {word : List Char} (letters : ∀ c ∈ word, CharClass.nameChar.holds c = true)
    (cuts : Cuts rest) (stands : word <+: name ++ rest) : word <+: name := by
  rcases List.prefix_or_prefix_of_prefix stands (List.prefix_append name rest) with
    inside | ⟨more, same⟩
  · exact inside
  · -- A word that is longer than the name goes on with a letter of what is left.
    subst same
    rw [List.prefix_append_right_inj] at stands
    cases more with
    | nil => simp
    | cons c more =>
      obtain ⟨last, rfl⟩ := stands
      have other := cuts c rfl
      rw [letters c (by simp)] at other
      cases other

/-- After a word that is only the beginning of a name, the name goes on. -/
theorem refuses_inside {word : List Char} (letters : ∀ c ∈ name, CharClass.nameChar.holds c = true)
    (inside : word <+: name) (different : name ≠ word) :
    Refuses mode (.absent (.char .nameChar)) ((name ++ rest).drop word.length) := by
  obtain ⟨more, rfl⟩ := inside
  -- The name goes on behind the word, with a character that the check finds.
  cases more with
  | nil => simp at different
  | cons c more =>
    rw [List.append_assoc, List.drop_left]
    exact .absent (.char (letters c (by simp)) trivial)

/-- A word at the beginning of a source leaves the rest of it. -/
theorem Reads.textDrop {word source : List Char} (stands : word <+: source)
    (ends : post (source.drop word.length) []) : Reads mode (.text word) source post := by
  obtain ⟨rest, rfl⟩ := stands
  rw [List.drop_left] at ends
  exact .text word ends

/-- A word ends where a name would not go on. -/
theorem Reads.keyword (tight : mode.isLoose = false) (word : String) (cuts : Cuts rest)
    (ends : post rest []) : Reads mode (Pattern.keyword word) (word.toList ++ rest) post := by
  refine .both (.text _ ?_)
  rw [mode.clear_of_tight tight]
  exact .absent (.char cuts) ends

/-- A name is not a word that it differs from. -/
theorem Refuses.keyword (tight : mode.isLoose = false) {word : String}
    (word_letters : ∀ c ∈ word.toList, CharClass.nameChar.holds c = true)
    (letters : ∀ c ∈ name, CharClass.nameChar.holds c = true) (cuts : Cuts rest)
    (different : name ≠ word.toList) : Refuses mode (Pattern.keyword word) (name ++ rest) := by
  -- The word may be the beginning of the name, which then goes on behind it.
  by_cases stands : word.toList <+: name ++ rest
  · refine .after (.textDrop stands ?_)
    rw [mode.clear_of_tight tight]
    exact refuses_inside letters (prefix_name word_letters cuts stands) different
  · exact .before (.text stands)

/-- Of some words either one stands at the beginning of a source, and is passed, or none does. -/
theorem reads_or_refuses_words (mode : Mode) (source : List Char) (words : List String) :
    (∃ word ∈ words, word.toList <+: source ∧ ∀ post : List Char → List Piece → Prop,
      post (source.drop word.toList.length) [] →
        Reads mode (Pattern.choice (words.map Pattern.word)) source post) ∨
    Refuses mode (Pattern.choice (words.map Pattern.word)) source := by
  cases found : words.find? fun word => word.toList.isPrefixOf source with
  | none =>
    refine .inr (.choice fun other given => ?_)
    obtain ⟨word, member, rfl⟩ := List.mem_map.1 given
    exact .text fun begins => List.find?_eq_none.1 found word member (by simpa using begins)
  | some word =>
    -- The first of the words that stand there is the one that is passed.
    obtain ⟨begins, before, after, rfl, others⟩ := List.find?_eq_some_iff_append.1 found
    rw [List.isPrefixOf_iff_prefix] at begins
    refine .inl ⟨word, by simp, begins, fun post ends => ?_⟩
    rw [List.map_append, List.map_cons]
    refine .choice (fun other given => ?_) (.textDrop begins ends)
    obtain ⟨earlier, member, rfl⟩ := List.mem_map.1 given
    have absent := others earlier member
    exact .text fun stands => by simp [List.isPrefixOf_iff_prefix.2 stands] at absent

/-- A name is none of some words that it is not among. -/
theorem refuses_words (tight : mode.isLoose = false) {name : String}
    (letters : ∀ c ∈ name.toList, CharClass.nameChar.holds c = true) (cuts : Cuts rest)
    (words : List String)
    (words_letters : ∀ word ∈ words, ∀ c ∈ word.toList, CharClass.nameChar.holds c = true)
    (free : name ∉ words) :
    Refuses mode (Pattern.choice (words.map Pattern.word) ++ .absent (.char .nameChar))
      (name.toList ++ rest) := by
  -- If one of the words stands there the name goes on behind it, which the check refuses.
  rcases reads_or_refuses_words mode (name.toList ++ rest) words with
    ⟨word, member, stands, reads⟩ | refuses
  · refine .after (reads _ ?_)
    rw [mode.clear_of_tight tight]
    refine refuses_inside letters (prefix_name (words_letters word member) cuts stands) ?_
    rw [ne_eq, String.toList_inj]
    rintro rfl
    exact free member
  · exact .before refuses

/-- A name that is no reserved word is none of the words that are no names. -/
theorem refuses_reserved (tight : mode.isLoose = false) {name : String}
    (letters : ∀ c ∈ name.toList, CharClass.nameChar.holds c = true) (cuts : Cuts rest)
    (free : name ∉ reservedWords) : Refuses mode Pattern.reserved (name.toList ++ rest) :=
  refuses_words tight letters cuts reservedWords (by decide) free

/-- What a name that can stand alone is made of. -/
theorem identifier_parts {name : String} (valid : isIdentifier name = true) :
    ∃ c more, name.toList = c :: more ∧ (CharClass.letter.holds c = true ∨ c = '_') ∧
      (∀ c ∈ name.toList, CharClass.nameChar.holds c = true) ∧ name ∉ reservedWords := by
  unfold isIdentifier at valid
  split at valid
  next => cases valid
  next c more parts =>
    simp only [Bool.and_eq_true, Bool.or_eq_true, beq_iff_eq, List.all_eq_true, Bool.not_eq_true',
      List.contains_eq_mem, decide_eq_false_iff_not] at valid
    obtain ⟨⟨first, later⟩, free⟩ := valid
    -- Names can also go on with whatever they can begin with.
    refine ⟨c, more, parts, first, ?_, free⟩
    rw [parts, List.forall_mem_cons]
    refine ⟨?_, later⟩
    rcases first with letter | rfl
    · simp only [CharClass.holds] at letter ⊢
      simp [Char.isAlphanum, letter]
    · decide

/-- The text of a rule that has read a name is the name. -/
theorem ofList_of_append {text : List Char} {name : String}
    (same : name.toList ++ rest = text ++ rest) : String.ofList text = name := by
  rw [← List.append_cancel_right same, String.ofList_toList]

/-- A name that can stand alone. -/
theorem Reads.identifier (tree : mode.isLeaf = false) {name : String}
    (valid : isIdentifier name = true) (cuts : Cuts rest) (ends : post rest [.name name]) :
    Reads mode (.rule .identifier) (name.toList ++ rest) post := by
  obtain ⟨c, more, parts, first, letters, free⟩ := identifier_parts valid
  have later : ∀ c ∈ more, CharClass.nameChar.holds c = true :=
    fun c member => letters c (parts ▸ .tail _ member)
  have no_word : Refuses .leaf Pattern.reserved (name.toList ++ rest) :=
    refuses_reserved rfl letters cuts free
  refine .rule .identifier tree (.both (.both (.absent no_word ?_)))
  -- The text of the rule is all that stands before the rest, which is the name.
  have made : ∀ text span line, name.toList ++ rest = text ++ rest →
      post rest
        [(Piece.ofRule? .identifier (String.ofList text) span line []).getD .malformed] := by
    intro text span line same
    rw [ofList_of_append same]
    exact ends
  have tail : Reads (mode.inside .leaf) (.many (.char .nameChar)) (more ++ rest) fun rest' pieces =>
      ∀ text span line, name.toList ++ rest = text ++ rest' →
        post rest' [(Piece.ofRule? .identifier (String.ofList text) span line pieces).getD
          .malformed] := .all rfl later cuts made
  rw [parts] at tail ⊢
  rcases first with letter | rfl
  · exact .left (.char letter tail)
  · exact .right (.char fun c member => by cases member; decide) (.text ['_'] tail)

/-- A reserved word cannot stand alone as a name. -/
theorem Refuses.identifier {word : String} (reserved : word ∈ reservedWords) (cuts : Cuts rest) :
    Refuses mode (.rule .identifier) (word.toList ++ rest) := by
  -- The words that are tried before it are told from it by how it begins.
  have split : ∀ word ∈ reservedWords,
      reservedWords = reservedWords.takeWhile (· != word) ++
          word :: (reservedWords.dropWhile (· != word)).tail ∧
        ∀ other ∈ reservedWords.takeWhile (· != word),
          (Pattern.word other).verdict 40 word.toList = .refused := by decide
  have solid : ∀ word ∈ reservedWords,
      dropBlanks false (word.toList ++ rest) = word.toList ++ rest := by
    simp only [reservedWords, List.forall_mem_cons]
    exact ⟨rfl, rfl, rfl, rfl, rfl, rfl, rfl, rfl, rfl, by simp⟩
  obtain ⟨rules, refused⟩ := split word reserved
  have ends : Reads (mode.inside .leaf) (.absent (.char .nameChar)) rest fun _ _ => True :=
    .absent (.char cuts) trivial
  refine .rule .identifier (.before (.before (.absent (.both ?_))))
  change Reads _ (Pattern.choice (reservedWords.map Pattern.word)) _ _
  rw [rules, List.map_append, List.map_cons]
  refine .choice (fun pattern given => ?_) (.text _ ends)
  obtain ⟨other, member, rfl⟩ := List.mem_map.1 given
  exact .ofKnown word.toList (solid word reserved) (refused other member)

/-- A name in a path. -/
theorem Reads.fieldName (tree : mode.isLeaf = false) {name : String}
    (valid : isFieldName name = true) (cuts : Cuts rest) (ends : post rest [.name name]) :
    Reads mode (.rule .fieldName) (name.toList ++ rest) post := by
  simp only [isFieldName, Bool.and_eq_true, Bool.not_eq_true', List.all_eq_true] at valid
  refine .rule .fieldName tree (.oneOrMore rfl (by simpa using valid.1) valid.2 cuts ?_)
  intro text span line same
  rw [ofList_of_append same]
  exact ends

/-- A text that begins otherwise is not there. -/
theorem Refuses.head {c : Char} {text source : List Char} (other : ∀ d ∈ source.head?, d ≠ c) :
    Refuses mode (.text (c :: text)) source := by
  refine .text ?_
  rintro ⟨more, rfl⟩
  exact other c rfl rfl

/-- What can stand between quotes is taken up to the closing quote. -/
theorem reads_quotable {inner : List Char} (tight : mode.isLoose = false)
    (quotable : IsQuotable inner) (ends : post ('"' :: rest) []) :
    Reads mode Rule.stringInner.definition.pattern (inner ++ '"' :: rest) post := by
  refine .ofRepeats (mode.clear_of_tight tight _) ?_
  -- Each repetition takes one code point, or a backslash with the one behind it.
  induction quotable generalizing post with
  | nil =>
    refine .stop ?_ ends
    rw [mode.clear_of_tight tight]
    refine .either (.before (.absent (.left (.text ['"'] trivial)))) (.before ?_)
    exact .head fun d first => by cases first; decide
  | plain quote backslash later ih =>
    refine .step ?_
    rw [mode.clear_of_tight tight]
    refine .left (.both (.absent (.either ?_ ?_) ?_))
    · exact .head fun d first => by cases first; exact quote
    · exact .head fun d first => by cases first; exact backslash
    · rw [mode.clear_of_tight tight]
      exact .char rfl (ih ends)
  | escaped c later ih =>
    refine .step ?_
    rw [mode.clear_of_tight tight]
    refine .right (.before (.absent (.right ?_ (.text ['\\'] trivial)))) ?_
    · exact .head fun d first => by cases first; decide
    · refine .both (.text ['\\'] ?_)
      rw [mode.clear_of_tight tight]
      exact .char rfl (ih ends)

/-- A string in quotes. -/
theorem Reads.string {inner : List Char} (quotable : IsQuotable inner)
    (ends : ∀ span, post rest [.quoted span (String.ofList ('"' :: inner ++ ['"']))]) :
    Reads mode (.rule .string) ('"' :: inner ++ '"' :: rest) post := by
  have tree : (mode.around .tight).isLeaf = false := rfl
  refine .rule .string tree (.both (.both (.text ['"'] ?_)))
  refine .rule .stringInner rfl (reads_quotable rfl quotable fun _ _ _ _ => ?_)
  refine .text ['"'] fun text span line same => ?_
  -- The text of the rule holds the quotes as well.
  have whole : text = '"' :: inner ++ ['"'] :=
    List.append_cancel_right (same.symm.trans (by simp))
  rw [whole]
  exact ends span

/-- A string in quotes does not begin with three quotes, unless it is empty and a third quote
follows. -/
theorem refuses_rawString {inner : List Char} (quotable : IsQuotable inner)
    (apart : ∀ c ∈ rest.head?, c ≠ '"') :
    Refuses mode (.rule .rawString) ('"' :: inner ++ '"' :: rest) := by
  refine .rule .rawString (.before (.before (.text ?_)))
  rintro ⟨more, same⟩
  replace same : '"' :: '"' :: '"' :: more = '"' :: inner ++ '"' :: rest := same
  -- The second quote could only be the closing one, and the third would come behind the string.
  cases quotable with
  | nil =>
    obtain rfl : '"' :: more = rest := by simpa using same
    exact apart '"' rfl rfl
  | plain quote backslash later =>
    simp only [List.cons_append, List.cons.injEq] at same
    exact quote same.2.1.symm
  | escaped c later =>
    simp at same

/-- What can stand between three quotes is taken up to the closing ones. -/
theorem reads_raw {inner : List Char} (tight : mode.isLoose = false) (raw : IsRaw inner)
    (ends : post ('"' :: '"' :: '"' :: rest) []) :
    Reads mode Rule.rawInner.definition.pattern (inner ++ '"' :: '"' :: '"' :: rest) post := by
  refine .ofRepeats (mode.clear_of_tight tight _) ?_
  induction inner generalizing post with
  | nil =>
    refine .stop ?_ ends
    rw [mode.clear_of_tight tight]
    exact .before (.absent (.text ['"', '"', '"'] trivial))
  | cons c inner ih =>
    -- With fewer code points before them the closing quotes are still the first ones.
    have later : IsRaw inner := fun before after same =>
      raw (c :: before) after (by rw [same, List.cons_append])
    refine .step ?_
    rw [mode.clear_of_tight tight]
    refine .both (.absent (.text fun stands => ?_) ?_)
    · -- Three quotes here would stand before the closing ones.
      have split : c :: inner ++ '"' :: '"' :: '"' :: rest =
          (c :: inner ++ ['"', '"', '"']) ++ rest := by simp
      rw [split] at stands
      refine raw [] (c :: inner) rfl (by simp) ?_
      exact List.prefix_of_prefix_length_le stands (List.prefix_append _ _) (by simp)
    · rw [mode.clear_of_tight tight]
      exact .char rfl (ih later ends)

/-- A raw string. -/
theorem Reads.rawString {inner : List Char} (raw : IsRaw inner)
    (ends : post rest [.term (.literal (.string (String.ofList inner)))]) :
    Reads mode (.rule .rawString) ('"' :: '"' :: '"' :: (inner ++ '"' :: '"' :: '"' :: rest))
      post := by
  have tree : (mode.around .tight).isLeaf = false := rfl
  refine .rule .rawString tree (.both (.both (.text ['"', '"', '"'] ?_)))
  refine .rule .rawInner rfl (reads_raw rfl raw fun text _ _ same => ?_)
  obtain rfl : inner = text := List.append_cancel_right same
  exact .text ['"', '"', '"'] fun _ _ _ _ => ends

/-- A numeral of digits. -/
theorem Reads.number (tree : mode.isLeaf = false) {digits : List Char} (filled : digits ≠ [])
    (holds : ∀ c ∈ digits, c.isDigit = true) (stops : Json.EndsNumber rest)
    (ends : ∀ span, post rest [.term (.number span (String.ofList digits))]) :
    Reads mode (.rule .number) (digits ++ rest) post := by
  refine .rule .number tree (.both (.both (.oneOrMore rfl filled holds
    (fun c first => (stops c first).1) ?_)))
  -- Neither a fraction nor an exponent comes behind the digits.
  refine .missing (.before (.head fun c first => (stops c first).2.1)) ?_
  refine .missing (.before (.before (.either ?_ ?_))) fun text span line same => ?_
  · exact .head fun c first => (stops c first).2.2.1
  · exact .head fun c first => (stops c first).2.2.2
  · obtain rfl : digits = text := List.append_cancel_right same
    exact ends span

end Tokens

end Reshape.Grammar
