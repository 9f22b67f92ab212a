import Reshape.Proofs.Grammar.Row

/-!
Operands without signs and tails: literals, names, and expressions in parentheses, each with the
text that is read as it.
-/

namespace Reshape.Grammar

variable {rest : List Char} {post : List Char → List Piece → Prop}

/-- The rules of operands, in the order in which they are tried. -/
def primaryRules : List Rule :=
  [.nullLiteral, .boolLiteral, .number, .rawString, .string, .array, .object, .ifExpr, .matchExpr,
    .functionCall, .variable, .metadata, .rootReference, .thisReference, .barePath, .paren]

/-- A rule of operands, those before it being refused. -/
theorem Reads.primary {source : List Char} (before after : List Rule) {named : Rule}
    (rules : primaryRules = before ++ named :: after)
    (refuses : ∀ other ∈ before, Refuses .loose (.rule other) source)
    (reads : Reads .loose (.rule named) source post) :
    Reads .loose Pattern.primary source post := by
  -- The choice is cut at the named rule.
  have chosen : Pattern.primary =
      Pattern.choice (before.map .rule ++ .rule named :: after.map .rule) := by
    rw [← List.map_cons, ← List.map_append, ← rules]
    rfl
  rw [chosen]
  refine .choice (fun pattern given => ?_) reads
  obtain ⟨other, member, rfl⟩ := List.mem_map.1 given
  exact refuses other member

/-- A rule of operands that the beginning of the source tells from those before it but one, which
is refused. -/
theorem Reads.primaryExcept (known : List Char) {source : List Char} (before after : List Rule)
    {named exception : Rule} (rules : primaryRules = before ++ named :: after)
    (clear : dropBlanks false (known ++ source) = known ++ source)
    (refused : ∀ other ∈ before,
      other = exception ∨ (Pattern.rule other).verdict 40 known = .refused)
    (excepted : Refuses .loose (.rule exception) (known ++ source))
    (reads : Reads .loose (.rule named) (known ++ source) post) :
    Reads .loose Pattern.primary (known ++ source) post := by
  refine .primary before after rules (fun other member => ?_) reads
  rcases refused other member with rfl | refused
  · exact excepted
  · exact .ofKnown known clear refused

/-- A rule of operands that the beginning of the source tells from those before it. -/
theorem Reads.primaryKnown (known : List Char) {source : List Char} (before after : List Rule)
    {named : Rule} (rules : primaryRules = before ++ named :: after)
    (clear : dropBlanks false (known ++ source) = known ++ source)
    (refused : ∀ other ∈ before, (Pattern.rule other).verdict 40 known = .refused)
    (reads : Reads .loose (.rule named) (known ++ source) post) :
    Reads .loose Pattern.primary (known ++ source) post :=
  .primary before after rules (fun other member => .ofKnown known clear (refused other member))
    reads

section Words

/-- The word for null. -/
theorem Reads.null (cuts : Cuts rest) (ends : post rest [.term (.literal .null)]) :
    Reads .loose Pattern.primary ("null".toList ++ rest) post :=
  .primary [] _ rfl (by simp) (.rule _ rfl (.keyword rfl "null" cuts fun _ _ _ _ => ends))

/-- The word for a truth value. -/
theorem Reads.bool (value : Bool) (cuts : Cuts rest)
    (ends : post rest [.term (.literal (.bool value))]) :
    Reads .loose Pattern.primary ((if value then "true" else "false").toList ++ rest) post := by
  -- Behind either word a name must not go on.
  have tail (word : String) (made : ∀ span line, post rest
      [(Piece.ofRule? .boolLiteral word span line []).getD .malformed]) :
      Reads .leaf (.absent (.char .nameChar)) rest fun last pieces => ∀ text span line,
        word.toList ++ rest = text ++ last →
          post last [(Piece.ofRule? .boolLiteral (String.ofList text) span line pieces).getD
            .malformed] := by
    refine .absent (.char cuts) fun text span line same => ?_
    rw [ofList_of_append same]
    exact made span line
  cases value with
  | true =>
    refine .primaryKnown "true".toList [.nullLiteral] _ rfl (dropBlanks_of_solid rfl (by decide) _)
      (by decide) ?_
    exact .rule _ rfl (.both (.left (.text _ (tail "true" fun _ _ => ends))))
  | false =>
    -- The other word is tried first, and does not stand here.
    have clear := dropBlanks_of_solid (c := 'f') rfl (by decide) ("alse".toList ++ rest)
    refine .primaryKnown "false".toList [.nullLiteral] _ rfl clear (by decide) ?_
    refine .rule _ rfl (.both (.right (.ofKnown "false".toList clear (by decide)) ?_))
    exact .text _ (tail "false" fun _ _ => ends)

/-- The word for the input. -/
theorem Reads.current (cuts : Cuts rest) (ends : post rest [.term .current]) :
    Reads .loose Pattern.primary ("this".toList ++ rest) post := by
  have clear := dropBlanks_of_solid (c := 't') rfl (by decide) ("his".toList ++ rest)
  -- A call could begin so, if the word were a name.
  have call : Refuses .loose (.rule .functionCall) ("this".toList ++ rest) :=
    .rule _ (.before (.identifier (by decide) cuts))
  refine .primaryExcept "this".toList (primaryRules.take 13) [.barePath, .paren] rfl clear
    (by decide) call (.rule _ rfl (.rule .thisWord rfl ?_))
  exact .keyword rfl "this" cuts fun _ _ _ _ _ _ _ _ => ends

/-- The word for the document. -/
theorem Reads.root (cuts : Cuts rest) (ends : post rest [.term .root]) :
    Reads .loose Pattern.primary ("root".toList ++ rest) post := by
  have clear := dropBlanks_of_solid (c := 'r') rfl (by decide) ("oot".toList ++ rest)
  -- A call is tried before the word, and fails as there are no brackets.
  have call : Refuses .loose (.rule .functionCall) ("root".toList ++ rest) :=
    .rule _ (.before (.identifier (by decide) cuts))
  refine .primaryExcept "root".toList (primaryRules.take 12) [.thisReference, .barePath, .paren] rfl
    clear (by decide) call (.rule _ rfl (.rule .rootWord rfl ?_))
  exact .keyword rfl "root" cuts fun _ _ _ _ _ _ _ _ => ends

end Words

section Literals

/-- A numeral of digits. -/
theorem Reads.numeral {digits : List Char} (filled : digits ≠ [])
    (holds : ∀ c ∈ digits, c.isDigit = true) (stops : Json.EndsNumber rest)
    (ends : ∀ span, post rest [.term (.number span (String.ofList digits))]) :
    Reads .loose Pattern.primary (digits ++ rest) post := by
  refine .primary [.nullLiteral, .boolLiteral] _ rfl (fun other member => ?_)
    (.number rfl filled holds stops ends)
  obtain ⟨c, more, rfl⟩ := List.exists_cons_of_ne_nil filled
  -- The words that are tried before it begin with letters.
  have letter (d : Char) (other : d.isDigit = false) : ∀ e ∈ (c :: more ++ rest).head?, e ≠ d := by
    rintro _ ⟨⟩ rfl
    rw [holds c (.head _)] at other
    cases other
  simp only [List.mem_cons, List.not_mem_nil, or_false] at member
  rcases member with rfl | rfl
  · exact .rule _ (.before (.head (letter 'n' rfl)))
  · exact .rule _ (.before (.either (.head (letter 't' rfl)) (.head (letter 'f' rfl))))

/-- A string in quotes. -/
theorem Reads.quoted {inner : List Char} (quotable : IsQuotable inner)
    (apart : ∀ c ∈ rest.head?, c ≠ '"')
    (ends : ∀ span, post rest [.quoted span (String.ofList ('"' :: inner ++ ['"']))]) :
    Reads .loose Pattern.primary ('"' :: inner ++ '"' :: rest) post := by
  have clear := dropBlanks_of_solid (c := '"') rfl (by decide) (inner ++ '"' :: rest)
  -- A raw string begins with a quote as well, but with two more behind it.
  exact .primaryExcept ['"'] [.nullLiteral, .boolLiteral, .number, .rawString] _ rfl clear
    (by decide) (refuses_rawString quotable apart) (.string quotable ends)

/-- A raw string. -/
theorem Reads.raw {inner : List Char} (raw : IsRaw inner)
    (ends : post rest [.term (.literal (.string (String.ofList inner)))]) :
    Reads .loose Pattern.primary ('"' :: '"' :: '"' :: (inner ++ '"' :: '"' :: '"' :: rest))
      post :=
  .primaryKnown ['"'] [.nullLiteral, .boolLiteral, .number] _ rfl
    (dropBlanks_of_solid rfl (by decide) _) (by decide) (.rawString raw ends)

end Literals

section Names

/-- A name begins with no sign. -/
theorem head_of_identifier {name : String} (valid : isIdentifier name = true) {d : Char}
    (other : CharClass.letter.holds d = false ∧ d ≠ '_') :
    ∀ c ∈ (name.toList ++ rest).head?, c ≠ d := by
  obtain ⟨c, more, parts, first, -⟩ := identifier_parts valid
  rw [parts]
  rintro _ ⟨⟩ rfl
  -- Identifiers begin with a letter or an underscore, and the character is neither.
  rcases first with letter | rfl
  · rw [other.1] at letter
    cases letter
  · exact other.2 rfl

/-- What begins with another sign than a name does not stand where a name does. -/
theorem refuses_opening {name : String} (valid : isIdentifier name = true) {d : Char}
    (other : CharClass.letter.holds d = false ∧ d ≠ '_') {mode : Mode} {text : List Char} :
    Refuses mode (.text (d :: text)) (name.toList ++ rest) :=
  .head (head_of_identifier valid other)

/-- A name that can stand alone is no reserved word. -/
theorem refuses_reservedWord {name : String} (valid : isIdentifier name = true) (cuts : Cuts rest)
    {word : String} (reserved : word ∈ reservedWords) :
    Refuses .leaf (Pattern.keyword word) (name.toList ++ rest) := by
  obtain ⟨c, more, parts, first, letters, free⟩ := identifier_parts valid
  have word_letters : ∀ word ∈ reservedWords, ∀ c ∈ word.toList,
      CharClass.nameChar.holds c = true := by decide
  refine .keyword rfl (word_letters word reserved) letters cuts ?_
  -- The whole word would have to be the reserved one, which no identifier is.
  rw [ne_eq, String.toList_inj]
  rintro rfl
  exact free reserved

/-- A name that can stand alone is none of the literals, conditions and matches that are tried
before it. -/
theorem refuses_before_name {name : String} (valid : isIdentifier name = true) (cuts : Cuts rest) :
    ∀ other ∈ primaryRules.take 9, Refuses .loose (.rule other) (name.toList ++ rest) := by
  obtain ⟨c, more, parts, first, letters, free⟩ := identifier_parts valid
  -- What is tried before begins with a word that is no name, with a digit or with a sign.
  have keyword {word : String} (reserved : word ∈ reservedWords) :
      Refuses .leaf (Pattern.keyword word) (name.toList ++ rest) :=
    refuses_reservedWord valid cuts reserved
  have truth : Refuses .leaf (Pattern.choice (["true", "false"].map Pattern.word) ++
      .absent (.char .nameChar)) (name.toList ++ rest) := by
    refine refuses_words rfl letters cuts _ (by decide) fun member => free ?_
    have among : ∀ word ∈ ["true", "false"], word ∈ reservedWords := by decide
    exact among name member
  have digit : ∀ c ∈ (name.toList ++ rest).head?, CharClass.digit.holds c = false := by
    rw [parts]
    rintro _ ⟨⟩
    rcases first with letter | rfl
    · refine Bool.eq_false_iff.2 fun digit => ?_
      exact absurd letter (Bool.eq_false_iff.1 (isAlpha_of_isDigit digit))
    · decide
  have condition : Refuses .loose (.rule .ifExpr) (name.toList ++ rest) :=
    .rule _ (.before (.before (.rule _ (.before (.before (.rule _ (keyword (by decide))))))))
  have cases : Refuses .loose (.rule .matchExpr) (name.toList ++ rest) :=
    .rule _ (.before (.before (.before (.before (.rule _ (keyword (by decide)))))))
  simp only [primaryRules, List.take, List.forall_mem_cons]
  exact ⟨.rule _ (keyword (by decide)), .rule _ truth,
    .rule _ (.before (.before (.before (.char digit)))),
    .rule _ (.before (.before (refuses_opening valid (by decide)))),
    .rule _ (.before (.before (refuses_opening valid (by decide)))),
    .rule _ (.before (.before (refuses_opening valid (by decide)))),
    .rule _ (.before (.before (refuses_opening valid (by decide)))), condition, cases, by simp⟩

/-- A bare name. -/
theorem Reads.barePath {name : String} (valid : isIdentifier name = true) (cuts : Cuts rest)
    (bare : ∀ c ∈ rest.head?, c ≠ '(') (ends : post rest [.term (.name name)]) :
    Reads .loose Pattern.primary (name.toList ++ rest) post := by
  -- A call needs a parenthesis behind the name.
  have call : Refuses .loose (.rule .functionCall) (name.toList ++ rest) :=
    .rule _ (.after (.identifier rfl valid cuts (.rule _ (.before (.before (.head bare))))))
  refine .primary (primaryRules.take 14) [.paren] rfl ?_
    (.rule _ rfl (.identifier rfl valid cuts fun _ _ _ _ => ends))
  have later : primaryRules.take 14 = primaryRules.take 9 ++
      [.functionCall, .variable, .metadata, .rootReference, .thisReference] := rfl
  rw [later, List.forall_mem_append]
  refine ⟨refuses_before_name valid cuts, ?_⟩
  simp only [List.forall_mem_cons]
  exact ⟨call, .rule _ (.before (refuses_opening valid (by decide))),
    .rule _ (.before (refuses_opening valid (by decide))),
    .rule _ (.rule _ (refuses_reservedWord valid cuts (by decide))),
    .rule _ (.rule _ (refuses_reservedWord valid cuts (by decide))), by simp⟩

/-- A variable. -/
theorem Reads.variable {name : String} (valid : isIdentifier name = true) (cuts : Cuts rest)
    (ends : post rest [.term (.variable name)]) :
    Reads .loose Pattern.primary ('$' :: (name.toList ++ rest)) post := by
  refine .primaryKnown ['$'] (primaryRules.take 10) _ rfl (dropBlanks_of_solid rfl (by decide) _)
    (by decide) (.rule _ rfl (.both (.text ['$'] ?_)))
  exact .identifier rfl valid cuts fun _ _ _ _ => ends

end Names

/-- An expression in parentheses. -/
theorem Reads.paren {row : Row} (good : row.Good)
    (ends : ∀ span first more, row.first.Is first → Row.MoreAre row.more more →
      post rest [.term (.nested span (rowTerm first more))]) :
    Reads .loose Pattern.primary ('(' :: (row.text ++ ')' :: rest)) post := by
  have closes : Closes (')' :: rest) := holds_of_head (by decide)
  refine .primaryKnown ['('] (primaryRules.take 15) _ rfl (dropBlanks_of_solid rfl (by decide) _)
    (by decide) (.rule .paren rfl (.both (.both (.symbol '(' ?_))))
  refine .clear (good.clear _) (.expr good closes fun span first more is are => ?_)
  exact .clear closes.clear (.symbol ')' fun _ _ _ _ => ends span first more is are)

end Reshape.Grammar
