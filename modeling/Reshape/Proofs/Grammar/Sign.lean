import Reshape.Proofs.Grammar.Token

/-!
Signs between and before operands, what can stand around operands, and how signs are read where they
stand.
-/

namespace Reshape

/-- The symbol of a sign between two operands. -/
def Sign.symbol : Sign → String
  | .coalesce => "|"
  | .operator inner => inner.symbol

/-- The rule of a sign between two operands. -/
def Sign.rule : Sign → Grammar.Rule
  | .coalesce => .coalesceSign
  | .operator .or => .orSign
  | .operator .and => .andSign
  | .operator .equal => .equalSign
  | .operator .unequal => .unequalSign
  | .operator .greaterEqual => .greaterEqualSign
  | .operator .lessEqual => .lessEqualSign
  | .operator .greater => .greaterSign
  | .operator .less => .lessSign
  | .operator .add => .addSign
  | .operator .subtract => .subtractSign
  | .operator .multiply => .multiplySign
  | .operator .divide => .divideSign
  | .operator .remainder => .remainderSign

/-- The symbol of a sign before an operand. -/
def PrefixSign.symbol : PrefixSign → String
  | .not => "!"
  | .negate => "-"

namespace Grammar

/-- What may come after an expression: what closes something around it or goes on with a list, or
the end of the source. -/
def Closes (rest : List Char) : Prop :=
  ∀ c ∈ rest.head?, c ∈ [')', ',', ']', '\x7d', ':']

/-- What may come after an operand: a blank as well. -/
def Stops (rest : List Char) : Prop :=
  ∀ c ∈ rest.head?, c ∈ [' ', ')', ',', ']', '\x7d', ':']

/-- What may come after a part of an operand: a point as well. -/
def Follows (rest : List Char) : Prop :=
  ∀ c ∈ rest.head?, c ∈ ['.', ' ', ')', ',', ']', '\x7d', ':']

/-- What may begin an operand behind its signs. -/
def Begins (source : List Char) : Prop :=
  ∃ c rest, source = c :: rest ∧ isSeparator c = false ∧ c ∉ ['#', '!', '-', '=', '>']

section Following

variable {rest : List Char}

/-- What holds of a code point holds of what a text that begins with it begins with. -/
theorem holds_of_head {c : Char} {P : Char → Prop} (holds : P c) :
    ∀ d ∈ (c :: rest).head?, P d := by
  rintro _ ⟨⟩
  exact holds

/-- What holds of all that a text may begin with holds of what it begins with. -/
theorem holds_of_heads {list : List Char} {P : Char → Prop} (heads : ∀ c ∈ rest.head?, c ∈ list)
    (each : ∀ c ∈ list, P c) : ∀ c ∈ rest.head?, P c :=
  fun c first => each c (heads c first)

/-- What closes an expression stops an operand. -/
theorem Closes.stops (closes : Closes rest) : Stops rest :=
  fun c first => .tail _ (closes c first)

/-- What stops an operand follows its parts. -/
theorem Stops.follows (stops : Stops rest) : Follows rest :=
  fun c first => .tail _ (stops c first)

/-- What follows a part of an operand does not go on with a name. -/
theorem Follows.cuts (follows : Follows rest) : Cuts rest :=
  holds_of_heads follows (by decide)

/-- What stops an operand does not go on with a numeral. -/
theorem Stops.endsNumber (stops : Stops rest) : Json.EndsNumber rest :=
  holds_of_heads stops (by decide)

/-- What closes an expression begins with no blank. -/
theorem Closes.clear (closes : Closes rest) : dropBlanks false rest = rest := by
  cases rest with
  | nil => rfl
  | cons c rest =>
    have each : ∀ c ∈ [')', ',', ']', '\x7d', ':'], isSeparator c = false ∧ c ≠ '#' := by decide
    obtain ⟨blank, comment⟩ := each c (closes c rfl)
    exact dropBlanks_of_solid blank comment rest

/-- What begins an operand is no blank. -/
theorem Begins.clear {source : List Char} (begins : Begins source) :
    dropBlanks false source = source := by
  obtain ⟨c, rest, rfl, blank, other⟩ := begins
  simp only [List.mem_cons, not_or] at other
  exact dropBlanks_of_solid blank other.1 rest

/-- What begins with another sign than these begins an operand. -/
theorem Begins.ofNe {c : Char} (source : List Char)
    (other : ∀ d ∈ [' ', '\t', '\r', '\n', '#', '!', '-', '=', '>'], c ≠ d) :
    Begins (c :: source) := by
  simp only [List.forall_mem_cons] at other
  obtain ⟨space, tab, carriage, line, marks⟩ := other
  refine ⟨c, source, rfl, ?_, ?_⟩
  · simp [isSeparator, space, tab, carriage, line]
  · simp [marks]

/-- What begins an operand still does so with more after it. -/
theorem Begins.append {source : List Char} (begins : Begins source) (more : List Char) :
    Begins (source ++ more) := by
  obtain ⟨c, rest, rfl, other⟩ := begins
  exact ⟨c, rest ++ more, rfl, other⟩

/-- Where something closes an expression, a pattern that needs something else is refused. -/
theorem Closes.refuses (closes : Closes rest) {mode : Mode} {pattern : Pattern}
    (filled : pattern.isEmptiable = false)
    (refused : ∀ c ∈ [')', ',', ']', '\x7d', ':'], pattern.verdict 40 [c] = .refused) :
    Refuses mode pattern rest := by
  have clear := closes.clear
  cases rest with
  | nil => exact .atEnd filled
  | cons c rest => exact .ofKnown [c] clear (refused c (closes c rfl))

end Following

section Signs

variable {next : List Char} {post : List Char → List Piece → Prop}

/-- A blank before something else is skipped. -/
theorem clear_blank {next : List Char} (clear : dropBlanks false next = next) :
    Mode.loose.clear (' ' :: next) = next := clear

/-- The rules of signs between operands, in the order in which they are tried. -/
def infixRules : List Rule :=
  [.orSign, .andSign, .coalesceSign, .equalSign, .unequalSign, .greaterEqualSign, .lessEqualSign,
    .greaterSign, .lessSign, .addSign, .subtractSign, .multiplySign, .divideSign, .remainderSign]

/-- The rules before that of a sign do not match a sign with a blank after it. -/
theorem infixRules_split (sign : Sign) :
    ∃ before after, infixRules = before ++ sign.rule :: after ∧
      ∀ other ∈ before, (Pattern.rule other).verdict 40 (sign.symbol.toList ++ [' ']) =
        .refused := by
  -- Each sign has one rule, and the rules before it are those up to its first occurrence.
  refine ⟨infixRules.takeWhile (· != sign.rule), (infixRules.dropWhile (· != sign.rule)).tail, ?_⟩
  cases sign with
  | coalesce => decide
  | operator inner => cases inner <;> decide

/-- A sign between two operands, a blank after it. -/
theorem Reads.infixSign (sign : Sign) (clear : dropBlanks false next = next)
    (other : ∀ c ∈ next.head?, c ≠ '>')
    (ends : ∀ rest, Mode.loose.clear rest = next → post rest [.sign sign]) :
    Reads .loose Pattern.infixSign (sign.symbol.toList ++ ' ' :: next) post := by
  obtain ⟨before, after, rules, refused⟩ := infixRules_split sign
  have chosen : Pattern.infixSign =
      Pattern.choice (before.map .rule ++ .rule sign.rule :: after.map .rule) := by
    rw [← List.map_cons, ← List.map_append, ← rules]
    rfl
  -- The blank behind the sign is part of what rules out the signs that are tried before it.
  have source : sign.symbol.toList ++ ' ' :: next = (sign.symbol.toList ++ [' ']) ++ next := by simp
  have solid : dropBlanks false ((sign.symbol.toList ++ [' ']) ++ next) =
      (sign.symbol.toList ++ [' ']) ++ next := by
    cases sign with
    | coalesce => rfl
    | operator inner => cases inner <;> rfl
  rw [chosen]
  refine .choice (fun pattern given => ?_) ?_
  · obtain ⟨named, member, rfl⟩ := List.mem_map.1 given
    rw [source]
    exact .ofKnown _ solid (refused named member)
  · have made := ends (' ' :: next) (clear_blank clear)
    cases sign with
    | coalesce => exact .rule _ rfl (.text ['|'] fun _ _ _ _ => made)
    | operator inner =>
      cases inner with
      | subtract =>
        -- The check for an arrow comes after the blank.
        refine .rule _ rfl (.both (.text ['-'] ?_))
        change Reads _ _ (dropBlanks false next) _
        rw [clear]
        exact .absent (.head other) fun _ _ _ _ => ends next clear
      | _ => exact .rule _ rfl (.text _ fun _ _ _ _ => made)

/-- A sign before an operand or before another such sign. -/
theorem reads_prefixSign (sign : PrefixSign) (clear : dropBlanks false next = next)
    (other : ∀ c ∈ next.head?, c ≠ '=') (ends : post next [.prefixSign sign]) :
    Reads .loose Pattern.prefixSign (sign.symbol.toList ++ next) post := by
  cases sign with
  | not =>
    -- What would make it another sign is looked for behind the blanks that are free here.
    refine .left (.rule _ rfl (.both (.text ['!'] (.clear clear ?_))))
    exact .absent (.head other) fun _ _ _ _ => ends
  | negate =>
    refine .right (.ofHead _ (by decide)) ?_
    exact .rule _ rfl (.text ['-'] fun _ _ _ _ => ends)

/-- Signs before an operand begin with no blank, and not with what would change them. -/
theorem prefix_begins (signs : List PrefixSign) (begins : Begins next) :
    dropBlanks false (signs.flatMap (·.symbol.toList) ++ next) =
        signs.flatMap (·.symbol.toList) ++ next ∧
      ∀ c ∈ (signs.flatMap (·.symbol.toList) ++ next).head?, c ≠ '=' ∧ c ≠ '>' := by
  -- Either the operand itself comes first, or a sign before it.
  cases signs with
  | nil =>
    refine ⟨begins.clear, ?_⟩
    obtain ⟨c, rest, rfl, blank, other⟩ := begins
    simp only [List.mem_cons, not_or] at other
    rintro _ ⟨⟩
    exact ⟨other.2.2.2.1, other.2.2.2.2.1⟩
  | cons sign signs =>
    cases sign with
    | not => exact ⟨rfl, by rintro _ ⟨⟩; decide⟩
    | negate => exact ⟨rfl, by rintro _ ⟨⟩; decide⟩

/-- What begins an operand is no sign before it. -/
theorem Begins.refuses (begins : Begins next) : Refuses .loose Pattern.prefixSign next := by
  obtain ⟨c, rest, rfl, blank, other⟩ := begins
  simp only [List.mem_cons, not_or] at other
  -- The pattern has two signs, and the text begins with neither.
  refine .either (.rule _ (.before (.head ?_))) (.rule _ (.head ?_))
  · rintro _ ⟨⟩
    exact other.2.1
  · rintro _ ⟨⟩
    exact other.2.2.1

/-- Signs before an operand, of which some have been read. -/
theorem repeats_prefixSigns (signs : List PrefixSign) (begins : Begins next)
    (ends : post next (signs.map .prefixSign)) :
    Repeats .loose Pattern.prefixSign (signs.flatMap (·.symbol.toList) ++ next) post := by
  induction signs generalizing post with
  | nil =>
    refine .stop ?_ ends
    change Refuses _ _ (dropBlanks false next)
    rw [begins.clear]
    exact begins.refuses
  | cons sign signs ih =>
    have same := (prefix_begins (sign :: signs) begins).1
    refine .step ?_
    change Reads _ _ (dropBlanks false _) _
    rw [same, List.flatMap_cons, List.append_assoc]
    -- What comes behind the sign does not make another one of it.
    obtain ⟨clear, other⟩ := prefix_begins signs begins
    exact reads_prefixSign sign clear (fun c first => (other c first).1) (ih ends)

/-- Signs before an operand. -/
theorem Reads.prefixSigns (signs : List PrefixSign) (begins : Begins next)
    (ends : post next (signs.map .prefixSign)) :
    Reads .loose (.many Pattern.prefixSign) (signs.flatMap (·.symbol.toList) ++ next) post :=
  .ofRepeats (prefix_begins signs begins).1 (repeats_prefixSigns signs begins ends)

end Signs

end Grammar

end Reshape
