import Reshape.Proofs.Expr.Denotes
import Reshape.Proofs.Expr.Leads
import Reshape.Proofs.Grammar.Listed

/-!
Texts that spell terms: such a text is read as a row of operands wherever an expression may stand,
and the term that is put together from them leads to the one that is spelled. The level of a text
says where it may stand as an operand without parentheses.
-/

namespace Reshape

namespace Grammar

/-- What corresponds to two lists one behind the other is two lists that correspond to them. -/
theorem exists_append_of_forall₂ {α β : Type} {holds : α → β → Prop} {before behind : List α}
    {found : List β} (each : List.Forall₂ holds (before ++ behind) found) :
    ∃ left right, found = left ++ right ∧ List.Forall₂ holds before left ∧
      List.Forall₂ holds behind right := by
  induction before generalizing found with
  | nil => exact ⟨[], found, rfl, .nil, each⟩
  | cons a before ih =>
    -- What is found is cut where the pairs of the front end.
    cases each with
    | @cons _ b _ found first later =>
      obtain ⟨left, right, rfl, is, are⟩ := ih later
      exact ⟨b :: left, right, rfl, .cons first is, are⟩

/-- The signs of the terms that a row is read as are those of the row. -/
theorem above_of_moreAre {level : Nat} {more : List (Sign × Operand)} {terms : List (Sign × Term)}
    (are : Row.MoreAre more terms) (above : ∀ pair ∈ more, level ≤ pair.1.precedence) :
    ∀ pair ∈ terms, level ≤ pair.1.precedence := by
  induction are with
  | nil => simp
  | cons is are ih =>
    rw [List.forall_mem_cons] at above ⊢
    exact ⟨is.1 ▸ above.1, ih above.2⟩

/-- The base of an operand is read wherever a part can follow it, and is told from the name of an
argument. -/
structure Operand.Firm (operand : Operand) : Prop where
  begins : Begins operand.base
  base {rest : List Char} (follows : Follows rest) :
    Reads .loose Pattern.primary (operand.base ++ rest) (IsBase rest operand.BaseIs)
  suffixes (suffix : Suffix) (member : suffix ∈ operand.suffixes) : suffix.Good
  nameless {rest : List Char} (cuts : Cuts rest) (unnamed : Unnamed rest) :
    Nameless (operand.base ++ rest)

/-- A firm operand is read wherever an expression can go on or end after it. -/
theorem Operand.Firm.good {operand : Operand} (firm : operand.Firm) : operand.Good where
  begins := firm.begins
  base stops := firm.base (suffixes_follow firm.suffixes stops.follows)
  suffixes := firm.suffixes

/-- A row spells a term on a level: the terms that it is read as lead to it, and no sign in it binds
less tightly than the level says. The signs before an operand are on level 7, and what follows an
operand is on level 8. -/
structure Row.Spells (level : Nat) (row : Row) (result : Term) : Prop where
  first : row.first.Firm
  more (pair : Sign × Operand) (member : pair ∈ row.more) : pair.2.Good
  signs (pair : Sign × Operand) (member : pair ∈ row.more) : level ≤ pair.1.precedence
  unsigned (tight : 8 ≤ level) : row.first.signs = []
  leads {first : Term} {more : List (Sign × Term)} (is : row.first.Is first)
    (are : Row.MoreAre row.more more) : (rowTerm first more).Leads result

/-- A row that spells a term is read wherever an expression may stand. -/
theorem Row.Spells.good {level : Nat} {row : Row} {result : Term}
    (spells : row.Spells level result) : row.Good :=
  ⟨spells.first.good, spells.more⟩

/-- A row above the levels of signs between operands has one operand. -/
theorem Row.Spells.more_eq {level : Nat} {row : Row} {result : Term}
    (spells : row.Spells level result) (tight : 7 ≤ level) : row.more = [] := by
  cases given : row.more with
  | nil => rfl
  -- A sign stands above the level asked for, but none is as high as a postfix.
  | cons pair more =>
    have above := spells.signs pair (given ▸ .head _)
    have below := precedence_le pair.1
    omega

end Grammar

open Grammar

/-- A text spells a term on a level. -/
def Spelled (level : Nat) (text : List Char) (result : Term) : Prop :=
  ∃ row : Row, row.text = text ∧ row.Spells level result

namespace Spelled

variable {level : Nat} {text text' : List Char} {result result' : Term}

/-- A text that may stand as an operand of some level may do so on every lower one. -/
theorem mono (spelled : Spelled level text result) {lower : Nat} (le : lower ≤ level) :
    Spelled lower text result := by
  obtain ⟨row, same, spells⟩ := spelled
  exact ⟨row, same, { spells with
    signs := fun pair member => Nat.le_trans le (spells.signs pair member)
    unsigned := fun tight => spells.unsigned (Nat.le_trans tight le) }⟩

/-- A base without signs before it and anything behind it may stand as an operand of any level. -/
theorem ofBase {base : List Char} (begins : Begins base)
    (nameless : ∀ {rest}, Cuts rest → Unnamed rest → Nameless (base ++ rest))
    (reads : ∀ {rest}, Follows rest →
      Reads .loose Pattern.primary (base ++ rest) (IsBase rest fun term => term.Leads result)) :
    Spelled level base result := by
  -- The base alone is a row with one operand and no signs.
  refine ⟨⟨⟨[], base, [], fun term => term.Leads result⟩, []⟩, ?_, ?_⟩
  · simp [Row.text, Operand.text, Operand.after, Row.moreText]
  · refine ⟨⟨begins, fun follows => reads follows, by simp, nameless⟩, by simp, by simp,
      fun _ => rfl, ?_⟩
    rintro first more ⟨base, tails, leads, -, none, rfl⟩ are
    cases none
    cases are
    exact leads

/-- A text in parentheses may stand as an operand of any level. -/
theorem paren {inner : Nat} (spelled : Spelled inner text result) :
    Spelled level ('(' :: (text ++ [')'])) result := by
  obtain ⟨row, rfl, spells⟩ := spelled
  -- What stands in parentheses is asked for no level.
  refine ofBase ⟨'(', _, rfl, by decide⟩ (fun _ _ => ?_) fun {rest} _ => ?_
  · exact .ofHead _ (by decide)
  · rw [List.cons_append, List.append_assoc]
    refine .paren spells.good fun span first more is are => ?_
    exact .ofPiece rfl (by simp [IsWhole]) ((spells.leads is are).nested span)

/-- A sign before an operand. -/
theorem signed (spelled : Spelled 7 text result) (sign : PrefixSign) :
    Spelled 7 (sign.symbol.toList ++ text) (.signed sign result) := by
  obtain ⟨⟨first, more⟩, rfl, spells⟩ := spelled
  -- Above the signs between operands a row has only one operand.
  obtain rfl : more = [] := spells.more_eq (Nat.le_refl _)
  refine ⟨⟨{ first with signs := sign :: first.signs }, []⟩, ?_, ?_⟩
  · simp [Row.text, Operand.text, Operand.after, Row.moreText]
  · refine ⟨⟨spells.first.begins, spells.first.base, spells.first.suffixes,
      spells.first.nameless⟩, by simp, by simp, by omega, ?_⟩
    rintro whole more ⟨base, tails, base_is, whole, tails_are, rfl⟩ are
    cases are
    exact (spells.leads ⟨base, tails, base_is, whole, tails_are, rfl⟩ .nil).signed sign

/-- Something that follows an operand. -/
theorem followed (spelled : Spelled 8 text result) {suffix : Suffix} (good : suffix.Good)
    (applied : ∀ tail, suffix.Is tail → ∀ term : Term, term.Leads result →
      (tail.apply term).Leads result') : Spelled 8 (text ++ suffix.text) result' := by
  obtain ⟨⟨⟨signs, base, suffixes, BaseIs⟩, more⟩, rfl, spells⟩ := spelled
  obtain rfl : more = [] := spells.more_eq (by decide)
  obtain rfl : signs = [] := spells.unsigned (Nat.le_refl _)
  -- The suffix comes behind those that are there, and is applied last.
  refine ⟨⟨⟨[], base, suffixes ++ [suffix], BaseIs⟩, []⟩, ?_, ?_⟩
  · simp [Row.text, Operand.text, Operand.after, Row.moreText]
  · have all : ∀ other ∈ suffixes ++ [suffix], other.Good := by
      rw [List.forall_mem_append]
      exact ⟨spells.first.suffixes, by simpa using good⟩
    refine ⟨⟨spells.first.begins, spells.first.base, all, spells.first.nameless⟩, by simp, by simp,
      fun _ => rfl, ?_⟩
    rintro whole more ⟨base, tails, base_is, whole, tails_are, rfl⟩ are
    cases are
    obtain ⟨before, last, rfl, before_are, last_are⟩ := exists_append_of_forall₂ tails_are
    obtain _ | ⟨last_is, none⟩ := last_are
    cases none
    simp only [rowTerm, List.foldl_nil, List.foldl_append, List.foldl_cons]
    exact applied _ last_is _ (spells.leads ⟨base, before, base_is, whole, before_are, rfl⟩ .nil)

/-- A sign between two texts: the one before it may have signs that bind as tightly, the one behind
it has to bind more tightly. -/
theorem binary {sign : Sign} (left : Spelled sign.precedence text result)
    (right : Spelled (sign.precedence + 1) text' result') :
    Spelled sign.precedence (text ++ ' ' :: (sign.symbol.toList ++ ' ' :: text'))
      (.binary sign result result') := by
  obtain ⟨⟨first, more⟩, rfl, before⟩ := left
  obtain ⟨⟨first', more'⟩, rfl, behind⟩ := right
  -- The rows and the sign are one row, whose term is divided at the sign again.
  refine ⟨⟨first, more ++ (sign, first') :: more'⟩, ?_, before.first, ?_, ?_, ?_, ?_⟩
  · simp [Row.text, Row.moreText]
  · rw [List.forall_mem_append, List.forall_mem_cons]
    exact ⟨before.more, behind.first.good, behind.more⟩
  · rw [List.forall_mem_append, List.forall_mem_cons]
    exact ⟨before.signs, Nat.le_refl _, fun pair member =>
      Nat.le_of_succ_le (behind.signs pair member)⟩
  · intro tight
    have below := precedence_le sign
    omega
  · intro term terms is are
    obtain ⟨terms, rest, rfl, more_are, rest_are⟩ := exists_append_of_forall₂ are
    obtain _ | @⟨_, ⟨sign', term'⟩, _, terms', ⟨rfl, is'⟩, more_are'⟩ := rest_are
    rw [rowTerm_append (is.whole.binds _) (above_of_moreAre more_are before.signs)
      (above_of_moreAre more_are' behind.signs)]
    exact (before.leads is more_are).binary (behind.leads is' more_are') sign

end Spelled

section Leaves

variable {level : Nat}

/-- A name that can stand alone begins an operand. -/
theorem begins_name {name : String} (valid : isIdentifier name = true) : Begins name.toList := by
  -- No letter is one of the characters that would be something else.
  have marks : ∀ d ∈ [' ', '\t', '\r', '\n', '#', '!', '-', '=', '>'],
      CharClass.letter.holds d = false ∧ d ≠ '_' := by decide
  obtain ⟨c, more, parts, -⟩ := identifier_parts valid
  rw [parts]
  refine .ofNe more fun d member => ?_
  have heads : ∀ e ∈ (name.toList ++ []).head?, e ≠ d := head_of_identifier valid (marks d member)
  exact heads c (by simp [parts])

/-- A bare name. -/
theorem spelled_name {name : String} (valid : isIdentifier name = true) :
    Spelled level name.toList (.name name) := by
  refine .ofBase (begins_name valid) (fun cuts unnamed => .ofName valid cuts unnamed)
    fun follows => ?_
  refine .barePath valid follows.cuts (holds_of_heads follows (by decide)) ?_
  exact .ofPiece rfl (by simp [IsWhole]) (Term.Leads.flat fun _ _ _ => rfl)

/-- The word for the input. -/
theorem spelled_current : Spelled level "this".toList .current := by
  refine .ofBase ⟨'t', _, rfl, by decide⟩
    (fun cuts _ => .ofRefuses (.identifier (by decide) cuts)) fun follows => ?_
  exact .current follows.cuts (.ofPiece rfl (by simp [IsWhole]) (Term.Leads.flat fun _ _ _ => rfl))

/-- The word for the document. -/
theorem spelled_root : Spelled level "root".toList .root := by
  refine .ofBase ⟨'r', _, rfl, by decide⟩
    (fun cuts _ => .ofRefuses (.identifier (by decide) cuts)) fun follows => ?_
  exact .root follows.cuts (.ofPiece rfl (by simp [IsWhole]) (Term.Leads.flat fun _ _ _ => rfl))

/-- A variable. -/
theorem spelled_variable {name : String} (valid : isIdentifier name = true) :
    Spelled level ('$' :: name.toList) (.variable name) := by
  refine .ofBase ⟨'$', _, rfl, by decide⟩ (fun _ _ => ?_) fun follows => ?_
  · exact .ofHead _ (by decide)
  · refine .variable valid follows.cuts ?_
    exact .ofPiece rfl (by simp [IsWhole]) (Term.Leads.flat fun _ _ _ => rfl)

/-- A string in quotes. -/
theorem spelled_quoted {inner : List Char} (quotable : IsQuotable inner) :
    Spelled level ('"' :: inner ++ ['"'])
      (.quoted ⟨0, 0⟩ (String.ofList ('"' :: inner ++ ['"']))) := by
  refine .ofBase ⟨'"', _, rfl, by decide⟩ (fun _ _ => ?_) fun {rest} follows => ?_
  · exact .ofHead _ (by decide)
  · rw [List.append_assoc]
    refine .quoted quotable (holds_of_heads follows (by decide)) fun span => ?_
    exact .ofPiece rfl (by simp [IsWhole]) (Term.Leads.quoted span _ _)

/-- A raw string. -/
theorem spelled_raw {inner : List Char} (raw : IsRaw inner) :
    Spelled level ('"' :: '"' :: '"' :: (inner ++ ['"', '"', '"']))
      (.literal (.string (String.ofList inner))) := by
  refine .ofBase ⟨'"', _, rfl, by decide⟩ (fun _ _ => ?_) fun {rest} follows => ?_
  · exact .ofHead _ (by decide)
  · simp only [List.cons_append, List.append_assoc]
    exact .raw raw (.ofPiece rfl (by simp [IsWhole]) (Term.Leads.flat fun _ _ _ => rfl))

end Leaves

/-- A text spells what an argument is, without its name: an expression or a lambda. -/
structure SpelledBody (text : List Char) (result : Term) : Prop where
  solid (rest : List Char) : dropBlanks false (text ++ rest) = text ++ rest
  unnamed {rest : List Char} (separates : Separates rest) :
    Refuses .loose (.rule .namedArgument) (text ++ rest)
  reads {rest : List Char} (separates : Separates rest) :
    Reads .loose (.either (.rule .lambda) (.rule .expr)) (text ++ rest) fun left pieces =>
      left = rest ∧ ∃ term : Term, pieces = [.term term] ∧ term.Leads result

/-- A text as an argument that leads to another one. -/
def offered (text : List Char) (argument : Option String × Term) :
    Passage (Option String × Term) :=
  ⟨text, fun found => found.1 = argument.1 ∧ found.2.Leads argument.2⟩

/-- A text spells an argument of a call. -/
def SpelledArgument (text : List Char) (argument : Option String × Term) : Prop :=
  (offered text argument).Good Pattern.argument Piece.argument?

section Arguments

variable {level : Nat} {text : List Char} {result : Term}

/-- What follows an operand of a row tells it from the name of an argument. -/
theorem unnamed_moreText (more : List (Sign × Operand)) {rest : List Char}
    (separates : Separates rest) : Unnamed (Row.moreText more ++ rest) := by
  cases more with
  | nil =>
    have each : ∀ c ∈ [')', ',', ']', '\x7d'], c ≠ ':' ∧ c ≠ '-' := by decide
    rw [Row.moreText, List.flatMap_nil, List.nil_append]
    refine ⟨fun c first => ?_, ?_⟩
    · rw [separates.closes.clear] at first
      exact (each c (separates c first)).1
    · rw [separates.closes.clear]
      rintro ⟨source, rfl⟩
      exact (each '-' (separates '-' rfl)).2 rfl
  | cons pair more =>
    obtain ⟨sign, operand⟩ := pair
    rw [Row.moreText_cons]
    -- A minus between two operands has a blank behind it, and so begins no arrow.
    cases sign with
    | coalesce => exact ⟨holds_of_head (by decide), by rintro ⟨_, ⟨⟩⟩⟩
    | operator inner =>
      cases inner <;> exact ⟨holds_of_head (by decide), by rintro ⟨_, ⟨⟩⟩⟩

/-- What follows the base of a row tells it from the name of an argument. -/
theorem Grammar.Row.Spells.nameless {row : Row} (spells : row.Spells level result)
    {rest : List Char} (separates : Separates rest) : Nameless (row.text ++ rest) := by
  obtain ⟨⟨signs, base, suffixes, BaseIs⟩, more⟩ := row
  -- A sign before the operand begins no name; otherwise what follows the base tells.
  cases signs with
  | cons sign signs =>
    simp only [Row.text, Operand.text, List.flatMap_cons, List.append_assoc]
    cases sign <;> exact .ofHead _ (by decide)
  | nil =>
    have stops := (stops_moreText more separates.closes).1
    have follows := suffixes_follow spells.first.suffixes stops.follows
    have unnamed : Unnamed (suffixes.flatMap (·.text) ++ (Row.moreText more ++ rest)) := by
      cases suffixes with
      | nil => exact unnamed_moreText more separates
      | cons suffix suffixes =>
        obtain ⟨text, point⟩ := (spells.first.suffixes suffix (.head _)).point
        rw [List.flatMap_cons, point]
        exact .ofHead _ (by decide)
    have nameless := spells.first.nameless follows.cuts unnamed
    simpa only [Row.text, Operand.text, Operand.after, List.flatMap_nil, List.nil_append,
      List.append_assoc] using nameless

/-- A row that is told from the name of an argument is what an argument can be. -/
theorem SpelledBody.ofRow {row : Row} (good : row.Good)
    (nameless : ∀ {rest}, Separates rest → Nameless (row.text ++ rest))
    (leads : ∀ span first more, row.first.Is first → Row.MoreAre row.more more →
      Term.Leads (.nested span (rowTerm first more)) result) : SpelledBody row.text result := by
  refine ⟨good.clear, fun separates => (nameless separates).named, fun separates => ?_⟩
  refine .right (nameless separates).lambda (.expr good separates.closes ?_)
  exact fun span first more is are => ⟨rfl, _, rfl, leads span first more is are⟩

/-- An expression is what an argument can be. -/
theorem Spelled.body (spelled : Spelled level text result) : SpelledBody text result := by
  obtain ⟨row, rfl, spells⟩ := spelled
  exact .ofRow spells.good spells.nameless fun span first more is are =>
    (spells.leads is are).nested span

/-- A lambda is what an argument can be. -/
theorem Spelled.lambda (spelled : Spelled level text result) {name : String}
    (valid : isIdentifier name = true) :
    SpelledBody (name.toList ++ (" -> ".toList ++ text)) (.lambda name result) := by
  -- The body is the same row, read behind the name and the arrow.
  obtain ⟨row, rfl, spells⟩ := spelled
  refine ⟨fun rest => ?_, fun {rest} _ => ?_, fun {rest} separates => ?_⟩
  · exact ((begins_name valid).append _).append rest |>.clear
  · rw [List.append_assoc, List.append_assoc]
    exact refuses_named_of_lambda valid _
  · rw [List.append_assoc, List.append_assoc]
    refine .left (.lambda valid spells.good separates.closes fun span first more is are => ?_)
    exact ⟨rfl, _, rfl, ((spells.leads is are).nested span).lambda name⟩

/-- An argument without a name. -/
theorem SpelledBody.argument (spelled : SpelledBody text result) :
    SpelledArgument text (none, result) := by
  refine ⟨spelled.solid, fun separates => ?_⟩
  refine .right (spelled.unnamed separates) ((spelled.reads separates).imp ?_)
  rintro _ _ ⟨rfl, term, rfl, leads⟩
  exact ⟨rfl, _, _, rfl, rfl, rfl, leads⟩

/-- An argument with a name. -/
theorem SpelledBody.named (spelled : SpelledBody text result) {name : String}
    (valid : isIdentifier name = true) :
    SpelledArgument (name.toList ++ (": ".toList ++ text)) (some name, result) := by
  refine ⟨fun rest => ?_, fun {rest} separates => ?_⟩
  · exact (((begins_name valid).append _).append rest).clear
  · rw [offered, List.append_assoc, List.append_assoc]
    -- An argument with a name is tried before one without, and this one has a name.
    refine .left (.namedArgument valid (spelled.solid rest) ((spelled.reads separates).imp ?_))
    rintro _ _ ⟨rfl, term, rfl, leads⟩
    exact ⟨term, rfl, rfl, _, _, rfl, rfl, rfl, leads⟩

end Arguments

/-- The text of arguments, in parentheses and with commas and blanks between them. -/
def argumentsText (texts : List (List Char)) : List Char :=
  '(' :: (Json.separated [' '] texts ++ [')'])

section Calls

variable {ι : Type} (arguments : List ι) (text : ι → List Char)
  (argument : ι → Option String × Term)

/-- Texts as the arguments of a call. -/
def offeredAll : List (Passage (Option String × Term)) :=
  arguments.map fun given => offered (text given) (argument given)

/-- The text of the arguments of a call. -/
theorem argumentsText_eq : argumentsText (arguments.map text) =
    '(' :: (Passage.listText [' '] (offeredAll arguments text argument) ++ [')']) := by
  simp [argumentsText, offeredAll, offered, Passage.listText_eq, Function.comp_def]

variable {arguments text argument}

/-- The arguments of a call are read one by one. -/
theorem good_offeredAll
    (each : ∀ given ∈ arguments, SpelledArgument (text given) (argument given)) :
    ∀ item ∈ offeredAll arguments text argument,
      item.Good Pattern.argument Piece.argument? :=
  List.forall_mem_map.2 each

/-- What the arguments of a call are read as leads to what they spell. -/
theorem leadAll_of_are {found : List (Option String × Term)}
    (are : Passage.Are (offeredAll arguments text argument) found) :
    Term.LeadAll found (arguments.map argument) := by
  rw [Term.LeadAll, List.forall₂_map_right_iff]
  exact (List.forall₂_map_left_iff.1 are).flip

/-- A call of a function. -/
theorem spelled_call {level : Nat} {name : String} (valid : isIdentifier name = true)
    (each : ∀ given ∈ arguments, SpelledArgument (text given) (argument given)) :
    Spelled level (name.toList ++ argumentsText (arguments.map text))
      (.call ⟨0, 0⟩ name (arguments.map argument)) := by
  rw [argumentsText_eq arguments text argument]
  -- The name has no colon behind it, and the brackets make it a call.
  refine .ofBase ((begins_name valid).append _) (fun {rest} _ _ => ?_) fun {rest} _ => ?_
  · rw [List.append_assoc]
    exact .ofName valid (holds_of_head (by decide)) (.ofHead _ (by decide))
  · simp only [List.append_assoc, List.cons_append, List.nil_append]
    refine .functionCall valid (.inr rfl) (good_offeredAll each) fun span found are => ?_
    exact .ofPiece rfl (by simp [IsWhole]) ((leadAll_of_are are).call span _ name)

/-- A call of a method behind an operand. -/
theorem Spelled.method {before : List Char} {result : Term} (spelled : Spelled 8 before result)
    {name : String} (valid : isFieldName name = true)
    (each : ∀ given ∈ arguments, SpelledArgument (text given) (argument given)) :
    Spelled 8 (before ++ '.' :: (name.toList ++ argumentsText (arguments.map text)))
      (.method ⟨0, 0⟩ result name (arguments.map argument)) := by
  -- A call is a suffix, with the parentheses and the arguments as part of it.
  let items := offeredAll arguments text argument
  let suffix : Suffix :=
    ⟨'.' :: (name.toList ++ '(' :: (Passage.listText [' '] items ++ [')'])), fun tail =>
      ∃ span found, tail = .method span name found ∧ Passage.Are items found⟩
  have good : suffix.Good := by
    refine ⟨⟨_, rfl⟩, fun {rest} _ => ?_⟩
    simp only [suffix, List.append_assoc, List.cons_append, List.nil_append]
    refine .methodCall valid (.inr rfl) (good_offeredAll each) fun span found are => ?_
    exact ⟨rfl, _, rfl, span, found, rfl, are⟩
  rw [argumentsText_eq arguments text argument]
  refine spelled.followed good ?_
  rintro _ ⟨span, found, rfl, are⟩ term leads
  exact (leadAll_of_are are).method leads span _ name

end Calls

section Fields

variable {text : List Char} {result : Term}

/-- A field behind an operand. -/
theorem Spelled.field (spelled : Spelled 8 text result) {name : String}
    (valid : isFieldName name = true) :
    Spelled 8 (text ++ '.' :: name.toList) (.field result (.plain name)) := by
  let suffix : Suffix := ⟨'.' :: name.toList, fun tail => tail = .field (.plain name)⟩
  have good : suffix.Good :=
    ⟨⟨_, rfl⟩, fun follows => .plainField valid follows ⟨rfl, _, rfl, rfl⟩⟩
  -- A field name behind a point is a suffix, and it leads to the access.
  refine spelled.followed good ?_
  rintro _ rfl term leads
  exact leads.field (.refl _)

/-- A field in quotes behind an operand. -/
theorem Spelled.quotedField (spelled : Spelled 8 text result) {inner : List Char}
    (quotable : IsQuotable inner) :
    Spelled 8 (text ++ '.' :: ('"' :: inner ++ ['"']))
      (.field result (.quoted ⟨0, 0⟩ (String.ofList ('"' :: inner ++ ['"'])))) := by
  -- The field is a suffix of the operand, and its name is what the quotes contain.
  let suffix : Suffix :=
    ⟨'.' :: ('"' :: inner ++ ['"']), fun tail =>
      ∃ span, tail = .field (.quoted span (String.ofList ('"' :: inner ++ ['"'])))⟩
  have good : suffix.Good := by
    refine ⟨⟨_, rfl⟩, fun {rest} _ => ?_⟩
    simp only [suffix, List.append_assoc, List.cons_append, List.nil_append]
    exact .quotedField quotable fun span => ⟨rfl, _, rfl, span, rfl⟩
  refine spelled.followed good ?_
  rintro _ ⟨span, rfl⟩ term leads
  exact leads.field (Compile.unquote_implies span _ _)

end Fields

end Reshape
