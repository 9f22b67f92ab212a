import Reshape.Proofs.Expr.Same
import Reshape.Proofs.Grammar.Term
import Reshape.Proofs.Grammar.Yields

/-!
Trees that are the same but for places. The parts that they make are the same but for places too, if
the first tree makes a well-formed one, so that statements keep their meaning wherever they stand.
-/

namespace Reshape

namespace Term

variable {plain : Value → Prop} {hole : Term → Term → Prop}

/-- Terms that are the same one by one. -/
theorem FilledAll.ofForall₂ {terms terms' : List Term}
    (each : List.Forall₂ (Term.Filled plain hole) terms terms') :
    Term.FilledAll plain hole terms terms' := by
  induction each with
  | nil => exact .nil
  | cons first _ ih => exact .cons first ih

/-- Arguments that are the same one by one. -/
theorem FilledArguments.ofForall₂ {given given' : List (Option String × Term)}
    (each : List.Forall₂ (fun argument argument' => argument.1 = argument'.1 ∧
      Term.Filled plain hole argument.2 argument'.2) given given') :
    Term.FilledArguments plain hole given given' := by
  induction each with
  | nil => exact .nil
  -- Arguments are pairs, of which the names are the same.
  | @cons argument argument' _ _ first _ ih =>
    obtain ⟨name, term⟩ := argument
    obtain ⟨_, term'⟩ := argument'
    obtain ⟨rfl, first⟩ := first
    exact .cons name first ih

/-- Entries that are the same one by one. -/
theorem FilledEntries.ofForall₂ {entries entries' : List (Span × Term × Term)}
    (each : List.Forall₂ (fun entry entry' => Term.Filled plain hole entry.2.1 entry'.2.1 ∧
      Term.Filled plain hole entry.2.2 entry'.2.2) entries entries') :
    Term.FilledEntries plain hole entries entries' := by
  induction each with
  | nil => exact .nil
  | cons first _ ih => exact .cons _ _ first.1 first.2 ih

/-- Cases that are the same one by one. -/
theorem FilledCases.ofForall₂ {rules rules' : List (Option Term × Term)}
    (each : List.Forall₂ (fun rule rule' => Term.FilledOption plain hole rule.1 rule'.1 ∧
      Term.Filled plain hole rule.2 rule'.2) rules rules') :
    Term.FilledCases plain hole rules rules' := by
  induction each with
  | nil => exact .nil
  | cons first _ ih => exact .cons first.1 first.2 ih

end Term

/-- Two statements assign to the same. -/
inductive Place.Same : Place → Place → Prop where
  | variable {name name' : Segment} (same : Segment.Same name name') :
    Same (.variable name) (.variable name')
  | allMetadata : Same (.metadata none) (.metadata none)
  | metadata {key key' : Segment} (same : Segment.Same key key') :
    Same (.metadata (some key)) (.metadata (some key'))
  | root {path path' : List Segment} (same : List.Forall₂ Segment.Same path path') :
    Same (.root path) (.root path')
  | input (span span' : Span) : Same (.input span) (.input span')

/-- Two statements are the same but for places, and may stand in different lines. -/
structure Sentence.Same (sentence sentence' : Sentence) : Prop where
  place : Place.Same sentence.place sentence'.place
  term : Term.Same sentence.term sentence'.term

namespace Grammar.Piece

/-- Two parts are the same but for places, unless nothing can be made of the first one. -/
inductive Same : Piece → Piece → Prop where
  | term {found found' : Term} (same : Term.Same found found') : Same (.term found) (.term found')
  | quoted (span span' : Span) (text : String) : Same (.quoted span text) (.quoted span' text)
  | name (text : String) : Same (.name text) (.name text)
  | sign (sign : Sign) : Same (.sign sign) (.sign sign)
  | prefixSign (sign : PrefixSign) : Same (.prefixSign sign) (.prefixSign sign)
  | field {segment segment' : Segment} (same : Segment.Same segment segment') :
    Same (.tail (.field segment)) (.tail (.field segment'))
  | method (span span' : Span) (name : String) {given given' : List (Option String × Term)}
    (same : Term.FilledArguments (fun _ => True) (fun _ _ => False) given given') :
    Same (.tail (.method span name given)) (.tail (.method span' name given'))
  | arguments {given given' : List (Option String × Term)}
    (same : Term.FilledArguments (fun _ => True) (fun _ _ => False) given given') :
    Same (.arguments given) (.arguments given')
  | named (name : String) {found found' : Term} (same : Term.Same found found') :
    Same (.named name found) (.named name found')
  | branch {condition condition' body body' : Term} (first : Term.Same condition condition')
    (second : Term.Same body body') : Same (.branch condition body) (.branch condition' body')
  | otherwise {body body' : Term} (same : Term.Same body body') :
    Same (.otherwise body) (.otherwise body')
  | wildcard : Same .wildcard .wildcard
  | always {body body' : Term} (same : Term.Same body body') :
    Same (.case none body) (.case none body')
  | case {test test' body body' : Term} (first : Term.Same test test')
    (second : Term.Same body body') : Same (.case (some test) body) (.case (some test') body')
  | entry (span span' : Span) {key key' value value' : Term} (first : Term.Same key key')
    (second : Term.Same value value') : Same (.entry span key value) (.entry span' key' value')
  | place {place place' : Place} (same : Place.Same place place') :
    Same (.place place) (.place place')
  | rootWord : Same .rootWord .rootWord
  | currentWord : Same .currentWord .currentWord
  | sentence {sentence sentence' : Sentence} (same : Sentence.Same sentence sentence') :
    Same (.sentence sentence) (.sentence sentence')
  | mapping {sentences sentences' : List Sentence}
    (same : List.Forall₂ Sentence.Same sentences sentences') :
    Same (.mapping sentences) (.mapping sentences')
  | mark : Same .mark .mark
  | malformed {piece : Piece} (speaks : piece.speaks = true) : Same .malformed piece

namespace Same

variable {piece piece' : Piece} {pieces pieces' : List Piece}

/-- Of two parts that are the same both say something, or neither does. -/
theorem speaks_eq (same : Same piece piece') : piece.speaks = piece'.speaks := by
  cases same with
  | malformed speaks => exact speaks.symm
  | _ => rfl

/-- What says something is the same one by one. -/
theorem filter (each : List.Forall₂ Same pieces pieces') :
    List.Forall₂ Same (pieces.filter speaks) (pieces'.filter speaks) := by
  induction each with
  | nil => exact .nil
  | @cons piece piece' _ _ first _ ih =>
    -- Marks are left out on both sides alike.
    rw [List.filter_cons, List.filter_cons, ← first.speaks_eq]
    split
    · exact .cons first ih
    · exact ih

/-- What parts are read as, one by one, is the same if it is for each. -/
theorem mapM {α : Type} {read : Piece → Option α} {same : α → α → Prop}
    (reads : ∀ {piece piece'}, Same piece piece' → ∀ found, read piece = some found →
      ∃ found', read piece' = some found' ∧ same found found')
    (each : List.Forall₂ Same pieces pieces') {results : List α}
    (given : pieces.mapM read = some results) :
    ∃ results', pieces'.mapM read = some results' ∧ List.Forall₂ same results results' := by
  -- The parts are read in order, each by the same reader.
  induction each generalizing results with
  | nil =>
    cases given
    exact ⟨[], rfl, .nil⟩
  | @cons piece piece' _ _ first _ ih =>
    rw [List.mapM_cons] at given
    obtain ⟨found, read, given⟩ := Option.bind_eq_some_iff.1 given
    obtain ⟨others, later, given⟩ := Option.bind_eq_some_iff.1 given
    cases given
    obtain ⟨found', read', same⟩ := reads first found read
    obtain ⟨others', later', rest⟩ := ih later
    exact ⟨found' :: others', by rw [List.mapM_cons, read', later']; rfl, .cons same rest⟩

/-- The term that a part is. -/
theorem term? (same : Same piece piece') (found : Term) (given : piece.term? = some found) :
    ∃ found', piece'.term? = some found' ∧ Term.Same found found' := by
  -- Only a term and a quoted text are read as terms.
  cases same with
  | term same =>
    cases given
    exact ⟨_, rfl, same⟩
  | quoted span span' text =>
    cases given
    exact ⟨_, rfl, .quoted span span' text⟩
  | _ => cases given

/-- The name in a path that a part is. -/
theorem segment? (same : Same piece piece') (found : Segment)
    (given : piece.segment? = some found) :
    ∃ found', piece'.segment? = some found' ∧ Segment.Same found found' := by
  -- Only a name and a quoted text are read as names.
  cases same with
  | name text =>
    cases given
    exact ⟨_, rfl, .plain text⟩
  | quoted span span' text =>
    cases given
    exact ⟨_, rfl, .quoted span span' text⟩
  | _ => cases given

/-- The statement that a part is. -/
theorem sentence? (same : Same piece piece') (found : Sentence)
    (given : Piece.sentence? piece = some found) :
    ∃ found', Piece.sentence? piece' = some found' ∧ Sentence.Same found found' := by
  cases same with
  | sentence same =>
    cases given
    exact ⟨_, rfl, same⟩
  | _ => cases given

/-- The argument that a part is. -/
theorem argument? (same : Same piece piece') (found : Option String × Term)
    (given : Piece.argument? piece = some found) :
    ∃ found', Piece.argument? piece' = some found' ∧
      found.1 = found'.1 ∧ Term.Same found.2 found'.2 := by
  -- An argument with a name stays one, and what is read as a term has no name.
  cases same with
  | named name same =>
    cases given
    exact ⟨_, rfl, rfl, same⟩
  | term same =>
    cases given
    exact ⟨_, rfl, rfl, same⟩
  | quoted span span' text =>
    cases given
    exact ⟨_, rfl, rfl, .quoted span span' text⟩
  | _ => cases given

/-- The entry that a part is. -/
theorem entry? (same : Same piece piece') (found : Span × Term × Term)
    (given : Piece.entry? piece = some found) :
    ∃ found', Piece.entry? piece' = some found' ∧
      Term.Same found.2.1 found'.2.1 ∧ Term.Same found.2.2 found'.2.2 := by
  cases same with
  | entry span span' first second =>
    cases given
    exact ⟨_, rfl, first, second⟩
  | _ => cases given

/-- The case that a part is. -/
theorem case? (same : Same piece piece') (found : Option Term × Term)
    (given : Piece.case? piece = some found) :
    ∃ found', Piece.case? piece' = some found' ∧
      Term.FilledOption (fun _ => True) (fun _ _ => False) found.1 found'.1 ∧
        Term.Same found.2 found'.2 := by
  -- Only cases are read so: one that always applies, or one with a test.
  cases same with
  | always same =>
    cases given
    exact ⟨_, rfl, .none, same⟩
  | case first second =>
    cases given
    exact ⟨_, rfl, .some first, second⟩
  | _ => cases given

end Same

/-- A further operand behind terms that are the same. -/
theorem extend_same {next : Sign} {operand operand' whole whole' : Term}
    (first : Term.Same whole whole') (second : Term.Same operand operand') :
    Term.Same (extend next operand whole) (extend next operand' whole') := by
  -- The operand goes as far to the right in both, as the signs are the same.
  fun_induction extend next operand whole generalizing whole' with
  | case1 before left right tight =>
    cases first with
    | hole filled => exact filled.elim
    | binary _ first last =>
      rw [extend, if_pos tight]
      exact .binary next (.binary before first last) second
  | case2 before left right loose ih =>
    cases first with
    | hole filled => exact filled.elim
    | binary _ first last =>
      rw [extend, if_neg loose]
      exact .binary before first (ih last)
  | case3 whole single =>
    rw [extend]
    · exact .binary next first second
    · rintro sign left right rfl
      cases first with
      | hole filled => exact filled.elim
      | binary _ _ _ => exact single _ _ _ rfl

/-- Two beginnings of expressions are the same but for places. -/
structure Chain.Same (chain chain' : Chain) : Prop where
  before : Option.Rel (fun pair pair' => Term.Same pair.1 pair'.1 ∧ pair.2 = pair'.2) chain.before
    chain'.before
  signs : chain.signs = chain'.signs
  operand : Option.Rel Term.Same chain.operand chain'.operand

namespace Chain.Same

variable {chain chain' : Chain} {piece piece' : Piece}

/-- Signs before terms that are the same. -/
theorem signed (signs : List PrefixSign) {operand operand' : Term}
    (same : Term.Same operand operand') :
    Term.Same (signs.foldl (fun operand before => .signed before operand) operand)
      (signs.foldl (fun operand before => .signed before operand) operand') := by
  induction signs generalizing operand operand' with
  | nil => exact same
  | cons sign rest ih => exact ih (.signed sign same)

/-- The term that a beginning makes. -/
theorem term? (same : Chain.Same chain chain') (found : Term)
    (given : chain.term? = some found) :
    ∃ found', chain'.term? = some found' ∧ Term.Same found found' := by
  -- The operand takes its signs first, and then joins what stands before it.
  obtain ⟨before, signs, operand⟩ := chain
  obtain ⟨before', _, operand'⟩ := chain'
  obtain ⟨left, rfl, right⟩ := same
  dsimp only at left right
  cases right with
  | none => cases given
  | @some operand operand' same =>
    have whole := signed signs same
    cases left with
    | none =>
      cases given
      exact ⟨_, rfl, whole⟩
    | @some pair pair' both =>
      obtain ⟨left, next⟩ := pair
      obtain ⟨left', _⟩ := pair'
      obtain ⟨first, rfl⟩ := both
      cases given
      exact ⟨_, rfl, extend_same first whole⟩

/-- One more part. -/
theorem push (same : Chain.Same chain chain') (part : Piece.Same piece piece') (longer : Chain)
    (given : chain.push piece = some longer) :
    ∃ longer', chain'.push piece' = some longer' ∧ Chain.Same longer longer' := by
  have right := same.operand
  -- Most parts are operands, if they are terms.
  have operand (given : (piece.term?.map fun operand =>
      { chain with operand := some operand }) = some longer) :
      ∃ longer', (piece'.term?.map fun operand =>
        { chain' with operand := some operand }) = some longer' ∧ Chain.Same longer longer' := by
    obtain ⟨operand, known, rfl⟩ := Option.map_eq_some_iff.1 given
    obtain ⟨operand', known', found⟩ := part.term? operand known
    refine ⟨_, Option.map_eq_some_iff.2 ⟨operand', known', rfl⟩, ?_⟩
    exact ⟨same.before, same.signs, .some found⟩
  cases part with
  | prefixSign sign =>
    cases given
    exact ⟨_, rfl, same.before, congrArg (sign :: ·) same.signs, right⟩
  | sign next =>
    -- What is read so far stands before the sign.
    obtain ⟨term, known, rfl⟩ := Option.map_eq_some_iff.1 given
    obtain ⟨term', known', found⟩ := same.term? term known
    refine ⟨_, Option.map_eq_some_iff.2 ⟨term', known', rfl⟩, ?_⟩
    exact ⟨.some ⟨found, rfl⟩, rfl, .none⟩
  | field parts =>
    obtain ⟨term, known, rfl⟩ := Option.map_eq_some_iff.1 given
    rw [known] at right
    generalize known' : chain'.operand = operand' at right
    cases right with | some found =>
    refine ⟨_, Option.map_eq_some_iff.2 ⟨_, known', rfl⟩, ?_⟩
    exact ⟨same.before, same.signs, .some (.field found parts)⟩
  | method span span' name arguments =>
    obtain ⟨term, known, rfl⟩ := Option.map_eq_some_iff.1 given
    rw [known] at right
    generalize known' : chain'.operand = operand' at right
    cases right with | some found =>
    refine ⟨_, Option.map_eq_some_iff.2 ⟨_, known', rfl⟩, ?_⟩
    exact ⟨same.before, same.signs, .some (.method span span' name found arguments)⟩
  | malformed => cases given
  | _ => exact operand given

/-- Further parts. -/
theorem pushAll {pieces pieces' : List Piece} (each : List.Forall₂ Piece.Same pieces pieces')
    (same : Chain.Same chain chain') (whole : Chain)
    (given : pieces.foldlM Chain.push chain = some whole) :
    ∃ whole', pieces'.foldlM Chain.push chain' = some whole' ∧ Chain.Same whole whole' := by
  -- The beginning grows by one part at a time, so it is generalised.
  induction each generalizing chain chain' with
  | nil =>
    cases given
    exact ⟨_, rfl, same⟩
  | cons first _ ih =>
    rw [List.foldlM_cons] at given
    obtain ⟨longer, pushed, given⟩ := Option.bind_eq_some_iff.1 given
    obtain ⟨longer', pushed', same⟩ := same.push first longer pushed
    obtain ⟨whole', given', same⟩ := ih same given
    exact ⟨whole', by rw [List.foldlM_cons, pushed']; exact given', same⟩

end Chain.Same

/-- The term of a row of operands and signs. -/
theorem chain?_same {pieces pieces' : List Piece} (each : List.Forall₂ Same pieces pieces')
    (term : Term) (given : chain? pieces = some term) :
    ∃ term', chain? pieces' = some term' ∧ Term.Same term term' := by
  obtain ⟨chain, pushed, made⟩ := Option.bind_eq_some_iff.1 given
  have empty : Chain.Same ⟨none, [], none⟩ ⟨none, [], none⟩ := ⟨.none, rfl, .none⟩
  obtain ⟨chain', pushed', same⟩ := empty.pushAll each chain pushed
  obtain ⟨term', made', same⟩ := same.term? term made
  exact ⟨term', by rw [chain?, pushed']; exact made', same⟩

/-- The branches of a condition and what applies otherwise. -/
theorem branches?_same {pieces pieces' : List Piece} (each : List.Forall₂ Same pieces pieces')
    {tests : List (Term × Term)} {otherwise : Option Term}
    (given : branches? pieces = some (tests, otherwise)) :
    ∃ tests' otherwise', branches? pieces' = some (tests', otherwise') ∧
      Term.FilledPairs (fun _ => True) (fun _ _ => False) tests tests' ∧
        Term.FilledOption (fun _ => True) (fun _ _ => False) otherwise otherwise' := by
  -- The cases are those of the reader: no part, a last body, or a condition with its body and the
  -- rest.
  fun_induction branches? pieces generalizing pieces' tests otherwise with
  | case1 =>
    cases given
    cases each
    exact ⟨[], none, rfl, .nil, .none⟩
  | case2 body =>
    cases given
    rcases each with _ | ⟨first, _ | _⟩
    cases first with | otherwise same =>
    exact ⟨[], _, rfl, .nil, .some same⟩
  | case3 condition body rest ih =>
    obtain ⟨⟨others, last⟩, known, same⟩ := Option.map_eq_some_iff.1 given
    cases same
    rcases each with _ | ⟨first, each⟩
    cases first with | branch first second =>
    obtain ⟨tests', otherwise', known', same, last⟩ := ih each known
    exact ⟨_, otherwise', by rw [branches?, known']; rfl, .cons first second same, last⟩
  | case4 => cases given

section Rules

variable {rule : Rule} {text text' : String} {span span' : Span} {line line' : Nat}
  {pieces pieces' inside inside' : List Piece} {piece : Piece}

/-- What a rule makes of its text is the same of a text that is spelled alike. -/
theorem OfText.same (written : OfText text span rule piece)
    (spelled : rule.spelling text = rule.spelling text') :
    ∃ piece', OfText text' span' rule piece' ∧ Same piece piece' := by
  -- These rules keep their texts, so that they are the same.
  cases written with
  | fieldName =>
    obtain rfl : text = text' := spelled
    exact ⟨_, .fieldName, .name text⟩
  | identifier =>
    obtain rfl : text = text' := spelled
    exact ⟨_, .identifier, .name text⟩
  | rawInner =>
    obtain rfl : text = text' := spelled
    exact ⟨_, .rawInner, .name text⟩
  | bool =>
    obtain rfl : text = text' := spelled
    exact ⟨_, .bool, .term (.literal trivial)⟩
  | number =>
    obtain rfl : text = text' := spelled
    exact ⟨_, .number, .term (.number span span' text)⟩
  | string =>
    obtain rfl : text = text' := spelled
    exact ⟨_, .string, .quoted span span' text⟩

/-- The statement or part of one that is made of parts that are the same. -/
theorem OfStatement.same (made : OfStatement span line rule pieces piece)
    (each : List.Forall₂ Same pieces pieces') :
    ∃ piece', OfStatement span' line' rule pieces' piece' ∧ Same piece piece' := by
  -- The rule fixes which parts there are, and so which ones they are the same as.
  cases made with
  | mapping read =>
    obtain ⟨found, read', same⟩ := Same.mapM Same.sentence? each read
    exact ⟨_, .mapping read', .mapping same⟩
  | binding named body =>
    rcases each with _ | ⟨first, _ | ⟨second, ⟨⟩⟩⟩
    obtain ⟨name, named', alike⟩ := first.segment? _ named
    cases second with | term same =>
    exact ⟨_, .binding named' _, .sentence ⟨.variable alike, same⟩⟩
  | allMetadata body =>
    rcases each with _ | ⟨first, ⟨⟩⟩
    cases first with | term same =>
    exact ⟨_, .allMetadata _, .sentence ⟨.allMetadata, same⟩⟩
  | metadata named body =>
    rcases each with _ | ⟨first, _ | ⟨second, ⟨⟩⟩⟩
    obtain ⟨key, named', alike⟩ := first.segment? _ named
    cases second with | term same =>
    exact ⟨_, .metadata named' _, .sentence ⟨.metadata alike, same⟩⟩
  | assign place body =>
    rcases each with _ | ⟨first, _ | ⟨second, ⟨⟩⟩⟩
    cases first with | place alike =>
    cases second with | term same =>
    exact ⟨_, .assign _ _, .sentence ⟨alike, same⟩⟩
  | fromRoot read =>
    rcases each with _ | ⟨first, later⟩
    cases first with | rootWord =>
    obtain ⟨path, read', same⟩ := Same.mapM Same.segment? later read
    exact ⟨_, .fromRoot read', .place (.root same)⟩
  | input parts =>
    rcases each with _ | ⟨first, later⟩
    cases first with | currentWord =>
    exact ⟨_, .input _, .place (.input span span')⟩
  | path read =>
    obtain ⟨path, read', same⟩ := Same.mapM Same.segment? each read
    exact ⟨_, .path read', .place (.root same)⟩
  | head =>
    rcases each with _ | ⟨first, ⟨⟩⟩
    exact ⟨_, .head _, first⟩

/-- The operand, call or literal that is made of parts that are the same. -/
theorem OfOperand.same (made : OfOperand span rule pieces piece)
    (each : List.Forall₂ Same pieces pieces') :
    ∃ piece', OfOperand span' rule pieces' piece' ∧ Same piece piece' := by
  cases made with
  -- Rows of operands and signs.
  | expr read =>
    obtain ⟨found, read', same⟩ := chain?_same each _ read
    exact ⟨_, .expr read', .term (.nested span span' same)⟩
  | query =>
    rcases each with _ | ⟨first, ⟨⟩⟩
    cases first with | term same =>
    exact ⟨_, .query _, .term same⟩
  | paren =>
    rcases each with _ | ⟨first, ⟨⟩⟩
    cases first with | term same =>
    exact ⟨_, .paren _, .term same⟩
  -- Calls.
  | method name given =>
    rcases each with _ | ⟨first, _ | ⟨second, ⟨⟩⟩⟩
    cases first with | name =>
    cases second with | arguments same =>
    exact ⟨_, .method name _, .method span span' name same⟩
  | call name given =>
    rcases each with _ | ⟨first, _ | ⟨second, ⟨⟩⟩⟩
    cases first with | name =>
    cases second with | arguments same =>
    exact ⟨_, .call name _, .term (.call span span' name same)⟩
  | arguments read =>
    obtain ⟨found, read', same⟩ := Same.mapM Same.argument? each read
    exact ⟨_, .arguments read', .arguments (.ofForall₂ same)⟩
  | named name body =>
    rcases each with _ | ⟨first, _ | ⟨second, ⟨⟩⟩⟩
    cases first with | name =>
    cases second with | term same =>
    exact ⟨_, .named name _, .named name same⟩
  | lambda name body =>
    rcases each with _ | ⟨first, _ | ⟨second, ⟨⟩⟩⟩
    cases first with | name =>
    cases second with | term same =>
    exact ⟨_, .lambda name _, .term (.lambda name same)⟩
  -- References.
  | field named =>
    rcases each with _ | ⟨first, ⟨⟩⟩
    obtain ⟨segment, named', alike⟩ := first.segment? _ named
    exact ⟨_, .field named', .field alike⟩
  | reference name =>
    rcases each with _ | ⟨first, ⟨⟩⟩
    cases first with | name =>
    exact ⟨_, .reference name, .term (.variable name)⟩
  | allMetadata =>
    cases each
    exact ⟨_, .allMetadata, .term .allMetadata⟩
  | metadata named =>
    rcases each with _ | ⟨first, ⟨⟩⟩
    obtain ⟨key, named', alike⟩ := first.segment? _ named
    exact ⟨_, .metadata named', .term (.metadata alike)⟩
  | barePath name =>
    rcases each with _ | ⟨first, ⟨⟩⟩
    cases first with | name =>
    exact ⟨_, .barePath name, .term (.name name)⟩
  -- Literals with parts.
  | rawString inner =>
    rcases each with _ | ⟨first, ⟨⟩⟩
    cases first with | name =>
    exact ⟨_, .rawString inner, .term (.literal trivial)⟩
  | array read =>
    obtain ⟨items, read', same⟩ := Same.mapM Same.term? each read
    exact ⟨_, .array read', .term (.array (.ofForall₂ same))⟩
  | object read =>
    obtain ⟨entries, read', same⟩ := Same.mapM Same.entry? each read
    exact ⟨_, .object read', .term (.object (.ofForall₂ same))⟩
  | entry key value =>
    rcases each with _ | ⟨first, _ | ⟨second, ⟨⟩⟩⟩
    cases first with | term alike =>
    cases second with | term same =>
    exact ⟨_, .entry _ _, .entry span span' alike same⟩

/-- The condition or match that is made of parts that are the same. -/
theorem OfChoice.same (made : OfChoice rule pieces piece)
    (each : List.Forall₂ Same pieces pieces') :
    ∃ piece', OfChoice rule pieces' piece' ∧ Same piece piece' := by
  -- The rule fixes which parts there are, and so which ones they are the same as.
  cases made with
  | branches read =>
    obtain ⟨tests, otherwise, read', same, last⟩ := branches?_same each read
    exact ⟨_, .branches read', .term (.branches same last)⟩
  | ifBranch condition body =>
    rcases each with _ | ⟨first, _ | ⟨second, ⟨⟩⟩⟩
    cases first with | term alike =>
    cases second with | term same =>
    exact ⟨_, .ifBranch _ _, .branch alike same⟩
  | elseIf condition body =>
    rcases each with _ | ⟨first, _ | ⟨second, ⟨⟩⟩⟩
    cases first with | term alike =>
    cases second with | term same =>
    exact ⟨_, .elseIf _ _, .branch alike same⟩
  | elseBlock body =>
    rcases each with _ | ⟨first, ⟨⟩⟩
    cases first with | term same =>
    exact ⟨_, .elseBlock _, .otherwise same⟩
  | cases subject read =>
    rcases each with _ | ⟨first, later⟩
    cases first with | term alike =>
    obtain ⟨rules, read', same⟩ := Same.mapM Same.case? later read
    exact ⟨_, .cases _ read', .term (.cases (.some alike) (.ofForall₂ same))⟩
  | casesAlone read =>
    obtain ⟨rules, read', same⟩ := Same.mapM Same.case? each read
    exact ⟨_, .casesAlone read', .term (.cases .none (.ofForall₂ same))⟩
  | always body =>
    rcases each with _ | ⟨first, _ | ⟨second, ⟨⟩⟩⟩
    cases first with | wildcard =>
    cases second with | term same =>
    exact ⟨_, .always _, .always same⟩
  | case test body =>
    rcases each with _ | ⟨first, _ | ⟨second, ⟨⟩⟩⟩
    cases first with | term alike =>
    cases second with | term same =>
    exact ⟨_, .case _ _, .case alike same⟩

/-- A word is the same wherever it stands. -/
theorem OfWord.same (word : OfWord rule piece) : Same piece piece := by
  -- Each rule has its word, and what the word makes does not mention where it stands.
  cases word with
  | notSign | negateSign => exact .prefixSign _
  | wildcard => exact .wildcard
  | rootReference => exact .term .root
  | thisReference => exact .term .current
  | nullLiteral => exact .term (.literal trivial)
  | rootWord => exact .rootWord
  | thisWord => exact .currentWord
  | endOfInput | stringInner | letWord | metaWord | ifWord | elseWord | matchWord => exact .mark
  | _ => exact .sign _

/-- The part that a rule makes of parts that are the same. -/
theorem Made.same (made : Made text span line rule pieces piece)
    (each : List.Forall₂ Same pieces pieces')
    (spelled : rule.spelling text = rule.spelling text') :
    ∃ piece', Made text' span' line' rule pieces' piece' ∧ Same piece piece' := by
  -- What is made falls into five families, and each keeps being the same.
  cases made with
  | word word => exact ⟨piece, .word word, word.same⟩
  | text written =>
    obtain ⟨piece', written', same⟩ := written.same spelled
    exact ⟨piece', .text written', same⟩
  | statement made =>
    obtain ⟨piece', made', same⟩ := made.same each
    exact ⟨piece', .statement made', same⟩
  | operand made =>
    obtain ⟨piece', made', same⟩ := made.same each
    exact ⟨piece', .operand made', same⟩
  | choice made =>
    obtain ⟨piece', made', same⟩ := made.same each
    exact ⟨piece', .choice made', same⟩

/-- What a rule makes of parts that say something says something itself, unless the rule makes it of
any parts. -/
theorem Made.speaks (made : Made text span line rule pieces piece)
    (each : ∀ part ∈ pieces, part.speaks = true)
    (nothing : ofRule? rule text' span' line' inside' = none) : piece.speaks = true := by
  cases made with
  | word word =>
    -- Such a rule makes its word of the other parts as well.
    cases word <;> cases nothing
  | text written => cases written <;> rfl
  | statement made =>
    cases made with
    | head => exact each piece (by simp)
    | _ => rfl
  | operand made => cases made <;> rfl
  | choice made => cases made <;> rfl

/-- Trees that are the same but for places make parts that are. -/
theorem ofRule_same (rule : Rule) (span span' : Span) (line line' : Nat)
    (each : List.Forall₂ Same inside inside')
    (spelled : rule.spelling text = rule.spelling text') :
    Same ((ofRule? rule text span line inside).getD .malformed)
      ((ofRule? rule text' span' line' inside').getD .malformed) := by
  -- Where one text makes no part of the tree, the other makes none either.
  cases given : ofRule? rule text span line inside with
  | some piece =>
    have made := ofRule?_eq_some_iff.1 given
    obtain ⟨piece', made', same⟩ : ∃ piece',
        Made text' span' line' rule (inside'.filter Piece.speaks) piece' ∧ Same piece piece' :=
      made.same (Same.filter each) spelled
    rw [ofRule?_eq_some_iff.2 made']
    exact same
  | none =>
    cases given' : ofRule? rule text' span' line' inside' with
    | none => exact .malformed rfl
    | some piece =>
      have each : ∀ part ∈ inside'.filter Piece.speaks, part.speaks = true :=
        fun part among => (List.mem_filter.1 among).2
      exact .malformed ((ofRule?_eq_some_iff.1 given').speaks each given)

end Rules

mutual

/-- Trees that are the same but for places make parts that are. -/
theorem ofNode_same (node node' : Node) (same : node.bare = node'.bare) :
    Same (ofNode node) (ofNode node') := by
  match node, node' with
  | .node rule text span line children, .node rule' text' span' line' children' =>
    rw [Node.bare, Node.bare, Node.node.injEq] at same
    obtain ⟨rfl, spelled, -, -, inside⟩ := same
    exact ofRule_same rule span span' line line' (ofNodes_same children children' inside) spelled

/-- Trees that are the same one by one make parts that are. -/
theorem ofNodes_same (nodes nodes' : List Node) (same : Node.bareAll nodes = Node.bareAll nodes') :
    List.Forall₂ Same (ofNodes nodes) (ofNodes nodes') := by
  match nodes, nodes' with
  | [], [] => exact .nil
  | node :: rest, node' :: rest' =>
    -- Trees are compared one by one, as their bare forms are.
    rw [Node.bareAll, Node.bareAll, List.cons.injEq] at same
    exact .cons (ofNode_same node node' same.1) (ofNodes_same rest rest' same.2)
  | [], _ :: _ => cases same
  | _ :: _, [] => cases same

end

end Grammar.Piece

end Reshape
