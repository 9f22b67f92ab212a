import Reshape.Grammar.Term

/-!
What rules make of the parts inside them, as a relation with a case for each way to make a part. A
rule that makes a part makes it in one of these ways, and each way is one in which its rule makes a
part, so that what holds of all parts that are made is proved way by way.
-/

namespace Reshape.Grammar.Piece

/-- What rules make of any parts: signs and words. -/
inductive OfWord : Rule → Piece → Prop where
  | orSign : OfWord .orSign (.sign (.operator .or))
  | andSign : OfWord .andSign (.sign (.operator .and))
  | coalesceSign : OfWord .coalesceSign (.sign .coalesce)
  | equalSign : OfWord .equalSign (.sign (.operator .equal))
  | unequalSign : OfWord .unequalSign (.sign (.operator .unequal))
  | greaterEqualSign : OfWord .greaterEqualSign (.sign (.operator .greaterEqual))
  | lessEqualSign : OfWord .lessEqualSign (.sign (.operator .lessEqual))
  | greaterSign : OfWord .greaterSign (.sign (.operator .greater))
  | lessSign : OfWord .lessSign (.sign (.operator .less))
  | addSign : OfWord .addSign (.sign (.operator .add))
  | subtractSign : OfWord .subtractSign (.sign (.operator .subtract))
  | multiplySign : OfWord .multiplySign (.sign (.operator .multiply))
  | divideSign : OfWord .divideSign (.sign (.operator .divide))
  | remainderSign : OfWord .remainderSign (.sign (.operator .remainder))
  | notSign : OfWord .notSign (.prefixSign .not)
  | negateSign : OfWord .negateSign (.prefixSign .negate)
  | wildcard : OfWord .wildcard .wildcard
  | rootReference : OfWord .rootReference (.term .root)
  | thisReference : OfWord .thisReference (.term .current)
  | nullLiteral : OfWord .nullLiteral (.term (.literal .null))
  | rootWord : OfWord .rootWord .rootWord
  | thisWord : OfWord .thisWord .currentWord
  | endOfInput : OfWord .endOfInput .mark
  | stringInner : OfWord .stringInner .mark
  | letWord : OfWord .letWord .mark
  | metaWord : OfWord .metaWord .mark
  | ifWord : OfWord .ifWord .mark
  | elseWord : OfWord .elseWord .mark
  | matchWord : OfWord .matchWord .mark

/-- What rules make of the text that they match. -/
inductive OfText (text : String) (span : Span) : Rule → Piece → Prop where
  | fieldName : OfText text span .fieldName (.name text)
  | identifier : OfText text span .identifier (.name text)
  | rawInner : OfText text span .rawInner (.name text)
  | bool : OfText text span .boolLiteral (.term (.literal (.bool (text == "true"))))
  | number : OfText text span .number (.term (.number span text))
  | string : OfText text span .string (.quoted span text)

/-- What the rules for sources, statements and their targets make of the parts inside. -/
inductive OfStatement (span : Span) (line : Nat) : Rule → List Piece → Piece → Prop where
  | mapping {parts : List Piece} {found : List Sentence}
    (read : parts.mapM sentence? = some found) :
    OfStatement span line .mapping parts (.mapping found)
  | binding {part : Piece} {name : Segment} (named : part.segment? = some name) (body : Term) :
    OfStatement span line .letStatement [part, .term body] (.sentence ⟨line, .variable name, body⟩)
  | allMetadata (body : Term) :
    OfStatement span line .metaStatement [.term body] (.sentence ⟨line, .metadata none, body⟩)
  | metadata {part : Piece} {key : Segment} (named : part.segment? = some key) (body : Term) :
    OfStatement span line .metaStatement [part, .term body]
      (.sentence ⟨line, .metadata (some key), body⟩)
  | assign (place : Place) (body : Term) :
    OfStatement span line .assignStatement [.place place, .term body]
      (.sentence ⟨line, place, body⟩)
  | fromRoot {parts : List Piece} {path : List Segment}
    (read : parts.mapM segment? = some path) :
    OfStatement span line .assignTarget (.rootWord :: parts) (.place (.root path))
  | input (parts : List Piece) :
    OfStatement span line .assignTarget (.currentWord :: parts) (.place (.input span))
  | path {parts : List Piece} {path : List Segment} (read : parts.mapM segment? = some path) :
    OfStatement span line .assignTarget parts (.place (.root path))
  | head (part : Piece) : OfStatement span line .targetHead [part] part

/-- What the rules for operands, calls and literals with parts make of the parts inside. -/
inductive OfOperand (span : Span) : Rule → List Piece → Piece → Prop where
  | expr {parts : List Piece} {found : Term} (read : chain? parts = some found) :
    OfOperand span .expr parts (.term (.nested span found))
  | query (found : Term) : OfOperand span .query [.term found] (.term found)
  | paren (found : Term) : OfOperand span .paren [.term found] (.term found)
  | method (name : String) (given : List (Option String × Term)) :
    OfOperand span .methodCall [.name name, .arguments given] (.tail (.method span name given))
  | field {part : Piece} {segment : Segment} (named : part.segment? = some segment) :
    OfOperand span .fieldAccess [part] (.tail (.field segment))
  | call (name : String) (given : List (Option String × Term)) :
    OfOperand span .functionCall [.name name, .arguments given] (.term (.call span name given))
  | arguments {parts : List Piece} {found : List (Option String × Term)}
    (read : parts.mapM argument? = some found) :
    OfOperand span .callArguments parts (.arguments found)
  | named (name : String) (body : Term) :
    OfOperand span .namedArgument [.name name, .term body] (.named name body)
  | lambda (name : String) (body : Term) :
    OfOperand span .lambda [.name name, .term body] (.term (.lambda name body))
  | reference (name : String) : OfOperand span .variable [.name name] (.term (.variable name))
  | allMetadata : OfOperand span .metadata [] (.term (.metadata none))
  | metadata {part : Piece} {key : Segment} (named : part.segment? = some key) :
    OfOperand span .metadata [part] (.term (.metadata (some key)))
  | barePath (name : String) : OfOperand span .barePath [.name name] (.term (.name name))
  | rawString (inner : String) :
    OfOperand span .rawString [.name inner] (.term (.literal (.string inner)))
  | array {parts : List Piece} {items : List Term} (read : parts.mapM term? = some items) :
    OfOperand span .array parts (.term (.array items))
  | object {parts : List Piece} {entries : List (Span × Term × Term)}
    (read : parts.mapM entry? = some entries) :
    OfOperand span .object parts (.term (.object entries))
  | entry (key value : Term) :
    OfOperand span .objectEntry [.term key, .term value] (.entry span key value)

/-- What the rules for conditions and matches make of the parts inside. -/
inductive OfChoice : Rule → List Piece → Piece → Prop where
  | branches {parts : List Piece} {tests : List (Term × Term)} {otherwise : Option Term}
    (read : branches? parts = some (tests, otherwise)) :
    OfChoice .ifExpr parts (.term (.branches tests otherwise))
  | ifBranch (condition body : Term) :
    OfChoice .ifBranch [.term condition, .term body] (.branch condition body)
  | elseIf (condition body : Term) :
    OfChoice .elseIf [.term condition, .term body] (.branch condition body)
  | elseBlock (body : Term) : OfChoice .elseBlock [.term body] (.otherwise body)
  | cases (subject : Term) {parts : List Piece} {rules : List (Option Term × Term)}
    (read : parts.mapM case? = some rules) :
    OfChoice .matchExpr (.term subject :: parts) (.term (.cases (some subject) rules))
  | casesAlone {parts : List Piece} {rules : List (Option Term × Term)}
    (read : parts.mapM case? = some rules) :
    OfChoice .matchExpr parts (.term (.cases none rules))
  | always (body : Term) : OfChoice .matchCase [.wildcard, .term body] (.case none body)
  | case (test body : Term) :
    OfChoice .matchCase [.term test, .term body] (.case (some test) body)

/-- What rules make: words, something of their text, or something of the parts inside that say
something. -/
inductive Made (text : String) (span : Span) (line : Nat) : Rule → List Piece → Piece → Prop where
  | word {rule : Rule} {parts : List Piece} {piece : Piece} (word : OfWord rule piece) :
    Made text span line rule parts piece
  | text {rule : Rule} {parts : List Piece} {piece : Piece}
    (written : OfText text span rule piece) : Made text span line rule parts piece
  | statement {rule : Rule} {parts : List Piece} {piece : Piece}
    (made : OfStatement span line rule parts piece) : Made text span line rule parts piece
  | operand {rule : Rule} {parts : List Piece} {piece : Piece}
    (made : OfOperand span rule parts piece) : Made text span line rule parts piece
  | choice {rule : Rule} {parts : List Piece} {piece : Piece}
    (made : OfChoice rule parts piece) : Made text span line rule parts piece

variable {rule : Rule} {text : String} {span : Span} {line : Nat} {inside parts : List Piece}
  {piece : Piece}

/-- A rule that makes a part makes it in one of these ways. -/
theorem made_of_ofRule? (given : ofRule? rule text span line inside = some piece) :
    Made text span line rule (inside.filter speaks) piece := by
  unfold ofRule? at given
  generalize inside.filter speaks = parts at given ⊢
  split at given
  -- A part comes out as it is, or is put together from parts that have to be read first. Each rule
  -- has its own way.
  all_goals first
    | cases given
      first
        | exact .word (by constructor)
        | exact .text (by constructor)
        | exact .statement (by constructor)
        | exact .operand (by constructor)
        | exact .choice (by constructor)
    | obtain ⟨found, read, rfl⟩ := Option.map_eq_some_iff.1 given
      first
        | exact .statement (by constructor; assumption)
        | exact .operand (by constructor; assumption)
        | exact .choice (by constructor; assumption)
    | exact nomatch given

/-- A way to make a statement or a part of one is one in which its rule makes it. -/
theorem OfStatement.ofRule? (made : OfStatement span line rule (inside.filter speaks) piece) :
    ofRule? rule text span line inside = some piece := by
  unfold Piece.ofRule?
  generalize inside.filter speaks = parts at made ⊢
  cases made with
  | mapping read => exact Option.map_eq_some_iff.2 ⟨_, read, rfl⟩
  | binding named => exact Option.map_eq_some_iff.2 ⟨_, named, rfl⟩
  | @metadata part key named =>
    -- A key is a name or a string, and so no term on its own.
    cases part with
    | name | quoted => exact Option.map_eq_some_iff.2 ⟨_, named, rfl⟩
    | _ => cases named
  | fromRoot read => exact Option.map_eq_some_iff.2 ⟨_, read, rfl⟩
  | path read =>
    cases parts with
    | nil => exact Option.map_eq_some_iff.2 ⟨_, read, rfl⟩
    | cons first rest =>
      have begin := read
      rw [List.mapM_cons] at begin
      -- A path that is read begins with no word for the document or the input.
      cases first with
      | name | quoted => exact Option.map_eq_some_iff.2 ⟨_, read, rfl⟩
      | _ => cases begin
  | allMetadata | assign | input | head => rfl

/-- A way to make an operand, a call or a literal is one in which its rule makes it. -/
theorem OfOperand.ofRule? (made : OfOperand span rule (inside.filter speaks) piece) :
    ofRule? rule text span line inside = some piece := by
  -- The parts that speak are the only ones that the rule looks at.
  unfold Piece.ofRule?
  generalize inside.filter speaks = parts at made ⊢
  cases made with
  | expr read => exact Option.map_eq_some_iff.2 ⟨_, read, rfl⟩
  | field named => exact Option.map_eq_some_iff.2 ⟨_, named, rfl⟩
  | arguments read => exact Option.map_eq_some_iff.2 ⟨_, read, rfl⟩
  | metadata named => exact Option.map_eq_some_iff.2 ⟨_, named, rfl⟩
  | array read => exact Option.map_eq_some_iff.2 ⟨_, read, rfl⟩
  | object read => exact Option.map_eq_some_iff.2 ⟨_, read, rfl⟩
  | _ => rfl

/-- A way to make a condition or a match is one in which its rule makes it. -/
theorem OfChoice.ofRule? (made : OfChoice rule (inside.filter speaks) piece) :
    ofRule? rule text span line inside = some piece := by
  unfold Piece.ofRule?
  generalize inside.filter speaks = parts at made ⊢
  cases made with
  | branches read => exact Option.map_eq_some_iff.2 ⟨_, read, rfl⟩
  | cases subject read => exact Option.map_eq_some_iff.2 ⟨_, read, rfl⟩
  | casesAlone read =>
    cases parts with
    | nil => exact Option.map_eq_some_iff.2 ⟨_, read, rfl⟩
    | cons first rest =>
      have begin := read
      rw [List.mapM_cons] at begin
      -- Cases that are read begin with no term, which would be a subject.
      cases first with
      | case => exact Option.map_eq_some_iff.2 ⟨_, read, rfl⟩
      | _ => cases begin
  | _ => rfl

/-- A rule makes a part exactly if there is a way to make it. -/
theorem ofRule?_eq_some_iff : ofRule? rule text span line inside = some piece ↔
    Made text span line rule (inside.filter speaks) piece := by
  -- One direction inverts the rule, and the other computes it for each way.
  constructor
  · exact made_of_ofRule?
  · intro made
    cases made with
    | word word => cases word <;> rfl
    | text written => cases written <;> rfl
    | statement made => exact made.ofRule?
    | operand made => exact made.ofRule?
    | choice made => exact made.ofRule?

end Reshape.Grammar.Piece
