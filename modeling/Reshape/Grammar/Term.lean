import Reshape.Expr.Operator
import Reshape.Grammar.Match

/-!
Terms: the expressions of a source before names are looked up. A term is put together from the tree
of the rules that matched, from the leaves up; signs are arranged by how tightly they bind, equal
ones from the left.
-/

namespace Reshape

/-- A name in a path, as it is written. -/
inductive Segment where
  | plain (name : String)
  /-- A name in quotes, the quotes included. -/
  | quoted (span : Span) (text : String)
  deriving DecidableEq, Repr

/-- An expression as it is written. -/
inductive Term where
  /-- A complete expression, which counts as one level of nesting. -/
  | nested (span : Span) (inner : Term)
  | literal (value : Value)
  | number (span : Span) (text : String)
  | quoted (span : Span) (text : String)
  | array (items : List Term)
  /-- Keys and values, each pair with its span. -/
  | object (entries : List (Span × Term × Term))
  | branches (branches : List (Term × Term)) (otherwise : Option Term)
  /-- Cases and results; a case without a term applies always. -/
  | cases (subject : Option Term) (cases : List (Option Term × Term))
  | call (span : Span) (name : String) (arguments : List (Option String × Term))
  | variable (name : String)
  | metadata (key : Option Segment)
  | root
  | current
  | name (name : String)
  | signed (sign : PrefixSign) (operand : Term)
  | binary (sign : Sign) (left right : Term)
  | field (target : Term) (segment : Segment)
  | method (span : Span) (target : Term) (name : String) (arguments : List (Option String × Term))
  | lambda (name : String) (body : Term)
  deriving Repr

/-- What a statement assigns to, as it is written. -/
inductive Place where
  | variable (name : Segment)
  | metadata (key : Option Segment)
  | root (path : List Segment)
  /-- The input, which cannot be assigned. -/
  | input (span : Span)
  deriving Repr

/-- A statement as it is written. -/
structure Sentence where
  line : Nat
  place : Place
  term : Term
  deriving Repr

namespace Grammar

/-- What follows an operand. -/
inductive Tail where
  | field (segment : Segment)
  | method (span : Span) (name : String) (arguments : List (Option String × Term))
  deriving Repr

/-- The term that an operand and what follows it make. -/
def Tail.apply (target : Term) : Tail → Term
  | .field segment => .field target segment
  | .method span name arguments => .method span target name arguments

/-- A part of a source, put together from the parts inside it. -/
inductive Piece where
  | term (term : Term)
  /-- A quoted string, which is a term or a name in a path. -/
  | quoted (span : Span) (text : String)
  | name (name : String)
  | sign (sign : Sign)
  | prefixSign (sign : PrefixSign)
  | tail (tail : Tail)
  | arguments (arguments : List (Option String × Term))
  | named (name : String) (term : Term)
  | branch (condition body : Term)
  | otherwise (body : Term)
  | wildcard
  | case (case : Option Term) (body : Term)
  | entry (span : Span) (key value : Term)
  | place (place : Place)
  | rootWord
  | currentWord
  | sentence (sentence : Sentence)
  | mapping (sentences : List Sentence)
  /-- A word or sign that says nothing by itself. -/
  | mark
  /-- Parts that make nothing. -/
  | malformed
  deriving Repr

namespace Piece

/-- The term that a part is. -/
def term? : Piece → Option Term
  | .term found => some found
  | .quoted span text => some (.quoted span text)
  | _ => none

/-- The name in a path that a part is. -/
def segment? : Piece → Option Segment
  | .name text => some (.plain text)
  | .quoted span text => some (.quoted span text)
  | _ => none

/-- Puts a further operand after a term: a sign that binds more tightly than the one before it takes
its right operand. -/
def extend (next : Sign) (operand : Term) : Term → Term
  | .binary before left right =>
    if next.precedence ≤ before.precedence then .binary next (.binary before left right) operand
    else .binary before left (extend next operand right)
  | whole => .binary next whole operand

/-- An expression of which a beginning is read. -/
structure Chain where
  /-- What stands before the last sign between operands, and that sign. -/
  before : Option (Term × Sign)
  /-- The signs before the last operand, the nearest first. -/
  signs : List PrefixSign
  /-- The last operand. -/
  operand : Option Term

/-- The term that a chain makes. -/
def Chain.term? (chain : Chain) : Option Term :=
  chain.operand.map fun operand =>
    let operand := chain.signs.foldl (fun operand before => .signed before operand) operand
    match chain.before with
    | some (left, next) => extend next operand left
    | none => operand

/-- The chain with one more part. -/
def Chain.push (chain : Chain) : Piece → Option Chain
  | .prefixSign before => some { chain with signs := before :: chain.signs }
  | .sign next => chain.term?.map fun left => ⟨some (left, next), [], none⟩
  | .tail after =>
    chain.operand.map fun operand => { chain with operand := some (after.apply operand) }
  | piece => piece.term?.map fun operand => { chain with operand := some operand }

/-- The term of a row of operands and signs. -/
def chain? (pieces : List Piece) : Option Term := do
  let chain ← pieces.foldlM Chain.push ⟨none, [], none⟩
  chain.term?

/-- An argument of a call. -/
def argument? : Piece → Option (Option String × Term)
  | .named key value => some (some key, value)
  | piece => piece.term?.map (none, ·)

/-- An entry of an object. -/
def entry? : Piece → Option (Span × Term × Term)
  | .entry span key value => some (span, key, value)
  | _ => none

/-- A case of a match. -/
def case? : Piece → Option (Option Term × Term)
  | .case test body => some (test, body)
  | _ => none

/-- The branches of a condition and what applies otherwise. -/
def branches? : List Piece → Option (List (Term × Term) × Option Term)
  | [] => some ([], none)
  | [.otherwise body] => some ([], some body)
  | .branch condition body :: rest =>
    (branches? rest).map fun (branches, last) => ((condition, body) :: branches, last)
  | _ => none

/-- A statement. -/
def sentence? : Piece → Option Sentence
  | .sentence found => some found
  | _ => none

/-- Whether a part says something by itself. -/
def speaks : Piece → Bool
  | .mark => false
  | _ => true

/-- The part that a rule makes of the parts inside it, if it makes one. -/
def ofRule? (rule : Rule) (text : String) (span : Span) (line : Nat) (inside : List Piece) :
    Option Piece :=
  match rule, inside.filter speaks with
  | .mapping, pieces => (pieces.mapM sentence?).map .mapping
  | .query, [.term t] => some (.term t)
  | .letStatement, [piece, .term t] =>
    piece.segment?.map fun target => .sentence ⟨line, .variable target, t⟩
  | .metaStatement, [.term t] => some (.sentence ⟨line, .metadata none, t⟩)
  | .metaStatement, [piece, .term t] =>
    piece.segment?.map fun key => .sentence ⟨line, .metadata (some key), t⟩
  | .assignStatement, [.place target, .term t] => some (.sentence ⟨line, target, t⟩)
  | .assignTarget, .rootWord :: path => (path.mapM segment?).map fun path => .place (.root path)
  | .assignTarget, .currentWord :: _ => some (.place (.input span))
  | .assignTarget, path => (path.mapM segment?).map fun path => .place (.root path)
  | .targetHead, [piece] => some piece
  | .expr, pieces => (chain? pieces).map fun t => .term (.nested span t)
  | .orSign, _ => some (.sign (.operator .or))
  | .andSign, _ => some (.sign (.operator .and))
  | .coalesceSign, _ => some (.sign .coalesce)
  | .equalSign, _ => some (.sign (.operator .equal))
  | .unequalSign, _ => some (.sign (.operator .unequal))
  | .greaterEqualSign, _ => some (.sign (.operator .greaterEqual))
  | .lessEqualSign, _ => some (.sign (.operator .lessEqual))
  | .greaterSign, _ => some (.sign (.operator .greater))
  | .lessSign, _ => some (.sign (.operator .less))
  | .addSign, _ => some (.sign (.operator .add))
  | .subtractSign, _ => some (.sign (.operator .subtract))
  | .multiplySign, _ => some (.sign (.operator .multiply))
  | .divideSign, _ => some (.sign (.operator .divide))
  | .remainderSign, _ => some (.sign (.operator .remainder))
  | .notSign, _ => some (.prefixSign .not)
  | .negateSign, _ => some (.prefixSign .negate)
  | .methodCall, [.name n, .arguments given] =>
    some (.tail (.method span n given))
  | .fieldAccess, [piece] => piece.segment?.map fun segment => .tail (.field segment)
  | .paren, [.term t] => some (.term t)
  | .functionCall, [.name n, .arguments given] =>
    some (.term (.call span n given))
  | .callArguments, pieces => (pieces.mapM argument?).map .arguments
  | .namedArgument, [.name n, .term t] => some (.named n t)
  | .lambda, [.name n, .term t] => some (.term (.lambda n t))
  | .ifExpr, pieces =>
    (branches? pieces).map fun (branches, last) => .term (.branches branches last)
  | .ifBranch, [.term condition, .term body] | .elseIf, [.term condition, .term body] =>
    some (.branch condition body)
  | .elseBlock, [.term body] => some (.otherwise body)
  | .matchExpr, .term subject :: cases =>
    (cases.mapM case?).map fun cases => .term (.cases (some subject) cases)
  | .matchExpr, cases => (cases.mapM case?).map fun cases => .term (.cases none cases)
  | .matchCase, [.wildcard, .term body] => some (.case none body)
  | .matchCase, [.term test, .term body] => some (.case (some test) body)
  | .wildcard, _ => some .wildcard
  | .variable, [.name n] => some (.term (.variable n))
  | .metadata, [] => some (.term (.metadata none))
  | .metadata, [piece] => piece.segment?.map fun key => .term (.metadata (some key))
  | .rootReference, _ => some (.term .root)
  | .thisReference, _ => some (.term .current)
  | .barePath, [.name n] => some (.term (.name n))
  | .fieldName, _ | .identifier, _ => some (.name text)
  | .nullLiteral, _ => some (.term (.literal .null))
  | .boolLiteral, _ => some (.term (.literal (.bool (text == "true"))))
  | .number, _ => some (.term (.number span text))
  | .string, _ => some (.quoted span text)
  | .rawString, [.name inner] => some (.term (.literal (.string inner)))
  | .rawInner, _ => some (.name text)
  | .array, pieces => (pieces.mapM term?).map fun items => .term (.array items)
  | .object, pieces => (pieces.mapM entry?).map fun entries => .term (.object entries)
  | .objectEntry, [.term key, .term value] => some (.entry span key value)
  | .rootWord, _ => some .rootWord
  | .thisWord, _ => some .currentWord
  | .endOfInput, _ | .stringInner, _ | .letWord, _ | .metaWord, _ | .ifWord, _ | .elseWord, _
  | .matchWord, _ => some .mark
  | _, _ => none

mutual

/-- The part that a tree of rules makes. -/
def ofNode : Node → Piece
  | .node rule text span line children =>
    (ofRule? rule text span line (ofNodes children)).getD .malformed

/-- The parts that trees of rules make. -/
def ofNodes : List Node → List Piece
  | [] => []
  | node :: rest => ofNode node :: ofNodes rest

end

end Piece

/-- The fault of a source that no statement or expression can be made of. -/
def unreadable (span : Span) : Diagnostic :=
  ⟨"malformed source", "here", none, span⟩

/-- The part that a source is under a rule, or the fault that keeps it from being one. -/
def read (rule : Rule) (source : String) : Except Diagnostic Piece :=
  let whole : Span := ⟨0, source.utf8ByteSize⟩
  match matchSource rule source.toList with
  | .matched _ nodes _ =>
    match nodes with
    | [node] => .ok (.ofNode node)
    | _ => .error (unreadable whole)
  | .failed attempts => .error (attempts.diagnostic source.utf8ByteSize)
  | .exhausted => .error (unreadable whole)

end Grammar

/-- The statements of a source. -/
def Sentence.read (source : String) : Except Diagnostic (List Sentence) := do
  match ← Grammar.read .mapping source with
  | .mapping sentences => return sentences
  | _ => throw (Grammar.unreadable ⟨0, source.utf8ByteSize⟩)

/-- The expression of a source. -/
def Term.read (source : String) : Except Diagnostic Term := do
  match ← Grammar.read .query source with
  | .term term => return term
  | _ => throw (Grammar.unreadable ⟨0, source.utf8ByteSize⟩)

end Reshape
