/-!
The grammar of the mapping language, as data: the rules that a tree of a source can hold, in the order
in which messages list them, and their patterns. Every rule has a pattern, and says how blanks and
inner rules are treated in it. Choices are ordered, and repetition takes all it can.
-/

namespace Reshape.Grammar

/-- A named rule of the grammar. -/
inductive Rule where
  | endOfInput
  | mapping
  | query
  | letStatement
  | metaStatement
  | assignStatement
  | assignTarget
  | targetHead
  | expr
  | orSign
  | andSign
  | coalesceSign
  | equalSign
  | unequalSign
  | greaterEqualSign
  | lessEqualSign
  | greaterSign
  | lessSign
  | addSign
  | subtractSign
  | multiplySign
  | divideSign
  | remainderSign
  | notSign
  | negateSign
  | methodCall
  | fieldAccess
  | paren
  | functionCall
  | callArguments
  | namedArgument
  | lambda
  | ifExpr
  | ifBranch
  | elseIf
  | elseBlock
  | matchExpr
  | matchCase
  | wildcard
  | variable
  | metadata
  | rootReference
  | thisReference
  | barePath
  | fieldName
  | nullLiteral
  | boolLiteral
  | number
  | string
  | stringInner
  | rawString
  | rawInner
  | array
  | object
  | objectEntry
  | identifier
  | letWord
  | metaWord
  | rootWord
  | thisWord
  | ifWord
  | elseWord
  | matchWord
  deriving DecidableEq, Repr

namespace Rule

/-- What messages call the rule. -/
def phrase : Rule → String
  | .endOfInput => "end of input"
  | .mapping => "mapping"
  | .query => "query"
  | .letStatement | .metaStatement | .assignStatement | .assignTarget => "a statement"
  | .targetHead => "target head"
  | .expr | .paren => "an expression"
  | .orSign => "`||`"
  | .andSign => "`&&`"
  | .coalesceSign => "`|`"
  | .equalSign => "`==`"
  | .unequalSign => "`!=`"
  | .greaterEqualSign => "`>=`"
  | .lessEqualSign => "`<=`"
  | .greaterSign => "`>`"
  | .lessSign => "`<`"
  | .addSign => "`+`"
  | .subtractSign => "`-`"
  | .multiplySign => "`*`"
  | .divideSign => "`/`"
  | .remainderSign => "`%`"
  | .notSign => "op not"
  | .negateSign => "op neg"
  | .methodCall | .fieldAccess => "`.`"
  | .functionCall => "function call"
  | .callArguments => "`(`"
  | .namedArgument | .lambda => "an argument"
  | .ifExpr => "if expr"
  | .ifBranch => "if branch"
  | .elseIf => "else if"
  | .elseBlock => "else block"
  | .matchExpr => "match expr"
  | .matchCase => "a match case"
  | .wildcard => "wildcard"
  | .variable => "variable"
  | .metadata => "metadata"
  | .rootReference => "root ref"
  | .thisReference => "this ref"
  | .barePath => "bare path"
  | .fieldName | .identifier => "a name"
  | .nullLiteral => "null lit"
  | .boolLiteral => "bool lit"
  | .number => "a number"
  | .string | .rawString => "a string"
  | .stringInner => "string inner"
  | .rawInner => "raw inner"
  | .array => "array"
  | .object => "object"
  | .objectEntry => "an object entry"
  | .letWord => "kw let"
  | .metaWord => "kw meta"
  | .rootWord => "kw root"
  | .thisWord => "kw this"
  | .ifWord => "kw if"
  | .elseWord => "kw else"
  | .matchWord => "kw match"

end Rule

/-- A class of code points. -/
inductive CharClass where
  | any
  | digit
  | letter
  /-- A letter, a digit or an underscore. -/
  | nameChar
  deriving DecidableEq, Repr

/-- Whether a class holds a code point. -/
def CharClass.holds : CharClass → Char → Bool
  | .any, _ => true
  | .digit, c => c.isDigit
  | .letter, c => c.isAlpha
  | .nameChar, c => c.isAlphanum || c == '_'

/-- A pattern that a source is matched against. -/
inductive Pattern where
  /-- Nothing, at the end of the source only. -/
  | finish
  | char (kind : CharClass)
  | text (text : List Char)
  | rule (rule : Rule)
  /-- One pattern after the other, with blanks between them where they are free. -/
  | both (first second : Pattern)
  /-- The first pattern that matches. -/
  | either (first second : Pattern)
  | optional (inner : Pattern)
  /-- As often as possible, with blanks between where they are free. -/
  | many (inner : Pattern)
  /-- Nothing, if the pattern does not match here. -/
  | absent (inner : Pattern)
  deriving DecidableEq, Repr

instance : Append Pattern := ⟨.both⟩

instance : OrElse Pattern := ⟨fun first second => .either first (second ())⟩

/-- How blanks and inner rules are treated in a rule. -/
inductive Treatment where
  /-- Blanks are free where they are free around the rule. -/
  | inherited
  /-- Blanks are free. -/
  | loose
  /-- There are no blanks. -/
  | tight
  /-- There are no blanks, and the rule is a leaf. -/
  | leaf
  deriving DecidableEq, Repr

/-- How a rule is matched. -/
structure Definition where
  treatment : Treatment
  pattern : Pattern

namespace Pattern

/-- A text as it stands. -/
def word (text : String) : Pattern := .text text.toList

/-- Nothing; blanks after it are free where they are free. -/
def start : Pattern := .text []

/-- A word that ends where a name would go on. -/
def keyword (text : String) : Pattern := word text ++ .absent (.char .nameChar)

/-- One or more. -/
def oneOrMore (inner : Pattern) : Pattern := inner ++ .many inner

/-- One or more with commas between them, and perhaps one after them. -/
def listed (inner : Pattern) : Pattern :=
  .optional (inner ++ .many (word "," ++ inner) ++ .optional (word ","))

/-- The words that are no names. -/
def reserved : Pattern :=
  (word "let" <|> word "root" <|> word "this" <|> word "if" <|> word "else" <|> word "match" <|>
    word "null" <|> word "true" <|> word "false") ++ .absent (.char .nameChar)

/-- A segment of a path. -/
def pathSegment : Pattern := .rule .fieldName <|> .rule .string

/-- The sign of an assignment. -/
def assign : Pattern := word "=" ++ .absent (word "=" <|> word ">")

/-- A statement. -/
def statement : Pattern :=
  .rule .letStatement <|> .rule .metaStatement <|> .rule .assignStatement

/-- A sign between two operands. -/
def infixSign : Pattern :=
  .rule .orSign <|> .rule .andSign <|> .rule .coalesceSign <|> .rule .equalSign <|>
    .rule .unequalSign <|> .rule .greaterEqualSign <|> .rule .lessEqualSign <|>
    .rule .greaterSign <|> .rule .lessSign <|> .rule .addSign <|> .rule .subtractSign <|>
    .rule .multiplySign <|> .rule .divideSign <|> .rule .remainderSign

/-- A sign before an operand. -/
def prefixSign : Pattern := .rule .notSign <|> .rule .negateSign

/-- What follows an operand. -/
def postfixTail : Pattern := .rule .methodCall <|> .rule .fieldAccess

/-- An operand without signs and tails. -/
def primary : Pattern :=
  .rule .nullLiteral <|> .rule .boolLiteral <|> .rule .number <|> .rule .rawString <|>
    .rule .string <|> .rule .array <|> .rule .object <|> .rule .ifExpr <|> .rule .matchExpr <|>
    .rule .functionCall <|> .rule .variable <|> .rule .metadata <|> .rule .rootReference <|>
    .rule .thisReference <|> .rule .barePath <|> .rule .paren

/-- An operand with its signs and tails. -/
def operand : Pattern := .many prefixSign ++ primary ++ .many postfixTail

/-- An argument of a call. -/
def argument : Pattern := .rule .namedArgument <|> .rule .lambda <|> .rule .expr

/-- An expression in braces. -/
def block : Pattern := word "\x7b" ++ .rule .expr ++ word "\x7d"

/-- Any code point, unless a pattern matches here. -/
def anyBut (stop : Pattern) : Pattern := .absent stop ++ .char .any

end Pattern

open Pattern in
/-- The definition of a rule. -/
def Rule.definition : Rule → Definition
  | .endOfInput => ⟨.inherited, .finish⟩
  | .mapping => ⟨.inherited, start ++ .many statement ++ .rule .endOfInput⟩
  | .query => ⟨.inherited, start ++ .rule .expr ++ .rule .endOfInput⟩
  | .letStatement =>
    ⟨.inherited, .rule .letWord ++ (.rule .identifier <|> .rule .string) ++ assign ++ .rule .expr⟩
  | .metaStatement =>
    ⟨.inherited, .rule .metaWord ++ .optional pathSegment ++ assign ++ .rule .expr⟩
  | .assignStatement => ⟨.inherited, .rule .assignTarget ++ assign ++ .rule .expr⟩
  | .assignTarget => ⟨.tight, .rule .targetHead ++ .many (word "." ++ pathSegment)⟩
  | .targetHead => ⟨.inherited, .rule .rootWord <|> .rule .thisWord <|> pathSegment⟩
  | .expr => ⟨.inherited, operand ++ .many (infixSign ++ .many prefixSign ++ primary ++
      .many postfixTail)⟩
  | .orSign => ⟨.inherited, word "||"⟩
  | .andSign => ⟨.inherited, word "&&"⟩
  | .coalesceSign => ⟨.inherited, word "|"⟩
  | .equalSign => ⟨.inherited, word "=="⟩
  | .unequalSign => ⟨.inherited, word "!="⟩
  | .greaterEqualSign => ⟨.inherited, word ">="⟩
  | .lessEqualSign => ⟨.inherited, word "<="⟩
  | .greaterSign => ⟨.inherited, word ">"⟩
  | .lessSign => ⟨.inherited, word "<"⟩
  | .addSign => ⟨.inherited, word "+"⟩
  | .subtractSign => ⟨.inherited, word "-" ++ .absent (word ">")⟩
  | .multiplySign => ⟨.inherited, word "*"⟩
  | .divideSign => ⟨.inherited, word "/"⟩
  | .remainderSign => ⟨.inherited, word "%"⟩
  | .notSign => ⟨.inherited, word "!" ++ .absent (word "=")⟩
  | .negateSign => ⟨.inherited, word "-"⟩
  | .methodCall => ⟨.tight, word "." ++ .rule .fieldName ++ .rule .callArguments⟩
  | .fieldAccess => ⟨.tight, word "." ++ pathSegment⟩
  | .paren => ⟨.inherited, word "(" ++ .rule .expr ++ word ")"⟩
  | .functionCall => ⟨.tight, .rule .identifier ++ .rule .callArguments⟩
  | .callArguments => ⟨.loose, word "(" ++ listed argument ++ word ")"⟩
  | .namedArgument =>
    ⟨.inherited, .rule .identifier ++ word ":" ++ (.rule .lambda <|> .rule .expr)⟩
  | .lambda => ⟨.inherited, .rule .identifier ++ word "->" ++ .rule .expr⟩
  | .ifExpr =>
    ⟨.inherited, .rule .ifBranch ++ .many (.rule .elseIf) ++ .optional (.rule .elseBlock)⟩
  | .ifBranch => ⟨.inherited, .rule .ifWord ++ .rule .expr ++ block⟩
  | .elseIf => ⟨.inherited, .rule .elseWord ++ .rule .ifWord ++ .rule .expr ++ block⟩
  | .elseBlock => ⟨.inherited, .rule .elseWord ++ block⟩
  | .matchExpr =>
    ⟨.inherited, .rule .matchWord ++ .optional (.rule .expr) ++ word "\x7b" ++
      .many (.rule .matchCase ++ .optional (word ",")) ++ word "\x7d"⟩
  | .matchCase =>
    ⟨.inherited, (.rule .wildcard <|> .rule .expr) ++ word "=>" ++ .rule .expr⟩
  | .wildcard => ⟨.leaf, keyword "_"⟩
  | .variable => ⟨.tight, word "$" ++ .rule .identifier⟩
  | .metadata => ⟨.tight, word "@" ++ .optional pathSegment⟩
  | .rootReference => ⟨.inherited, .rule .rootWord⟩
  | .thisReference => ⟨.inherited, .rule .thisWord⟩
  | .barePath => ⟨.inherited, .rule .identifier⟩
  | .fieldName => ⟨.leaf, oneOrMore (.char .nameChar)⟩
  | .nullLiteral => ⟨.leaf, keyword "null"⟩
  | .boolLiteral => ⟨.leaf, (word "true" <|> word "false") ++ .absent (.char .nameChar)⟩
  | .number =>
    ⟨.leaf, oneOrMore (.char .digit) ++
      .optional (word "." ++ oneOrMore (.char .digit)) ++
      .optional ((word "e" <|> word "E") ++ .optional (word "+" <|> word "-") ++
        oneOrMore (.char .digit))⟩
  | .string => ⟨.tight, word "\"" ++ .rule .stringInner ++ word "\""⟩
  | .stringInner =>
    ⟨.leaf, .many (anyBut (word "\"" <|> word "\\") <|> word "\\" ++ .char .any)⟩
  | .rawString => ⟨.tight, word "\"\"\"" ++ .rule .rawInner ++ word "\"\"\""⟩
  | .rawInner => ⟨.leaf, .many (anyBut (word "\"\"\""))⟩
  | .array => ⟨.inherited, word "[" ++ listed (.rule .expr) ++ word "]"⟩
  | .object => ⟨.inherited, word "\x7b" ++ listed (.rule .objectEntry) ++ word "\x7d"⟩
  | .objectEntry => ⟨.inherited, .rule .expr ++ word ":" ++ .rule .expr⟩
  | .identifier =>
    ⟨.leaf, .absent reserved ++ (.char .letter <|> word "_") ++ .many (.char .nameChar)⟩
  | .letWord => ⟨.leaf, keyword "let"⟩
  | .metaWord => ⟨.leaf, keyword "meta"⟩
  | .rootWord => ⟨.leaf, keyword "root"⟩
  | .thisWord => ⟨.leaf, keyword "this"⟩
  | .ifWord => ⟨.leaf, keyword "if"⟩
  | .elseWord => ⟨.leaf, keyword "else"⟩
  | .matchWord => ⟨.leaf, keyword "match"⟩

end Reshape.Grammar
