import Reshape.Proofs.Expr.Data

/-!
Operator trees and their texts: with only the parentheses that the levels of the operators require,
and with all of them. Both texts of a tree are compiled to the same expression.
-/

namespace Reshape

open Grammar

/-- A name that can stand alone. -/
structure Identifier where
  text : String
  valid : isIdentifier text = true

/-- A name in a path. -/
structure FieldName where
  text : String
  valid : isFieldName text = true

/-- What a field is called by: a name, or a text in quotes. -/
inductive Key where
  | plain (name : FieldName)
  | quoted (inner : List Char) (quotable : IsQuotable inner)

mutual

/-- A tree of operators over names, strings and calls. -/
inductive OperatorTree where
  | name (name : Identifier)
  | current
  | root
  | variable (name : Identifier)
  | quoted (inner : List Char) (quotable : IsQuotable inner)
  | raw (inner : List Char) (raw : IsRaw inner)
  | call (name : Identifier) (arguments : List TreeArgument)
  | signed (sign : PrefixSign) (operand : OperatorTree)
  | binary (sign : Sign) (left right : OperatorTree)
  | field (target : OperatorTree) (key : Key)
  | method (target : OperatorTree) (name : FieldName) (arguments : List TreeArgument)

/-- An argument of a call. -/
inductive TreeArgument where
  /-- A tree, which may be the body of a lambda, perhaps under a name. -/
  | tree (key lambda : Option Identifier) (body : OperatorTree)
  /-- Any other text that spells an argument, such as data. -/
  | verbatim (text : List Char) (argument : Option String × Term)
    (spelled : SpelledArgument text argument)

end

/-- Data, written compactly, as an argument. -/
def TreeArgument.data {depth : Nat} {value : Value} (data : Value.Data depth value) :
    TreeArgument :=
  .verbatim value.compact.toList (none, .literal value.normal) data.spelledArgument

/-- The text of a key. -/
def Key.text : Key → List Char
  | .plain name => name.text.toList
  | .quoted inner _ => '"' :: inner ++ ['"']

/-- The segment that a key is. -/
def Key.segment : Key → Segment
  | .plain name => .plain name.text
  | .quoted inner _ => .quoted ⟨0, 0⟩ (String.ofList ('"' :: inner ++ ['"']))

namespace OperatorTree

/-- The level on which a tree stands without parentheses: that of its outermost operator. The signs
between operands are on the levels up to 6, and leaves are above all operators. -/
def level : OperatorTree → Nat
  | .binary sign _ _ => sign.precedence
  | .signed _ _ => 7
  | .field _ _ | .method _ _ _ => 8
  | _ => 9

/-- A text that stands on some level where another one is required. -/
def enclosed (required level : Nat) (text : List Char) : List Char :=
  if level < required then '(' :: (text ++ [')']) else text

mutual

/-- The text of a tree without parentheses around it. The levels that are required of its parts are
raised in some way. -/
def bare (raise : Nat → Nat) : OperatorTree → List Char
  | .name called => called.text.toList
  | .current => "this".toList
  | .root => "root".toList
  | .variable called => '$' :: called.text.toList
  | .quoted inner _ => '"' :: inner ++ ['"']
  | .raw inner _ => '"' :: '"' :: '"' :: (inner ++ ['"', '"', '"'])
  | .call called arguments => called.text.toList ++ argumentsText (argumentTexts raise arguments)
  | .signed sign operand =>
    sign.symbol.toList ++ enclosed (raise 7) operand.level (bare raise operand)
  -- Signs on one level are put together from the left, so the right operand has to stand above it.
  | .binary sign left right =>
    enclosed (raise sign.precedence) left.level (bare raise left) ++
      ' ' :: (sign.symbol.toList ++
        ' ' :: enclosed (raise (sign.precedence + 1)) right.level (bare raise right))
  | .field target key => enclosed (raise 8) target.level (bare raise target) ++ '.' :: key.text
  | .method target called arguments =>
    enclosed (raise 8) target.level (bare raise target) ++
      '.' :: (called.text.toList ++ argumentsText (argumentTexts raise arguments))

/-- The text of an argument. -/
def argumentText (raise : Nat → Nat) : TreeArgument → List Char
  | .tree key lambda body =>
    let body := enclosed (raise 0) body.level (bare raise body)
    let body := match lambda with
      | some bound => bound.text.toList ++ (" -> ".toList ++ body)
      | none => body
    match key with
    | some key => key.text.toList ++ (": ".toList ++ body)
    | none => body
  | .verbatim text _ _ => text

/-- The texts of arguments. -/
def argumentTexts (raise : Nat → Nat) : List TreeArgument → List (List Char)
  | [] => []
  | argument :: rest => argumentText raise argument :: argumentTexts raise rest

end

/-- The text of a tree, the levels that are required of its parts being raised in some way. -/
def text (raise : Nat → Nat) (tree : OperatorTree) : String :=
  String.ofList (enclosed (raise 0) tree.level (tree.bare raise))

/-- The text of a tree with parentheses around every operator with its operands. -/
def full : OperatorTree → String :=
  text fun _ => 9

mutual

/-- The term that a tree is, wherever it is written. -/
def term : OperatorTree → Term
  | .name called => .name called.text
  | .current => .current
  | .root => .root
  | .variable called => .variable called.text
  | .quoted inner _ => .quoted ⟨0, 0⟩ (String.ofList ('"' :: inner ++ ['"']))
  | .raw inner _ => .literal (.string (String.ofList inner))
  | .call called arguments => .call ⟨0, 0⟩ called.text (argumentTerms arguments)
  | .signed sign operand => .signed sign (term operand)
  | .binary sign left right => .binary sign (term left) (term right)
  | .field target key => .field (term target) key.segment
  | .method target called arguments =>
    .method ⟨0, 0⟩ (term target) called.text (argumentTerms arguments)

/-- The name and the term of an argument. -/
def argumentTerm : TreeArgument → Option String × Term
  | .tree key lambda body =>
    (key.map Identifier.text, match lambda with
      | some bound => .lambda bound.text (term body)
      | none => term body)
  | .verbatim _ argument _ => argument

/-- The names and the terms of arguments. -/
def argumentTerms : List TreeArgument → List (Option String × Term)
  | [] => []
  | argument :: rest => argumentTerm argument :: argumentTerms rest

end

/-- The texts of arguments are those of each. -/
theorem argumentTexts_eq (raise : Nat → Nat) (arguments : List TreeArgument) :
    argumentTexts raise arguments = arguments.map (argumentText raise) := by
  induction arguments with
  | nil => simp [argumentTexts]
  | cons argument rest ih => simp [argumentTexts, ih]

/-- The terms of arguments are those of each. -/
theorem argumentTerms_eq (arguments : List TreeArgument) :
    argumentTerms arguments = arguments.map argumentTerm := by
  induction arguments with
  | nil => simp [argumentTerms]
  | cons argument rest ih => simp [argumentTerms, ih]

/-- A text stands where a level is required, in parentheses if it has to. -/
theorem spelled_enclosed {level required raised : Nat} {text : List Char} {result : Term}
    (spelled : Spelled level text result) (le : required ≤ raised) :
    Spelled required (enclosed raised level text) result := by
  unfold enclosed
  split
  · exact spelled.paren
  next high => exact spelled.mono (Nat.le_trans le (Nat.not_lt.1 high))

mutual

/-- The text of a tree spells its term on the level of the tree, if the levels that are required are
not lowered. -/
theorem spelled (raise : Nat → Nat) (raises : ∀ level ≤ 8, level ≤ raise level)
    (tree : OperatorTree) : Spelled tree.level (tree.bare raise) tree.term := by
  -- Each way to build a tree is one way to put texts together that spell its parts.
  cases tree with
  | name called => exact spelled_name called.valid
  | current => exact spelled_current
  | root => exact spelled_root
  | «variable» called => exact spelled_variable called.valid
  | quoted inner quotable => exact spelled_quoted quotable
  | raw inner raw => exact spelled_raw raw
  | call called arguments =>
    have whole : Spelled 9 _ _ :=
      spelled_call called.valid (spelledArguments raise raises arguments)
    rwa [← argumentTexts_eq, ← argumentTerms_eq] at whole
  | signed sign operand =>
    exact (spelled_enclosed (spelled raise raises operand) (raises 7 (by decide))).signed sign
  | binary sign left right =>
    have low := precedence_le sign
    exact (spelled_enclosed (spelled raise raises left) (raises _ (by omega))).binary
      (spelled_enclosed (spelled raise raises right) (raises _ (by omega)))
  | field target key =>
    have before := spelled_enclosed (spelled raise raises target) (raises 8 (by decide))
    cases key with
    | plain called => exact before.field called.valid
    | quoted inner quotable => exact before.quotedField quotable
  | method target called arguments =>
    have before := spelled_enclosed (spelled raise raises target) (raises 8 (by decide))
    have whole := before.method called.valid (spelledArguments raise raises arguments)
    rwa [← argumentTexts_eq, ← argumentTerms_eq] at whole

/-- The text of an argument spells it. -/
theorem spelledArgument (raise : Nat → Nat) (raises : ∀ level ≤ 8, level ≤ raise level)
    (argument : TreeArgument) :
    SpelledArgument (argumentText raise argument) (argumentTerm argument) := by
  cases argument with
  | tree key lambda body =>
    -- A body ends with its argument, so that it may stand on any level.
    have plain := spelled_enclosed (spelled raise raises body) (raises 0 (by decide))
    cases lambda with
    | none =>
      cases key with
      | none => exact plain.body.argument
      | some key => exact plain.body.named key.valid
    | some bound =>
      cases key with
      | none => exact (plain.lambda bound.valid).argument
      | some key => exact (plain.lambda bound.valid).named key.valid
  | verbatim text argument spelled => exact spelled

/-- The texts of arguments spell them. -/
theorem spelledArguments (raise : Nat → Nat) (raises : ∀ level ≤ 8, level ≤ raise level)
    (arguments : List TreeArgument) : ∀ argument ∈ arguments,
      SpelledArgument (argumentText raise argument) (argumentTerm argument) := by
  cases arguments with
  | nil => simp
  | cons argument rest =>
    rw [List.forall_mem_cons]
    exact ⟨spelledArgument raise raises argument, spelledArguments raise raises rest⟩

end

section Sample

/-- A difference of a product and another difference, with signs before operands, a field and calls
of methods behind them, and a lambda and a number for arguments. -/
def tally : OperatorTree :=
  let item : Identifier := ⟨"x", by decide⟩
  let isOpen : OperatorTree :=
    .signed .not (.field (.name item) (.plain ⟨"done", by decide⟩))
  let firstOpen : OperatorTree :=
    .method (.method (.field .root (.plain ⟨"items", by decide⟩)) ⟨"filter", by decide⟩
      [.tree none (some item) isOpen]) ⟨"index", by decide⟩ [.data (.int 0 0)]
  .binary (.operator .subtract)
    (.binary (.operator .multiply)
      (.signed .negate (.binary .coalesce (.name ⟨"a", by decide⟩) (.variable ⟨"b", by decide⟩)))
      firstOpen)
    (.binary (.operator .subtract) (.quoted ['c'] (.plain (by decide) (by decide) .nil))
      (.call ⟨"now", by decide⟩ []))

end Sample

end OperatorTree

end Reshape
