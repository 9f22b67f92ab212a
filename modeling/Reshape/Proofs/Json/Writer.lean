import Reshape.Json.Reader
import Reshape.Json.Writer
import Reshape.Proofs.Json.Number
import Reshape.Proofs.Json.Reader

/-!
What JSON texts are read back as: a text that spells a tree is read as the tree, in whatever array
or object it stands, if the nesting leaves room for it. Only floating-point numbers may come back
as others, each as what its own text is read as. The compact text of a tree spells it, and so does
its text over several lines with any white space for indentation. In its strings every escape stands
for its code point.
-/

namespace Reshape.Json

section Quoted

variable {done rest : List Char}

/-- A code point that needs no escape stands for itself. -/
theorem stringBody_plain {c : Char} (quote : c ≠ '"') (backslash : c ≠ '\\')
    (printable : 0x20 ≤ c.toNat) : stringBody done (c :: rest) = stringBody (c :: done) rest := by
  -- Of the forms that a string can go on with only the last one is left.
  have small : ¬ c.toNat < 0x20 := by omega
  rw [stringBody.eq_def]
  split
  next same => cases same
  next same => exact absurd (List.cons.inj same).1 quote
  next same => exact absurd (List.cons.inj same).1 backslash
  next same => exact absurd (List.cons.inj same).1 backslash
  next same => exact absurd (List.cons.inj same).1 backslash
  next same =>
    obtain ⟨rfl, rfl⟩ := List.cons.inj same
    simp [small, backslash]

/-- An escape of one letter stands for its code point. -/
theorem stringBody_short {letter c : Char} (escape : shortEscape? letter = some c) :
    stringBody done ('\\' :: letter :: rest) = stringBody (c :: done) rest := by
  -- The form with four digits has the letter u, which is no short escape.
  have other : letter ≠ 'u' := by
    rintro rfl
    cases escape
  rw [stringBody.eq_def]
  split
  next same => cases same
  next same => cases same
  next same => exact absurd (List.cons.inj (List.cons.inj same).2).1 other
  next same => exact absurd (List.cons.inj (List.cons.inj same).2).1 other
  next same =>
    obtain ⟨rfl, rfl⟩ := List.cons.inj (List.cons.inj same).2
    simp [escape]
  next distinct same =>
    obtain ⟨first, second⟩ := List.cons.inj same
    exact (distinct _ _ first.symm second.symm).elim

/-- The four digits of a control are its code. -/
theorem hexUnit?_fourDigits {n : Nat} (control : n < 0x20) :
    ∃ a b c d, fourDigits n = [a, b, c, d] ∧ hexUnit? a b c d = some n := by
  -- A control has two digits at most.
  have each : ∀ n < 0x20,
      fourDigits n = ['0', '0', Nat.digitChar (n / 16), Nat.digitChar (n % 16)] ∧
        hexUnit? '0' '0' (Nat.digitChar (n / 16)) (Nat.digitChar (n % 16)) = some n := by
    decide +kernel
  exact ⟨'0', '0', _, _, each n control⟩

/-- An escape of four digits stands for the code point of a control. -/
theorem stringBody_control {n : Nat} (control : n < 0x20) :
    stringBody done ('\\' :: 'u' :: (fourDigits n ++ rest)) =
      stringBody (Char.ofNat n :: done) rest := by
  obtain ⟨a, b, c, d, digits, unit⟩ := hexUnit?_fourDigits control
  rw [digits]
  -- Another escape may follow, but no control is a surrogate.
  rw [stringBody.eq_def]
  split
  next same => cases same
  next same => cases same
  next same =>
    simp only [List.cons_append, List.nil_append, List.cons.injEq, true_and] at same
    obtain ⟨rfl, rfl, rfl, rfl, rfl⟩ := same
    have low : ¬ (0xD800 ≤ n ∧ n < 0xDC00) := by omega
    have high : ¬ (0xDC00 ≤ n ∧ n < 0xE000) := by omega
    simp [unit, low, high]
  next same =>
    simp only [List.cons_append, List.nil_append, List.cons.injEq, true_and] at same
    obtain ⟨rfl, rfl, rfl, rfl, rfl⟩ := same
    have range : ¬ (0xD800 ≤ n ∧ n < 0xE000) := by omega
    simp [unit, range]
  next distinct same =>
    simp only [List.cons_append, List.nil_append, List.cons.injEq, true_and] at same
    obtain ⟨rfl, rfl⟩ := same
    exact (distinct a b c d rest rfl rfl).elim
  next distinct same =>
    obtain ⟨first, second⟩ := List.cons.inj same
    exact (distinct _ _ first.symm second.symm).elim

/-- What a code point is written as: a letter behind a backslash, the digits of a control, or the
code point itself. -/
theorem escapedChar_cases (c : Char) :
    (∃ letter, shortEscape? letter = some c ∧ escapedChar c = ['\\', letter]) ∨
    (c.toNat < 0x20 ∧ escapedChar c = '\\' :: 'u' :: fourDigits c.toNat) ∨
    (c ≠ '"' ∧ c ≠ '\\' ∧ 0x20 ≤ c.toNat ∧ escapedChar c = [c]) := by
  unfold escapedChar
  split
  -- All short escapes are cases of the first kind.
  all_goals try exact .inl ⟨_, rfl, rfl⟩
  next quote backslash _ _ _ _ _ =>
    split
    next control => exact .inr (.inl ⟨control, rfl⟩)
    next printable => exact .inr (.inr ⟨quote, backslash, by omega, rfl⟩)

/-- What a code point is written as stands for it. -/
theorem stringBody_escapedChar (c : Char) :
    stringBody done (escapedChar c ++ rest) = stringBody (c :: done) rest := by
  rcases escapedChar_cases c with
    ⟨letter, escape, written⟩ | ⟨control, written⟩ | ⟨quote, backslash, printable, written⟩
  -- Each of the three ways of writing a character is read back in its own way.
  · rw [written]
    exact stringBody_short escape
  · rw [written, List.cons_append, List.cons_append, stringBody_control control, Char.ofNat_toNat]
  · rw [written]
    exact stringBody_plain quote backslash printable

/-- What a text is written as between quotes stands for it. -/
theorem stringBody_flatMap (text : List Char) :
    stringBody done (text.flatMap escapedChar ++ '"' :: rest) =
      some (String.ofList (done.reverse ++ text), rest) := by
  induction text generalizing done with
  | nil => simp [stringBody]
  | cons c text ih =>
    rw [List.flatMap_cons, List.append_assoc, stringBody_escapedChar, ih, List.reverse_cons,
      List.append_assoc, List.singleton_append]

/-- A quoted text is a quote, and a string body that is read as the text. -/
theorem stringBody_quote (text : String) :
    ∃ body, (∀ rest, (quote text).toList ++ rest = '"' :: (body ++ rest)) ∧
      ∀ rest, stringBody [] (body ++ rest) = some (text, rest) := by
  refine ⟨text.toList.flatMap escapedChar ++ ['"'], fun rest => ?_, fun rest => ?_⟩
  · simp [quote]
  · rw [List.append_assoc, List.singleton_append, stringBody_flatMap, List.reverse_nil,
      List.nil_append, String.ofList_toList]

end Quoted

open Reading (outcome)

section Steps

variable {limit : Nat} {mayClose : Bool} {opened : List Frame} {text rest : List Char}
  {json : Json}

/-- A number without a minus is read, or refused, where a value is expected. -/
theorem Reading.step_number {c : Char} {text : List Char} (digit : c.isDigit = true) :
    step limit ⟨.value mayClose, opened, c :: text⟩ =
      (number false (c :: text)).map fun (json, rest) => ⟨.continuation json, opened, rest⟩ := by
  -- No other value starts with a digit, and neither does white space.
  have solid : isSpace c = false := by
    by_contra space
    simp only [isSpace, Bool.not_eq_false, Bool.or_eq_true, beq_iff_eq] at space
    rcases space with ((rfl | rfl) | rfl) | rfl <;> exact absurd digit (by decide)
  unfold step
  simp only [skipSpace, List.dropWhile_cons, solid, Bool.false_eq_true, if_false]
  split
  all_goals simp_all

/-- A number behind its minus is read, or refused, where a value is expected. -/
theorem Reading.step_negative :
    step limit ⟨.value mayClose, opened, '-' :: text⟩ =
      (number true text).map fun (json, rest) => ⟨.continuation json, opened, rest⟩ := by
  simp [step, skipSpace, isSpace]

/-- A string is read where a value is expected. -/
theorem Reading.step_string (text : String) :
    step limit ⟨.value mayClose, opened, (quote text).toList ++ rest⟩ =
      some ⟨.continuation (.string text), opened, rest⟩ := by
  obtain ⟨body, quoted, read⟩ := stringBody_quote text
  simp [quoted, step, skipSpace, isSpace, read]

/-- The name of a member is read with the colon behind it. -/
theorem Reading.step_name (done : List (String × Json)) (name : String) :
    step limit ⟨.name done mayClose, opened, (quote name).toList ++ ':' :: rest⟩ =
      some ⟨.value false, .members done name :: opened, rest⟩ := by
  obtain ⟨body, quoted, read⟩ := stringBody_quote name
  simp [quoted, step, skipSpace, isSpace, read]

/-- A bracket opens an array, if one more may be open. -/
theorem Reading.step_openArray (below : opened.length < limit) :
    step limit ⟨.value mayClose, opened, '[' :: rest⟩ =
      some ⟨.value true, .items [] :: opened, rest⟩ := by
  simp [step, skipSpace, isSpace, below]

/-- A bracket behind the opening one closes the empty array. -/
theorem Reading.step_emptyArray :
    step limit ⟨.value true, .items [] :: opened, ']' :: rest⟩ =
      some ⟨.continuation (.array []), opened, rest⟩ := by
  simp [step, skipSpace, isSpace]

/-- A comma joins an item to those before it. -/
theorem Reading.step_nextItem (done : List Json) :
    step limit ⟨.continuation json, .items done :: opened, ',' :: rest⟩ =
      some ⟨.value false, .items (json :: done) :: opened, rest⟩ := by
  simp [step, skipSpace, isSpace]

/-- A bracket closes the array of an item and those before it. -/
theorem Reading.step_lastItem (done : List Json) :
    step limit ⟨.continuation json, .items done :: opened, ']' :: rest⟩ =
      some ⟨.continuation (.array (done.reverse ++ [json])), opened, rest⟩ := by
  simp [step, skipSpace, isSpace]

/-- A brace opens an object, if one more may be open. -/
theorem Reading.step_openObject (below : opened.length < limit) :
    step limit ⟨.value mayClose, opened, '\x7b' :: rest⟩ =
      some ⟨.name [] true, opened, rest⟩ := by
  simp [step, skipSpace, isSpace, below]

/-- A brace behind the opening one closes the empty object. -/
theorem Reading.step_emptyObject :
    step limit ⟨.name [] true, opened, '\x7d' :: rest⟩ =
      some ⟨.continuation (.object []), opened, rest⟩ := by
  simp [step, skipSpace, isSpace]

/-- A comma joins a member to those before it. -/
theorem Reading.step_nextMember (done : List (String × Json)) (name : String) :
    step limit ⟨.continuation json, .members done name :: opened, ',' :: rest⟩ =
      some ⟨.name ((name, json) :: done) false, opened, rest⟩ := by
  simp [step, skipSpace, isSpace]

/-- A brace closes the object of a member and those before it. -/
theorem Reading.step_lastMember (done : List (String × Json)) (name : String) :
    step limit ⟨.continuation json, .members done name :: opened, '\x7d' :: rest⟩ =
      some ⟨.continuation (.object (done.reverse ++ [(name, json)])), opened, rest⟩ := by
  simp [step, skipSpace, isSpace]

end Steps

/-- A text is read as a tree, or refused, wherever a value is expected, if as many more arrays and
objects may be open as the tree needs. -/
def Reads (limit depth : Nat) (text : List Char) (result : Option Json) : Prop :=
  ∀ mayClose opened rest, opened.length + depth ≤ limit → EndsNumber rest →
    outcome limit ⟨.value mayClose, opened, text ++ rest⟩ =
      result.bind fun json => outcome limit ⟨.continuation json, opened, rest⟩

/-- A text is white space. -/
def IsBlank (text : List Char) : Prop := ∀ c ∈ text, isSpace c = true

/-- No text is white space. -/
theorem isBlank_nil : IsBlank [] := by simp [IsBlank]

/-- Texts one behind the other, each but the first behind a comma and a gap. -/
def separated (gap : List Char) : List (List Char) → List Char
  | [] => []
  | text :: rest => text ++ rest.flatMap fun next => ',' :: (gap ++ next)

/-- A member as a text: the name, the colon, and the text of the value behind some space. -/
def memberText (space : List Char) (part : List Char × String × Json) : List Char :=
  (quote part.2.1).toList ++ ':' :: (space ++ part.1)

/-- A text spells a tree that is nested at most so deep. The items or members of one array or object
have the same white space before each of them, and any behind the last one. -/
inductive Spells : Nat → List Char → Json → Prop where
  | scalar {depth size : Nat} {json : Json} (scalar : Scalar json size) :
      Spells depth (leaf json).toList json
  | array {depth : Nat} {gap closing : List Char} {parts : List (List Char × Json)}
      (before : IsBlank gap) (behind : IsBlank closing)
      (each : ∀ part ∈ parts, Spells depth part.1 part.2) :
      Spells (depth + 1)
        ('[' :: (gap ++ (separated gap (parts.map Prod.fst) ++ (closing ++ [']']))))
        (.array (parts.map Prod.snd))
  | object {depth : Nat} {gap space closing : List Char} {parts : List (List Char × String × Json)}
      (before : IsBlank gap) (between : IsBlank space) (behind : IsBlank closing)
      (each : ∀ part ∈ parts, Spells depth part.1 part.2.2) :
      Spells (depth + 1)
        ('\x7b' :: (gap ++ (separated gap (parts.map (memberText space)) ++ (closing ++ ['\x7d']))))
        (.object (parts.map Prod.snd))

variable {limit depth : Nat}

/-- A text that stands alone is read as it is read everywhere. -/
theorem parseWithin_of_reads {text : List Char} {result : Option Json}
    (reads : Reads limit depth text result) (room : depth ≤ limit) :
    parseWithin limit text = result := by
  have alone := reads false [] [] (by simpa using room) (by simp [EndsNumber])
  rw [List.append_nil] at alone
  rw [parseWithin, Reading.run_eq_outcome (by simp only; omega), alone]
  -- Nothing stands behind the text, so that a tree is complete.
  cases result <;> rfl

/-- The text of a number is read as it is read as a number. -/
theorem reads_of_writesNumber {text : List Char} {result : Option Json}
    (writes : WritesNumber text result) : Reads limit depth text result := by
  -- A minus is read before the digits, and the first letter tells that a number follows.
  obtain ⟨negative, digits, rfl, ⟨c, tail, rfl, digit⟩, read⟩ := writes
  intro mayClose opened rest _ ends
  rw [Reading.outcome_eq_bind (by simp)]
  have value := read rest ends
  cases negative with
  | false =>
    simp only [Bool.false_eq_true, if_false, List.nil_append, List.cons_append] at value ⊢
    rw [Reading.step_number digit, value]
    cases result <;> rfl
  | true =>
    simp only [if_true, List.cons_append, List.nil_append] at value ⊢
    rw [Reading.step_negative, value]
    cases result <;> rfl

mutual

/-- What a tree is read back as from its text: floating-point numbers become what their own texts
are read as. -/
def reread? : Json → Option Json
  | .float x => parse (writeFloat x).toList
  | .array items => (rereadItems? items).map .array
  | .object members => (rereadMembers? members).map .object
  | json => some json

/-- What items are read back as. -/
def rereadItems? : List Json → Option (List Json)
  | [] => some []
  | item :: items => item.reread?.bind fun item => (rereadItems? items).map (item :: ·)

/-- What members are read back as. -/
def rereadMembers? : List (String × Json) → Option (List (String × Json))
  | [] => some []
  | (name, json) :: members =>
    json.reread?.bind fun json => (rereadMembers? members).map ((name, json) :: ·)

end

/-- A floating-point number is read back from its text. -/
def ReadsBack (x : Binary64) : Prop := parse (writeFloat x).toList = some (.float x)

/-- Whether a number is read back can be computed. -/
instance decidableReadsBack (x : Binary64) : Decidable (ReadsBack x) :=
  decidable_of_iff
    ((parse (writeFloat x).toList).bind (fun | .float y => some y | _ => none) = some x) <| by
      rw [ReadsBack, Option.bind_eq_some_iff]
      constructor
      · rintro ⟨json, read, same⟩
        cases json with
        | float y => rw [read, Option.some.inj same]
        | _ => cases same
      · exact fun read => ⟨_, read, rfl⟩

/-- Numbers whose shortest decimals are short are read back. -/
theorem readsBack_of_isShort {x : Binary64} (finite : x.isFinite = true) (short : IsShort x) :
    ReadsBack x := by
  obtain ⟨result, writes, same⟩ := writesNumber_float finite
  have reads : Reads nestingLimit 0 (writeFloat x).toList result := reads_of_writesNumber writes
  rw [ReadsBack, parse, parseWithin_of_reads reads (Nat.zero_le _), same short]

/-- The number 31.245270191439438 has too many digits, and is read from its text as its neighbour:
the digits are rounded to a number before they are divided. -/
example : ¬ ReadsBack ⟨0x403F3ECA06FAEA82⟩ := by decide +kernel

/-- The text of a scalar is read as what it is read as alone. -/
theorem reads_leaf {json : Json} {size : Nat} (scalar : Scalar json size) :
    Reads limit depth (leaf json).toList json.reread? := by
  have single {text : List Char} {json : Json}
      (stepped : ∀ mayClose opened rest,
        Reading.step limit ⟨.value mayClose, opened, text ++ rest⟩ =
          some ⟨.continuation json, opened, rest⟩) : Reads limit depth text (some json) :=
    fun mayClose opened rest _ _ => Reading.outcome_of_step (stepped mayClose opened rest)
  cases scalar with
  | null => exact single fun _ _ _ => by simp [leaf, Reading.step, skipSpace, isSpace]
  | bool value =>
    exact single fun _ _ _ => by cases value <;> simp [leaf, Reading.step, skipSpace, isSpace]
  | integer least greatest => exact reads_of_writesNumber (writesNumber_integer least greatest)
  | @float x finite =>
    -- The number is read alike inside of a text and alone.
    obtain ⟨result, writes, -⟩ := writesNumber_float finite
    have alone : Reads nestingLimit 0 (writeFloat x).toList result := reads_of_writesNumber writes
    have same : reread? (.float x) = result := by
      rw [reread?, parse, parseWithin_of_reads alone (Nat.zero_le _)]
    rw [same]
    exact reads_of_writesNumber writes
  | @string text => exact single fun _ _ _ => Reading.step_string text

section Blank

variable {gap closing space text rest : List Char}

/-- White space before a text is skipped. -/
theorem skipSpace_append (blank : IsBlank gap) (text : List Char) :
    skipSpace (gap ++ text) = skipSpace text :=
  List.dropWhile_append_of_pos blank

/-- White space does not matter for a step. -/
theorem Reading.step_blank (blank : IsBlank gap) (expecting : Expecting) (opened : List Frame)
    (text : List Char) :
    step limit ⟨expecting, opened, gap ++ text⟩ = step limit ⟨expecting, opened, text⟩ := by
  simp only [step, skipSpace_append blank]

/-- White space does not matter for the outcome. -/
theorem Reading.outcome_blank (blank : IsBlank gap) (expecting : Expecting) (opened : List Frame)
    (text : List Char) :
    outcome limit ⟨expecting, opened, gap ++ text⟩ = outcome limit ⟨expecting, opened, text⟩ := by
  -- With the white space the run has more steps, of which it makes no use.
  have longer : outcome limit ⟨expecting, opened, text⟩ =
      run limit ((gap ++ text).length + 1) ⟨expecting, opened, text⟩ :=
    (run_eq_outcome (by simp only [List.length_append]; omega)).symm
  rw [longer, outcome, run, run, skipSpace_append blank, step_blank blank]

/-- White space ends a number, if what follows it does. -/
theorem endsNumber_blank (blank : IsBlank gap) (ends : EndsNumber rest) :
    EndsNumber (gap ++ rest) := by
  cases gap with
  | nil => exact ends
  | cons c gap =>
    -- A blank is none of the characters that a number could go on with.
    have space : isSpace c = true := blank c (.head _)
    simp only [isSpace, Bool.or_eq_true, beq_iff_eq] at space
    rcases space with ((rfl | rfl) | rfl) | rfl <;> simp [EndsNumber]

/-- A number ends before a further item, and before the end of what it stands in. -/
theorem endsNumber_flatMap (gap : List Char) (texts : List (List Char)) (ends : EndsNumber rest) :
    EndsNumber ((texts.flatMap fun next => ',' :: (gap ++ next)) ++ rest) := by
  cases texts with
  | nil => exact ends
  | cons text texts => simp [EndsNumber]

end Blank

section Spelled

variable {gap closing space : List Char}

/-- The items behind one that was read are read up to the end of the array. -/
theorem outcome_items {parts : List (List Char × Json)} (before : IsBlank gap)
    (behind : IsBlank closing) (each : ∀ part ∈ parts, Reads limit depth part.1 part.2.reread?)
    {outer : List Frame} (room : outer.length + (depth + 1) ≤ limit) (json : Json)
    (done : List Json) (rest : List Char) :
    outcome limit
        ⟨.continuation json, .items done :: outer,
          ((parts.map Prod.fst).flatMap fun next => ',' :: (gap ++ next)) ++
            (closing ++ ']' :: rest)⟩ =
      (rereadItems? (parts.map Prod.snd)).bind fun items =>
        outcome limit ⟨.continuation (.array (done.reverse ++ json :: items)), outer, rest⟩ := by
  have ends : EndsNumber (closing ++ ']' :: rest) := endsNumber_blank behind (by simp [EndsNumber])
  -- The item that was read last joins those before it, so both stay quantified over.
  induction parts generalizing json done with
  | nil =>
    simp only [List.map_nil, List.flatMap_nil, List.nil_append]
    rw [Reading.outcome_blank behind, Reading.outcome_of_step (Reading.step_lastItem done)]
    rfl
  | cons part parts ih =>
    rw [List.forall_mem_cons] at each
    have next := each.1 false (.items (json :: done) :: outer) _
      (by simp only [List.length_cons]; omega) (endsNumber_flatMap gap (parts.map Prod.fst) ends)
    simp only [List.map_cons, List.flatMap_cons, List.cons_append, List.append_assoc]
    rw [Reading.outcome_of_step (Reading.step_nextItem done), Reading.outcome_blank before, next,
      rereadItems?, Option.bind_assoc]
    -- Whatever the item is read as, the others follow it.
    refine Option.bind_congr fun item _ => ?_
    rw [ih each.2 item (json :: done), List.reverse_cons, Option.bind_map]
    simp

/-- The members behind one that was read are read up to the end of the object. -/
theorem outcome_members {parts : List (List Char × String × Json)} (before : IsBlank gap)
    (between : IsBlank space) (behind : IsBlank closing)
    (each : ∀ part ∈ parts, Reads limit depth part.1 part.2.2.reread?) {outer : List Frame}
    (room : outer.length + (depth + 1) ≤ limit) (json : Json) (done : List (String × Json))
    (name : String) (rest : List Char) :
    outcome limit
        ⟨.continuation json, .members done name :: outer,
          ((parts.map (memberText space)).flatMap fun next => ',' :: (gap ++ next)) ++
            (closing ++ '\x7d' :: rest)⟩ =
      (rereadMembers? (parts.map Prod.snd)).bind fun members =>
        outcome limit
          ⟨.continuation (.object (done.reverse ++ (name, json) :: members)), outer, rest⟩ := by
  have ends : EndsNumber (closing ++ '\x7d' :: rest) :=
    endsNumber_blank behind (by simp [EndsNumber])
  -- As with items, but the name of the next member is read before its value.
  induction parts generalizing json done name with
  | nil =>
    simp only [List.map_nil, List.flatMap_nil, List.nil_append]
    rw [Reading.outcome_blank behind, Reading.outcome_of_step (Reading.step_lastMember done name)]
    rfl
  | cons part parts ih =>
    rw [List.forall_mem_cons] at each
    have next := each.1 false (.members ((name, json) :: done) part.2.1 :: outer) _
      (by simp only [List.length_cons]; omega)
      (endsNumber_flatMap gap (parts.map (memberText space)) ends)
    simp only [List.map_cons, List.flatMap_cons, memberText, List.cons_append, List.append_assoc]
      at next ⊢
    rw [Reading.outcome_of_step (Reading.step_nextMember done name), Reading.outcome_blank before,
      Reading.outcome_of_step (Reading.step_name _ part.2.1), Reading.outcome_blank between, next,
      rereadMembers?, Option.bind_assoc]
    refine Option.bind_congr fun value _ => ?_
    rw [ih each.2 value ((name, json) :: done) part.2.1, List.reverse_cons, Option.bind_map]
    simp

/-- A text is read as the tree that it spells, wherever there is room for its nesting, with its
floating-point numbers as what their own texts are read as. -/
theorem reads_of_spells {text : List Char} {json : Json} (spells : Spells depth text json) :
    Reads limit depth text json.reread? := by
  induction spells with
  | scalar scalar => exact reads_leaf scalar
  | @array depth gap closing parts before behind _ ih =>
    intro mayClose opened rest room _
    have ends : EndsNumber (closing ++ ']' :: rest) :=
      endsNumber_blank behind (by simp [EndsNumber])
    simp only [List.cons_append, List.append_assoc, List.nil_append]
    rw [Reading.outcome_of_step (Reading.step_openArray (by omega)), Reading.outcome_blank before,
      reread?]
    -- Without items the bracket closes at once; otherwise the others come behind the first one.
    cases parts with
    | nil =>
      simp only [List.map_nil, separated, List.nil_append]
      rw [Reading.outcome_blank behind, Reading.outcome_of_step Reading.step_emptyArray]
      rfl
    | cons part parts =>
      rw [List.forall_mem_cons] at ih
      have first := ih.1 true (.items [] :: opened) _ (by simp only [List.length_cons]; omega)
        (endsNumber_flatMap gap (parts.map Prod.fst) ends)
      simp only [List.map_cons, separated, List.append_assoc]
      rw [first, rereadItems?, Option.map_bind, Option.bind_assoc]
      refine Option.bind_congr fun item _ => ?_
      rw [outcome_items before behind ih.2 room item [] rest]
      simp [Function.comp_def, Option.bind_map]
  | @object depth gap space closing parts before between behind _ ih =>
    intro mayClose opened rest room _
    have ends : EndsNumber (closing ++ '\x7d' :: rest) :=
      endsNumber_blank behind (by simp [EndsNumber])
    simp only [List.cons_append, List.append_assoc, List.nil_append]
    rw [Reading.outcome_of_step (Reading.step_openObject (by omega)), Reading.outcome_blank before,
      reread?]
    cases parts with
    | nil =>
      simp only [List.map_nil, separated, List.nil_append]
      rw [Reading.outcome_blank behind, Reading.outcome_of_step Reading.step_emptyObject]
      rfl
    | cons part parts =>
      rw [List.forall_mem_cons] at ih
      have first := ih.1 false (.members [] part.2.1 :: opened) _
        (by simp only [List.length_cons]; omega)
        (endsNumber_flatMap gap (parts.map (memberText space)) ends)
      simp only [List.map_cons, separated, memberText, List.cons_append, List.append_assoc]
        at first ⊢
      rw [Reading.outcome_of_step (Reading.step_name [] part.2.1), Reading.outcome_blank between,
        first, rereadMembers?, Option.map_bind, Option.bind_assoc]
      refine Option.bind_congr fun value _ => ?_
      rw [outcome_members before between behind ih.2 room value [] part.2.1 rest]
      simp [Function.comp_def, Option.bind_map]

/-- A text that spells a tree is read as the tree is read back. -/
theorem parseWithin_of_spells {text : List Char} {json : Json} (spells : Spells limit text json) :
    parseWithin limit text = json.reread? :=
  parseWithin_of_reads (reads_of_spells spells) (Nat.le_refl _)

end Spelled

section Written

/-- A text is what a tree is written as behind every text. -/
def Written {α : Type} (write : String → α → String) (text : List Char) (item : α) : Prop :=
  ∀ before, (write before item).toList = before.toList ++ text

/-- Items of which each has a text or the like, each with one. -/
theorem exists_parts {α β : Type} (holds : β → α → Prop) {items : List α}
    (each : ∀ item ∈ items, ∃ part, holds part item) :
    ∃ parts : List (β × α), parts.map Prod.snd = items ∧ ∀ part ∈ parts, holds part.1 part.2 := by
  induction items with
  | nil => exact ⟨[], rfl, by simp⟩
  -- The parts are chosen one by one.
  | cons item items ih =>
    rw [List.forall_mem_cons] at each
    obtain ⟨part, first⟩ := each.1
    obtain ⟨parts, rfl, others⟩ := ih each.2
    exact ⟨(part, item) :: parts, rfl, List.forall_mem_cons.2 ⟨first, others⟩⟩

/-- The items behind the first are written compactly behind commas. -/
theorem compactItemsOnto_eq {parts : List (List Char × Json)}
    (each : ∀ part ∈ parts, Written compactOnto part.1 part.2) (before : String) :
    (compactItemsOnto before (parts.map Prod.snd)).toList =
      before.toList ++ (parts.map Prod.fst).flatMap (',' :: ·) := by
  -- The writer carries along what it has written, which stays quantified over.
  induction parts generalizing before with
  | nil => simp [compactItemsOnto]
  | cons part parts ih =>
    rw [List.forall_mem_cons] at each
    simp [compactItemsOnto, ih each.2, each.1 _]

/-- The members behind the first are written compactly behind commas. -/
theorem compactMembersOnto_eq {parts : List (List Char × String × Json)}
    (each : ∀ part ∈ parts, Written compactOnto part.1 part.2.2) (before : String) :
    (compactMembersOnto before (parts.map Prod.snd)).toList =
      before.toList ++ (parts.map (memberText [])).flatMap (',' :: ·) := by
  induction parts generalizing before with
  | nil => simp [compactMembersOnto]
  | cons part parts ih =>
    rw [List.forall_mem_cons] at each
    simp [compactMembersOnto, memberText, ih each.2, each.1 _]

/-- The texts of items between brackets are what an array is written as compactly. -/
theorem written_array (parts : List (List Char × Json))
    (each : ∀ part ∈ parts, Written compactOnto part.1 part.2) :
    Written compactOnto ('[' :: (separated [] (parts.map Prod.fst) ++ [']']))
      (.array (parts.map Prod.snd)) := by
  intro before
  -- Only an array of no items has no separators.
  cases parts with
  | nil => simp [compactOnto, separated]
  | cons part parts =>
    rw [List.forall_mem_cons] at each
    simp [compactOnto, separated, compactItemsOnto_eq each.2, each.1 _]

/-- The texts of members between braces are what an object is written as compactly. -/
theorem written_object (parts : List (List Char × String × Json))
    (each : ∀ part ∈ parts, Written compactOnto part.1 part.2.2) :
    Written compactOnto ('\x7b' :: (separated [] (parts.map (memberText [])) ++ ['\x7d']))
      (.object (parts.map Prod.snd)) := by
  intro before
  -- Only an object of no members has no separators.
  cases parts with
  | nil => simp [compactOnto, separated]
  | cons part parts =>
    rw [List.forall_mem_cons] at each
    simp [compactOnto, separated, memberText, compactMembersOnto_eq each.2, each.1 _]

/-- The compact text of a tree spells it without white space. -/
theorem spells_compactOnto {json : Json} (within : Within depth json) :
    ∃ text, Spells depth text json ∧ Written compactOnto text json := by
  -- The texts of the parts are put together as the writer does it, without white space.
  induction within with
  | scalar scalar =>
    refine ⟨_, .scalar scalar, fun before => ?_⟩
    cases scalar <;> simp [compactOnto]
  | array _ ih =>
    obtain ⟨parts, rfl, each⟩ := exists_parts _ ih
    exact ⟨_, .array isBlank_nil isBlank_nil fun part member => (each part member).1,
      written_array parts fun part member => (each part member).2⟩
  | @object depth members _ ih =>
    obtain ⟨parts, rfl, each⟩ := exists_parts
      (fun text (member : String × Json) => Spells depth text member.2 ∧
        Written compactOnto text member.2) ih
    exact ⟨_, .object isBlank_nil isBlank_nil isBlank_nil fun part member => (each part member).1,
      written_object parts fun part member => (each part member).2⟩

variable {indent margin : String}

/-- The items behind the first are written on lines of their own. -/
theorem indentedItemsOnto_eq {parts : List (List Char × Json)}
    (each : ∀ part ∈ parts, Written (indentedOnto indent margin) part.1 part.2) (before : String) :
    (indentedItemsOnto indent margin before (parts.map Prod.snd)).toList =
      before.toList ++
        (parts.map Prod.fst).flatMap fun next => ',' :: ('\n' :: margin.toList ++ next) := by
  induction parts generalizing before with
  | nil => simp [indentedItemsOnto]
  | cons part parts ih =>
    rw [List.forall_mem_cons] at each
    simp [indentedItemsOnto, ih each.2, each.1 _]

/-- The members behind the first are written on lines of their own. -/
theorem indentedMembersOnto_eq {parts : List (List Char × String × Json)}
    (each : ∀ part ∈ parts, Written (indentedOnto indent margin) part.1 part.2.2)
    (before : String) :
    (indentedMembersOnto indent margin before (parts.map Prod.snd)).toList =
      before.toList ++
        (parts.map (memberText [' '])).flatMap fun next =>
          ',' :: ('\n' :: margin.toList ++ next) := by
  induction parts generalizing before with
  | nil => simp [indentedMembersOnto]
  | cons part parts ih =>
    rw [List.forall_mem_cons] at each
    simp [indentedMembersOnto, memberText, ih each.2, each.1 _]

/-- White space may start with the end of a line. -/
theorem isBlank_line {text : List Char} (blank : IsBlank text) : IsBlank ('\n' :: text) :=
  List.forall_mem_cons.2 ⟨rfl, blank⟩

/-- The text of a tree over several lines spells it, if the lines are indented by white space. -/
theorem spells_indentedOnto (blank : IsBlank indent.toList) {json : Json}
    (within : Within depth json) (margin : String) (edge : IsBlank margin.toList) :
    ∃ text, Spells depth text json ∧ Written (indentedOnto indent margin) text json := by
  have further (margin : String) (edge : IsBlank margin.toList) :
      IsBlank (margin ++ indent).toList := by
    rw [String.toList_append]
    exact List.forall_mem_append.2 ⟨edge, blank⟩
  induction within generalizing margin with
  | scalar scalar =>
    refine ⟨_, .scalar scalar, fun before => ?_⟩
    cases scalar <;> simp [indentedOnto]
  | array _ ih =>
    -- Items stand one step further to the right, and the bracket that closes them does not.
    obtain ⟨parts, rfl, each⟩ := exists_parts _
      fun item member => ih item member (margin ++ indent) (further margin edge)
    cases parts with
    | nil =>
      refine ⟨_, .array isBlank_nil isBlank_nil fun part member => (each part member).1,
        fun before => ?_⟩
      simp [indentedOnto, separated]
    | cons part parts =>
      refine ⟨_, .array (isBlank_line (further margin edge)) (isBlank_line edge)
        fun part member => (each part member).1, fun before => ?_⟩
      rw [List.forall_mem_cons] at each
      have others := indentedItemsOnto_eq fun part member => (each.2 part member).2
      simp [indentedOnto, separated, others, each.1.2 _]
  | @object depth members _ ih =>
    obtain ⟨parts, rfl, each⟩ := exists_parts
      (fun text (member : String × Json) => Spells depth text member.2 ∧
        Written (indentedOnto indent (margin ++ indent)) text member.2)
      fun item member => ih item member (margin ++ indent) (further margin edge)
    cases parts with
    | nil =>
      refine ⟨_, .object isBlank_nil isBlank_nil isBlank_nil
        fun part member => (each part member).1, fun before => ?_⟩
      simp [indentedOnto, separated]
    | cons part parts =>
      have space : IsBlank [' '] := by simp [IsBlank, isSpace]
      refine ⟨_, .object (isBlank_line (further margin edge)) space (isBlank_line edge)
        fun part member => (each part member).1, fun before => ?_⟩
      rw [List.forall_mem_cons] at each
      have others := indentedMembersOnto_eq fun part member => (each.2 part member).2
      simp [indentedOnto, separated, memberText, others, each.1.2 _]

end Written

/-- The compact text of a tree that is nested no deeper than the limit is read as what the tree is
read back as. -/
theorem parseWithin_compact {json : Json} (within : Within limit json) :
    parseWithin limit json.compact.toList = json.reread? := by
  obtain ⟨text, spells, written⟩ := spells_compactOnto within
  have same : json.compact.toList = text := by simp [compact, written _]
  rw [same]
  exact parseWithin_of_spells spells

/-- The text over several lines of a tree that is nested no deeper than the limit is read as what
the tree is read back as, if the lines are indented by white space. -/
theorem parseWithin_pretty {json : Json} (within : Within limit json) {indent : String}
    (blank : IsBlank indent.toList) :
    parseWithin limit (json.pretty indent).toList = json.reread? := by
  obtain ⟨text, spells, written⟩ := spells_indentedOnto blank within "" isBlank_nil
  have same : (json.pretty indent).toList = text := by simp [pretty, written _]
  rw [same]
  exact parseWithin_of_spells spells

end Reshape.Json
