import Reshape.Builtin.Template
import Reshape.Proofs.Eval.Agreement
import Reshape.Proofs.Value.Exact

/-!
Templates. A template is a sequence of pieces: characters other than a percent sign, percent signs
written twice, and verbs. It is filled just if there are as many arguments as verbs and each argument
of a decimal verb is an integer, and the result is the pieces one after another with the arguments put
in. The unsigned integers from two to the 63 on are an exception: a decimal verb refuses them. Doubling
the percent signs of a text gives a template for that text.
-/

namespace Reshape.Template

/-- What a template asks an argument for. -/
inductive Verb where
  /-- Any value. -/
  | value
  /-- Any value, as a text. -/
  | string
  /-- An integer. -/
  | decimal
  deriving DecidableEq

/-- The letter of a verb. -/
def Verb.letter : Verb → Char
  | .value => 'v'
  | .string => 's'
  | .decimal => 'd'

/-- A piece of a template. -/
inductive Piece where
  /-- A character that stands for itself. -/
  | plain (c : Char) (other : c ≠ '%')
  /-- A percent sign, written twice. -/
  | percent
  | verb (verb : Verb)

/-- The text of a piece. -/
def Piece.text : Piece → List Char
  | .plain c _ => [c]
  | .percent => ['%', '%']
  | .verb asked => ['%', asked.letter]

/-- The text of pieces in sequence. -/
def spelled (pieces : List Piece) : List Char :=
  pieces.flatMap Piece.text

@[simp]
theorem spelled_plain (c : Char) (other : c ≠ '%') (pieces : List Piece) :
    spelled (.plain c other :: pieces) = c :: spelled pieces :=
  rfl

@[simp]
theorem spelled_percent (pieces : List Piece) :
    spelled (.percent :: pieces) = '%' :: '%' :: spelled pieces :=
  rfl

@[simp]
theorem spelled_verb (verb : Verb) (pieces : List Piece) :
    spelled (.verb verb :: pieces) = '%' :: verb.letter :: spelled pieces :=
  rfl

/-- The verbs among pieces, in order. -/
def verbs : List Piece → List Verb
  | [] => []
  | .verb asked :: rest => asked :: verbs rest
  | _ :: rest => verbs rest

/-- The verbs with the arguments that they consume in order. -/
def asks (pieces : List Piece) (arguments : List Value) : List (Verb × Value) :=
  (verbs pieces).zip arguments

/-- The integer that an argument is: a signed or an unsigned one, or a floating-point number that is a
signed one of 64 bits. -/
inductive IsInteger : Value → Int → Prop where
  | int (n : Int64) : IsInteger (.int n) n.toInt
  | uint (n : UInt64) : IsInteger (.uint n) n.toNat
  | float {x : Binary64} {n : Int64} : x.fraction? = some (n.toInt : ℚ) →
    IsInteger (.float x) n.toInt

/-- A verb takes any argument, but a decimal one takes integers only. -/
def Takes (verb : Verb) (argument : Value) : Prop :=
  verb = .decimal → ∃ n, IsInteger argument n

/-- There are as many arguments as verbs, and each verb takes its own. -/
def Matches (pieces : List Piece) (arguments : List Value) : Prop :=
  -- The lengths are compared, as the pairs leave out what has no counterpart.
  (verbs pieces).length = arguments.length ∧ ∀ ask ∈ asks pieces arguments, Takes ask.1 ask.2

/-- The text that stands for an argument: the shown value, or the numeral of an integer. -/
inductive Shows : Verb → Value → List Char → Prop where
  | value (argument : Value) : Shows .value argument argument.display.toList
  | string (argument : Value) : Shows .string argument argument.display.toList
  | decimal {argument : Value} {n : Int} : IsInteger argument n →
    Shows .decimal argument (toString n).toList

/-- The pieces one after another, with the arguments put in. -/
inductive Renders : List Piece → List Value → List Char → Prop where
  | nil : Renders [] [] []
  | plain {pieces arguments text} (c : Char) (other : c ≠ '%') :
    Renders pieces arguments text → Renders (.plain c other :: pieces) arguments (c :: text)
  | percent {pieces arguments text} :
    Renders pieces arguments text → Renders (.percent :: pieces) arguments ('%' :: text)
  | verb {pieces arguments text verb argument shown} : Shows verb argument shown →
    Renders pieces arguments text →
    Renders (.verb verb :: pieces) (argument :: arguments) (shown ++ text)

/-- An integer for a decimal verb that is no signed one of 64 bits. -/
def Beyond (verb : Verb) (argument : Value) : Prop :=
  verb = .decimal ∧ ∃ n : UInt64, argument = .uint n ∧ 2 ^ 63 ≤ n.toNat

section Match

variable {pieces : List Piece} {arguments : List Value}

/-- A verb shows the arguments that it takes. -/
theorem exists_shows_iff {verb : Verb} {argument : Value} :
    (∃ text, Shows verb argument text) ↔ Takes verb argument := by
  constructor
  · rintro ⟨text, shows⟩ decimal
    -- Only the decimal verb asks something of its argument.
    cases shows with
    | decimal integer => exact ⟨_, integer⟩
    | _ => cases decimal
  · intro takes
    cases verb with
    | value => exact ⟨_, .value argument⟩
    | string => exact ⟨_, .string argument⟩
    | decimal =>
      obtain ⟨n, integer⟩ := takes rfl
      exact ⟨_, .decimal integer⟩

/-- A verb in front takes an argument, and the rest matches the others. -/
theorem matches_verb {verb : Verb} : Matches (.verb verb :: pieces) arguments ↔
    ∃ argument rest, arguments = argument :: rest ∧ Takes verb argument ∧ Matches pieces rest := by
  cases arguments with
  | nil =>
    -- There are more verbs than arguments.
    simp [Matches, verbs]
  | cons argument rest =>
    simp only [Matches, asks, verbs, List.length_cons, Nat.add_right_cancel_iff,
      List.zip_cons_cons, List.forall_mem_cons, List.cons.injEq, ↓existsAndEq, true_and]
    tauto

/-- Pieces can be put together with the arguments just if they match. -/
theorem exists_renders_iff : (∃ text, Renders pieces arguments text) ↔ Matches pieces arguments := by
  -- Only verbs consume arguments; in front of other pieces the match is that of the rest.
  induction pieces generalizing arguments with
  | nil =>
    rw [Matches, verbs, List.length_nil, eq_comm, List.length_eq_zero_iff]
    constructor
    · rintro ⟨_, ⟨⟩⟩
      simp [asks, verbs]
    · rintro ⟨rfl, -⟩
      exact ⟨[], .nil⟩
  | cons piece pieces ih =>
    cases piece with
    | plain c other =>
      refine Iff.trans ⟨?_, ?_⟩ ih
      · rintro ⟨_, inner⟩
        cases inner with
        | plain _ _ inner => exact ⟨_, inner⟩
      · rintro ⟨text, inner⟩
        exact ⟨_, .plain c other inner⟩
    | percent =>
      refine Iff.trans ⟨?_, ?_⟩ ih
      · rintro ⟨_, inner⟩
        cases inner with
        | percent inner => exact ⟨_, inner⟩
      · rintro ⟨text, inner⟩
        exact ⟨_, .percent inner⟩
    | verb verb =>
      rw [matches_verb]
      constructor
      · rintro ⟨_, inner⟩
        cases inner with
        | verb shows inner =>
          exact ⟨_, _, rfl, exists_shows_iff.1 ⟨_, shows⟩, ih.1 ⟨_, inner⟩⟩
      · rintro ⟨argument, rest, rfl, takes, matched⟩
        obtain ⟨shown, shows⟩ := exists_shows_iff.2 takes
        obtain ⟨text, inner⟩ := ih.2 matched
        exact ⟨_, .verb shows inner⟩

end Match

section Shown

variable {verb : Verb} {argument : Value} {text : List Char}

/-- An argument that is a signed integer of 64 bits is an integer. -/
theorem isInteger_of_toInt64? {value : Int64} (found : argument.toInt64? = some value) :
    IsInteger argument value.toInt := by
  -- Only numbers are read as integers, and each in its own way.
  cases argument with
  | int n =>
    obtain rfl := Option.some.inj found
    exact .int n
  | uint n => exact (int64?_eq_some.1 found) ▸ .uint n
  | float x => exact .float (Value.floatToInt?_eq_some.1 found)
  | _ => cases found

/-- An unsigned integer from two to the 63 on is refused for a decimal. -/
theorem shown_of_beyond {n : UInt64} (beyond : 2 ^ 63 ≤ n.toNat) :
    shown 'd' (.uint n) = .error (.expected "integer" (.uint n)) := by
  have none : (Value.uint n).toInt64? = none := by
    -- No signed word is that large.
    rw [Option.eq_none_iff_forall_ne_some]
    intro value found
    have same : value.toInt = n.toNat := int64?_eq_some.1 found
    have small := value.toInt_lt
    omega
  rw [shown, if_neg (by decide), if_pos rfl, none]

/-- An integer is shown for a decimal by its numeral, if it is a signed one of 64 bits. -/
theorem shown_of_isInteger {n : Int} (integer : IsInteger argument n)
    (within : ¬Beyond .decimal argument) : shown 'd' argument = .ok (toString n).toList := by
  have found : ∃ value, argument.toInt64? = some value ∧ value.toInt = n := by
    cases integer with
    | int n => exact ⟨n, rfl, rfl⟩
    | uint n =>
      -- Only an unsigned integer can be too large.
      have small : n.toNat < 2 ^ 63 := by
        by_contra large
        exact within ⟨rfl, n, rfl, Nat.le_of_not_lt large⟩
      obtain ⟨value, same⟩ : IsInt64 n.toNat := by
        rw [isInt64_iff]
        omega
      exact ⟨value, int64?_eq_some.2 same, same⟩
    | float same => exact ⟨_, Value.floatToInt?_eq_some.2 same, rfl⟩
  obtain ⟨value, found, rfl⟩ := found
  rw [shown, if_neg (by decide), if_pos rfl, found]

/-- What a verb shows stands for the argument, unless it is an integer beyond 64 signed bits. -/
theorem shown_of_shows (shows : Shows verb argument text) (within : ¬Beyond verb argument) :
    shown verb.letter argument = .ok text := by
  cases shows with
  | value => rfl
  | string => rfl
  | decimal integer => exact shown_of_isInteger integer within

/-- Only the letters of verbs show something, and they show what stands for the argument. -/
theorem of_shown_eq_ok {letter : Char} (given : shown letter argument = .ok text) :
    ∃ verb : Verb, verb.letter = letter ∧ Shows verb argument text := by
  unfold shown at given
  split at given
  next any =>
    -- The letters are told apart in the order in which they are tried.
    obtain rfl := Except.ok.inj given
    obtain rfl | rfl := any
    · exact ⟨.value, rfl, .value argument⟩
    · exact ⟨.string, rfl, .string argument⟩
  next =>
    split at given
    next decimal =>
      split at given
      next value found =>
        obtain rfl := Except.ok.inj given
        exact ⟨.decimal, decimal.symm, .decimal (isInteger_of_toInt64? found)⟩
      next => cases given
    next => cases given

end Shown

section Fill

variable {consumed : Nat} {rest : List Char} {arguments : List Value} {pieces : List Piece}
  {text : List Char}

/-- A character that stands for itself is taken over. -/
theorem fillFrom_plain {c : Char} (other : c ≠ '%') : fillFrom consumed (c :: rest) arguments =
    fillFrom consumed rest arguments >>= fun text => .ok (c :: text) := by
  rw [fillFrom]
  · rfl
  · exact fun alone _ => other alone
  · exact fun _ _ verb _ => other verb

/-- Two percent signs are one. -/
theorem fillFrom_percent : fillFrom consumed ('%' :: '%' :: rest) arguments =
    fillFrom consumed rest arguments >>= fun text => .ok ('%' :: text) := by
  cases arguments <;> rfl

/-- A verb consumes an argument and shows it. -/
theorem fillFrom_verb {letter : Char} (other : letter ≠ '%') {argument : Value} :
    fillFrom consumed ('%' :: letter :: rest) (argument :: arguments) =
      shown letter argument >>= fun shown =>
        fillFrom (consumed + 1) rest arguments >>= fun text => .ok (shown ++ text) := by
  rw [fillFrom, if_neg other]
  rfl

/-- The letter of a verb is no percent sign. -/
theorem Verb.letter_ne (verb : Verb) : verb.letter ≠ '%' := by
  cases verb <;> decide

/-- A template is filled with the arguments put in between its pieces, if none is beyond the signed
integers. -/
theorem fillFrom_of_renders (consumed : Nat) (renders : Renders pieces arguments text)
    (within : ∀ ask ∈ asks pieces arguments, ¬Beyond ask.1 ask.2) :
    fillFrom consumed (spelled pieces) arguments = .ok text := by
  -- One piece after another is read from the template and adds its part of the text.
  induction renders generalizing consumed with
  | nil => rfl
  | plain c other inner ih =>
    have filled := ih consumed within
    rw [spelled_plain, fillFrom_plain other, filled]
    rfl
  | percent inner ih =>
    have filled := ih consumed within
    rw [spelled_percent, fillFrom_percent, filled]
    rfl
  | verb shows inner ih =>
    obtain ⟨first, later⟩ := List.forall_mem_cons.1 within
    have filled := ih (consumed + 1) later
    rw [spelled_verb, fillFrom_verb (Verb.letter_ne _), shown_of_shows shows first, filled]
    rfl

/-- Among arguments that match, the first one beyond the signed integers is refused. -/
theorem fillFrom_of_beyond (consumed : Nat) (renders : Renders pieces arguments text)
    (beyond : ∃ ask ∈ asks pieces arguments, Beyond ask.1 ask.2) :
    ∃ n : UInt64, .uint n ∈ arguments ∧ 2 ^ 63 ≤ n.toNat ∧
      fillFrom consumed (spelled pieces) arguments = .error (.expected "integer" (.uint n)) := by
  induction renders generalizing consumed with
  | nil => simp [asks, verbs] at beyond
  | plain c other inner ih =>
    obtain ⟨n, among, large, refused⟩ := ih consumed beyond
    exact ⟨n, among, large, by rw [spelled_plain, fillFrom_plain other, refused]; rfl⟩
  | percent inner ih =>
    obtain ⟨n, among, large, refused⟩ := ih consumed beyond
    exact ⟨n, among, large, by rw [spelled_percent, fillFrom_percent, refused]; rfl⟩
  | @verb pieces arguments text verb argument shown shows inner ih =>
    -- Either this verb is the one that refuses its argument, or a later one is.
    by_cases first : Beyond verb argument
    · obtain ⟨rfl, n, rfl, large⟩ := first
      refine ⟨n, List.mem_cons_self, large, ?_⟩
      rw [spelled_verb, fillFrom_verb (Verb.letter_ne _), Verb.letter, shown_of_beyond large]
      rfl
    · obtain ⟨ask, among, late⟩ := beyond
      have later : ask ∈ asks pieces arguments := by
        obtain rfl | later := List.mem_cons.1 among
        · exact absurd late first
        · exact later
      obtain ⟨n, among, large, refused⟩ := ih (consumed + 1) ⟨ask, later, late⟩
      refine ⟨n, List.mem_cons_of_mem _ among, large, ?_⟩
      rw [spelled_verb, fillFrom_verb (Verb.letter_ne _), shown_of_shows shows first, refused]
      rfl

/-- What is filled is a sequence of pieces, with the arguments put in. -/
theorem of_fillFrom_eq_ok {template : List Char}
    (filled : fillFrom consumed template arguments = .ok text) :
    ∃ pieces, spelled pieces = template ∧ Renders pieces arguments text := by
  -- Each way to go on in the template is behind one kind of piece.
  induction consumed, template, arguments using fillFrom.induct generalizing text with
  | case1 consumed arguments none =>
    obtain rfl := List.isEmpty_iff.1 none
    obtain rfl := Except.ok.inj filled
    exact ⟨[], rfl, .nil⟩
  | case2 consumed arguments some =>
    simp [fillFrom, some] at filled
  | case3 consumed arguments => cases filled
  | case4 consumed rest arguments ih =>
    rw [fillFrom_percent] at filled
    obtain ⟨text, inner, same⟩ := Outcome.of_bind_eq_ok filled
    obtain rfl := Except.ok.inj same
    obtain ⟨pieces, rfl, renders⟩ := ih inner
    exact ⟨.percent :: pieces, rfl, .percent renders⟩
  | case5 consumed verb rest other => simp [fillFrom, other] at filled
  | case6 consumed letter rest other argument arguments ih =>
    rw [fillFrom_verb other] at filled
    obtain ⟨shown, first, filled⟩ := Outcome.of_bind_eq_ok filled
    obtain ⟨text, inner, same⟩ := Outcome.of_bind_eq_ok filled
    obtain rfl := Except.ok.inj same
    obtain ⟨verb, rfl, shows⟩ := of_shown_eq_ok first
    obtain ⟨pieces, rfl, renders⟩ := ih inner
    exact ⟨.verb verb :: pieces, rfl, .verb shows renders⟩
  | case7 consumed c rest arguments alone verb ih =>
    have other : c ≠ '%' := by
      rintro rfl
      cases rest with
      | nil => exact alone rfl rfl
      | cons letter rest => exact verb letter rest rfl rfl
    rw [fillFrom_plain other] at filled
    obtain ⟨text, inner, same⟩ := Outcome.of_bind_eq_ok filled
    obtain rfl := Except.ok.inj same
    obtain ⟨pieces, rfl, renders⟩ := ih inner
    exact ⟨.plain c other :: pieces, rfl, .plain c other renders⟩

end Fill

/-- A template is taken just if its pieces match the arguments, and is filled with the arguments put in
between them. -/
structure Formats (template : String) (arguments : List Value) : Prop where
  success : (∃ result, fill template arguments = .ok result) ↔
    ∃ pieces, spelled pieces = template.toList ∧ Matches pieces arguments
  result : ∀ pieces text, spelled pieces = template.toList → Renders pieces arguments text →
    fill template arguments = .ok (String.ofList text)

/-- The arguments match a template that asks for one of them as a decimal, which is an integer beyond
the signed ones. -/
def AsksBeyond (template : String) (arguments : List Value) : Prop :=
  ∃ pieces, spelled pieces = template.toList ∧ Matches pieces arguments ∧
    ∃ ask ∈ asks pieces arguments, Beyond ask.1 ask.2

/-- A text with each percent sign twice. -/
def doubled (text : List Char) : List Char :=
  text.flatMap fun c => if c = '%' then ['%', '%'] else [c]

section Format

variable {template : String} {arguments : List Value}

/-- Where an integer beyond the signed ones is asked for, it is refused. -/
theorem fill_of_asksBeyond (asked : AsksBeyond template arguments) :
    ∃ n : UInt64, .uint n ∈ arguments ∧ 2 ^ 63 ≤ n.toNat ∧
      fill template arguments = .error (.expected "integer" (.uint n)) := by
  obtain ⟨pieces, same, matched, beyond⟩ := asked
  obtain ⟨text, renders⟩ := exists_renders_iff.2 matched
  obtain ⟨n, among, large, refused⟩ := fillFrom_of_beyond 0 renders beyond
  exact ⟨n, among, large, by rw [fill, ← same, refused]; rfl⟩

/-- Where none is asked for, a template is formatted. -/
theorem formats_of_not_asksBeyond (within : ¬AsksBeyond template arguments) :
    Formats template arguments := by
  -- A sequence of pieces that can be put together is put together by the program.
  have filled (pieces : List Piece) (text : List Char) (same : spelled pieces = template.toList)
      (renders : Renders pieces arguments text) :
      fill template arguments = .ok (String.ofList text) := by
    have matched := exists_renders_iff.1 ⟨text, renders⟩
    have signed : ∀ ask ∈ asks pieces arguments, ¬Beyond ask.1 ask.2 :=
      fun ask among beyond => within ⟨pieces, same, matched, ask, among, beyond⟩
    rw [fill, ← same, fillFrom_of_renders 0 renders signed]
    rfl
  refine ⟨⟨?_, ?_⟩, filled⟩
  · rintro ⟨result, given⟩
    cases inner : fillFrom 0 template.toList arguments with
    | error error => simp [fill, inner, Except.map] at given
    | ok text =>
      obtain ⟨pieces, same, renders⟩ := of_fillFrom_eq_ok inner
      exact ⟨pieces, same, exists_renders_iff.1 ⟨text, renders⟩⟩
  · rintro ⟨pieces, same, matched⟩
    obtain ⟨text, renders⟩ := exists_renders_iff.2 matched
    exact ⟨_, filled pieces text same renders⟩

/-- A template that asks for such an integer is not formatted, as matching arguments are refused. -/
theorem not_formats_of_asksBeyond (asked : AsksBeyond template arguments) :
    ¬Formats template arguments := by
  -- Its pieces match, so it would have a result instead of an error.
  intro formats
  obtain ⟨n, -, -, refused⟩ := fill_of_asksBeyond asked
  obtain ⟨pieces, same, matched, -⟩ := asked
  obtain ⟨result, given⟩ := formats.success.2 ⟨pieces, same, matched⟩
  rw [refused] at given
  cases given

/-- What has its percent signs doubled is filled with itself. -/
theorem fillFrom_doubled (consumed : Nat) (text : List Char) :
    fillFrom consumed (doubled text) [] = .ok text := by
  -- No verb is left, so no argument is asked for.
  induction text with
  | nil => rfl
  | cons c text ih =>
    rw [doubled] at ih
    rw [doubled, List.flatMap_cons]
    by_cases percent : c = '%'
    · rw [percent, if_pos rfl, List.cons_append, List.singleton_append, fillFrom_percent, ih]
      rfl
    · rw [if_neg percent, List.singleton_append, fillFrom_plain percent, ih]
      rfl

/-- A text is what its doubled percent signs stand for. -/
theorem fill_doubled (text : String) : fill (String.ofList (doubled text.toList)) [] = .ok text := by
  rw [fill, String.toList_ofList, fillFrom_doubled, Except.map, String.ofList_toList]

end Format

/-- A template is formatted just if no decimal verb asks for an argument that is an unsigned integer
from two to the 63 on: it is taken just if its pieces match the arguments, and filled with the
arguments put in. Otherwise such an argument is refused as no integer. Any text is what its doubled
percent signs stand for, without arguments. -/
theorem formats_iff (template : String) (arguments : List Value) :
    (Formats template arguments ↔ ¬AsksBeyond template arguments) ∧
    (AsksBeyond template arguments → ∃ n : UInt64, .uint n ∈ arguments ∧ 2 ^ 63 ≤ n.toNat ∧
      fill template arguments = .error (.expected "integer" (.uint n))) ∧
    fill (String.ofList (doubled template.toList)) [] = .ok template :=
  ⟨⟨fun formats asked => not_formats_of_asksBeyond asked formats, formats_of_not_asksBeyond⟩,
    fill_of_asksBeyond, fill_doubled template⟩

/-- The least unsigned integer that is no signed one is asked for by a decimal verb. -/
theorem asksBeyond_limit : AsksBeyond "%d" [.uint 0x8000000000000000] := by
  refine ⟨[.verb .decimal], rfl, ⟨rfl, ?_⟩, (.decimal, .uint 0x8000000000000000), ?_, rfl, _, rfl, ?_⟩
  · intro ask among decimal
    obtain rfl := List.mem_singleton.1 among
    exact ⟨_, .uint _⟩
  · exact List.mem_singleton_self _
  · decide

/-- The least unsigned integer that is no signed one is refused for a decimal. -/
theorem formats_iff_limit : AsksBeyond "%d" [.uint 0x8000000000000000] ∧
    ¬Formats "%d" [.uint 0x8000000000000000] ∧
    ∃ n : UInt64, Value.uint n ∈ [Value.uint 0x8000000000000000] ∧ 2 ^ 63 ≤ n.toNat ∧
      fill "%d" [.uint 0x8000000000000000] = .error (.expected "integer" (.uint n)) :=
  ⟨asksBeyond_limit, fun formats => (formats_iff _ _).1.1 formats asksBeyond_limit,
    (formats_iff _ _).2.1 asksBeyond_limit⟩

/-- Not every template is formatted whose pieces match the arguments. -/
theorem not_formats : ¬∀ (template : String) (arguments : List Value), Formats template arguments :=
  fun formats => not_formats_of_asksBeyond asksBeyond_limit (formats _ _)

end Reshape.Template
