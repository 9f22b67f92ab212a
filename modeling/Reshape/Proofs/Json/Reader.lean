import Reshape.Json.Reader

/-!
What reading JSON does: each step uses up some of the text, and whatever it completes is nested no
deeper than the limit. Numbers are whole ones of 64 bits or finite, and a string is shorter than the
text it is read from.
-/

namespace Reshape.Json

/-- A tree without items and members, with what a text of a number of code points can hold: whole
numbers have 64 bits, other numbers are finite, and a string has two quotes around it. -/
inductive Scalar : Json → Nat → Prop where
  | null (size : Nat) : Scalar .null size
  | bool (value : Bool) (size : Nat) : Scalar (.bool value) size
  | integer {value : Int} (least : -0x8000000000000000 ≤ value)
      (greatest : value < 0x10000000000000000) (size : Nat) : Scalar (.integer value) size
  | float {x : Binary64} (finite : x.isFinite = true) (size : Nat) : Scalar (.float x) size
  | string {text : String} {size : Nat} (quoted : text.length + 2 ≤ size) :
      Scalar (.string text) size

/-- A string has no more code points than the text between its quotes. -/
theorem length_of_stringBody {done text rest : List Char} {result : String}
    (read : stringBody done text = some (result, rest)) :
    result.length + rest.length + 1 ≤ done.length + text.length := by
  -- Whatever is read on stands for one code point, and takes at least one.
  fun_induction stringBody done text with
  | case2 =>
    obtain ⟨rfl, rfl⟩ := Prod.mk.inj (Option.some.inj read)
    simp only [String.length_ofList, List.length_reverse, List.length_cons]
    omega
  | case4 | case8 | case11 | case12 | case15 =>
    rename_i ih
    have shorter := ih read
    simp only [List.length_cons] at shorter ⊢
    omega
  | _ => cases read

/-- An exponent ends no further than its text. -/
theorem length_of_exponentDigits {text rest : List Char} {exponent : Int}
    (read : exponentDigits text = some (exponent, rest)) : rest.length ≤ text.length := by
  unfold exponentDigits at read
  simp only at read
  split at read
  · cases read
  · obtain ⟨-, rfl⟩ := Prod.mk.inj (Option.some.inj read)
    -- A sign is passed at the most, and then the digits.
    have dropped := (List.dropWhile_suffix Char.isDigit (l := (Numeral.signed text).2)).length_le
    have signed : (Numeral.signed text).2.length ≤ text.length := by
      unfold Numeral.signed
      split <;> simp
    omega

/-- Whole digits are a scalar, or a floating-point number. -/
theorem scalar_of_wholeNumber (negative : Bool) (digits : List Char) :
    (∃ x, wholeNumber negative digits = .float x) ∨
      ∀ size, Scalar (wholeNumber negative digits) size := by
  unfold wholeNumber
  simp only
  generalize (if negative = true then -(Numeral.accumulate 0 digits : Int)
    else Numeral.accumulate 0 digits) = value
  -- Minus zero and what does not fit 64 bits are floating-point numbers.
  by_cases zero : (negative && Numeral.accumulate 0 digits == 0) = true
  · rw [if_pos zero]
    exact .inl ⟨_, rfl⟩
  · rw [if_neg zero]
    by_cases bounds : -0x8000000000000000 ≤ value ∧ value < 0x10000000000000000
    · rw [if_pos bounds]
      exact .inr fun size => .integer bounds.1 bounds.2 size
    · rw [if_neg bounds]
      exact .inl ⟨_, rfl⟩

/-- A fraction ends no further than its text. -/
theorem length_of_fractionPart {text rest fraction : List Char} {pointed : Bool}
    (read : fractionPart text = some (fraction, rest, pointed)) : rest.length ≤ text.length := by
  unfold fractionPart at read
  -- A point is passed with the digits behind it, or nothing is.
  split at read
  next inner =>
    simp only at read
    split at read
    · cases read
    · obtain ⟨-, rfl, -⟩ := by simpa using read
      have dropped := (List.dropWhile_suffix Char.isDigit (l := inner)).length_le
      simp only [List.length_cons]
      omega
  next =>
    obtain ⟨-, rfl, -⟩ := by simpa using read
    exact Nat.le_refl _

/-- An exponent with its mark ends no further than its text. -/
theorem length_of_exponentPart {text rest : List Char} {exponent : Int} {raised : Bool}
    (read : exponentPart text = some (exponent, rest, raised)) : rest.length ≤ text.length := by
  -- A mark is passed with the exponent behind it, or nothing is.
  unfold exponentPart at read
  split at read
  · obtain ⟨-, rfl, -⟩ := by simpa using read
    exact Nat.le_refl _
  next c inner =>
    split at read
    · obtain ⟨⟨given, after⟩, digits, same⟩ := Option.map_eq_some_iff.1 read
      obtain ⟨-, rfl, -⟩ := by simpa using same
      have shorter := length_of_exponentDigits digits
      simp only [List.length_cons]
      omega
    · obtain ⟨-, rfl, -⟩ := by simpa using read
      exact Nat.le_refl _

/-- A number is a scalar, and its tail ends no further than its text. -/
theorem scalar_of_numberTail {negative : Bool} {whole text rest : List Char} {json : Json}
    (read : numberTail negative whole text = some (json, rest)) :
    rest.length ≤ text.length ∧ ∀ size, Scalar json size := by
  unfold numberTail at read
  -- The fraction is read first, and the exponent behind it.
  obtain ⟨⟨fraction, text', pointed⟩, first, read⟩ := Option.bind_eq_some_iff.1 read
  obtain ⟨⟨exponent, text'', raised⟩, second, read⟩ := Option.bind_eq_some_iff.1 read
  have shorter := Nat.le_trans (length_of_exponentPart second) (length_of_fractionPart first)
  -- A point or an exponent makes a floating-point number of any digits.
  have scalar : (∃ x, (if (pointed || raised) = true then
      .float ((Numeral.clipped whole fraction exponent).scaled negative)
      else wholeNumber negative whole) = Json.float x) ∨
        ∀ size, Scalar (if (pointed || raised) = true then
          .float ((Numeral.clipped whole fraction exponent).scaled negative)
          else wholeNumber negative whole) size := by
    split
    · exact .inl ⟨_, rfl⟩
    · exact scalar_of_wholeNumber negative whole
  simp only at read
  generalize (if (pointed || raised) = true then
    .float ((Numeral.clipped whole fraction exponent).scaled negative)
    else wholeNumber negative whole) = number at read scalar
  split at read
  next x =>
    split at read
    next finite =>
      obtain ⟨rfl, rfl⟩ := by simpa using read
      exact ⟨shorter, fun size => .float finite size⟩
    next => cases read
  next other distinct =>
    obtain ⟨rfl, rfl⟩ := by simpa using read
    rcases scalar with ⟨x, rfl⟩ | scalar
    · exact absurd rfl (distinct x)
    · exact ⟨shorter, scalar⟩

/-- A number is a scalar, and has at least one code point. -/
theorem scalar_of_number {negative : Bool} {text rest : List Char} {json : Json}
    (read : number negative text = some (json, rest)) :
    rest.length < text.length ∧ ∀ size, Scalar json size := by
  unfold number at read
  split at read
  next after =>
    have tail : numberTail negative ['0'] after = some (json, rest) := by
      split at read
      · split at read
        · cases read
        · exact read
      · exact read
    obtain ⟨shorter, scalar⟩ := scalar_of_numberTail tail
    exact ⟨by simpa using Nat.lt_succ_of_le shorter, scalar⟩
  next =>
    simp only at read
    split at read
    next => cases read
    next digits =>
      obtain ⟨shorter, scalar⟩ := scalar_of_numberTail read
      -- The whole digits are not part of what is left.
      have split := congrArg List.length
        (List.takeWhile_append_dropWhile (p := Char.isDigit) (l := text))
      rw [List.length_append] at split
      have positive : 0 < (text.takeWhile Char.isDigit).length := by
        simpa [List.length_pos_iff] using digits
      exact ⟨by omega, scalar⟩

namespace Reading

/-- What one step of reading does to what is expected and to what is open. The text that it leaves
is shorter. -/
inductive Step (limit : Nat) : Reading → Reading → Prop where
  /-- A value without items and members is complete. -/
  | scalar {mayClose : Bool} {opened : List Frame} {text rest : List Char} {json : Json}
      (shorter : rest.length < text.length) (scalar : Scalar json (text.length - rest.length)) :
      Step limit ⟨.value mayClose, opened, text⟩ ⟨.continuation json, opened, rest⟩
  | openArray {mayClose : Bool} {opened : List Frame} {text rest : List Char}
      (shorter : rest.length < text.length) (below : opened.length < limit) :
      Step limit ⟨.value mayClose, opened, text⟩ ⟨.value true, .items [] :: opened, rest⟩
  | closeArray {outer : List Frame} {done : List Json} {text rest : List Char}
      (shorter : rest.length < text.length) :
      Step limit ⟨.value true, .items done :: outer, text⟩
        ⟨.continuation (.array done.reverse), outer, rest⟩
  | openObject {mayClose : Bool} {opened : List Frame} {text rest : List Char}
      (shorter : rest.length < text.length) (below : opened.length < limit) :
      Step limit ⟨.value mayClose, opened, text⟩ ⟨.name [] true, opened, rest⟩
  | closeObject {opened : List Frame} {done : List (String × Json)} {text rest : List Char}
      (shorter : rest.length < text.length) :
      Step limit ⟨.name done true, opened, text⟩
        ⟨.continuation (.object done.reverse), opened, rest⟩
  | name {mayClose : Bool} {opened : List Frame} {done : List (String × Json)} {name : String}
      {text rest : List Char} (shorter : rest.length < text.length) :
      Step limit ⟨.name done mayClose, opened, text⟩
        ⟨.value false, .members done name :: opened, rest⟩
  | item {outer : List Frame} {done : List Json} {json : Json} {text rest : List Char}
      (shorter : rest.length < text.length) :
      Step limit ⟨.continuation json, .items done :: outer, text⟩
        ⟨.value false, .items (json :: done) :: outer, rest⟩
  | lastItem {outer : List Frame} {done : List Json} {json : Json} {text rest : List Char}
      (shorter : rest.length < text.length) :
      Step limit ⟨.continuation json, .items done :: outer, text⟩
        ⟨.continuation (.array (json :: done).reverse), outer, rest⟩
  | member {outer : List Frame} {done : List (String × Json)} {name : String} {json : Json}
      {text rest : List Char} (shorter : rest.length < text.length) :
      Step limit ⟨.continuation json, .members done name :: outer, text⟩
        ⟨.name ((name, json) :: done) false, outer, rest⟩
  | lastMember {outer : List Frame} {done : List (String × Json)} {name : String} {json : Json}
      {text rest : List Char} (shorter : rest.length < text.length) :
      Step limit ⟨.continuation json, .members done name :: outer, text⟩
        ⟨.continuation (.object ((name, json) :: done).reverse), outer, rest⟩

/-- White space is used up. -/
theorem length_skipSpace_le (text : List Char) : (skipSpace text).length ≤ text.length :=
  (List.dropWhile_suffix isSpace).length_le

/-- Reading takes no other steps. -/
theorem step_of_eq {limit : Nat} {state next : Reading} (stepped : state.step limit = some next) :
    Step limit state next := by
  obtain ⟨expecting, opened, whole⟩ := state
  have skipped := length_skipSpace_le whole
  unfold step at stepped
  simp only at stepped
  generalize skipSpace whole = text at skipped stepped
  split at stepped
  next mayClose rest =>
    -- An array ends where it has begun only behind its bracket.
    split at stepped
    next =>
      obtain rfl := Option.some.inj stepped
      exact .closeArray (by simp at skipped; omega)
    next => cases stepped
  next mayClose rest =>
    split at stepped
    next below =>
      obtain rfl := Option.some.inj stepped
      exact .openArray (by simp at skipped; omega) below
    next => cases stepped
  next mayClose rest =>
    split at stepped
    next below =>
      obtain rfl := Option.some.inj stepped
      exact .openObject (by simp at skipped; omega) below
    next => cases stepped
  next mayClose rest =>
    obtain ⟨⟨text, after⟩, body, rfl⟩ := Option.map_eq_some_iff.1 stepped
    have length := length_of_stringBody body
    simp only [List.length_nil, List.length_cons] at length skipped
    have shorter : after.length < whole.length := by omega
    have quoted : text.length + 2 ≤ whole.length - after.length := by omega
    exact .scalar shorter (.string quoted)
  next mayClose rest =>
    obtain rfl := Option.some.inj stepped
    exact .scalar (by simp at skipped; omega) (.null _)
  next mayClose rest =>
    obtain rfl := Option.some.inj stepped
    exact .scalar (by simp at skipped; omega) (.bool _ _)
  next mayClose rest =>
    obtain rfl := Option.some.inj stepped
    exact .scalar (by simp at skipped; omega) (.bool _ _)
  next mayClose rest =>
    obtain ⟨⟨json, after⟩, read, rfl⟩ := Option.map_eq_some_iff.1 stepped
    obtain ⟨shorter, scalar⟩ := scalar_of_number read
    exact .scalar (by simp at skipped ⊢; omega) (scalar _)
  next =>
    obtain ⟨⟨json, after⟩, read, rfl⟩ := Option.map_eq_some_iff.1 stepped
    obtain ⟨shorter, scalar⟩ := scalar_of_number read
    exact .scalar (by simp; omega) (scalar _)
  next done mayClose rest =>
    split at stepped
    next may =>
      obtain rfl := Option.some.inj stepped
      subst may
      exact .closeObject (by simp at skipped; omega)
    next => cases stepped
  next done mayClose rest =>
    split at stepped
    next => cases stepped
    next name after body =>
      have length := length_of_stringBody body
      have skipped' := length_skipSpace_le after
      split at stepped
      next behind same =>
        obtain rfl := Option.some.inj stepped
        refine .name ?_
        simp at length skipped
        simp [same] at skipped'
        omega
      next => cases stepped
  next => cases stepped
  next json =>
    split at stepped
    next rest =>
      obtain rfl := Option.some.inj stepped
      exact .item (by simp at skipped; omega)
    next rest =>
      obtain rfl := Option.some.inj stepped
      exact .lastItem (by simp at skipped; omega)
    next rest =>
      obtain rfl := Option.some.inj stepped
      exact .member (by simp at skipped; omega)
    next rest =>
      obtain rfl := Option.some.inj stepped
      exact .lastMember (by simp at skipped; omega)
    next => cases stepped

/-- Each step leaves a shorter text. -/
theorem Step.length_lt {limit : Nat} {state next : Reading} (step : Step limit state next) :
    next.text.length < state.text.length := by
  cases step <;> assumption

end Reading

/-- A tree is nested at most so deep, and has only scalars that a text can hold. -/
inductive Within : Nat → Json → Prop where
  | scalar {depth size : Nat} {json : Json} (scalar : Scalar json size) : Within depth json
  | array {depth : Nat} {items : List Json} (each : ∀ item ∈ items, Within depth item) :
      Within (depth + 1) (.array items)
  | object {depth : Nat} {members : List (String × Json)}
      (each : ∀ member ∈ members, Within depth member.2) : Within (depth + 1) (.object members)

/-- What an open array or object has so far is nested at most so deep. -/
def Frame.Within (depth : Nat) : Frame → Prop
  | .items done => ∀ item ∈ done, Json.Within depth item
  | .members done _ => ∀ member ∈ done, Json.Within depth member.2

/-- No more arrays and objects are open than the limit allows, and what they have so far is nested
as deep as what is open around them leaves room for. -/
def Nested (limit : Nat) : List Frame → Prop
  | [] => True
  | frame :: outer =>
    outer.length < limit ∧ frame.Within (limit - (outer.length + 1)) ∧ Nested limit outer

/-- What was read last is nested as deep as what is open around it leaves room for. -/
def Expecting.Within (limit opened : Nat) : Expecting → Prop
  | .value _ => True
  | .name done _ => opened < limit ∧ ∀ member ∈ done, Json.Within (limit - (opened + 1)) member.2
  | .continuation json => Json.Within (limit - opened) json

/-- All that a state of reading has read is nested no deeper than the limit. -/
structure Reading.Keeps (limit : Nat) (state : Reading) : Prop where
  opened : Nested limit state.opened
  expecting : state.expecting.Within limit state.opened.length

namespace Reading

variable {limit : Nat} {state next : Reading}

/-- Inside one more array or object there is room for one level less. -/
theorem room_of_lt {opened : Nat} (below : opened < limit) :
    limit - opened = limit - (opened + 1) + 1 := by
  omega

/-- An array of items that are nested less deep is nested no deeper than its place allows. -/
theorem within_array {opened : Nat} {items : List Json} (below : opened < limit)
    (each : ∀ item ∈ items, Json.Within (limit - (opened + 1)) item) :
    Json.Within (limit - opened) (.array items) :=
  room_of_lt below ▸ .array each

/-- An object of members that are nested less deep is nested no deeper than its place allows. -/
theorem within_object {opened : Nat} {members : List (String × Json)} (below : opened < limit)
    (each : ∀ member ∈ members, Json.Within (limit - (opened + 1)) member.2) :
    Json.Within (limit - opened) (.object members) :=
  room_of_lt below ▸ .object each

/-- A step reads nothing that is nested deeper than the limit. -/
theorem Step.keeps (step : Step limit state next) (before : state.Keeps limit) :
    next.Keeps limit := by
  -- Only opening goes deeper, and it asks for the limit; what is closed was within it all along.
  obtain ⟨nested, expecting⟩ := before
  cases step with
  | scalar _ scalar => exact ⟨nested, .scalar scalar⟩
  | openArray _ below => exact ⟨⟨below, by simp [Frame.Within], nested⟩, trivial⟩
  | closeArray _ =>
    obtain ⟨below, done, nested⟩ := nested
    exact ⟨nested, within_array below fun item member => done item (List.mem_reverse.1 member)⟩
  | openObject _ below => exact ⟨nested, below, by simp⟩
  | closeObject _ =>
    obtain ⟨below, done⟩ := expecting
    exact ⟨nested, within_object below fun item member => done item (List.mem_reverse.1 member)⟩
  | name _ => exact ⟨⟨expecting.1, expecting.2, nested⟩, trivial⟩
  | @item outer done json =>
    obtain ⟨below, done, nested⟩ := nested
    exact ⟨⟨below, List.forall_mem_cons.2 ⟨expecting, done⟩, nested⟩, trivial⟩
  | @lastItem outer items json =>
    obtain ⟨below, done, nested⟩ := nested
    have each : ∀ item ∈ json :: items, Json.Within (limit - (outer.length + 1)) item :=
      List.forall_mem_cons.2 ⟨expecting, done⟩
    exact ⟨nested, within_array below fun item member => each item (List.mem_reverse.1 member)⟩
  | member _ =>
    obtain ⟨below, done, nested⟩ := nested
    exact ⟨nested, below, List.forall_mem_cons.2 ⟨expecting, done⟩⟩
  | @lastMember outer members name json =>
    obtain ⟨below, done, nested⟩ := nested
    have each : ∀ member ∈ (name, json) :: members,
        Json.Within (limit - (outer.length + 1)) member.2 :=
      List.forall_mem_cons.2 ⟨expecting, done⟩
    exact ⟨nested, within_object below fun item member => each item (List.mem_reverse.1 member)⟩

/-- A state of reading a text of some length has no more text left, and a string that was read last
is shorter than the text by its quotes. -/
structure Fits (length : Nat) (state : Reading) : Prop where
  text : state.text.length ≤ length
  string : ∀ string, state.expecting = .continuation (.string string) → string.length + 2 ≤ length

/-- A step reads no string that does not fit into the text. -/
theorem Step.fits {length : Nat} (step : Step limit state next) (before : state.Fits length) :
    next.Fits length := by
  have within := before.text
  refine ⟨Nat.le_trans (Nat.le_of_lt step.length_lt) within, fun string expecting => ?_⟩
  -- Only a step that reads a scalar completes a string.
  cases step with
  | scalar _ scalar =>
    obtain rfl : _ = Json.string string := by simpa using expecting
    cases scalar with
    | string quoted =>
      simp only at within
      omega
  | _ => simp at expecting

/-- What every step keeps holds of the state that a run ends in. -/
theorem of_run {holds : Reading → Prop} {steps : Nat} {json : Json}
    (kept : ∀ state next, Step limit state next → holds state → holds next) (start : holds state)
    (read : run limit steps state = some json) : ∃ rest, holds ⟨.continuation json, [], rest⟩ := by
  -- The run ends in a state with a value and nothing open, or goes on by one step.
  induction steps generalizing state with
  | zero => cases read
  | succ steps ih =>
    unfold run at read
    split at read
    next value expecting opened _ =>
      obtain rfl := Option.some.inj read
      obtain ⟨_, _, rest⟩ := state
      cases expecting
      cases opened
      exact ⟨rest, start⟩
    next =>
      obtain ⟨next, stepped, read⟩ := Option.bind_eq_some_iff.1 read
      exact ih (kept state next (step_of_eq stepped) start) read

/-- The number of steps does not matter if there are more of them than code points, since each step
takes some of the text. -/
theorem run_eq_run {steps steps' : Nat} (enough : state.text.length < steps)
    (enough' : state.text.length < steps') : run limit steps state = run limit steps' state := by
  -- Each step leaves a shorter text, so both counts of steps stay above its length.
  induction steps generalizing state steps' with
  | zero => omega
  | succ steps ih =>
    obtain ⟨steps', rfl⟩ := Nat.exists_eq_succ_of_ne_zero (Nat.ne_zero_of_lt enough')
    unfold run
    split
    next => rfl
    next =>
      cases stepped : state.step limit with
      | none => rfl
      | some next =>
        have shorter := (step_of_eq stepped).length_lt
        exact ih (by omega) (by omega)

/-- What reading comes to in the end: the tree if there is one. -/
def outcome (limit : Nat) (state : Reading) : Option Json :=
  run limit (state.text.length + 1) state

/-- A run with enough steps comes to the outcome. -/
theorem run_eq_outcome {steps : Nat} (enough : state.text.length < steps) :
    run limit steps state = outcome limit state :=
  run_eq_run enough (Nat.lt_succ_self _)

/-- Where a value or a name is expected, the next step decides the outcome. -/
theorem outcome_eq_bind (expects : ∀ json, state.expecting ≠ .continuation json) :
    outcome limit state = (state.step limit).bind (outcome limit) := by
  unfold outcome run
  -- A state that is complete already makes no step, which is excluded here.
  split
  next json complete _ _ => exact absurd complete (expects json)
  next =>
    cases stepped : state.step limit with
    | none => rfl
    | some next => exact run_eq_outcome (step_of_eq stepped).length_lt

/-- A step keeps the outcome. -/
theorem outcome_of_step (stepped : state.step limit = some next) :
    outcome limit state = outcome limit next := by
  have shorter := (step_of_eq stepped).length_lt
  unfold outcome
  rw [run]
  split
  next value expecting opened text =>
    -- No step is possible where reading ends.
    simp [step, expecting, opened, text] at stepped
  next =>
    rw [stepped, Option.bind_some]
    exact run_eq_run shorter (Nat.lt_succ_self _)

end Reading

/-- A tree that is read is nested no deeper than the limit. -/
theorem within_of_parseWithin {limit : Nat} {text : List Char} {json : Json}
    (read : parseWithin limit text = some json) : Within limit json := by
  have start : Reading.Keeps limit ⟨.value false, [], text⟩ := ⟨trivial, trivial⟩
  obtain ⟨rest, kept⟩ := Reading.of_run (fun _ _ step before => step.keeps before) start read
  exact kept.expecting

/-- A string that is all of a text is shorter than the text by its two quotes. -/
theorem length_of_parse_string {text : List Char} {string : String}
    (read : parse text = some (.string string)) : string.length + 2 ≤ text.length := by
  have start : Reading.Fits text.length ⟨.value false, [], text⟩ := ⟨Nat.le_refl _, by simp⟩
  obtain ⟨rest, fits⟩ := Reading.of_run (fun _ _ step before => step.fits before) start read
  exact fits.string string rfl

end Reshape.Json
