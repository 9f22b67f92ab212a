import Reshape.Proofs.Grammar.Token
import Reshape.Proofs.Grammar.Yields

/-!
Zones of a source: its code, comments, and what stands in quotes. Whoever goes through a source code
point by code point knows where it leaves a string open, and whether its code awaits an operand. A
quote with two more behind it opens a raw string, but not where a name of a path follows directly.
-/

namespace Reshape.Grammar

section Blanks

variable {inComment : Bool} {source more : List Char}

/-- A code point is dropped, whatever stands behind it, or ends the blanks. -/
theorem dropBlanks_cases (inComment : Bool) (c : Char) :
    (∃ inside, ∀ rest, dropBlanks inComment (c :: rest) = dropBlanks inside rest) ∨
      inComment = false ∧ ∀ rest, dropBlanks inComment (c :: rest) = c :: rest := by
  -- In a comment everything is dropped, up to the line break that ends it.
  cases inComment with
  | true => exact .inl ⟨c != '\n', fun _ => rfl⟩
  | false =>
    by_cases blank : isSeparator c = true
    · exact .inl ⟨false, fun _ => by simp [dropBlanks, blank]⟩
    · by_cases sign : c = '#'
      · exact .inl ⟨true, fun _ => sign ▸ rfl⟩
      · exact .inr ⟨rfl, dropBlanks_of_solid (by simpa using blank) sign⟩

/-- Behind what is not only blanks, everything stays. -/
theorem dropBlanks_append (filled : dropBlanks inComment source ≠ []) :
    dropBlanks inComment (source ++ more) = dropBlanks inComment source ++ more := by
  -- The blanks end within the source, with a letter that stays.
  induction source generalizing inComment with
  | nil => exact absurd rfl filled
  | cons c rest ih =>
    rw [List.cons_append]
    rcases dropBlanks_cases inComment c with ⟨inside, dropped⟩ | ⟨_, kept⟩
    · rw [dropped] at filled
      rw [dropped, dropped, ih filled]
    · rw [kept, kept, List.cons_append]

/-- Blanks go on into the next line, which ends a comment. -/
theorem dropBlanks_line (empty : dropBlanks inComment source = []) :
    dropBlanks inComment (source ++ '\n' :: more) = dropBlanks false more := by
  -- The source is dropped whole, and the line break after it is a blank or ends the comment.
  induction source generalizing inComment with
  | nil => cases inComment <;> simp [dropBlanks, isSeparator]
  | cons c rest ih =>
    rw [List.cons_append]
    rcases dropBlanks_cases inComment c with ⟨inside, dropped⟩ | ⟨_, kept⟩
    · rw [dropped] at empty
      rw [dropped, ih empty]
    · rw [kept] at empty
      cases empty

end Blanks

/-- What the code before a place asks for. -/
inductive Mood where
  | sated
  /-- A name of a path may follow directly. -/
  | bound
  /-- An operand has to follow. -/
  | awaiting
  deriving DecidableEq, Repr

namespace Mood

/-- What is asked for after a code point of code. -/
def past (c : Char) : Mood :=
  if ['.', '@'].contains c then .bound
  else if ['(', '[', '\x7b', ',', ':', '=', '>', '<', '|', '&', '!', '+', '-', '*', '/',
    '%'].contains c then .awaiting
  else .sated

/-- What is asked for after a blank: it does not follow directly. -/
def blank : Mood → Mood
  | .bound => .sated
  | mood => mood

end Mood

/-- What a place of a source is part of. -/
inductive Zone where
  | code (mood : Mood)
  /-- A comment, after which the code goes on. -/
  | comment (mood : Mood)
  | quoted
  /-- Quotes, behind a backslash. -/
  | escaped
  | raw
  /-- Three quotes that open or close a raw string, behind the first or the second one. -/
  | marks (isSecond opens : Bool)
  deriving DecidableEq, Repr

namespace Zone

/-- The zone after a code point that has a rest behind it. -/
def next : Zone → Char → List Char → Zone
  | .code mood, c, rest =>
    if c = '"' then
      if mood ≠ .bound ∧ ['"', '"'] <+: rest then .marks false true else .quoted
    else if c = '#' then .comment mood.blank
    else if isSeparator c then .code mood.blank
    else .code (.past c)
  | .comment mood, c, _ => if c = '\n' then .code mood else .comment mood
  | .quoted, c, _ => if c = '"' then .code .sated else if c = '\\' then .escaped else .quoted
  | .escaped, _, _ => .quoted
  | .raw, c, rest => if c = '"' ∧ ['"', '"'] <+: rest then .marks false false else .raw
  | .marks false opens, _, _ => .marks true opens
  | .marks true opens, _, _ => if opens then .raw else .code .sated

/-- Whether an operand is awaited at the end of a text that begins in a zone, if no string is open
there. -/
def awaits? : Zone → List Char → Option Bool
  | .code mood, [] | .comment mood, [] => some (mood == .awaiting)
  | _, [] => none
  | zone, c :: rest => awaits? (zone.next c rest) rest

end Zone

open Zone

/-- Whether a code point of code is no quote, and begins neither a blank nor a comment. -/
def isSolid (c : Char) : Bool :=
  c != '"' && c != '#' && !isSeparator c

section Code

variable {mood mood' : Mood} {c : Char} {rest : List Char}

/-- A code point that is no separator, quote or sign of a comment asks for what follows it. -/
@[simp] theorem awaits?_solid (solid : isSolid c = true) :
    awaits? (.code mood) (c :: rest) = awaits? (.code (.past c)) rest := by
  simp only [isSolid, Bool.and_eq_true, bne_iff_ne, Bool.not_eq_true'] at solid
  simp [awaits?, next, solid]

/-- A word of code asks for what its last code point asks for. -/
theorem awaits?_word {word : List Char} (solid : word.all isSolid = true) :
    awaits? (.code mood) (word ++ rest) =
      awaits? (.code (word.foldl (fun _ c => .past c) mood)) rest := by
  induction word generalizing mood with
  | nil => rfl
  | cons c word ih =>
    rw [List.all_cons, Bool.and_eq_true] at solid
    rw [List.cons_append, awaits?_solid solid.1, ih solid.2, List.foldl_cons]

/-- Blanks and comments do not change what is asked for, unless it has to follow directly. -/
theorem awaits?_dropBlanks (free : mood ≠ .bound) (inComment : Bool) (source : List Char) :
    awaits? (if inComment then .comment mood else .code mood) source =
      awaits? (.code mood) (dropBlanks inComment source) := by
  have same : mood.blank = mood := by cases mood <;> simp_all [Mood.blank]
  induction source generalizing inComment with
  | nil => cases inComment <;> rfl
  | cons c rest ih =>
    unfold dropBlanks
    cases inComment with
    | true =>
      -- A comment ends with its line.
      rw [if_pos rfl, if_pos rfl, ← ih]
      by_cases ends : c = '\n' <;> simp [awaits?, next, ends]
    | false =>
      rw [if_neg (by simp), if_neg (by simp)]
      split
      next blank =>
        have quote : c ≠ '"' := by rintro rfl; cases blank
        have sign : c ≠ '#' := by rintro rfl; cases blank
        rw [← ih]
        simp [awaits?, next, quote, sign, blank, same]
      next blank =>
        split
        next sign =>
          subst sign
          rw [← ih]
          simp [awaits?, next, same]
        next sign => rfl

/-- A name that has to follow directly makes no difference where no quote follows. -/
theorem awaits?_unbound {source : List Char} (other : ∀ c ∈ source.head?, c ≠ '"') :
    awaits? (.code .bound) source = awaits? (.code .sated) source := by
  cases source with
  | nil => rfl
  | cons c rest => simp [awaits?, next, other c rfl, Mood.blank]

/-- Behind blanks something is asked for, if no string is open. -/
theorem exists_awaits?_dropBlanks (mood : Mood) (source : List Char) :
    ∃ mood', awaits? (.code mood) source = awaits? (.code mood') (dropBlanks false source) := by
  -- Only where a name may follow directly does the first blank change what is asked for.
  by_cases free : mood ≠ .bound
  · exact ⟨mood, awaits?_dropBlanks free false source⟩
  rw [not_not] at free
  subst free
  cases source with
  | nil => exact ⟨.bound, rfl⟩
  | cons c rest =>
    rcases dropBlanks_cases false c with ⟨inside, dropped⟩ | ⟨_, kept⟩
    · have other : c ≠ '"' := by
        rintro rfl
        exact absurd (dropped []) (by simp [dropBlanks, isSeparator])
      refine ⟨.sated, ?_⟩
      rw [awaits?_unbound (by simpa using other)]
      exact awaits?_dropBlanks (by simp) false _
    · exact ⟨.bound, by rw [kept]⟩

/-- Where no blanks are to be dropped, none begin. -/
theorem begins_of_clear (clear : dropBlanks false (c :: rest) = c :: rest) :
    isSeparator c = false ∧ c ≠ '#' := by
  -- What is dropped is gone, so from a text that stays the same nothing is.
  have shorter (inComment : Bool) : dropBlanks inComment rest ≠ c :: rest := by
    intro same
    have length := length_dropBlanks_le inComment rest
    rw [same, List.length_cons] at length
    omega
  unfold dropBlanks at clear
  rw [if_neg (by simp)] at clear
  split at clear
  next => exact absurd clear (shorter false)
  next blank =>
    split at clear
    next => exact absurd clear (shorter true)
    next sign => exact ⟨by simpa using blank, sign⟩

/-- What was asked for before does not matter where something follows, unless a quote may follow
directly. -/
theorem awaits?_congr (free : c ≠ '"' ∨ mood ≠ .bound ∧ mood' ≠ .bound)
    (clear : dropBlanks false (c :: rest) = c :: rest) :
    awaits? (.code mood) (c :: rest) = awaits? (.code mood') (c :: rest) := by
  obtain ⟨blank, sign⟩ := begins_of_clear clear
  rcases free with quote | ⟨free, free'⟩
  · simp [awaits?, next, quote, sign, blank]
  · simp [awaits?, next, sign, blank, free, free']

end Code

section Quotes

variable {mood : Mood} {inner rest : List Char}

/-- A string ends at its closing quote. -/
theorem awaits?_quoted (quotable : IsQuotable inner) :
    awaits? .quoted (inner ++ '"' :: rest) = awaits? (.code .sated) rest := by
  induction quotable with
  | nil => simp [awaits?, next]
  | plain quote backslash later ih => simp [awaits?, next, quote, backslash, ih]
  | escaped c later ih => simp [awaits?, next, ih]

/-- A quote that opens no raw string opens a string. -/
theorem awaits?_quote (plain : mood = .bound ∨ ¬['"', '"', '"'] <+: '"' :: rest) :
    awaits? (.code mood) ('"' :: rest) = awaits? .quoted rest := by
  simp only [List.cons_prefix_cons, true_and] at plain
  have single : ¬(mood ≠ .bound ∧ ['"', '"'] <+: rest) := by tauto
  simp [awaits?, next, single]

/-- A text in quotes has a closing quote, or leaves the string open. -/
theorem quoted_cases : (text : List Char) →
    (∃ inner rest, IsQuotable inner ∧ text = inner ++ '"' :: rest) ∨ awaits? .quoted text = none
  | [] => .inr rfl
  | c :: rest => by
    by_cases quote : c = '"'
    · exact .inl ⟨[], rest, .nil, by rw [quote]; rfl⟩
    by_cases backslash : c = '\\'
    · -- A backslash takes the code point behind it along.
      cases rest with
      | nil => exact .inr (by simp [awaits?, next, backslash])
      | cons d rest =>
        rcases quoted_cases rest with ⟨inner, last, quotable, rfl⟩ | opened
        · exact .inl ⟨c :: d :: inner, last, backslash ▸ quotable.escaped d, rfl⟩
        · exact .inr (by simpa [awaits?, next, backslash] using opened)
    · rcases quoted_cases rest with ⟨inner, last, quotable, rfl⟩ | opened
      · exact .inl ⟨c :: inner, last, quotable.plain quote backslash, rfl⟩
      · exact .inr (by simpa [awaits?, next, quote, backslash] using opened)

/-- Three quotes in a raw string end it. -/
theorem awaits?_marks : awaits? .raw ('"' :: '"' :: '"' :: rest) = awaits? (.code .sated) rest := by
  simp [awaits?, next]

/-- A code point of a raw string is passed where no three quotes stand. -/
theorem awaits?_raw_cons {c : Char} (other : ¬['"', '"', '"'] <+: c :: rest) :
    awaits? .raw (c :: rest) = awaits? .raw rest := by
  rw [List.cons_prefix_cons] at other
  have other : ¬(c = '"' ∧ ['"', '"'] <+: rest) := fun both => other ⟨both.1.symm, both.2⟩
  simp [awaits?, next, other]

/-- No three quotes stand before the closing ones. -/
theorem not_marks_of_raw {c : Char} (raw : IsRaw (c :: inner)) :
    ¬['"', '"', '"'] <+: c :: inner ++ '"' :: '"' :: '"' :: rest := by
  intro stands
  -- Three quotes at the start would stand inside the raw text or run into those that close it.
  have split : c :: inner ++ '"' :: '"' :: '"' :: rest =
      (c :: inner ++ ['"', '"', '"']) ++ rest := by simp
  rw [split] at stands
  refine raw [] (c :: inner) rfl (by simp) ?_
  exact List.prefix_of_prefix_length_le stands (List.prefix_append _ _) (by simp)

/-- A raw string ends at the first three quotes. -/
theorem awaits?_raw (raw : IsRaw inner) :
    awaits? .raw (inner ++ '"' :: '"' :: '"' :: rest) = awaits? (.code .sated) rest := by
  induction inner with
  | nil => exact awaits?_marks
  | cons c inner ih =>
    -- What is behind the first character is raw as well.
    have later : IsRaw inner := fun before after same =>
      raw (c :: before) after (by rw [same, List.cons_append])
    rw [← ih later]
    exact awaits?_raw_cons (not_marks_of_raw raw)

/-- A text behind three quotes has closing ones, or leaves the raw string open. -/
theorem raw_cases (text : List Char) :
    (∃ inner rest, IsRaw inner ∧ text = inner ++ '"' :: '"' :: '"' :: rest) ∨
      awaits? .raw text = none := by
  induction text with
  | nil => exact .inr rfl
  | cons c text ih =>
    by_cases stands : ['"', '"', '"'] <+: c :: text
    · obtain ⟨rest, same⟩ := stands
      refine .inl ⟨[], rest, fun before after same filled => ?_, same.symm⟩
      exact absurd (List.append_eq_nil_iff.1 same.symm).2 filled
    rcases ih with ⟨inner, rest, raw, rfl⟩ | opened
    · refine .inl ⟨c :: inner, rest, fun before after same filled => ?_, rfl⟩
      cases before with
      | nil =>
        -- Whatever stands before the closing quotes stands in the text.
        intro inside
        obtain rfl : c :: inner = after := same
        refine stands (inside.trans ⟨rest, ?_⟩)
        simp
      | cons d before =>
        rw [List.cons_append, List.cons.injEq] at same
        exact raw before after same.2 filled
    · exact .inr ((awaits?_raw_cons stands).trans opened)

end Quotes

section Tokens

variable {mode : Mode} {inner rest : List Char}

namespace Yields

variable {head tail pattern : Pattern} {source between last : List Char} {nodes more : List Node}
  {yield : Yield}

/-- Where no blanks are free the second pattern follows directly. -/
theorem bothTight (tight : mode.isLoose = false)
    (first : Yields mode (.once head) source (some (between, nodes)))
    (second : Yields mode (.once tail) between (some (last, more))) :
    Yields mode (.once (.both head tail)) source (some (last, nodes ++ more)) :=
  .both first (by rwa [mode.clear_of_tight tight])

/-- Where no blanks are free the next repetition follows directly. -/
theorem stepTight (tight : mode.isLoose = false)
    (first : Yields mode (.once pattern) source (some (between, nodes)))
    (later : Yields mode (.again pattern) between (some (last, more))) :
    Yields mode (.again pattern) source (some (last, nodes ++ more)) :=
  .step (by rwa [mode.clear_of_tight tight]) later

/-- Where no blanks are free the repetitions end where the next one would follow directly. -/
theorem stopTight (tight : mode.isLoose = false)
    (first : Yields mode (.once pattern) source none) :
    Yields mode (.again pattern) source (some (source, [])) :=
  .stop (by rwa [mode.clear_of_tight tight])

/-- Where no blanks are free the first repetition is like the others. -/
theorem ofAgain (tight : mode.isLoose = false) (again : Yields mode (.again pattern) source yield) :
    Yields mode (.once (.many pattern)) source yield := by
  -- Nothing is skipped before the first round, so that it may be tried at once.
  cases again with
  | step first later =>
    rw [mode.clear_of_tight tight] at first
    exact .many first later
  | stop first =>
    rw [mode.clear_of_tight tight] at first
    exact .noMany first

end Yields

/-- The trees of a rule do not depend on what its text leaves. -/
theorem Mode.wrap_append (mode : Mode) (rule : Rule) (text rest : List Char) (nodes : List Node) :
    mode.wrap rule (text ++ rest) rest nodes = mode.wrap rule text [] nodes := by
  simp [wrap]

/-- What can stand between quotes is taken up to the closing quote. -/
theorem yields_quotable (tight : mode.isLoose = false) (quotable : IsQuotable inner) :
    Yields mode (.once Rule.stringInner.definition.pattern) (inner ++ '"' :: rest)
      (some ('"' :: rest, [])) := by
  refine .ofAgain tight ?_
  -- Each repetition takes one code point, or a backslash with the one behind it.
  induction quotable with
  | nil =>
    refine .stopTight tight (.right (.noFirst (.notAbsent (.left (.text rfl)))) (.noFirst ?_))
    exact .noText (by simp)
  | plain quote backslash later ih =>
    refine .stepTight tight (.left (.bothTight tight (.absent (.right ?_ ?_)) (.char rfl))) ih
    · exact .noText (by simpa using Ne.symm quote)
    · exact .noText (by simpa using Ne.symm backslash)
  | escaped c later ih =>
    refine .stepTight tight (.right (.noFirst (.notAbsent (.right ?_ (.text rfl))))
      (.bothTight tight (.text rfl) (.char rfl))) ih
    exact .noText (by simp)

/-- What can stand between three quotes is taken up to the closing ones. -/
theorem yields_raw (tight : mode.isLoose = false) (raw : IsRaw inner) :
    Yields mode (.once Rule.rawInner.definition.pattern) (inner ++ '"' :: '"' :: '"' :: rest)
      (some ('"' :: '"' :: '"' :: rest, [])) := by
  refine .ofAgain tight ?_
  -- No three quotes stand in front of any letter inside, so each is taken in turn.
  induction inner with
  | nil => exact .stopTight tight (.noFirst (.notAbsent (.text rfl)))
  | cons c inner ih =>
    have later : IsRaw inner := fun before after same =>
      raw (c :: before) after (by rw [same, List.cons_append])
    refine .stepTight tight (.bothTight tight (.absent (.noText fun stands => ?_)) (.char rfl))
      (ih later)
    exact not_marks_of_raw raw stands

/-- A string in quotes is matched up to the closing one, whatever stands behind it. -/
theorem yields_string (mode : Mode) (quotable : IsQuotable inner) :
    ∃ nodes, ∀ rest, Yields mode (.once (.rule .string)) ('"' :: (inner ++ '"' :: rest))
      (some (rest, nodes)) := by
  -- The node does not depend on the rest, as it keeps only the text that was matched.
  refine ⟨(mode.around Rule.string.definition.treatment).wrap .string ('"' :: inner ++ ['"']) []
    (((mode.inside .tight).around Rule.stringInner.definition.treatment).wrap .stringInner inner
      [] []), fun rest => ?_⟩
  have body : Yields (mode.inside .tight) (.once (.rule .stringInner)) (inner ++ '"' :: rest) _ :=
    .rule (yields_quotable rfl quotable)
  have whole : Yields mode (.once (.rule .string)) ('"' :: inner ++ ['"'] ++ rest) _ :=
    .rule (.bothTight rfl (.bothTight rfl (.text (by simp)) body) (.text rfl))
  rw [Mode.wrap_append, Mode.wrap_append] at whole
  simpa using whole

/-- A raw string is matched up to the closing quotes, whatever stands behind it. -/
theorem yields_rawString (mode : Mode) (raw : IsRaw inner) :
    ∃ nodes, ∀ rest, Yields mode (.once (.rule .rawString))
      ('"' :: '"' :: '"' :: (inner ++ '"' :: '"' :: '"' :: rest)) (some (rest, nodes)) := by
  -- The node does not depend on the rest, as it keeps only the text that was matched.
  refine ⟨(mode.around Rule.rawString.definition.treatment).wrap .rawString
    ('"' :: '"' :: '"' :: inner ++ ['"', '"', '"']) []
    (((mode.inside .tight).around Rule.rawInner.definition.treatment).wrap .rawInner inner [] []),
    fun rest => ?_⟩
  have body : Yields (mode.inside .tight) (.once (.rule .rawInner))
      (inner ++ '"' :: '"' :: '"' :: rest) _ := .rule (yields_raw rfl raw)
  have whole : Yields mode (.once (.rule .rawString))
      ('"' :: '"' :: '"' :: inner ++ ['"', '"', '"'] ++ rest) _ :=
    .rule (.bothTight rfl (.bothTight rfl (.text (by simp)) body) (.text rfl))
  rw [Mode.wrap_append, Mode.wrap_append] at whole
  simpa using whole

/-- A text that begins with no quote is no string. -/
theorem noString (mode : Mode) {source : List Char} (other : ∀ c ∈ source.head?, c ≠ '"') :
    Yields mode (.once (.rule .string)) source none := by
  refine .noRule (.noFirst (.noFirst (.noText ?_)))
  rintro ⟨rest, rfl⟩
  exact other '"' rfl rfl

/-- A text that begins with no three quotes is no raw string. -/
theorem noRawString (mode : Mode) {source : List Char} (other : ¬['"', '"', '"'] <+: source) :
    Yields mode (.once (.rule .rawString)) source none :=
  .noRule (.noFirst (.noFirst (.noText other)))

/-- Code that leaves no string open begins with no quote, or with a string. -/
theorem string_cases {mood : Mood} {source : List Char}
    (closed : (awaits? (.code mood) source).isSome = true) :
    (∀ c ∈ source.head?, c ≠ '"') ∨
      ∃ inner rest, IsQuotable inner ∧ source = '"' :: (inner ++ '"' :: rest) ∧
        ((mood = .bound ∨ ¬['"', '"', '"'] <+: source) →
          awaits? (.code mood) source = awaits? (.code .sated) rest) := by
  by_cases quote : ∀ c ∈ source.head?, c ≠ '"'
  · exact .inl quote
  obtain ⟨text, rfl⟩ : ∃ text, source = '"' :: text := by
    cases source with
    | nil => simp at quote
    | cons c text => simp at quote; exact ⟨text, by rw [quote]⟩
  right
  by_cases plain : mood = .bound ∨ ¬['"', '"', '"'] <+: '"' :: text
  · -- The quote opens a string, which is closed.
    have opens := awaits?_quote plain
    rcases quoted_cases text with ⟨inner, rest, quotable, rfl⟩ | opened
    · exact ⟨inner, rest, quotable, rfl, fun _ => opens.trans (awaits?_quoted quotable)⟩
    · simp [opens, opened] at closed
  · -- Three quotes begin with the empty string.
    simp only [not_or, not_not] at plain
    obtain ⟨free, rest, same⟩ := plain
    refine ⟨[], '"' :: rest, .nil, same.symm, fun plain => ?_⟩
    exact absurd plain (by simp [free, ← same])

/-- Code that leaves no string open begins with no three quotes, or with a raw string, unless a name
may follow directly. -/
theorem rawString_cases {mood : Mood} {source : List Char} (free : mood ≠ .bound)
    (closed : (awaits? (.code mood) source).isSome = true) :
    ¬['"', '"', '"'] <+: source ∨
      ∃ inner rest, IsRaw inner ∧
        source = '"' :: '"' :: '"' :: (inner ++ '"' :: '"' :: '"' :: rest) ∧
        awaits? (.code mood) source = awaits? (.code .sated) rest := by
  -- Three quotes open a raw string, which has to be closed somewhere behind them.
  by_cases marks : ['"', '"', '"'] <+: source
  · obtain ⟨text, rfl⟩ := marks
    have opens : awaits? (.code mood) ('"' :: '"' :: '"' :: text) = awaits? .raw text := by
      simp [awaits?, next, free]
    change (awaits? (.code mood) ('"' :: '"' :: '"' :: text)).isSome = true at closed
    rcases raw_cases text with ⟨inner, rest, raw, rfl⟩ | opened
    · exact .inr ⟨inner, rest, raw, rfl, opens.trans (awaits?_raw raw)⟩
    · simp [opens, opened] at closed
  · exact .inl marks

end Tokens

end Reshape.Grammar
