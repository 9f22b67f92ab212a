import Reshape.Proofs.Grammar.Zone

/-!
What code asks for behind a match. The grammar tells it from what is asked for before the match: it
is put together along the patterns, given for each rule what it comes to, and checked rule by rule.
-/

namespace Reshape.Grammar

open Zone

/-- Whether blanks are free in a rule, if they are or are not around it. -/
def Treatment.frees (isLoose : Bool) : Treatment → Bool
  | .inherited => isLoose
  | .loose => true
  | .tight | .leaf => false

/-- Whether blanks are free inside a rule is told by how the rule treats them. -/
theorem Mode.inside_isLoose (mode : Mode) (treatment : Treatment) :
    (mode.inside treatment).isLoose = treatment.frees mode.isLoose := by
  cases treatment <;> rfl

/-- What can be asked for behind a rule; `plain` says that no three quotes stand before it. -/
def Rule.moods (plain : Bool) (mood : Mood) : Rule → Option (List Mood)
  | .string => if plain || mood == .bound then some [.sated] else none
  | .assignTarget | .targetHead =>
    if plain && mood != .bound then some [.sated] else none
  | .endOfInput | .mapping | .query | .letStatement | .metaStatement | .assignStatement
  | .stringInner | .rawInner => none
  | .orSign | .andSign | .coalesceSign | .equalSign | .unequalSign | .greaterEqualSign
  | .lessEqualSign | .greaterSign | .lessSign | .addSign | .subtractSign | .multiplySign
  | .divideSign | .remainderSign | .notSign | .negateSign => some [.awaiting]
  | .fieldName => some [.sated]
  | _ => if mood == .bound then none else some [.sated]

/-- All that some function tells of some moods, if it tells something of each. -/
def spread (tells : Mood → Option (List Mood)) : List Mood → Option (List Mood)
  | [] => some []
  | mood :: rest => do
    let first ← tells mood
    let later ← spread tells rest
    some (first ∪ later)

/-- What can be asked for behind a pattern. Where blanks are free nothing may have to follow
directly. -/
def Pattern.moods (isLoose plain : Bool) (mood : Mood) : Pattern → Option (List Mood)
  | .finish | .char .any => none
  | .char _ => some [.sated]
  | .text word =>
    if word.all isSolid then some [word.foldl (fun _ c => .past c) mood] else none
  | .rule named => named.moods plain mood
  | .both head tail => do
    let between ← head.moods isLoose plain mood
    if isLoose && between.contains .bound then none
    else spread (tail.moods isLoose false) between
  | .either head tail => do
    let first ← head.moods isLoose plain mood
    -- What is tried behind raw strings finds no three quotes.
    let later ← tail.moods isLoose (plain || head == .rule .rawString && mood != .bound) mood
    some (first ∪ later)
  | .optional inner => (inner.moods isLoose plain mood).map (List.insert mood)
  | .many inner => do
    let ends ← inner.moods isLoose plain mood
    let further ← spread (inner.moods isLoose false) ends
    if isLoose && ends.contains .bound || !further.all ends.contains then none
    else some (ends.insert mood)
  | .absent _ => some [mood]

/-- What is told of a rule is told of its pattern, or less. -/
def Rule.tells (isLoose plain : Bool) (mood : Mood) (rule : Rule) : Bool :=
  match rule.moods plain mood with
  | none => true
  | some ends =>
    match rule.definition.pattern.moods (rule.definition.treatment.frees isLoose) plain mood with
    | none => false
    | some found => found.all ends.contains

/-- What is told of rules holds of their patterns, as can be read off all rules. -/
theorem Rule.told (rule : Rule) (isLoose plain : Bool) (mood : Mood)
    (tree : rule ≠ .string ∧ rule ≠ .rawString ∧ rule ≠ .metadata) :
    rule.tells isLoose plain mood = true := by
  cases rule <;> first
    | exact absurd rfl tree.1
    | exact absurd rfl tree.2.1
    | exact absurd rfl tree.2.2
    | (revert isLoose plain; cases mood <;> decide)

section Letters

variable {mode : Mode} {kind : CharClass} {source rest : List Char} {nodes : List Node}

/-- All code points of names are solid, and ask for nothing. -/
theorem solid_of_nameChar {c : Char} (letter : CharClass.nameChar.holds c = true) :
    isSolid c = true ∧ Mood.past c = .sated := by
  -- A name has no quote, no separator and none of the signs that ask for something.
  have other {d : Char} (no : CharClass.nameChar.holds d = false) : c ≠ d := by
    rintro rfl
    rw [no] at letter
    cases letter
  have apart (list : List Char) (no : ∀ d ∈ list, CharClass.nameChar.holds d = false) :
      list.contains c = false := by
    simpa using fun among => other (no c among) rfl
  have blank : isSeparator c = false := by
    simp [isSeparator, other (show CharClass.nameChar.holds ' ' = false by decide),
      other (show CharClass.nameChar.holds '\t' = false by decide),
      other (show CharClass.nameChar.holds '\r' = false by decide),
      other (show CharClass.nameChar.holds '\n' = false by decide)]
  constructor
  · simp [isSolid, blank, other (show CharClass.nameChar.holds '"' = false by decide),
      other (show CharClass.nameChar.holds '#' = false by decide)]
  · rw [Mood.past, apart _ (by decide), apart _ (by decide)]
    rfl

/-- Digits and letters are code points of names. -/
theorem nameChar_of_holds {c : Char} (kind : CharClass) (narrow : kind ≠ .any)
    (holds : kind.holds c = true) : CharClass.nameChar.holds c = true := by
  cases kind with
  | any => exact absurd rfl narrow
  | digit => simp_all [CharClass.holds, Char.isAlphanum]
  | letter => simp_all [CharClass.holds, Char.isAlphanum]
  | nameChar => exact holds

/-- All code points of a class are taken. -/
theorem yields_all (tight : mode.isLoose = false) (kind : CharClass) (source : List Char) :
    Yields mode (.again (.char kind)) source (some (source.dropWhile kind.holds, [])) := by
  -- The letters of the class are passed one by one, up to the first other one.
  induction source with
  | nil => exact .stopTight tight (.noChar (by simp))
  | cons c rest ih =>
    by_cases holds : kind.holds c = true
    · rw [List.dropWhile_cons_of_pos holds]
      exact .stepTight tight (.char holds) ih
    · rw [List.dropWhile_cons_of_neg holds]
      exact .stopTight tight (.noChar (by simpa using holds))

/-- A name of a path takes all code points of names, and there has to be one. -/
theorem fieldName_cases (mode : Mode) (source : List Char) :
    (∀ c ∈ source.head?, CharClass.nameChar.holds c = false) ∧
        Yields mode (.once (.rule .fieldName)) source none ∨
      ∃ name rest nodes, name ≠ [] ∧ (∀ c ∈ name, CharClass.nameChar.holds c = true) ∧
        Cuts rest ∧ source = name ++ rest ∧
          Yields mode (.once (.rule .fieldName)) source (some (rest, nodes)) := by
  -- Without a letter at the head no name is read; with one all letters behind it are.
  cases source with
  | nil => exact .inl ⟨by simp, .noRule (.noFirst (.noChar (by simp)))⟩
  | cons c text =>
    by_cases holds : CharClass.nameChar.holds c = true
    · refine .inr ⟨c :: text.takeWhile CharClass.nameChar.holds,
        text.dropWhile CharClass.nameChar.holds, _, by simp, ?_, ?_, ?_,
        .rule (.bothTight rfl (.char holds) (.ofAgain rfl (yields_all rfl _ _)))⟩
      · rw [List.forall_mem_cons]
        exact ⟨holds, fun d among => List.all_eq_true.1 List.all_takeWhile d among⟩
      · intro d first
        have stops := List.head?_dropWhile_not CharClass.nameChar.holds text
        rw [Option.mem_def.1 first] at stops
        simpa using stops
      · simp
    · exact .inl ⟨by simpa using holds, .noRule (.noFirst (.noChar (by simpa using holds)))⟩

/-- A name leaves code that asks for nothing. -/
theorem awaits?_name {name : List Char} {mood : Mood} (filled : name ≠ [])
    (letters : ∀ c ∈ name, CharClass.nameChar.holds c = true) :
    awaits? (.code mood) (name ++ rest) = awaits? (.code .sated) rest := by
  have solid : name.all isSolid = true :=
    List.all_eq_true.2 fun c among => (solid_of_nameChar (letters c among)).1
  rw [awaits?_word solid, ← List.dropLast_concat_getLast filled, List.foldl_append, List.foldl_cons,
    (solid_of_nameChar (letters _ (List.getLast_mem filled))).2]
  rfl

end Letters

section Predictions

variable {mode : Mode} {demand : Demand} {mood : Mood} {source rest : List Char}
  {nodes : List Node} {yield : Yield}

/-- What is told of some moods holds what is told of each. -/
theorem spread_mem {tells : Mood → Option (List Mood)} {moods ends : List Mood}
    (told : spread tells moods = some ends) (among : mood ∈ moods) :
    ∃ part, tells mood = some part ∧ part ⊆ ends := by
  -- What is told of the first mood is joined with what is told of the later ones.
  induction moods generalizing ends with
  | nil => cases among
  | cons first later ih =>
    obtain ⟨part, given, others⟩ := Option.bind_eq_some_iff.1 told
    obtain ⟨further, given', same⟩ := Option.bind_eq_some_iff.1 others
    obtain rfl := Option.some.inj same
    rcases List.mem_cons.1 among with rfl | among
    · exact ⟨part, given, fun _ member => List.mem_union_left member _⟩
    · obtain ⟨part', given'', inside⟩ := ih given' among
      exact ⟨part', given'', fun _ member => List.mem_union_right _ (inside member)⟩

/-- What is asked for behind a match is among what the grammar tells, if no string is open. -/
def Predicts (mode : Mode) : Demand → List Char → Yield → Prop
  | .once pattern, source, some (rest, _) => ∀ plain mood ends,
    (plain = true → ¬['"', '"', '"'] <+: source) →
      pattern.moods mode.isLoose plain mood = some ends →
        (awaits? (.code mood) source).isSome = true →
          ∃ next ∈ ends, awaits? (.code mood) source = awaits? (.code next) rest
  | .again inner, source, some (rest, _) => ∀ mood ends further,
    mood ∈ ends → (mode.isLoose = true → .bound ∉ ends) →
      spread (inner.moods mode.isLoose false) ends = some further → further ⊆ ends →
        (awaits? (.code mood) source).isSome = true →
          ∃ next ∈ ends, awaits? (.code mood) source = awaits? (.code next) rest
  | _, _, none => True

/-- Behind a string nothing is asked for, if no raw string begins there. -/
theorem predicts_string (yields : Yields mode (.once (.rule .string)) source (some (rest, nodes)))
    (plain : mood = .bound ∨ ¬['"', '"', '"'] <+: source)
    (closed : (awaits? (.code mood) source).isSome = true) :
    awaits? (.code mood) source = awaits? (.code .sated) rest := by
  rcases string_cases closed with noQuote | ⟨inner, rest', quotable, rfl, same⟩
  · cases yields.unique (noString mode noQuote)
  · obtain ⟨nodes', string⟩ := yields_string mode quotable
    cases yields.unique (string rest')
    exact same plain

/-- Behind a raw string nothing is asked for. -/
theorem predicts_rawString
    (yields : Yields mode (.once (.rule .rawString)) source (some (rest, nodes)))
    (free : mood ≠ .bound) (closed : (awaits? (.code mood) source).isSome = true) :
    awaits? (.code mood) source = awaits? (.code .sated) rest := by
  rcases rawString_cases free closed with noMarks | ⟨inner, rest', raw, rfl, same⟩
  · cases yields.unique (noRawString mode noMarks)
  · obtain ⟨nodes', string⟩ := yields_rawString mode raw
    cases yields.unique (string rest')
    exact same

/-- Behind a raw string that is refused no three quotes stand, as no string is open. -/
theorem not_marks_of_refused {head : Pattern} {plain : Bool}
    (first : Yields mode (.once head) source none)
    (guard : plain = true → ¬['"', '"', '"'] <+: source)
    (closed : (awaits? (.code mood) source).isSome = true)
    (known : (plain || head == .rule .rawString && mood != .bound) = true) :
    ¬['"', '"', '"'] <+: source := by
  simp only [Bool.or_eq_true, Bool.and_eq_true, beq_iff_eq, bne_iff_ne] at known
  -- Either quotes are excluded from the start, or the raw string that failed would have matched.
  rcases known with plain | ⟨rfl, free⟩
  · exact guard plain
  · rcases rawString_cases free closed with noMarks | ⟨inner, rest, raw, rfl, _⟩
    · exact noMarks
    · obtain ⟨nodes, string⟩ := yields_rawString mode raw
      cases first.unique (string rest)

/-- Behind an at sign and a name, if there is one, nothing is asked for. -/
theorem predicts_metadata (yields : Yields mode (.once (.rule .metadata)) source
    (some (rest, nodes))) (closed : (awaits? (.code mood) source).isSome = true) :
    awaits? (.code mood) source = awaits? (.code .sated) rest := by
  cases yields with | rule inside =>
  cases inside with | @both _ _ _ _ between _ _ _ first second =>
  cases first with | text stands =>
  obtain rfl : source = '@' :: between := stands
  have sign : awaits? (.code mood) ('@' :: between) = awaits? (.code .bound) between :=
    awaits?_solid rfl
  rw [sign] at closed ⊢
  rw [Mode.clear_of_tight rfl] at second
  -- A segment is a name, or a string, which is no raw one here.
  rcases fieldName_cases (mode.inside .tight) between with ⟨noName, refused⟩ |
    ⟨name, rest', nodes', filled, letters, cuts, rfl, name_yields⟩
  · rcases string_cases closed with noQuote | ⟨inner, rest', quotable, rfl, same⟩
    · cases second.unique (.missing (.right refused (noString _ noQuote)))
      exact awaits?_unbound noQuote
    · obtain ⟨nodes', string_yields⟩ := yields_string (mode.inside .tight) quotable
      cases second.unique (.present (.right refused (string_yields rest')))
      exact same (.inl rfl)
  · cases second.unique (.present (.left name_yields))
    exact awaits?_name filled letters

/-- Where blanks are free, what is asked for stays the same over them. -/
theorem awaits?_clear (free : mode.isLoose = true → mood ≠ .bound) :
    awaits? (.code mood) source = awaits? (.code mood) (mode.clear source) := by
  unfold Mode.clear
  split
  next loose => exact awaits?_dropBlanks (free loose) false source
  next => rfl

namespace Predicts

variable {head tail inner : Pattern} {last : List Char} {more : List Node}

/-- Behind a code point of a class nothing is asked for, as it is one of names. -/
theorem char {kind : CharClass} {c : Char} (holds : kind.holds c = true) :
    Predicts mode (.once (.char kind)) (c :: rest) (some (rest, [])) := by
  -- Any code point at all could be a quote, and there the grammar tells nothing.
  intro plain mood ends _ told _
  have narrow : kind ≠ .any := by
    rintro rfl
    cases told
  obtain ⟨solid, past⟩ := solid_of_nameChar (nameChar_of_holds kind narrow holds)
  have given : some [.sated] = some ends := by
    cases kind with
    | any => exact absurd rfl narrow
    | _ => exact told
  obtain rfl := Option.some.inj given
  exact ⟨.sated, by simp, by rw [awaits?_solid solid, past]⟩

/-- Behind a fixed text its last code point tells what is asked for. -/
theorem text {text : List Char} (stands : source = text ++ rest) :
    Predicts mode (.once (.text text)) source (some (rest, [])) := by
  intro plain mood ends _ told _
  unfold Pattern.moods at told
  -- A word has no character that changes the mood, so that the mood behind it is the one before.
  split at told
  next solid =>
    obtain rfl := Option.some.inj told
    exact ⟨_, List.mem_singleton_self _, by rw [stands, awaits?_word solid]⟩
  next => cases told

/-- Behind a rule that is no string or metadata the same is asked for as behind its pattern. -/
theorem ruleInside {named : Rule}
    (other : named ≠ .string ∧ named ≠ .rawString ∧ named ≠ .metadata)
    (inside : Predicts (mode.inside named.definition.treatment) (.once named.definition.pattern)
      source (some (rest, nodes))) {nodes' : List Node} :
    Predicts mode (.once (.rule named)) source (some (rest, nodes')) := by
  -- The moods told of the rule hold those told of its pattern, as was checked for all rules.
  intro plain mood ends guard told closed
  replace told : named.moods plain mood = some ends := told
  have tells := named.told mode.isLoose plain mood other
  unfold Rule.tells at tells
  rw [told] at tells
  dsimp only at tells
  split at tells
  next => cases tells
  next found given =>
    rw [← Mode.inside_isLoose] at given
    obtain ⟨next, among, same⟩ := inside plain mood found guard given closed
    have all := List.all_eq_true.1 tells next among
    exact ⟨next, by simpa using all, same⟩

/-- Behind a rule: strings and metadata are gone through as they are, all other rules along their
patterns. -/
theorem rule {named : Rule}
    (yields : Yields (mode.inside named.definition.treatment) (.once named.definition.pattern)
      source (some (rest, nodes)))
    (inside : Predicts (mode.inside named.definition.treatment) (.once named.definition.pattern)
      source (some (rest, nodes))) :
    Predicts mode (.once (.rule named)) source
      (some (rest, (mode.around named.definition.treatment).wrap named source rest nodes)) := by
  have whole : Yields mode (.once (.rule named)) source _ := .rule yields
  -- Three rules are not gone through along their patterns, and each has a lemma of its own.
  by_cases string : named = .string
  · subst string
    intro plain mood ends guard told closed
    obtain ⟨known, given⟩ := Option.ite_none_right_eq_some.1 told
    obtain rfl := Option.some.inj given
    simp only [Bool.or_eq_true, beq_iff_eq] at known
    exact ⟨.sated, List.mem_singleton_self _,
      predicts_string whole (known.symm.imp id guard) closed⟩
  by_cases rawString : named = .rawString
  · subst rawString
    intro plain mood ends _ told closed
    obtain ⟨free, given⟩ := Option.ite_none_left_eq_some.1 told
    obtain rfl := Option.some.inj given
    exact ⟨.sated, List.mem_singleton_self _,
      predicts_rawString whole (by simpa using free) closed⟩
  by_cases metadata : named = .metadata
  · subst metadata
    intro plain mood ends _ told closed
    obtain ⟨_, given⟩ := Option.ite_none_left_eq_some.1 told
    obtain rfl := Option.some.inj given
    exact ⟨.sated, List.mem_singleton_self _, predicts_metadata whole closed⟩
  exact ruleInside ⟨string, rawString, metadata⟩ inside

/-- Behind two patterns it is asked for what is asked for behind the second one, from wherever the
first one ends. -/
theorem both (first : Predicts mode (.once head) source (some (rest, nodes)))
    (second : Predicts mode (.once tail) (mode.clear rest) (some (last, more))) :
    Predicts mode (.once (.both head tail)) source (some (last, nodes ++ more)) := by
  intro plain mood ends guard told closed
  -- The moods of the first end are those in which the second one begins.
  obtain ⟨between, given, told⟩ := Option.bind_eq_some_iff.1 told
  split at told
  next => cases told
  next free =>
    obtain ⟨next, among, same⟩ := first plain mood between guard given closed
    have loose : mode.isLoose = true → next ≠ .bound := fun loose bound =>
      free (by simp [loose, ← bound, among])
    rw [same, awaits?_clear loose] at closed
    obtain ⟨part, given', inside⟩ := spread_mem told among
    obtain ⟨last, among', same'⟩ := second false next part (by simp) given' closed
    exact ⟨last, inside among', same.trans ((awaits?_clear loose).trans same')⟩

/-- Behind the first of two patterns to choose from. -/
theorem left (first : Predicts mode (.once head) source (some (rest, nodes))) :
    Predicts mode (.once (.either head tail)) source (some (rest, nodes)) := by
  intro plain mood ends guard told closed
  -- Whatever the other one ends in is only added to the moods that are possible.
  obtain ⟨found, given, told⟩ := Option.bind_eq_some_iff.1 told
  obtain ⟨others, _, same⟩ := Option.bind_eq_some_iff.1 told
  obtain rfl := Option.some.inj same
  obtain ⟨next, among, same⟩ := first plain mood found guard given closed
  exact ⟨next, List.mem_union_left among _, same⟩

/-- Behind the second of two patterns to choose from, where the first one is refused: if it is a raw
string, none begins there. -/
theorem right (refused : Yields mode (.once head) source none)
    (second : Predicts mode (.once tail) source yield) :
    Predicts mode (.once (.either head tail)) source yield := by
  -- The second choice is told without raw strings where the first one refuses a quote.
  cases yield with
  | none => trivial
  | some found =>
    intro plain mood ends guard told closed
    obtain ⟨found, _, told⟩ := Option.bind_eq_some_iff.1 told
    obtain ⟨others, given, same⟩ := Option.bind_eq_some_iff.1 told
    obtain rfl := Option.some.inj same
    have noMarks := not_marks_of_refused refused guard closed
    obtain ⟨next, among, same⟩ := second _ mood others noMarks given closed
    exact ⟨next, List.mem_union_right _ among, same⟩

/-- Behind a pattern that is present, though it may be missing. -/
theorem present (first : Predicts mode (.once inner) source (some (rest, nodes))) :
    Predicts mode (.once (.optional inner)) source (some (rest, nodes)) := by
  intro plain mood ends guard told closed
  obtain ⟨found, given, rfl⟩ := Option.map_eq_some_iff.1 told
  obtain ⟨next, among, same⟩ := first plain mood found guard given closed
  exact ⟨next, List.mem_insert_of_mem among, same⟩

/-- Where a pattern is missing, the same is asked for as before. -/
theorem missing : Predicts mode (.once (.optional inner)) source (some (source, [])) := by
  intro plain mood ends _ told _
  obtain ⟨found, given, rfl⟩ := Option.map_eq_some_iff.1 told
  exact ⟨mood, List.mem_insert_self, rfl⟩

/-- What the grammar tells of repetitions: what is told of the first one, which further ones keep. -/
theorem moods_many {plain : Bool} {ends : List Mood}
    (told : (Pattern.many inner).moods mode.isLoose plain mood = some ends) :
    ∃ found further, inner.moods mode.isLoose plain mood = some found ∧
      spread (inner.moods mode.isLoose false) found = some further ∧
      (mode.isLoose = true → .bound ∉ found) ∧ further ⊆ found ∧ ends = found.insert mood := by
  -- The table tells nothing where a repetition asks for more than the first one does.
  obtain ⟨found, given, told⟩ := Option.bind_eq_some_iff.1 told
  obtain ⟨further, given', told⟩ := Option.bind_eq_some_iff.1 told
  split at told
  next => cases told
  next kept =>
    simp only [Bool.or_eq_true, Bool.and_eq_true, Bool.not_eq_true', not_or, not_and,
      Bool.not_eq_false, List.all_eq_true, List.contains_iff_mem] at kept
    exact ⟨found, further, given, given', kept.1, kept.2, (Option.some.inj told).symm⟩

/-- Behind repetitions. -/
theorem many (first : Predicts mode (.once inner) source (some (rest, nodes)))
    (later : Predicts mode (.again inner) rest (some (last, more))) :
    Predicts mode (.once (.many inner)) source (some (last, nodes ++ more)) := by
  intro plain mood ends guard told closed
  -- The first round ends in one of the moods from which the repetition goes on.
  obtain ⟨found, further, given, given', loose, kept, rfl⟩ := moods_many told
  obtain ⟨next, among, same⟩ := first plain mood found guard given closed
  rw [same] at closed
  obtain ⟨last, among', same'⟩ := later next found further among loose given' kept closed
  exact ⟨last, List.mem_insert_of_mem among', same.trans same'⟩

/-- Where nothing is repeated, the same is asked for as before. -/
theorem noMany : Predicts mode (.once (.many inner)) source (some (source, [])) := by
  intro plain mood ends _ told _
  obtain ⟨found, further, -, -, -, -, rfl⟩ := moods_many told
  exact ⟨mood, List.mem_insert_self, rfl⟩

/-- Behind a further repetition and more of them: what is asked for in between is told again. -/
theorem step (first : Predicts mode (.once inner) (mode.clear source) (some (rest, nodes)))
    (later : Predicts mode (.again inner) rest (some (last, more))) :
    Predicts mode (.again inner) source (some (last, nodes ++ more)) := by
  intro mood ends further among free told kept closed
  -- Blanks before the repetition make no difference, as none of the moods is bound.
  have loose : mode.isLoose = true → mood ≠ .bound :=
    fun loose bound => free loose (bound ▸ among)
  obtain ⟨part, given, inside⟩ := spread_mem told among
  rw [awaits?_clear loose] at closed ⊢
  obtain ⟨next, among', same⟩ := first false mood part (by simp) given closed
  rw [same] at closed ⊢
  exact later next ends further (kept (inside among')) free told kept closed

end Predicts

/-- The grammar tells what can be asked for behind a match. -/
theorem Yields.predicts (yields : Yields mode demand source yield) :
    Predicts mode demand source yield := by
  -- The cases are those of the derivation; what is refused has nothing behind it.
  induction yields with
  | more | noChar | noText | noRule | noFirst | noSecond | notAbsent => trivial
  | finish => exact fun plain mood ends _ told => nomatch told
  | char holds => exact .char holds
  | text stands => exact .text stands
  | rule inside ih => exact .rule inside ih
  | both _ _ ih ih' => exact .both ih ih'
  | left _ ih => exact .left ih
  | right refused _ _ ih' => exact .right refused ih'
  | present _ ih => exact .present ih
  | missing => exact .missing
  | many _ _ ih ih' => exact .many ih ih'
  | noMany => exact .noMany
  | absent =>
    intro plain mood ends _ told _
    obtain rfl := Option.some.inj told
    exact ⟨mood, List.mem_singleton_self _, rfl⟩
  | step _ _ ih ih' => exact .step ih ih'
  | stop => exact fun mood ends further among _ _ _ _ => ⟨mood, among, rfl⟩

end Predictions

end Reshape.Grammar
