import Mathlib.Data.List.Forall2
import Reshape.Proofs.Grammar.Sequence

/-!
Respelled sources: a source without strings and comments in which other separators stand in the
places of separators. It is matched as before, and the trees are the same, since separators are
passed as blanks only and no text that matters has one in it.
-/

namespace Reshape.Grammar

/-- Classes of code points hold no separators, but for the one that holds all. -/
theorem CharClass.solid_of_holds {kind : CharClass} {c : Char} (narrow : kind ≠ .any)
    (holds : kind.holds c = true) : isSeparator c = false := by
  by_contra blank
  simp only [isSeparator, Bool.not_eq_false, Bool.or_eq_true, beq_iff_eq] at blank
  obtain ((rfl | rfl) | rfl) | rfl := blank <;>
  cases kind <;> first | exact absurd holds (by decide) | exact absurd rfl narrow

/-- A code point stands in the place of another one: the same one, unless it begins a string or a
comment, or a separator in the place of a separator. -/
def Respells (c c' : Char) : Prop :=
  c = c' ∧ c ≠ '"' ∧ c ≠ '#' ∨ isSeparator c = true ∧ isSeparator c' = true

/-- A text is another one with separators in the places of separators. -/
abbrev Respelled : List Char → List Char → Prop := List.Forall₂ Respells

namespace Respells

variable {c c' : Char}

/-- Separators can be put back. -/
theorem symm (respells : Respells c c') : Respells c' c := by
  rcases respells with ⟨rfl, plain⟩ | ⟨blank, blank'⟩
  · exact .inl ⟨rfl, plain⟩
  · exact .inr ⟨blank', blank⟩

/-- What is no separator stays. -/
theorem eq_of_solid (respells : Respells c c') (solid : isSeparator c = false) : c' = c := by
  rcases respells with ⟨rfl, _⟩ | ⟨blank, _⟩
  · rfl
  · rw [solid] at blank
    cases blank

/-- A separator stays one. -/
theorem isSeparator_eq (respells : Respells c c') : isSeparator c = isSeparator c' := by
  rcases respells with ⟨rfl, _⟩ | ⟨blank, blank'⟩
  · rfl
  · rw [blank, blank']

/-- No comment begins. -/
theorem ne_hash (respells : Respells c c') : c ≠ '#' := by
  rcases respells with ⟨_, _, plain⟩ | ⟨blank, _⟩
  · exact plain
  · rintro rfl
    cases blank

/-- No string begins. -/
theorem ne_quote (respells : Respells c c') : c ≠ '"' := by
  rcases respells with ⟨_, plain, _⟩ | ⟨blank, _⟩
  · exact plain
  · rintro rfl
    cases blank

/-- Classes of code points hold what they held, but for the one that holds all. -/
theorem holds (respells : Respells c c') {kind : CharClass} (narrow : kind ≠ .any)
    (holds : kind.holds c = true) : kind.holds c' = true := by
  rw [respells.eq_of_solid (CharClass.solid_of_holds narrow holds)]
  exact holds

end Respells

namespace Respelled

variable {source source' text rest rest' : List Char}

/-- Separators can be put back. -/
theorem symm (respelled : Respelled source source') : Respelled source' source :=
  List.Forall₂.flip (respelled.imp fun _ _ => Respells.symm)

/-- A text without separators stands at the beginning as before. -/
theorem exists_append (respelled : Respelled (text ++ rest) source')
    (solid : ∀ c ∈ text, isSeparator c = false) :
    ∃ rest', source' = text ++ rest' ∧ Respelled rest rest' := by
  induction text generalizing source' with
  | nil => exact ⟨source', rfl, respelled⟩
  | cons c text ih =>
    rw [List.forall_mem_cons] at solid
    -- A character that is no separator is written as it is on both sides.
    obtain _ | ⟨first, later⟩ := respelled
    obtain ⟨rest', rfl, respelled⟩ := ih later solid.2
    exact ⟨rest', by rw [first.eq_of_solid solid.1]; rfl, respelled⟩

/-- What is left without blanks is respelled. -/
theorem dropBlanks (respelled : Respelled source source') :
    Respelled (dropBlanks false source) (Grammar.dropBlanks false source') := by
  -- A blank is respelled as a blank, and neither text has a comment.
  induction respelled with
  | nil => exact .nil
  | @cons c c' _ _ first later ih =>
    unfold Grammar.dropBlanks
    rw [← first.isSeparator_eq, if_neg first.ne_hash, if_neg first.symm.ne_hash]
    split
    · next impossible => cases impossible
    · split
      · exact ih
      · exact .cons first later

/-- What is left without the blanks that are free is respelled. -/
theorem clear (respelled : Respelled source source') (mode : Mode) :
    Respelled (mode.clear source) (mode.clear source') := by
  unfold Mode.clear
  split
  · exact respelled.dropBlanks
  · exact respelled

end Respelled

namespace Pattern

/-- Whether a pattern asks for no separators, but by rules that may do so. -/
def sparesBlanks (mayAsk : Rule → Bool) : Pattern → Bool
  | .finish => true
  | .char kind => kind != .any
  | .text expected => expected.all fun c => !isSeparator c
  | .rule named => mayAsk named
  | .both head tail | .either head tail => head.sparesBlanks mayAsk && tail.sparesBlanks mayAsk
  | .optional inner | .many inner | .absent inner => inner.sparesBlanks mayAsk

/-- Whether a pattern asks for no separators, outside strings. -/
abbrev isCalm : Pattern → Bool :=
  sparesBlanks fun named => named != .stringInner && named != .rawInner

/-- Whether a pattern passes no separators where blanks are not free: it asks for none, and no rule
inside it may set blanks free. -/
abbrev isSolid : Pattern → Bool := sparesBlanks fun _ => false

end Pattern

/-- The pattern that a demand is about. -/
def Demand.pattern : Demand → Pattern
  | .once pattern => pattern
  | .again inner => inner

/-- Whether a rule begins a string. -/
def Rule.isQuoted (rule : Rule) : Bool := rule == .string || rule == .rawString

/-- The pattern of a rule asks for no separators, unless the rule is of strings. -/
theorem Rule.isCalm_definition {rule : Rule} (calm : (Pattern.rule rule).isCalm = true)
    (unquoted : rule.isQuoted = false) : rule.definition.pattern.isCalm = true := by
  cases rule <;>
  first | rfl | exact absurd unquoted (by decide) | exact absurd calm (by decide)

/-- A rule the text of which matters passes no separators, unless it is of strings. -/
theorem Rule.isSolid_definition {rule : Rule} (calm : (Pattern.rule rule).isCalm = true)
    (unquoted : rule.isQuoted = false) (keeps : rule.keepsText = true) :
    rule.definition.pattern.isSolid = true ∧ rule.definition.treatment = .leaf := by
  -- Each rule either meets the conditions by its definition or fails one of them.
  cases rule <;>
  first
  | exact ⟨rfl, rfl⟩
  | exact absurd keeps (by decide)
  | exact absurd unquoted (by decide)
  | exact absurd calm (by decide)

/-- A source has no separators before what is left of it. -/
def Solid (source rest : List Char) : Prop :=
  ∃ text, source = text ++ rest ∧ ∀ c ∈ text, isSeparator c = false

namespace Solid

variable {source between rest : List Char}

/-- Nothing has been passed. -/
theorem refl (source : List Char) : Solid source source :=
  ⟨[], rfl, fun _ member => by cases member⟩

/-- What is passed by one match after the other is passed by both. -/
theorem trans (first : Solid source between) (second : Solid between rest) : Solid source rest := by
  obtain ⟨text, rfl, begin⟩ := first
  obtain ⟨text', rfl, later⟩ := second
  exact ⟨text ++ text', by rw [List.append_assoc], List.forall_mem_append.2 ⟨begin, later⟩⟩

end Solid

namespace Yields

variable {mode : Mode} {demand : Demand} {source source' rest : List Char} {nodes : List Node}
  {yield : Yield}

/-- What a solid pattern passes has no separators in it. -/
theorem passes_solid (tight : mode.isLoose = false) (solid : demand.pattern.isSolid = true)
    (yields : Yields mode demand source yield) :
    ∀ rest nodes, yield = some (rest, nodes) → Solid source rest := by
  -- The cases are those of the derivation; each passes letters that are no separators.
  induction yields with
  | @finish mode | @absent mode =>
    rintro _ _ ⟨⟩
    exact .refl _
  | @missing mode | @noMany mode | @stop mode =>
    rintro _ _ ⟨⟩
    exact .refl _
  | @char _ kind c rest holds =>
    rintro _ _ ⟨⟩
    refine ⟨[c], rfl, List.forall_mem_singleton.2 ?_⟩
    exact CharClass.solid_of_holds (bne_iff_ne.1 solid) holds
  | text stands =>
    rintro _ _ ⟨⟩
    refine ⟨_, stands, fun c member => ?_⟩
    simpa using List.all_eq_true.1 solid c member
  | rule => cases solid
  | both first second ih ih' =>
    rintro _ _ ⟨⟩
    obtain ⟨head, tail⟩ := Bool.and_eq_true_iff.1 solid
    have second := ih' tight tail _ _ rfl
    rw [Mode.clear_of_tight tight] at second
    exact (ih tight head _ _ rfl).trans second
  | left first ih => exact ih tight (Bool.and_eq_true_iff.1 solid).1
  | right first second ih ih' => exact ih' tight (Bool.and_eq_true_iff.1 solid).2
  | present first ih => exact ih tight solid
  | many first later ih ih' =>
    rintro _ _ ⟨⟩
    exact (ih tight solid _ _ rfl).trans (ih' tight solid _ _ rfl)
  | step first later ih ih' =>
    rintro _ _ ⟨⟩
    have first := ih tight solid _ _ rfl
    rw [Mode.clear_of_tight tight] at first
    exact first.trans (ih' tight solid _ _ rfl)
  | _ => rintro _ _ ⟨⟩

/-- No string is matched where none begins. -/
theorem none_of_isQuoted {rule : Rule} (quoted : rule.isQuoted = true)
    (plain : ∀ c ∈ source.head?, c ≠ '"') : Yields mode (.once (.rule rule)) source none := by
  -- Both rules begin with quotes, and the text does not.
  have noText {mode : Mode} {text : List Char} :
      Yields mode (.once (.text ('"' :: text))) source none := by
    refine .noText ?_
    rintro ⟨rest, rfl⟩
    exact plain '"' rfl rfl
  simp only [Rule.isQuoted, Bool.or_eq_true, beq_iff_eq] at quoted
  rcases quoted with rfl | rfl
  · exact .noRule (.noFirst (.noFirst noText))
  · exact .noRule (.noFirst (.noFirst noText))

/-- No string is matched in a respelled source. -/
theorem none_of_respelled {rule : Rule} (quoted : rule.isQuoted = true)
    (respelled : Respelled source source') : Yields mode (.once (.rule rule)) source none := by
  refine none_of_isQuoted quoted ?_
  -- A respelled text does not begin with a quote.
  cases respelled with
  | nil => rintro _ ⟨⟩
  | cons first _ =>
    rintro _ ⟨⟩
    exact first.ne_quote

/-- A rule makes the same trees of a respelled source. -/
theorem wrap_respelled {rule : Rule} {rest' : List Char}
    (calm : (Pattern.rule rule).isCalm = true) (unquoted : rule.isQuoted = false)
    (inside : Yields (mode.inside rule.definition.treatment) (.once rule.definition.pattern) source
      (some (rest, nodes)))
    (respelled : Respelled source source') (later : Respelled rest rest') (around : Mode) :
    around.wrap rule source' rest' nodes = around.wrap rule source rest nodes := by
  -- A tree keeps its text only if its pattern is solid, and solid texts are not respelled.
  unfold Mode.wrap Rule.spelling
  dsimp only
  split
  · rfl
  · split
    · next keeps =>
      obtain ⟨solid, treatment⟩ := Rule.isSolid_definition calm unquoted keeps
      rw [treatment] at inside
      obtain ⟨text, rfl, bare⟩ := passes_solid rfl (by exact solid) inside _ _ rfl
      obtain ⟨rest'', rfl, _⟩ := respelled.exists_append bare
      rw [← respelled.length_eq, ← later.length_eq]
      simp
    · rfl

/-- A match of a respelled source leaves a respelled rest and has the same trees. -/
inductive Alike : Yield → Yield → Prop
  | none : Alike none none
  | some {rest rest' : List Char} (respelled : Respelled rest rest') (nodes : List Node) :
    Alike (some (rest, nodes)) (some (rest', nodes))

/-- A code point that is refused is refused in a respelled source. -/
theorem noChar_respelled {kind : CharClass} (calm : (Pattern.char kind).isCalm = true)
    (other : ∀ c ∈ source.head?, kind.holds c = false) (respelled : Respelled source source') :
    Yields mode (.once (.char kind)) source' none := by
  refine .noChar ?_
  obtain _ | ⟨first, later⟩ := respelled
  · rintro _ ⟨⟩
  · rintro c' ⟨⟩
    -- The class holds no separator, so that it would hold the code point that stood here before.
    by_contra holds
    rw [Bool.not_eq_false] at holds
    have held := first.symm.holds (bne_iff_ne.1 calm) holds
    rw [other _ rfl] at held
    cases held

/-- A text that does not stand in a source does not stand in a respelled one. -/
theorem noText_respelled {text : List Char} (calm : (Pattern.text text).isCalm = true)
    (other : ¬text <+: source) (respelled : Respelled source source') :
    Yields mode (.once (.text text)) source' none := by
  have solid : ∀ c ∈ text, isSeparator c = false := fun c member => by
    simpa using List.all_eq_true.1 calm c member
  refine .noText ?_
  rintro ⟨rest, rfl⟩
  -- A text without separators would stand in the source as well.
  obtain ⟨rest', rfl, _⟩ := respelled.symm.exists_append solid
  exact other ⟨rest', rfl⟩

/-- A rule that matched matches a respelled source, if its pattern does. -/
theorem rule_respelled {rule : Rule} (calm : (Pattern.rule rule).isCalm = true)
    (inside : Yields (mode.inside rule.definition.treatment) (.once rule.definition.pattern) source
      (some (rest, nodes)))
    (again : rule.definition.pattern.isCalm = true → ∃ yield',
      Yields (mode.inside rule.definition.treatment) (.once rule.definition.pattern) source' yield' ∧
        Alike (some (rest, nodes)) yield')
    (respelled : Respelled source source') :
    ∃ yield', Yields mode (.once (.rule rule)) source' yield' ∧
      Alike (some (rest, (mode.around rule.definition.treatment).wrap rule source rest nodes))
        yield' := by
  cases quoted : rule.isQuoted with
  | true =>
    -- No rule of strings matches.
    cases (none_of_respelled quoted respelled).unique (.rule inside)
  | false =>
    obtain ⟨_, inside', _ | ⟨later⟩⟩ := again (Rule.isCalm_definition calm quoted)
    refine ⟨_, .rule inside', ?_⟩
    rw [wrap_respelled calm quoted inside respelled later]
    exact .some later _

/-- A rule that was refused is refused in a respelled source, if its pattern is. -/
theorem noRule_respelled {rule : Rule} (calm : (Pattern.rule rule).isCalm = true)
    (again : rule.definition.pattern.isCalm = true → ∃ yield',
      Yields (mode.inside rule.definition.treatment) (.once rule.definition.pattern) source' yield' ∧
        Alike none yield')
    (respelled : Respelled source source') : Yields mode (.once (.rule rule)) source' none := by
  cases quoted : rule.isQuoted with
  | true => exact none_of_respelled quoted respelled.symm
  | false =>
    obtain ⟨_, inside', ⟨⟩⟩ := again (Rule.isCalm_definition calm quoted)
    exact .noRule inside'

/-- A respelled source is matched as before. -/
theorem respelled (calm : demand.pattern.isCalm = true) (yields : Yields mode demand source yield)
    (respelled : Respelled source source') :
    ∃ yield', Yields mode demand source' yield' ∧ Alike yield yield' := by
  -- What was refused is refused again, since the separators could be put back.
  induction yields generalizing source' with
  | finish =>
    cases respelled
    exact ⟨_, .finish, .some .nil []⟩
  | more filled =>
    refine ⟨_, .more ?_, .none⟩
    rintro rfl
    cases respelled
    exact filled rfl
  | char holds =>
    obtain _ | ⟨first, later⟩ := respelled
    exact ⟨_, .char (first.holds (bne_iff_ne.1 calm) holds), .some later []⟩
  | noChar other => exact ⟨_, noChar_respelled calm other respelled, .none⟩
  | text stands =>
    subst stands
    obtain ⟨rest', rfl, later⟩ := respelled.exists_append fun c member => by
      simpa using List.all_eq_true.1 calm c member
    exact ⟨_, .text rfl, .some later []⟩
  | noText other => exact ⟨_, noText_respelled calm other respelled, .none⟩
  | rule inside ih =>
    exact rule_respelled calm inside (fun calm => ih calm respelled) respelled
  | noRule inside ih =>
    exact ⟨_, noRule_respelled calm (fun calm => ih calm respelled) respelled, .none⟩
  | both first second ih ih' =>
    obtain ⟨head, tail⟩ := Bool.and_eq_true_iff.1 calm
    obtain ⟨_, first, _ | ⟨between⟩⟩ := ih head respelled
    obtain ⟨_, second, _ | ⟨later⟩⟩ := ih' tail (between.clear _)
    exact ⟨_, .both first second, .some later _⟩
  | noFirst first ih =>
    obtain ⟨_, first, ⟨⟩⟩ := ih (Bool.and_eq_true_iff.1 calm).1 respelled
    exact ⟨_, .noFirst first, .none⟩
  | noSecond first second ih ih' =>
    obtain ⟨head, tail⟩ := Bool.and_eq_true_iff.1 calm
    obtain ⟨_, first, _ | ⟨between⟩⟩ := ih head respelled
    obtain ⟨_, second, ⟨⟩⟩ := ih' tail (between.clear _)
    exact ⟨_, .noSecond first second, .none⟩
  | left first ih =>
    obtain ⟨_, first, _ | ⟨later⟩⟩ := ih (Bool.and_eq_true_iff.1 calm).1 respelled
    exact ⟨_, .left first, .some later _⟩
  | right first second ih ih' =>
    obtain ⟨head, tail⟩ := Bool.and_eq_true_iff.1 calm
    obtain ⟨_, first, ⟨⟩⟩ := ih head respelled
    obtain ⟨_, second, alike⟩ := ih' tail respelled
    exact ⟨_, .right first second, alike⟩
  | present first ih =>
    obtain ⟨_, first, _ | ⟨later⟩⟩ := ih calm respelled
    exact ⟨_, .present first, .some later _⟩
  | missing first ih =>
    obtain ⟨_, first, ⟨⟩⟩ := ih calm respelled
    exact ⟨_, .missing first, .some respelled []⟩
  | many first later ih ih' =>
    obtain ⟨_, first, _ | ⟨between⟩⟩ := ih calm respelled
    obtain ⟨_, later, _ | ⟨last⟩⟩ := ih' calm between
    exact ⟨_, .many first later, .some last _⟩
  | noMany first ih =>
    obtain ⟨_, first, ⟨⟩⟩ := ih calm respelled
    exact ⟨_, .noMany first, .some respelled []⟩
  | absent first ih =>
    obtain ⟨_, first, ⟨⟩⟩ := ih calm respelled
    exact ⟨_, .absent first, .some respelled []⟩
  | notAbsent first ih =>
    obtain ⟨_, first, _ | ⟨later⟩⟩ := ih calm respelled
    exact ⟨_, .notAbsent first, .none⟩
  | step first later ih ih' =>
    obtain ⟨_, first, _ | ⟨between⟩⟩ := ih calm (respelled.clear _)
    obtain ⟨_, later, _ | ⟨last⟩⟩ := ih' calm between
    exact ⟨_, .step first later, .some last _⟩
  | stop first ih =>
    obtain ⟨_, first, ⟨⟩⟩ := ih calm (respelled.clear _)
    exact ⟨_, .stop first, .some respelled []⟩

end Yields

/-- A respelled source has the same statements in sequence, but for the texts that they begin. -/
theorem Sequence.respelled {source source' : List Char} {found : List (List Char × Node)}
    (sequence : Sequence source found) (respelled : Respelled source source') :
    ∃ found', Sequence source' found' ∧ found'.map Prod.snd = found.map Prod.snd := by
  -- The statements are matched one after the other, each in the text that the one before it left.
  induction sequence generalizing source' with
  | stop ends =>
    have ended := respelled.dropBlanks
    rw [ends] at ended
    exact ⟨[], .stop (List.forall₂_nil_left_iff.1 ended), rfl⟩
  | step first later ih =>
    obtain ⟨_, first', _ | ⟨behind⟩⟩ := first.respelled (by decide) respelled.dropBlanks
    obtain ⟨found', later', same⟩ := ih behind
    exact ⟨_, .step first' later', by rw [List.map_cons, List.map_cons, same]⟩

end Reshape.Grammar
