import Mathlib.Algebra.Order.Ring.Nat
import Mathlib.Data.List.Forall2
import Mathlib.Data.Set.List
import Reshape.Proofs.Text.Search
import Reshape.Proofs.Text.Utf8
import Reshape.Text.Cluster
import Reshape.Value.Text

/-!
ASCII text as a string and as octets. The operations on the two agree, but for three things: the
clusters of a string keep a carriage return before its line feed, an empty needle stands in strings
and not in octets, and the vertical tab is white space of strings only. That no other character of
ASCII joins a cluster is read off the table of clusters, a lookup in which halves the runs that it
still looks at and so finds the run that holds the code point.
-/

namespace Reshape

namespace Table

/-- A run is found between two bounds if the runs before it end below the code, those after it start
above it, and there are steps enough to halve the runs between the bounds down to one. -/
theorem search_eq {table : Table} {code place : Nat} {run : Run} (stands : table[place]? = some run)
    (holds : run.first ≤ code ∧ code ≤ run.last)
    (before : ∀ other earlier, table[other]? = some earlier → other < place →
      earlier.first ≤ code ∧ earlier.last < code)
    (after : ∀ other later, table[other]? = some later → place < other → code < later.first)
    {steps low high : Nat} (above : low ≤ place) (below : place < high)
    (within : high ≤ table.size) (enough : high - low < 2 ^ steps) :
    search table code steps low high = some run.tag := by
  -- Each step halves the runs between the bounds, so both bounds are generalised.
  induction steps generalizing low high with
  | zero => omega
  | succ steps ih =>
    have middle : (low + high) / 2 < table.size := by omega
    have half : 2 ^ (steps + 1) = 2 * 2 ^ steps := by omega
    rw [search, if_pos (by omega)]
    simp only [Array.getElem?_eq_getElem middle]
    have there := Array.getElem?_eq_getElem middle
    generalize table[(low + high) / 2] = found at there
    -- The run in the middle stands before the wanted one, is it, or stands behind it.
    obtain earlier | same | later := Nat.lt_trichotomy ((low + high) / 2) place
    · obtain ⟨start, stop⟩ := before _ _ there earlier
      rw [if_neg (by omega), if_pos stop]
      exact ih (by omega) below within (by omega)
    · obtain rfl : found = run := by simpa [same, stands] using there.symm
      rw [if_neg (by omega), if_neg (by omega)]
    · rw [if_pos (after _ _ there later)]
      exact ih above (by omega) (by omega) (by omega)

/-- The runs that triples add start at no less than a bound. -/
theorem ofTriples_spec (table : Table) (start : Nat) (numerals : List Nat) :
    ∃ added, (ofTriples table start numerals).toList = table.toList ++ added ∧
      ∀ run ∈ added, start ≤ run.first := by
  fun_induction ofTriples table start numerals with
  -- A triple adds one run, which starts a gap above the bound; the later ones start above that run.
  | case1 table start gap length tag rest first ih =>
    obtain ⟨added, whole, above⟩ := ih
    refine ⟨⟨first, first + length - 1, tag⟩ :: added, by simp [whole], ?_⟩
    intro run among
    obtain rfl | later := List.mem_cons.1 among
    · exact Nat.le_add_right ..
    · exact Nat.le_trans (by omega) (above run later)
  | case2 => exact ⟨[], by simp, by simp⟩

/-- One character more of a text of numerals, beside the numerals that are done and the one that is
being read. -/
def readNumeral (read : List Nat × Nat) (c : Char) : List Nat × Nat :=
  if c == ' ' then (read.2 :: read.1, 0) else (read.1, read.2 * 36 + digit c)

/-- The numerals of a text are read one character after the other. -/
theorem numerals_eq (text : String) :
    numerals text = ((text.toList.foldl readNumeral ([], 0)).2 ::
      (text.toList.foldl readNumeral ([], 0)).1).reverse :=
  rfl

/-- Numerals that are done have no part in reading what follows. -/
theorem foldl_readNumeral (done : List Nat) (current : Nat) (text : List Char) :
    text.foldl readNumeral (done, current) =
      Prod.map (· ++ done) id (text.foldl readNumeral ([], current)) := by
  induction text generalizing done current with
  | nil => rfl
  | cons c rest ih =>
    simp only [List.foldl_cons, readNumeral]
    -- A separator ends the current numeral, and any other letter belongs to it.
    split
    · rw [ih (current :: done), ih [current]]
      simp [Prod.map]
    · exact ih ..

/-- The numerals of two texts with a space between them are those of the one and the other. -/
theorem numerals_append {text start rest : String}
    (whole : text.toList = start.toList ++ ' ' :: rest.toList) :
    numerals text = numerals start ++ numerals rest := by
  have space (read : List Nat × Nat) : readNumeral read ' ' = (read.2 :: read.1, 0) := rfl
  simp only [numerals_eq, whole, List.foldl_append, List.foldl_cons, space]
  rw [foldl_readNumeral]
  simp [Prod.map]

end Table

namespace Clusters

/-- The runs that the break classes start with, which are controls. -/
def firstBreaks : Table := #[⟨0, 9, 0⟩, ⟨11, 12, 0⟩, ⟨14, 31, 0⟩, ⟨127, 159, 0⟩]

/-- What follows the first runs does not keep the delete character from being a control. -/
theorem tag?_ofTriples_firstBreaks (numerals : List Nat) :
    (Table.ofTriples firstBreaks 160 numerals).tag? 0x7F = some 0 := by
  obtain ⟨added, runs, above⟩ := Table.ofTriples_spec firstBreaks 160 numerals
  generalize Table.ofTriples firstBreaks 160 numerals = table at runs
  -- The first runs are looked up as before, and the others start at 160, above the code.
  have entry (place : Nat) : table[place]? = (firstBreaks.toList ++ added)[place]? := by
    rw [← Array.getElem?_toList, runs]
  have fourth : table[3]? = some ⟨127, 159, 0⟩ := (entry 3).trans rfl
  have within : 3 < table.size := (Array.getElem?_eq_some_iff.1 fourth).1
  refine Table.search_eq fourth (by decide) ?_ ?_ (Nat.zero_le _) within (Nat.le_refl _) ?_
  · intro place run stands earlier
    have first : firstBreaks.toList[place]? = some run := by
      rwa [entry, List.getElem?_append_left (Nat.lt_trans earlier (by decide))] at stands
    have each : ∀ place < 3, ∀ run ∈ firstBreaks.toList[place]?,
        run.first ≤ 0x7F ∧ run.last < 0x7F := by
      decide
    exact each place earlier run first
  · intro place run stands later
    rw [entry, List.getElem?_append_right (by exact later)] at stands
    exact Nat.lt_of_lt_of_le (by decide) (above run (List.mem_of_getElem? stands))
  -- The search has steps enough for any table of this size.
  · calc
      table.size - 0 < 2 ^ (table.size.log2 + 1) := Nat.lt_log2_self
      _ ≤ 2 ^ (table.size.log2 + 2) := Nat.pow_le_pow_right (by decide) (Nat.le_succ _)

/-- The break classes are written on lines, the first of which starts with the first runs. -/
theorem exists_lines : ∃ lines, breaks = .ofTaggedText (String.join (
    "0 a 0 1 2 0 1 i 0 2n x 0 d 1 0 gi 34 1 7n 7 1 7b 19 1 1 1 1 1 2 1 1 2 1 1 1 1 1k 6 3 a b " ::
      lines)) := by
  unfold breaks
  exact ⟨_, rfl⟩

/-- The break classes start with the first runs. -/
theorem exists_breaks : ∃ numerals, breaks = .ofTriples firstBreaks 160 numerals := by
  obtain ⟨lines, whole⟩ := exists_lines
  let others :=
    "d 1 0 gi 34 1 7n 7 1 7b 19 1 1 1 1 1 2 1 1 2 1 1 1 1 1k 6 3 a b " ++ String.join lines
  -- The literal is cut where its first runs end, so that only this short part is evaluated.
  have four : Table.numerals "0 a 0 1 2 0 1 i 0 2n x 0" =
      [0, 10, 0, 1, 2, 0, 1, 18, 0, 95, 33, 0] := by
    decide +kernel
  have start : Table.numerals (String.join (
      "0 a 0 1 2 0 1 i 0 2n x 0 d 1 0 gi 34 1 7n 7 1 7b 19 1 1 1 1 1 2 1 1 2 1 1 1 1 1k 6 3 a b " ::
        lines)) = [0, 10, 0, 1, 2, 0, 1, 18, 0, 95, 33, 0] ++ Table.numerals others := by
    rw [← four]
    exact Table.numerals_append (by simp [others, String.join_cons])
  refine ⟨Table.numerals others, ?_⟩
  rw [whole, Table.ofTaggedText, start]
  simp [Table.ofTriples, firstBreaks]

/-- The delete character is a control. -/
theorem tag?_delete : breaks.tag? 0x7F = some 0 := by
  obtain ⟨numerals, whole⟩ := exists_breaks
  rw [whole]
  exact tag?_ofTriples_firstBreaks numerals

end Clusters

/-- The codes of ASCII. -/
abbrev Ascii := Fin 0x80

namespace Ascii

/-- The code point of a code. -/
def char (code : Ascii) : Char := Char.ofNat code

/-- The octet of a code. -/
def octet (code : Ascii) : UInt8 := UInt8.ofNat code

/-- The upper case of a code. -/
def upper (code : Ascii) : Ascii := Fin.ofNat _ (Text.upperOctet code.octet).toNat

/-- The lower case of a code. -/
def lower (code : Ascii) : Ascii := Fin.ofNat _ (Text.lowerOctet code.octet).toNat

/-- The vertical tab. -/
def verticalTab : Ascii := 0x0B

/-- What strings and octets make of a single code, by going through all codes. -/
theorem spec : ∀ code : Ascii,
    (code.char.toNat = code ∧ code.octet.toNat = code ∧
      Utf8.encodeChar code.char = [code.octet]) ∧
    (Text.upperChar code.char = [code.upper.char] ∧
      Text.upperOctet code.octet = code.upper.octet) ∧
    (Text.lowerChar code.char = [code.lower.char] ∧
      Text.lowerOctet code.octet = code.lower.octet) ∧
    code.char ≠ 'Σ' ∧
      Text.isBlank code.char = (Text.isBlankOctet code.octet || code == verticalTab) := by
  decide +kernel

section Spec

variable (code : Ascii)

/-- The code point of a code has its number. -/
theorem toNat_char : code.char.toNat = code := (spec code).1.1

/-- The octet of a code has its number. -/
theorem toNat_octet : code.octet.toNat = code := (spec code).1.2.1

/-- The code point of a code is encoded as its octet alone. -/
theorem encodeChar_char : Utf8.encodeChar code.char = [code.octet] := (spec code).1.2.2

/-- The upper case of a code point is that of its code. -/
theorem upperChar_char : Text.upperChar code.char = [code.upper.char] := (spec code).2.1.1

/-- The upper case of an octet is that of its code. -/
theorem upperOctet_octet : Text.upperOctet code.octet = code.upper.octet := (spec code).2.1.2

/-- The lower case of a code point is that of its code. -/
theorem lowerChar_char : Text.lowerChar code.char = [code.lower.char] := (spec code).2.2.1.1

/-- The lower case of an octet is that of its code. -/
theorem lowerOctet_octet : Text.lowerOctet code.octet = code.lower.octet := (spec code).2.2.1.2

/-- The capital sigma is not in ASCII. -/
theorem char_ne_sigma : code.char ≠ 'Σ' := (spec code).2.2.2.1

/-- The white space of strings is that of octets, and the vertical tab. -/
theorem isBlank_char :
    Text.isBlank code.char = (Text.isBlankOctet code.octet || code == verticalTab) :=
  (spec code).2.2.2.2

end Spec

/-- Codes are told apart by their code points. -/
theorem char_injective : char.Injective := fun left right same =>
  Fin.ext (by rw [← toNat_char, same, toNat_char])

/-- Codes are told apart by their octets. -/
theorem octet_injective : octet.Injective := fun left right same =>
  Fin.ext (by rw [← toNat_octet, same, toNat_octet])

variable (codes : List Ascii)

/-- The code points of codes are encoded as their octets. -/
theorem encode_char : Utf8.encode (codes.map char) = codes.map octet := by
  rw [Utf8.encode, List.flatMap_map]
  simp only [encodeChar_char]
  exact List.map_eq_flatMap.symm

/-- The octets of codes are read as their code points. -/
theorem decodeLossy_octet : Utf8.decodeLossy (codes.map octet) = codes.map char := by
  rw [← encode_char, Utf8.decodeLossy_encode]

/-- The upper case of a text of codes is that of each code. -/
theorem upper_char : Text.upper (codes.map char) = (codes.map upper).map char := by
  rw [Text.upper, List.flatMap_map, List.map_map]
  simp only [upperChar_char]
  exact List.map_eq_flatMap.symm

/-- The upper case of octets of codes is that of each code. -/
theorem map_upperOctet :
    (codes.map octet).map Text.upperOctet = (codes.map upper).map octet := by
  simp [upperOctet_octet]

/-- The lower case of octets of codes is that of each code. -/
theorem map_lowerOctet :
    (codes.map octet).map Text.lowerOctet = (codes.map lower).map octet := by
  simp [lowerOctet_octet]

/-- No code is a capital sigma, whose lower case hangs on what stands around it. -/
theorem lowerAfter_char (before : List Char) :
    Text.lowerAfter before (codes.map char) = (codes.map lower).map char := by
  induction codes generalizing before with
  | nil => rfl
  | cons code rest ih =>
    have same : (code.char == 'Σ') = false := by simpa using char_ne_sigma code
    simp [Text.lowerAfter, same, lowerChar_char, ih]

end Ascii

namespace Text

/-- ASCII code points end lines, or take part in clusters as controls or as nothing special. -/
theorem breakClass_of_lt {c : Char} (ascii : c.toNat < 0x80) :
    (breakClass c = .carriageReturn ∧ c = '\r') ∨ (breakClass c = .lineFeed ∧ c = '\n') ∨
      ((breakClass c = .control ∨ breakClass c = .other) ∧ c ≠ '\r' ∧ c ≠ '\n') := by
  -- A carriage return and a line feed have classes of their own, each for one code point.
  by_cases carriage : c = '\r'
  · exact .inl ⟨carriage ▸ rfl, carriage⟩
  by_cases feed : c = '\n'
  · exact .inr (.inl ⟨feed ▸ rfl, feed⟩)
  have first : c.toNat ≠ 0x0D := fun same => carriage (Char.toNat_inj.1 same)
  have second : c.toNat ≠ 0x0A := fun same => feed (Char.toNat_inj.1 same)
  refine .inr (.inr ⟨?_, carriage, feed⟩)
  -- Of the others the table is asked for the delete character only.
  by_cases delete : c.toNat = 0x7F
  · simp [breakClass, delete, Clusters.tag?_delete]
  · have below : c.toNat < 0x7F := by omega
    by_cases control : c.toNat < 0x20 <;> simp [breakClass, first, second, below, control]

/-- After an ASCII code point no rule looks further back than to it. -/
structure ClusterState.Follows (state : ClusterState) (c : Char) : Prop where
  last : state.last = breakClass c
  unjoined : state.joined = false
  unlinked : state.linked = false

/-- Whatever stands before an ASCII code point, it is all that is looked back at. -/
theorem ClusterState.follows_after {c : Char} (ascii : c.toNat < 0x80)
    (before : Option ClusterState) : (ClusterState.after before c).Follows c := by
  have low : ¬0x7F < c.toNat := by omega
  -- Of the characters below the limit none joins or goes on with another one.
  have apart : breakClass c ≠ .joiner := by
    obtain ⟨class_, -⟩ | ⟨class_, -⟩ | ⟨class_ | class_, -⟩ := breakClass_of_lt ascii <;>
      simp [class_]
  cases before with
  | none => exact ⟨rfl, rfl, rfl⟩
  | some state => exact ⟨rfl, by simp [after, apart], by simp [after, low]⟩

/-- Of ASCII code points only a carriage return and a line feed are joined. -/
theorem ClusterState.Follows.joins_eq {state : ClusterState} {c next : Char}
    (follows : state.Follows c) (ascii : c.toNat < 0x80) (basic : next.toNat < 0x80) :
    state.joins next = (c == '\r' && next == '\n') := by
  unfold joins
  rw [follows.last, follows.unjoined, follows.unlinked]
  obtain ⟨left, here⟩ | ⟨left, here⟩ | ⟨left | left, here, -⟩ := breakClass_of_lt ascii <;>
    obtain ⟨right, there⟩ | ⟨right, there⟩ | ⟨right | right, -, there⟩ := breakClass_of_lt basic <;>
    simp only [left, right] <;> simp [here, there]

/-- The code points of a text, a carriage return and the line feed after it being kept together. -/
def units : List Char → List (List Char)
  | [] => []
  | '\r' :: '\n' :: rest => ['\r', '\n'] :: units rest
  | c :: rest => [c] :: units rest

/-- The units of a text make up the text. -/
theorem flatten_units (text : List Char) : (units text).flatten = text := by
  fun_induction units text with
  | case1 => rfl
  | case2 rest ih => simp [ih]
  | case3 c rest _ ih => simp [ih]

/-- An open cluster ends where nothing is joined to it. -/
theorem clustersFrom_of_joins {state : ClusterState} {opened rest : List Char}
    (ends : ∀ next ∈ rest.head?, state.joins next = false) :
    clustersFrom state opened rest = opened.reverse :: clusters rest := by
  cases rest with
  | nil => rfl
  | cons next rest =>
    rw [clustersFrom, ends next rfl]
    rfl

/-- The clusters of ASCII text are its code points, but for line ends of two. -/
theorem clusters_eq_units {text : List Char} (ascii : ∀ c ∈ text, c.toNat < 0x80) :
    clusters text = units text := by
  fun_induction units text with
  | case1 => rfl
  -- A carriage return with a line feed behind it is one cluster, which ends there.
  | case2 rest ih =>
    simp only [List.mem_cons, forall_eq_or_imp] at ascii
    obtain ⟨carriage, feed, ascii⟩ := ascii
    have joins := (ClusterState.follows_after carriage none).joins_eq carriage feed
    rw [clusters, clustersFrom, if_pos (by rw [joins]; rfl), clustersFrom_of_joins, ih ascii]
    · rfl
    · intro next first
      have basic := ascii next (List.mem_of_mem_head? first)
      exact (ClusterState.follows_after feed _).joins_eq feed basic
  -- Any other code point stands alone: the next one joins it only in a line end of two.
  | case3 c rest alone ih =>
    simp only [List.mem_cons, forall_eq_or_imp] at ascii
    rw [clusters, clustersFrom_of_joins, ih ascii.2]
    · rfl
    · intro next first
      have basic := ascii.2 next (List.mem_of_mem_head? first)
      rw [(ClusterState.follows_after ascii.1 none).joins_eq ascii.1 basic, ← Bool.not_eq_true,
        Bool.and_eq_true, beq_iff_eq, beq_iff_eq]
      rintro ⟨rfl, rfl⟩
      obtain ⟨tail, rfl⟩ := List.head?_eq_some_iff.1 first
      exact alone tail rfl rfl

/-- A line end of two code points is one of the units. -/
theorem mem_units_of_within {text : List Char} (within : ['\r', '\n'] <:+: text) :
    ['\r', '\n'] ∈ units text := by
  fun_induction units text with
  | case1 => simp at within
  -- The line end stands first, or within what follows.
  | case2 rest ih => exact List.mem_cons_self
  | case3 c rest alone ih =>
    obtain start | later := List.infix_cons_iff.1 within
    · obtain ⟨tail, whole⟩ := start
      obtain ⟨rfl, rfl⟩ := List.cons_eq_cons.1 whole
      exact absurd rfl (alone tail rfl)
    · exact List.mem_cons_of_mem _ (ih later)

/-- Reversing the units of a text reverses its code points if no line end has two of them. -/
theorem reverse_units_iff (text : List Char) :
    (units text).reverse.flatten = text.reverse ↔ ¬['\r', '\n'] <:+: text := by
  constructor
  · intro same within
    obtain ⟨front, back, parts⟩ := List.append_of_mem (mem_units_of_within within)
    -- What stands behind the line end has as many code points in the one as in the other.
    have whole := flatten_units text
    rw [parts] at same whole
    rw [← whole] at same
    simp only [List.reverse_append, List.reverse_cons, List.flatten_append, List.flatten_cons,
      List.append_assoc] at same
    have behind := (List.append_inj same (by simp [List.length_flatten])).2
    simp at behind
  · intro without
    have single : units text = text.map ([·]) := by
      fun_induction units text with
      | case1 => rfl
      | case2 rest _ => exact absurd (List.prefix_append _ rest).isInfix without
      | case3 c rest _ ih =>
        have later : ¬['\r', '\n'] <:+: rest := fun within =>
          without (within.trans (List.suffix_cons c rest).isInfix)
        rw [ih later, List.map_cons]
    rw [single, ← List.map_reverse, ← List.flatMap_def, List.flatMap_singleton']

/-- A string and octets that hold the same ASCII text. -/
inductive SameAscii : Text → Text → Prop
  | encoded {text : List Char} (ascii : ∀ c ∈ text, c.toNat < 0x80) :
    SameAscii (.chars text) (.octets (Utf8.encode text))

section Codes

variable (codes needle replacement : List Ascii)

/-- The code points of codes are ASCII. -/
theorem ascii_char : ∀ c ∈ codes.map Ascii.char, c.toNat < 0x80 := by
  intro c among
  obtain ⟨code, -, rfl⟩ := List.mem_map.1 among
  rw [Ascii.toNat_char]
  exact code.isLt

/-- The code points and the octets of codes hold the same text. -/
theorem SameAscii.ofCodes :
    SameAscii (.chars (codes.map Ascii.char)) (.octets (codes.map Ascii.octet)) := by
  rw [← Ascii.encode_char]
  exact .encoded (ascii_char codes)

/-- Octets of ASCII hold the same text as the string of its code points, and no other string. -/
theorem sameAscii_iff {text : List Char} :
    SameAscii (.chars text) (.octets (codes.map Ascii.octet)) ↔ text = codes.map Ascii.char := by
  constructor
  -- Octets of characters below the limit decode to these characters, and to nothing else.
  · generalize whole : codes.map Ascii.octet = data
    rintro ⟨ascii⟩
    rw [← Ascii.decodeLossy_octet, whole, Utf8.decodeLossy_encode]
  · rintro rfl
    exact .ofCodes codes

/-- What octets are trimmed of, strings are trimmed of too; and of nothing else, if no vertical tab
stands at an end of what is left. -/
theorem trimmed_char
    (first : ∀ code ∈ (trimmed (isBlankOctet ∘ Ascii.octet) codes).head?, code ≠ Ascii.verticalTab)
    (last : ∀ code ∈ (trimmed (isBlankOctet ∘ Ascii.octet) codes).getLast?,
      code ≠ Ascii.verticalTab) :
    trimmed (isBlank ∘ Ascii.char) codes = trimmed (isBlankOctet ∘ Ascii.octet) codes := by
  -- The text is what is trimmed before, the core, and what is trimmed after.
  obtain ⟨front, back, whole, before, after, start, stop⟩ :=
    trimmed_spec (isBlankOctet ∘ Ascii.octet) codes
  generalize trimmed (isBlankOctet ∘ Ascii.octet) codes = core at *
  subst whole
  -- A string is trimmed of all that octets are trimmed of, and of the vertical tab as well.
  have wider (code : Ascii) (blank : isBlankOctet code.octet) : isBlank code.char := by
    rw [Ascii.isBlank_char, blank, Bool.true_or]
  have kept (code : Ascii) (narrow : ¬isBlankOctet code.octet) (other : code ≠ Ascii.verticalTab) :
      ¬isBlank code.char := by
    simp [Ascii.isBlank_char, narrow, other]
  exact trimmed_of_ends (fun code among => wider code (before code among))
    (fun code among => wider code (after code among))
    (fun code here => kept code (start code here) (first code here))
    fun code here => kept code (stop code here) (last code here)

/-- Only nothing can be put before, between and after code points without changing the text. -/
theorem interleaved_eq_iff (between text : List Char) :
    interleaved between text = text ↔ between = [] := by
  constructor
  · intro same
    -- With something between them the code points alone make a longer text.
    have length := congrArg List.length same
    simp only [interleaved, List.length_append] at length
    have least : text.length ≤ (text.flatMap fun c => c :: between).length := by
      simp only [List.length_flatMap, List.length_cons, List.map_const', List.sum_replicate_nat]
      exact Nat.le_mul_of_pos_right _ (Nat.succ_pos _)
    exact List.length_eq_zero_iff.1 (by omega)
  · rintro rfl
    simp [interleaved]

/-- Octets have a line end of two where the code points do. -/
theorem infix_octet_iff : [0x0D, 0x0A] <:+: codes.map Ascii.octet ↔
    ['\r', '\n'] <:+: codes.map Ascii.char := by
  -- Octets and code points of ASCII text are images of each other.
  have back (code : Ascii) : Char.ofNat code.octet.toNat = code.char := by
    rw [Ascii.toNat_octet, Ascii.char]
  have forth (code : Ascii) : UInt8.ofNat code.char.toNat = code.octet := by
    rw [Ascii.toNat_char, Ascii.octet]
  constructor
  · intro within
    have image := within.map fun b => Char.ofNat b.toNat
    simpa [Function.comp_def, back] using image
  · intro within
    have image := within.map fun c => UInt8.ofNat c.toNat
    simpa [Function.comp_def, forth] using image

/-- Replacing gives the same text, unless an empty needle is found between the code points of the
string. -/
theorem replaceAll_iff :
    SameAscii ((Text.chars (codes.map Ascii.char)).replaceAll (needle.map Ascii.octet)
        (replacement.map Ascii.octet))
      ((Text.octets (codes.map Ascii.octet)).replaceAll (needle.map Ascii.octet)
        (replacement.map Ascii.octet)) ↔ needle ≠ [] ∨ replacement = [] := by
  simp only [replaceAll, Ascii.decodeLossy_octet, Search.replaced_map Ascii.char_injective,
    Search.replaced_map Ascii.octet_injective]
  -- An empty needle leaves octets as they are, but is found between the code points of a string.
  by_cases empty : needle = []
  · subst empty
    have unchanged : Search.replaced [] replacement codes = codes := by
      simp [Search.replaced]
    simp [unchanged, sameAscii_iff, interleaved_eq_iff]
  · simp [empty, sameAscii_iff]

/-- Splitting gives the same texts, piece by piece. -/
theorem split_char :
    List.Forall₂ SameAscii ((Text.chars (codes.map Ascii.char)).split (needle.map Ascii.octet))
      ((Text.octets (codes.map Ascii.octet)).split (needle.map Ascii.octet)) := by
  simp only [split, Ascii.decodeLossy_octet, Search.pieces_map Ascii.char_injective,
    Search.pieces_map Ascii.octet_injective]
  -- An empty needle gives every code point as a piece.
  by_cases empty : needle = []
  · simp only [empty, List.map_nil, List.isEmpty_nil, if_true, List.map_map,
      List.forall₂_map_left_iff, List.forall₂_map_right_iff]
    exact List.forall₂_same.2 fun code _ => SameAscii.ofCodes [code]
  · simp only [List.isEmpty_iff, List.map_eq_nil_iff, empty, if_false, List.map_map,
      List.forall₂_map_left_iff, List.forall₂_map_right_iff]
    exact List.forall₂_same.2 fun piece _ => SameAscii.ofCodes piece

/-- Reversing gives the same text, unless a line end of two is kept in the string. -/
theorem reverse_iff :
    SameAscii (Text.chars (codes.map Ascii.char)).reverse
      (Text.octets (codes.map Ascii.octet)).reverse ↔
        ¬[0x0D, 0x0A] <:+: codes.map Ascii.octet := by
  rw [infix_octet_iff, ← reverse_units_iff, reverse, reverse, ← List.map_reverse, sameAscii_iff,
    clusters_eq_units (ascii_char codes), List.map_reverse]

/-- The parts between two places hold the same text, or the places are refused for both. -/
theorem slice_char (low : Int) (high : Option Int) :
    (∃ crossed, (Text.chars (codes.map Ascii.char)).slice low high = .error crossed ∧
      (Text.octets (codes.map Ascii.octet)).slice low high = .error crossed) ∨
    ∃ part data, (Text.chars (codes.map Ascii.char)).slice low high = .ok part ∧
      (Text.octets (codes.map Ascii.octet)).slice low high = .ok data ∧ SameAscii part data := by
  -- Both forms have as many positions, so that they are cut at the same ones.
  simp only [slice, length, List.length_map]
  cases Stretch.between codes.length low high with
  | error crossed => exact .inl ⟨crossed, rfl, rfl⟩
  | ok stretch =>
    refine .inr ⟨_, _, rfl, rfl, ?_⟩
    simp only [Stretch.items, ← List.map_drop, ← List.map_take]
    exact .ofCodes _

end Codes

/-- What the operations on a string and on octets that hold the same ASCII text have to do with each
other. -/
structure OperationsAgree (string octets : Text) (needle replacement : Bytes) (low : Int)
    (high : Option Int) : Prop where
  length : string.length = octets.length
  contains : string.contains needle = octets.contains needle
  startsWith : string.startsWith needle = octets.startsWith needle
  endsWith : string.endsWith needle = octets.endsWith needle
  toUpper : SameAscii string.toUpper octets.toUpper
  toLower : SameAscii string.toLower octets.toLower
  capitalize : SameAscii string.capitalize octets.capitalize
  /-- The vertical tab is white space of strings only. -/
  trim : (∀ b ∈ octets.trim.toOctets.head?, b ≠ 0x0B) →
    (∀ b ∈ octets.trim.toOctets.getLast?, b ≠ 0x0B) → SameAscii string.trim octets.trim
  /-- The empty needle stands in strings only. -/
  replaceAll : SameAscii (string.replaceAll needle replacement)
    (octets.replaceAll needle replacement) ↔ needle ≠ [] ∨ replacement = []
  split : List.Forall₂ SameAscii (string.split needle) (octets.split needle)
  /-- A carriage return and the line feed after it are one cluster. -/
  reverse : SameAscii string.reverse octets.reverse ↔ ¬[0x0D, 0x0A] <:+: octets.toOctets
  slice : (∃ crossed, string.slice low high = .error crossed ∧
      octets.slice low high = .error crossed) ∨
    ∃ part data, string.slice low high = .ok part ∧ octets.slice low high = .ok data ∧
      SameAscii part data

/-- Octets of ASCII are those of codes. -/
theorem exists_octet {data : Bytes} (ascii : ∀ b ∈ data, b.toNat < 0x80) :
    ∃ codes : List Ascii, codes.map Ascii.octet = data := by
  rw [← Set.mem_range, Set.range_list_map]
  exact fun b among => ⟨⟨b.toNat, ascii b among⟩, UInt8.ofNat_toNat⟩

/-- A string and octets that hold the same ASCII text are those of some codes. -/
theorem SameAscii.exists_codes {string octets : Text} (same : SameAscii string octets) :
    ∃ codes : List Ascii, string = .chars (codes.map Ascii.char) ∧
      octets = .octets (codes.map Ascii.octet) := by
  obtain @⟨text, ascii⟩ := same
  -- Characters below the limit are codes, each of which is named by its number.
  have codes : text ∈ Set.range (List.map Ascii.char) := by
    rw [Set.range_list_map]
    exact fun c among => ⟨⟨c.toNat, ascii c among⟩, Char.ofNat_toNat c⟩
  obtain ⟨codes, rfl⟩ := codes
  exact ⟨codes, rfl, by rw [Ascii.encode_char]⟩

/-- The operations on a string and on octets that hold the same ASCII text give the same, or the
same ASCII text again, but where a vertical tab, an empty needle or a line end of two code points
makes a difference. -/
theorem SameAscii.operationsAgree {string octets : Text} (same : SameAscii string octets)
    {needle replacement : Bytes} (needed : ∀ b ∈ needle, b.toNat < 0x80)
    (given : ∀ b ∈ replacement, b.toNat < 0x80) (low : Int) (high : Option Int) :
    OperationsAgree string octets needle replacement low high := by
  -- Both views come from one list of codes, over which each operation is computed.
  obtain ⟨codes, rfl, rfl⟩ := same.exists_codes
  obtain ⟨needle, rfl⟩ := exists_octet needed
  obtain ⟨replacement, rfl⟩ := exists_octet given
  exact
    { length := by simp only [Text.length, List.length_map]
      contains := by
        simp only [Text.contains, Ascii.decodeLossy_octet, Search.occurs_map Ascii.char_injective,
          Search.occurs_map Ascii.octet_injective]
      startsWith := by
        simp only [Text.startsWith, Ascii.decodeLossy_octet,
          Search.startsWith_map Ascii.char_injective, Search.startsWith_map Ascii.octet_injective]
      endsWith := by
        simp only [Text.endsWith, Ascii.decodeLossy_octet,
          Search.endsWith_map Ascii.char_injective, Search.endsWith_map Ascii.octet_injective]
      toUpper := by
        rw [Text.toUpper, Text.toUpper, Ascii.upper_char, Ascii.map_upperOctet]
        exact .ofCodes _
      toLower := by
        rw [Text.toLower, Text.toLower, lower, Ascii.lowerAfter_char, Ascii.map_lowerOctet]
        exact .ofCodes _
      capitalize := by
        cases codes with
        | nil => exact .ofCodes []
        | cons code rest =>
          simp only [List.map_cons, Text.capitalize, capitalized, Ascii.upperChar_char,
            Ascii.upperOctet_octet]
          exact .ofCodes (code.upper :: rest)
      trim := by
        simp only [Text.trim, trimmed_map, Text.toOctets, List.head?_map, List.getLast?_map]
        intro first last
        rw [trimmed_char codes]
        · exact .ofCodes _
        · rintro code here rfl
          exact first _ (Option.mem_map_of_mem _ here) rfl
        · rintro code here rfl
          exact last _ (Option.mem_map_of_mem _ here) rfl
      replaceAll := by simpa using replaceAll_iff codes needle replacement
      split := split_char codes needle
      reverse := reverse_iff codes
      slice := slice_char codes low high }

/-- A list of fields, with spaces around it. -/
theorem operationsAgree_of_fields :
    SameAscii (.chars " a;b\n".toList) (.octets [0x20, 0x61, 0x3B, 0x62, 0x0A]) ∧
      OperationsAgree (.chars " a;b\n".toList) (.octets [0x20, 0x61, 0x3B, 0x62, 0x0A]) [0x3B]
        [0x2C, 0x20] (-2) none := by
  have same : SameAscii (.chars " a;b\n".toList) (.octets [0x20, 0x61, 0x3B, 0x62, 0x0A]) :=
    .ofCodes [0x20, 0x61, 0x3B, 0x62, 0x0A]
  exact ⟨same, same.operationsAgree (by simp) (by simp) (-2) none⟩

/-- Line ends of two code points, empty needles and vertical tabs tell a string from octets. -/
theorem not_sameAscii :
    (SameAscii (.chars ['\r', '\n']) (.octets [0x0D, 0x0A]) ∧
      ¬SameAscii (Text.chars ['\r', '\n']).reverse (Text.octets [0x0D, 0x0A]).reverse) ∧
    (SameAscii (.chars ['a']) (.octets [0x61]) ∧
      ¬SameAscii ((Text.chars ['a']).replaceAll [] [0x2D])
        ((Text.octets [0x61]).replaceAll [] [0x2D])) ∧
    SameAscii (.chars ['\x0b']) (.octets [0x0B]) ∧
      ¬SameAscii (Text.chars ['\x0b']).trim (Text.octets [0x0B]).trim := by
  refine ⟨⟨.ofCodes [0x0D, 0x0A], ?_⟩, ⟨.ofCodes [0x61], ?_⟩, .ofCodes [0x0B], ?_⟩
  · exact fun same => (reverse_iff [0x0D, 0x0A]).1 same (by decide)
  · exact fun same => absurd ((replaceAll_iff [0x61] [] [0x2D]).1 same) (by decide)
  · exact fun same => absurd ((sameAscii_iff [0x0B]).1 same) (by decide)

end Text

end Reshape
